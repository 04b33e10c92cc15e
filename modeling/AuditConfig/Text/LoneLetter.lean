import AuditConfig.Text.LetterCase
import Mathlib.Data.List.Forall2

/-!
# Lone letters: the letters that only their own capital lowers to

The lower-case form of a character from outside of ASCII is outside of ASCII too, with two
exceptions: the Kelvin sign becomes a `k`, and the capital I with a dot an `i` with a mark
behind it.  Every other small letter of ASCII is a lone letter (`IsLone`): it is the
lower-case form of itself and of its capital, and no other form begins with it
(`form_eq_cons`).  A text of lone letters is then the lower-case form of exactly the texts
that spell it in small letters and capitals, in whatever context the letters stand
(`lower_eq_iff`).
-/

namespace AuditConfig
namespace Text

/-- A small letter of ASCII that is the lower-case form of no character outside of ASCII. -/
def IsLone (d : Char) : Prop := 'a' ≤ d ∧ d ≤ 'z' ∧ d ≠ 'i' ∧ d ≠ 'k'

instance (d : Char) : Decidable (IsLone d) :=
  inferInstanceAs (Decidable ('a' ≤ d ∧ d ≤ 'z' ∧ d ≠ 'i' ∧ d ≠ 'k'))

/-- A character spells a small letter if it is that letter or its capital. -/
def Spells (c d : Char) : Prop := c = d ∨ c.toNat + 32 = d.toNat

instance (c d : Char) : Decidable (Spells c d) :=
  inferInstanceAs (Decidable (c = d ∨ c.toNat + 32 = d.toNat))

theorem IsLone.toNat_bounds {d : Char} (h : IsLone d) : 97 ≤ d.toNat ∧ d.toNat ≤ 122 :=
  ⟨UInt32.le_iff_toNat_le.1 h.1, UInt32.le_iff_toNat_le.1 h.2.1⟩

/-- What spells a lone letter is no capital sigma. -/
theorem Spells.ne_capitalSigma {c d : Char} (hd : IsLone d) (h : Spells c d) :
    c ≠ capitalSigma := by
  have hsigma : capitalSigma.toNat = 0x3A3 := rfl
  have hbounds := hd.toNat_bounds
  rintro rfl
  rcases h with rfl | h <;> omega

/-- What spells a lone letter is no digit. -/
theorem Spells.isDigit_eq_false {c d : Char} (hd : IsLone d) (h : Spells c d) :
    c.isDigit = false := by
  have hbounds := hd.toNat_bounds
  have hle : 57 < c.toNat := by rcases h with rfl | h <;> omega
  simp only [Char.isDigit, Bool.and_eq_false_iff, decide_eq_false_iff_not]
  exact .inr (Nat.not_le.2 hle)

variable {e : Edition}

theorem expansions_lowerTableOf (e : Edition) :
    (lowerTableOf e).expansions = [(0x130, [0x69, 0x307])] := by
  cases e <;> rfl

/-- A run whose characters have forms in ASCII is that of the capitals, or the Kelvin sign. -/
theorem low_run {r : CaseRun} (hr : r ∈ (lowerTableOf e).runs) :
    (0x41 ≤ r.first ∧ r.last ≤ 0x5A ∧ r.shift = 32) ∨
      (r.first = 0x212A ∧ r.last = 0x212A ∧ r.shift = -8383) ∨ 0x80 ≤ r.first + r.shift := by
  have hall : ∀ r ∈ (lowerTableOf e).runs,
      (0x41 ≤ r.first ∧ r.last ≤ 0x5A ∧ r.shift = 32) ∨
        (r.first = 0x212A ∧ r.last = 0x212A ∧ r.shift = -8383) ∨ 0x80 ≤ r.first + r.shift := by
    cases e <;> decide +kernel
  exact hall r hr

/-- The form of a character of ASCII is its small letter or, unless it is a capital, itself. -/
theorem form_ascii {n : Nat} (h : n < 0x80) : (lowerTableOf e).form (Char.ofNat n) =
    [Char.ofNat (if 0x41 ≤ n ∧ n ≤ 0x5A then n + 32 else n)] := by
  have hall : ∀ n < 0x80, (lowerTableOf e).form (Char.ofNat n) =
      [Char.ofNat (if 0x41 ≤ n ∧ n ≤ 0x5A then n + 32 else n)] := by
    cases e <;> decide +kernel
  exact hall n h

/-- The form of what spells a lone letter is that letter. -/
theorem form_of_spells {c d : Char} (hd : IsLone d) (h : Spells c d) :
    (lowerTableOf e).form c = [d] := by
  have hbounds := hd.toNat_bounds
  have hcode : c.toNat < 0x80 ∧
      (if 0x41 ≤ c.toNat ∧ c.toNat ≤ 0x5A then c.toNat + 32 else c.toNat) = d.toNat := by
    rcases h with rfl | h <;> split <;> omega
  rw [← Char.ofNat_toNat c, form_ascii hcode.1, hcode.2, Char.ofNat_toNat]

theorem form_ne_nil (e : Edition) (c : Char) : (lowerTableOf e).form c ≠ [] := by
  unfold CaseTable.form
  split
  · next codes hcodes =>
    rw [expansions_lowerTableOf, List.lookup_cons] at hcodes
    split at hcodes <;> cases hcodes
    simp
  · split <;> simp

/-- The number of a character that is not zero is the one that it is made of. -/
theorem eq_toNat_of_ofNat {n : Nat} {d : Char} (h : Char.ofNat n = d) (hd : 0 < d.toNat) :
    n = d.toNat := by
  subst h
  by_cases hvalid : n.isValidChar
  · have hofNat : Char.ofNat n = Char.ofNatAux n hvalid := dif_pos hvalid
    rw [hofNat]
    rfl
  · have hofNat : Char.ofNat n = '\x00' := dif_neg hvalid
    rw [hofNat] at hd
    cases hd

/-- **A lower-case form that begins with a lone letter is that letter, and the form of what
spells it.** -/
theorem form_eq_cons {c d : Char} {ds : List Char} (hd : IsLone d)
    (h : (lowerTableOf e).form c = d :: ds) : ds = [] ∧ Spells c d := by
  unfold CaseTable.form at h
  split at h
  · next codes hcodes =>
    have hi : d = 'i' := by
      rw [expansions_lowerTableOf, List.lookup_cons] at hcodes
      split at hcodes
      · cases hcodes
        exact (List.cons.inj h).1.symm
      · cases hcodes
    exact absurd hi hd.2.2.1
  · split at h
    · next r hr =>
      obtain ⟨hform, rfl⟩ := List.cons.inj h
      refine ⟨rfl, .inr ?_⟩
      have hcontains := List.find?_some hr
      simp only [CaseRun.contains, Bool.and_eq_true, decide_eq_true_eq] at hcontains
      have hbounds := hd.toNat_bounds
      have hcode := eq_toNat_of_ofNat hform (by omega)
      rcases low_run (List.mem_of_find?_eq_some hr) with ⟨_, _, _⟩ | ⟨_, _, _⟩ | hhigh
      · omega
      · have hk : d = 'k' := Char.toNat_inj.1 (show d.toNat = 107 by omega)
        exact absurd hk hd.2.2.2
      · omega
    · obtain ⟨rfl, rfl⟩ := List.cons.inj h
      exact ⟨rfl, .inl rfl⟩

/-- A lone letter comes of what spells it, also where the capital sigma has another form. -/
theorem lowerAfter_cons_eq_iff {d : Char} (hd : IsLone d) (before : List Char) (c : Char)
    (cs ds : List Char) : lowerAfter e before (c :: cs) = d :: ds ↔
      Spells c d ∧ lowerAfter e (c :: before) cs = ds := by
  rw [lowerAfter]
  constructor
  · intro h
    split at h
    · obtain ⟨rfl, _⟩ := List.cons.inj h
      exact absurd hd (by decide)
    · cases hform : (lowerTableOf e).form c with
      | nil => exact absurd hform (form_ne_nil e c)
      | cons x xs =>
        rw [hform, List.cons_append] at h
        obtain ⟨rfl, htail⟩ := List.cons.inj h
        obtain ⟨rfl, hc⟩ := form_eq_cons hd hform
        exact ⟨hc, htail⟩
  · rintro ⟨hc, htail⟩
    rw [if_neg (by simp [hc.ne_capitalSigma hd]), form_of_spells hd hc, htail]
    rfl

theorem lowerAfter_eq_iff {ds : List Char} (hds : ∀ d ∈ ds, IsLone d) (before cs : List Char) :
    lowerAfter e before cs = ds ↔ List.Forall₂ Spells cs ds := by
  induction ds generalizing before cs with
  | nil =>
    cases cs with
    | nil => simp [lowerAfter]
    | cons c cs =>
      rw [lowerAfter]
      split <;> simp [form_ne_nil]
  | cons d ds ih =>
    rw [List.forall_mem_cons] at hds
    cases cs with
    | nil => simp [lowerAfter]
    | cons c cs => rw [lowerAfter_cons_eq_iff hds.1, ih hds.2, List.forall₂_cons]

/-- **A text of lone letters is the lower-case form of the texts that spell it, and of no
others.** -/
theorem lower_eq_iff {ds : List Char} (hds : ∀ d ∈ ds, IsLone d) (cs : List Char) :
    lower e cs = ds ↔ List.Forall₂ Spells cs ds :=
  lowerAfter_eq_iff hds [] cs

/-- What has a lower-case form of lone letters consists of what spells them. -/
theorem exists_spells_of_lower {ds : List Char} (hds : ∀ d ∈ ds, IsLone d) {cs : List Char}
    (h : lower e cs = ds) {c : Char} (hc : c ∈ cs) : ∃ d ∈ ds, Spells c d := by
  have hspell := (lower_eq_iff hds cs).1 h
  clear h hds
  induction hspell with
  | nil => cases hc
  | cons hcd _ ih =>
    rcases List.mem_cons.1 hc with rfl | hc
    · exact ⟨_, .head _, hcd⟩
    · obtain ⟨d, hd, hspells⟩ := ih hc
      exact ⟨d, .tail _ hd, hspells⟩

end Text
end AuditConfig
