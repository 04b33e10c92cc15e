import AuditConfig.Proofs.Coercing

/-!
# Truth values out of texts

A spec of a truth value takes every text that is not empty.  The text is true exactly if its
lower-case form is `true`, and that form is the full one: some texts get longer by it, a
capital sigma has one that depends on its neighbours, and there are characters from outside
of ASCII that become small letters of ASCII.

None of these matters here, since the letters of `true` are lone letters: only a letter
itself and its capital become it (`Text.lower_eq_iff`).  So the true texts are the sixteen
that have these four letters in order, small or capital (`Text.forall₂_spells_true_iff`),
and everything in a true text is a letter of ASCII, no blank and no line end.
-/

namespace AuditConfig
namespace Text

/-- What spells a lone letter is that letter or the character 32 places before it. -/
theorem spells_iff {d : Char} (hd : IsLone d) (c : Char) :
    Spells c d ↔ c = d ∨ c = Char.ofNat (d.toNat - 32) := by
  have hbounds := hd.toNat_bounds
  refine or_congr_right ⟨fun h => ?_, ?_⟩
  · rw [show d.toNat - 32 = c.toNat by omega, Char.ofNat_toNat]
  · rintro rfl
    have hvalid : (d.toNat - 32).isValidChar := .inl (by omega)
    have hcode : (Char.ofNat (d.toNat - 32)).toNat = d.toNat - 32 := by
      rw [show Char.ofNat (d.toNat - 32) = Char.ofNatAux (d.toNat - 32) hvalid from dif_pos hvalid]
      rfl
    omega

/-- What spells a lone letter is a letter of ASCII. -/
theorem Spells.isAlpha {c d : Char} (hd : IsLone d) (h : Spells c d) : c.isAlpha = true := by
  have hbounds := hd.toNat_bounds
  have hcode : (65 ≤ c.toNat ∧ c.toNat ≤ 90) ∨ (97 ≤ c.toNat ∧ c.toNat ≤ 122) := by
    rcases h with rfl | h <;> omega
  refine Bool.or_eq_true_iff.2 (hcode.imp (fun h => ?_) fun h => ?_)
  · exact decide_eq_true h
  · exact Bool.and_eq_true_iff.2 ⟨decide_eq_true h.1, decide_eq_true h.2⟩

/-- **Sixteen texts spell `true`:** each of the four letters is small or capital. -/
theorem forall₂_spells_true_iff (cs : List Char) :
    List.Forall₂ Spells cs "true".toList ↔ ∃ c₁ c₂ c₃ c₄, cs = [c₁, c₂, c₃, c₄] ∧
      (c₁ = 't' ∨ c₁ = 'T') ∧ (c₂ = 'r' ∨ c₂ = 'R') ∧ (c₃ = 'u' ∨ c₃ = 'U') ∧
      (c₄ = 'e' ∨ c₄ = 'E') := by
  have ht : ∀ c, Spells c 't' ↔ c = 't' ∨ c = 'T' := spells_iff (by decide)
  have hr : ∀ c, Spells c 'r' ↔ c = 'r' ∨ c = 'R' := spells_iff (by decide)
  have hu : ∀ c, Spells c 'u' ↔ c = 'u' ∨ c = 'U' := spells_iff (by decide)
  have he : ∀ c, Spells c 'e' ↔ c = 'e' ∨ c = 'E' := spells_iff (by decide)
  simp only [← ht, ← hr, ← hu, ← he]
  constructor
  · rintro (_ | ⟨h₁, _ | ⟨h₂, _ | ⟨h₃, _ | ⟨h₄, ⟨⟩⟩⟩⟩⟩)
    exact ⟨_, _, _, _, rfl, h₁, h₂, h₃, h₄⟩
  · rintro ⟨c₁, c₂, c₃, c₄, rfl, h₁, h₂, h₃, h₄⟩
    exact .cons h₁ (.cons h₂ (.cons h₃ (.cons h₄ .nil)))

end Text

namespace FieldSpec

variable {s : FieldSpec}

/-- **A spec of a truth value takes every text that is not empty, and no text but `true` for
true.**  A true text has exactly four characters, which are the letters of `true` in order,
each of them small or capital; so a text with anything else in it than letters of ASCII is
false, whatever its lower-case form is. -/
theorem resolve_truthValue (hs : s.type = .boolean) {t : String} (ht : t ≠ "") :
    ∃ b, s.resolve (.text t) = .ok (.bool b, .configured) ∧
      (b = true ↔ ∃ c₁ c₂ c₃ c₄, t.toList = [c₁, c₂, c₃, c₄] ∧ (c₁ = 't' ∨ c₁ = 'T') ∧
        (c₂ = 'r' ∨ c₂ = 'R') ∧ (c₃ = 'u' ∨ c₃ = 'U') ∧ (c₄ = 'e' ∨ c₄ = 'E')) ∧
      ((∃ c ∈ t.toList, c.isAlpha = false) → b = false) := by
  have hresolve : s.resolve (.text t) =
      .ok (.bool (decide (Text.lower .fourteen t.toList = "true".toList)), .configured) := by
    rw [resolve_text s ht, hs]
    rfl
  have hlower := Text.lower_eq_iff (e := .fourteen) isLone_true t.toList
  refine ⟨_, hresolve, ?_, ?_⟩
  · rw [decide_eq_true_iff, hlower, Text.forall₂_spells_true_iff]
  · rintro ⟨c, hc, halpha⟩
    refine decide_eq_false fun h => ?_
    obtain ⟨d, hd, hspells⟩ := Text.exists_spells_of_lower isLone_true h hc
    rw [hspells.isAlpha (isLone_true d hd)] at halpha
    cases halpha

/-- A flag takes `tRuE` for true.  It takes `true` with a line end for false, and a text for
false as well of which only the first letter is none of ASCII. -/
theorem resolve_truthValue_flag :
    let s := Processor.truthSpec "flag" "flag" false
    s.resolve (.text "tRuE") = .ok (.bool true, .configured) ∧
      s.resolve (.text "true\n") = .ok (.bool false, .configured) ∧
      s.resolve (.text "ｔrue") = .ok (.bool false, .configured) := by
  intro s
  have hs : s.type = .boolean := rfl
  obtain ⟨b, hb, htrue, -⟩ := resolve_truthValue hs (t := "tRuE") (by decide)
  obtain ⟨b', hb', -, hend⟩ := resolve_truthValue hs (t := "true\n") (by decide)
  obtain ⟨b'', hb'', -, hwide⟩ := resolve_truthValue hs (t := "ｔrue") (by decide)
  have h : b = true :=
    htrue.2 ⟨'t', 'R', 'u', 'E', rfl, .inl rfl, .inr rfl, .inl rfl, .inr rfl⟩
  have h' : b' = false := hend ⟨'\n', by decide, rfl⟩
  have h'' : b'' = false := hwide ⟨'ｔ', by decide, rfl⟩
  rw [h] at hb
  rw [h'] at hb'
  rw [h''] at hb''
  exact ⟨hb, hb', hb''⟩

end FieldSpec
end AuditConfig
