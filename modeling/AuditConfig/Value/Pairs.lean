import AuditConfig.Value.Bindings
import Mathlib.Data.List.Forall2

/-!
# Which lists make a map

A text of two characters stands for a binding of the first to the second, and a list of two
items whose first is a text for a binding of that text (`Value.StandsFor`).  Of the items of a
list that are no maps, and begin with a text or a list where they are lists themselves
(`Value.IsPlainItem`), these are the only ones that do; the others fail for one of three
reasons (`Value.Misfit`): they have no items, not two of them, or a list where the key should
be.  A list of such items makes the bindings that its items stand for
(`Value.bindings_list_of_forall₂`), or fails with the first item that stands for none
(`Value.bindings_list_of_misfit`).
-/

namespace AuditConfig
namespace Value

/-- The binding that an item of a list stands for. -/
inductive StandsFor : Value → Key × Value → Prop where
  | text {s : String} {k v : Char} (h : s.toList = [k, v]) :
      StandsFor (.text s) (.text (String.ofList [k]), .text (String.ofList [v]))
  | list (k : String) (v : Value) : StandsFor (.list [.text k, v]) (.text k, v)

/-- An item that is no map, and whose first item is a text or a list if it has any. -/
inductive IsPlainItem : Value → Prop where
  | scalar {v : Value} (h : v.sequence? = none) : IsPlainItem v
  | text (s : String) : IsPlainItem (.text s)
  | nothing : IsPlainItem (.list [])
  | list {k : Value} {vs : List Value} (h : k.kind = .text ∨ k.kind = .list) :
      IsPlainItem (.list (k :: vs))

/-- Why an item at an index stands for no binding. -/
inductive Misfit (index : Nat) : Value → BindingError → Prop where
  | scalar {v : Value} (h : v.sequence? = none) : Misfit index v (.notSequence index)
  | text {s : String} (h : s.toList.length ≠ 2) :
      Misfit index (.text s) (.notPair index s.toList.length)
  | list {vs : List Value} (h : vs.length ≠ 2) : Misfit index (.list vs) (.notPair index vs.length)
  | key (us : List Value) (v : Value) : Misfit index (.list [.list us, v]) (.unhashable .list)

/-- What stands for a binding stands for a text. -/
theorem StandsFor.exists_text {v : Value} {b : Key × Value} (h : v.StandsFor b) :
    ∃ s, b.1 = .text s := by
  cases h <;> exact ⟨_, rfl⟩

theorem pairAt_of_standsFor {v : Value} {b : Key × Value} (h : v.StandsFor b) (index : Nat) :
    pairAt index v = .ok b := by
  cases h with
  | text hs => simp [pairAt, sequence?, hs, asKey, key?, Except.map]
  | list => rfl

theorem pairAt_of_misfit {index : Nat} {v : Value} {e : BindingError} (h : Misfit index v e) :
    pairAt index v = .error e := by
  have of_length : ∀ {w : Value} {vs : List Value}, w.sequence? = some vs → vs.length ≠ 2 →
      pairAt index w = .error (.notPair index vs.length) := by
    intro w vs hseq hlen
    unfold pairAt
    rw [hseq]
    split
    · next heq => cases heq
    · next heq => cases heq; exact absurd rfl hlen
    · next heq => cases heq; rfl
  cases h with
  | scalar hseq => simp [pairAt, hseq]
  | @text s hlen =>
    have hpair := of_length (w := .text s) rfl (by simpa using hlen)
    simpa using hpair
  | list hlen => exact of_length rfl hlen
  | key us v => rfl

/-- **A plain item stands for a binding or is a misfit.** -/
theorem IsPlainItem.cases {v : Value} (h : v.IsPlainItem) (index : Nat) :
    (∃ b, v.StandsFor b) ∨ ∃ e, Misfit index v e := by
  cases h with
  | scalar hseq => exact .inr ⟨_, .scalar hseq⟩
  | text s =>
    by_cases hlen : s.toList.length = 2
    · obtain ⟨k, v, hs⟩ := List.length_eq_two.1 hlen
      exact .inl ⟨_, .text hs⟩
    · exact .inr ⟨_, .text hlen⟩
  | nothing => exact .inr ⟨_, .list (by simp)⟩
  | @list k vs hkind =>
    by_cases hlen : (k :: vs).length = 2
    · obtain ⟨k', v, hpair⟩ := List.length_eq_two.1 hlen
      obtain ⟨rfl, rfl⟩ := List.cons.inj hpair
      rcases hkind with hkind | hkind
      · cases k <;> cases hkind
        exact .inl ⟨_, .list _ v⟩
      · cases k <;> cases hkind
        exact .inr ⟨_, .key _ v⟩
    · exact .inr ⟨_, .list hlen⟩

/-- Every item of a list of plain items stands for a binding, or one of them is the first
that does not. -/
theorem forall_standsFor_or_misfit {vs : List Value} (h : ∀ v ∈ vs, v.IsPlainItem) (index : Nat) :
    (∀ v ∈ vs, ∃ b, v.StandsFor b) ∨
      ∃ before v after e, vs = before ++ v :: after ∧ (∀ u ∈ before, ∃ b, u.StandsFor b) ∧
        Misfit (index + before.length) v e := by
  induction vs generalizing index with
  | nil => exact .inl (by simp)
  | cons v vs ih =>
    rw [List.forall_mem_cons] at h ⊢
    rcases h.1.cases index with hv | ⟨e, he⟩
    · rcases ih h.2 (index + 1) with hvs | ⟨before, w, after, e, rfl, hbefore, he⟩
      · exact .inl ⟨hv, hvs⟩
      · refine .inr ⟨v :: before, w, after, e, rfl, List.forall_mem_cons.2 ⟨hv, hbefore⟩, ?_⟩
        rwa [List.length_cons, Nat.add_comm before.length, ← Nat.add_assoc]
    · exact .inr ⟨[], v, vs, e, rfl, by simp, he⟩

/-- Items that all stand for bindings stand for some bindings together. -/
theorem exists_forall₂_standsFor {vs : List Value} (h : ∀ v ∈ vs, ∃ b, v.StandsFor b) :
    ∃ bs, List.Forall₂ StandsFor vs bs := by
  induction vs with
  | nil => exact ⟨[], .nil⟩
  | cons v vs ih =>
    rw [List.forall_mem_cons] at h
    obtain ⟨⟨b, hb⟩, hvs⟩ := h
    obtain ⟨bs, hbs⟩ := ih hvs
    exact ⟨b :: bs, .cons hb hbs⟩

theorem pairsFrom_of_forall₂ {vs : List Value} {bs : List (Key × Value)}
    (h : List.Forall₂ StandsFor vs bs) (index : Nat) : pairsFrom index vs = .ok bs := by
  induction h generalizing index with
  | nil => rfl
  | cons hb _ ih =>
    rw [pairsFrom, pairAt_of_standsFor hb, ih]
    rfl

theorem pairsFrom_of_misfit {before : List Value} (hbefore : ∀ u ∈ before, ∃ b, u.StandsFor b)
    {v : Value} {e : BindingError} {index : Nat} (he : Misfit (index + before.length) v e)
    (after : List Value) : pairsFrom index (before ++ v :: after) = .error e := by
  induction before generalizing index with
  | nil =>
    have he : Misfit index v e := he
    rw [List.nil_append, pairsFrom, pairAt_of_misfit he]
    rfl
  | cons u before ih =>
    rw [List.forall_mem_cons] at hbefore
    obtain ⟨b, hb⟩ := hbefore.1
    rw [List.length_cons, Nat.add_comm before.length, ← Nat.add_assoc] at he
    rw [List.cons_append, pairsFrom, pairAt_of_standsFor hb, ih hbefore.2 he]
    rfl

/-- Bindings of texts are bound one after the other; of two of one text the later counts. -/
theorem ofPairs_eq_ofList {bs : List (Key × Value)} (h : ∀ b ∈ bs, ∃ s, b.1 = .text s) :
    ofPairs bs = Entries.ofList bs := by
  have hfold : ∀ e : Entries Key Value,
      bs.foldl (fun e p => bind e p.1 p.2) e = bs.foldl (fun e p => e.insert p.1 p.2) e := by
    induction bs with
    | nil => exact fun _ => rfl
    | cons b bs ih =>
      intro e
      rw [List.forall_mem_cons] at h
      obtain ⟨s, hs⟩ := h.1
      rw [List.foldl_cons, List.foldl_cons, ih h.2, hs, bind_text]
  exact hfold .empty

/-- **A list makes the bindings that its items stand for.** -/
theorem bindings_list_of_forall₂ {vs : List Value} {bs : List (Key × Value)}
    (h : List.Forall₂ StandsFor vs bs) : (list vs).bindings = .ok (.ofList bs) := by
  have htexts : ∀ b ∈ bs, ∃ s, b.1 = .text s := by
    induction h with
    | nil => simp
    | cons hb _ ih => exact List.forall_mem_cons.2 ⟨hb.exists_text, ih⟩
  change (pairsFrom 0 vs).map ofPairs = _
  rw [pairsFrom_of_forall₂ h, ← ofPairs_eq_ofList htexts]
  rfl

/-- **It fails with the first item that stands for none.** -/
theorem bindings_list_of_misfit {before : List Value}
    (hbefore : ∀ u ∈ before, ∃ b, u.StandsFor b) {v : Value} {e : BindingError}
    (he : Misfit before.length v e) (after : List Value) :
    (list (before ++ v :: after)).bindings = .error e := by
  rw [← Nat.zero_add before.length] at he
  change (pairsFrom 0 _).map ofPairs = _
  rw [pairsFrom_of_misfit hbefore he]
  rfl

end Value
end AuditConfig
