/-!
# Entries: keyed values in the order of their first binding

`Entries κ α` is a finite map from keys to values that remembers the order in
which the keys were bound.  No key occurs twice, and the type says so, so that
looking a key up (`get?`) and listing the bindings (`toList`) tell the same
story (`mem_toList_iff`).  `Table α` is such a map from names.

`insert` keeps the place of a key that is already bound and appends a new one;
`erase` and `filter` keep the order of what is left.  Each operation has one
equation through `get?`.
-/

namespace AuditConfig

/-- Bindings of keys to values, in order, with no key bound twice. -/
structure Entries (κ α : Type) where
  toList : List (κ × α)
  nodup : (toList.map Prod.fst).Nodup

/-- Bindings of names to values. -/
abbrev Table (α : Type) : Type := Entries String α

namespace Entries

variable {κ α : Type}

theorem ext_toList {a b : Entries κ α} (h : a.toList = b.toList) : a = b := by
  cases a; cases b; cases h; rfl

/-- Nothing is bound. -/
def empty : Entries κ α := ⟨[], List.nodup_nil⟩

@[simp] theorem toList_empty : (empty : Entries κ α).toList = [] := rfl

/-- The bound keys, in order. -/
def keys (e : Entries κ α) : List κ := e.toList.map Prod.fst

/-- How many keys are bound. -/
def size (e : Entries κ α) : Nat := e.toList.length

/-- Keeps the bindings that pass a test. -/
def filter (p : κ → α → Bool) (e : Entries κ α) : Entries κ α :=
  ⟨e.toList.filter fun b => p b.1 b.2, e.nodup.sublist (List.filter_sublist.map _)⟩

theorem map_fst_filterMap_sublist {β : Type} (f : κ → α → Option β) (l : List (κ × α)) :
    ((l.filterMap fun b => (f b.1 b.2).map (b.1, ·)).map Prod.fst).Sublist (l.map Prod.fst) := by
  induction l with
  | nil => exact .slnil
  | cons p rest ih =>
    rw [List.filterMap_cons]
    cases f p.1 p.2 with
    | none => exact ih.cons _
    | some b => exact ih.cons_cons _

/-- Changes every bound value or drops its binding. -/
def filterMap {β : Type} (f : κ → α → Option β) (e : Entries κ α) : Entries κ β :=
  ⟨e.toList.filterMap fun b => (f b.1 b.2).map (b.1, ·),
    e.nodup.sublist (map_fst_filterMap_sublist f e.toList)⟩

variable [DecidableEq κ]

/-- The value bound to a key. -/
def get? (e : Entries κ α) (k : κ) : Option α := e.toList.lookup k

@[simp] theorem get?_empty (k : κ) : (empty : Entries κ α).get? k = none := rfl

/-- The binding of a key in a list: the first value that stands with it is
replaced, or a new binding is put last. -/
def put (k : κ) (v : α) : List (κ × α) → List (κ × α)
  | [] => [(k, v)]
  | (k', v') :: rest => if k' = k then (k, v) :: rest else (k', v') :: put k v rest

theorem lookup_cons_eq (k a : κ) (b : α) (l : List (κ × α)) :
    ((a, b) :: l).lookup k = if k = a then some b else l.lookup k := by
  rw [List.lookup_cons]
  by_cases h : k = a
  · simp [h]
  · simp only [h, if_false, beq_eq_false_iff_ne.2 h]

theorem map_fst_put (k : κ) (v : α) (l : List (κ × α)) :
    (put k v l).map Prod.fst = if k ∈ l.map Prod.fst then l.map Prod.fst
      else l.map Prod.fst ++ [k] := by
  induction l with
  | nil => simp [put]
  | cons p rest ih =>
    obtain ⟨k', v'⟩ := p
    by_cases h : k' = k
    · simp [put, h]
    · have h' : ¬ k = k' := fun e => h e.symm
      simp only [put, h, if_false, List.map_cons, ih, List.mem_cons, h', false_or]
      split <;> simp

theorem nodup_put (k : κ) (v : α) {l : List (κ × α)} (h : (l.map Prod.fst).Nodup) :
    ((put k v l).map Prod.fst).Nodup := by
  rw [map_fst_put]
  split
  · exact h
  · next hk =>
    rw [List.nodup_append]
    refine ⟨h, by simp, ?_⟩
    intro a ha b hb
    simp only [List.mem_singleton] at hb
    rintro rfl
    exact hk (hb ▸ ha)

theorem lookup_put (k k' : κ) (v : α) (l : List (κ × α)) :
    (put k v l).lookup k' = if k' = k then some v else l.lookup k' := by
  induction l with
  | nil => rw [put, lookup_cons_eq]
  | cons p rest ih =>
    obtain ⟨a, b⟩ := p
    rw [put, lookup_cons_eq]
    by_cases ha : a = k
    · subst ha
      rw [if_pos rfl, lookup_cons_eq]
      split <;> rfl
    · rw [if_neg ha, lookup_cons_eq, ih]
      by_cases hk : k' = k
      · subst hk
        rw [if_neg (fun e => ha e.symm), if_pos rfl, if_pos rfl]
      · rw [if_neg hk, if_neg hk]

/-- Binds a key, in its old place if it has one and last otherwise. -/
def insert (e : Entries κ α) (k : κ) (v : α) : Entries κ α :=
  ⟨put k v e.toList, nodup_put k v e.nodup⟩

/-- **A look-up after a binding** finds the new value under its key and the
old value under every other key. -/
theorem get?_insert (e : Entries κ α) (k k' : κ) (v : α) :
    (e.insert k v).get? k' = if k' = k then some v else e.get? k' :=
  lookup_put k k' v e.toList

/-- Binds the pairs of a list one after the other; of two values of one key
the later one stands, in the place of the earlier. -/
def ofList (l : List (κ × α)) : Entries κ α :=
  l.foldl (fun e p => e.insert p.1 p.2) empty

theorem put_of_not_mem {k : κ} {l : List (κ × α)} (v : α) (h : k ∉ l.map Prod.fst) :
    put k v l = l ++ [(k, v)] := by
  induction l with
  | nil => rfl
  | cons p rest ih =>
    rw [List.map_cons, List.mem_cons, not_or] at h
    rw [put, if_neg (fun e => h.1 e.symm), ih h.2]
    rfl

theorem toList_foldl_insert (l : List (κ × α)) (e : Entries κ α)
    (h : ((e.toList ++ l).map Prod.fst).Nodup) :
    (l.foldl (fun e p => e.insert p.1 p.2) e).toList = e.toList ++ l := by
  induction l generalizing e with
  | nil => simp
  | cons p rest ih =>
    have hp : p.1 ∉ e.toList.map Prod.fst := by
      intro hm
      rw [List.map_append, List.nodup_append] at h
      exact h.2.2 _ hm p.1 (by simp) rfl
    have hi : (e.insert p.1 p.2).toList = e.toList ++ [p] := put_of_not_mem p.2 hp
    rw [List.foldl_cons, ih _ (by rw [hi]; simpa using h), hi, List.append_assoc]
    rfl

/-- Bindings without a key bound twice are kept as they are. -/
theorem toList_ofList {l : List (κ × α)} (h : (l.map Prod.fst).Nodup) : (ofList l).toList = l :=
  toList_foldl_insert l empty h

theorem ofList_toList (e : Entries κ α) : ofList e.toList = e := ext_toList (toList_ofList e.nodup)

theorem get?_foldl_insert (l : List (κ × α)) (e : Entries κ α) (k : κ) :
    (l.foldl (fun e p => e.insert p.1 p.2) e).get? k = (l.reverse.lookup k).or (e.get? k) := by
  induction l generalizing e with
  | nil => rfl
  | cons p rest ih =>
    rw [List.foldl_cons, ih, get?_insert, List.reverse_cons, List.lookup_append, Option.or_assoc,
      lookup_cons_eq]
    split <;> rfl

/-- **A look-up in bindings made from a list** finds the value that stands last
with the key. -/
theorem get?_ofList (l : List (κ × α)) (k : κ) : (ofList l).get? k = l.reverse.lookup k := by
  rw [ofList, get?_foldl_insert, get?_empty, Option.or_none]

theorem lookup_eq_none_of_not_mem {k : κ} {l : List (κ × α)} (h : k ∉ l.map Prod.fst) :
    l.lookup k = none := by
  rw [List.lookup_eq_none_iff]
  intro p hp
  rw [bne_iff_ne]
  rintro rfl
  exact h (List.mem_map.2 ⟨p, hp, rfl⟩)

/-- The value that stands last with a key is the one it is bound to. -/
theorem get?_ofList_of_last {k : κ} {l₂ : List (κ × α)} (l₁ : List (κ × α)) (v : α)
    (h : k ∉ l₂.map Prod.fst) : (ofList (l₁ ++ (k, v) :: l₂)).get? k = some v := by
  have hn : l₂.reverse.lookup k = none := lookup_eq_none_of_not_mem (by simpa using h)
  rw [get?_ofList, List.reverse_append, List.reverse_cons, List.append_assoc,
    List.lookup_append, hn, Option.none_or, List.lookup_append, lookup_cons_eq, if_pos rfl,
    Option.some_or]

/-- A key that stands nowhere in a list is not bound. -/
theorem get?_ofList_of_not_mem {k : κ} {l : List (κ × α)} (h : k ∉ l.map Prod.fst) :
    (ofList l).get? k = none := by
  rw [get?_ofList, lookup_eq_none_of_not_mem (by simpa using h)]

/-- Removes the binding of a key, if there is one. -/
def erase (e : Entries κ α) (k : κ) : Entries κ α :=
  e.filter fun k' _ => k' ≠ k

/-- **Looking up and listing agree**, since no key is bound twice. -/
theorem mem_toList_iff (e : Entries κ α) (k : κ) (v : α) :
    (k, v) ∈ e.toList ↔ e.get? k = some v := by
  obtain ⟨l, hl⟩ := e
  simp only [get?]
  induction l with
  | nil => simp
  | cons p rest ih =>
    obtain ⟨a, b⟩ := p
    rw [List.map_cons, List.nodup_cons] at hl
    rw [List.mem_cons, ih hl.2, lookup_cons_eq]
    by_cases h : k = a
    · subst h
      have hn : ∀ w, (k, w) ∉ rest := fun w hw => hl.1 (List.mem_map.2 ⟨_, hw, rfl⟩)
      have : rest.lookup k = none := by
        rw [List.lookup_eq_none_iff]
        intro q hq
        rw [bne_iff_ne]
        intro he
        exact hn q.2 (he ▸ hq)
      simp [this, eq_comm]
    · simp [h]

theorem mem_keys_iff (e : Entries κ α) (k : κ) : k ∈ e.keys ↔ (e.get? k).isSome := by
  rw [keys, List.mem_map, Option.isSome_iff_exists]
  constructor
  · rintro ⟨⟨k', v⟩, hm, rfl⟩
    exact ⟨v, (e.mem_toList_iff _ _).1 hm⟩
  · rintro ⟨v, hv⟩
    exact ⟨(k, v), (e.mem_toList_iff _ _).2 hv, rfl⟩

/-- Nothing is bound exactly when no key is. -/
theorem toList_eq_nil_iff (e : Entries κ α) : e.toList = [] ↔ ∀ k, e.get? k = none := by
  constructor
  · intro h k
    rw [get?, h]
    rfl
  · intro h
    cases hl : e.toList with
    | nil => rfl
    | cons p rest =>
      have hp : e.get? p.1 = some p.2 := (e.mem_toList_iff p.1 p.2).1 (by rw [hl]; exact .head _)
      rw [h] at hp
      cases hp

/-- **A look-up after a filter** finds a value exactly where it was and
passes. -/
theorem get?_filter (e : Entries κ α) (p : κ → α → Bool) (k : κ) :
    (e.filter p).get? k = (e.get? k).filter (p k) := by
  apply Option.ext
  intro v
  rw [← mem_toList_iff, Option.filter_eq_some_iff, ← mem_toList_iff]
  simp [filter]

theorem get?_erase (e : Entries κ α) (k k' : κ) :
    (e.erase k).get? k' = if k' = k then none else e.get? k' := by
  rw [erase, get?_filter]
  by_cases h : k' = k
  · subst h; cases e.get? k' <;> simp
  · cases e.get? k' <;> simp [h]

/-- **A look-up after a change** finds what the old value was changed into. -/
theorem get?_filterMap {β : Type} (f : κ → α → Option β) (e : Entries κ α) (k : κ) :
    (e.filterMap f).get? k = (e.get? k).bind (f k) := by
  apply Option.ext
  intro v
  rw [← mem_toList_iff, Option.bind_eq_some_iff]
  simp only [filterMap, List.mem_filterMap, Option.map_eq_some_iff, Prod.mk.injEq, Prod.exists,
    ← mem_toList_iff]
  constructor
  · rintro ⟨_, a, hm, b, hb, rfl, rfl⟩
    exact ⟨a, hm, hb⟩
  · rintro ⟨a, hm, hb⟩
    exact ⟨k, a, hm, v, hb, rfl, rfl⟩

end Entries

end AuditConfig
