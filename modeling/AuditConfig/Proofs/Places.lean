import AuditConfig.Proofs.Taking

/-!
# Places and their cells

Raw maps and additional properties live in cells, and an edit in place is seen wherever its
cell is.  As long as no two places have the same cell (`Store.Apart`), what writes to one place
(`Store.WritesOnly`) leaves all others looking as they did (`WritesOnly.sameElsewhere`).  It
also keeps them apart (`WritesOnly.apart`), since a cell that it takes into use is a new one.

Objects can share a cell all the same: those that have a default of their class (`putDefault`),
and a copy that gets no additional properties of its own (`keepCopy`).  All else that is put
into a store keeps to one place.
-/

namespace AuditConfig

/-- A class as it is seen.  It also keeps the names that it knows how to assign, so as not to
find out the same again. -/
def PropsClass.seen (c : PropsClass) : PropsClass := { c with handled := [] }

namespace Props

/-- An object as it is seen. -/
def seen (o : Props) : Props := { o with cls := o.cls.seen }

end Props

namespace Session

open PropsClass

namespace Store

/-- The cell of a place. -/
def cellOf? (s : Store) : Place → Option Nat
  | .raw name => s.raws.get? name
  | .object name => (s.objects.get? name).bind (·.cell)
  | .cls _ => none

/-- Every place has a cell of its own, if it has one. -/
structure Apart (s : Store) : Prop where
  bounded : ∀ p i, s.cellOf? p = some i → i < s.cells.length
  distinct : ∀ p q i, s.cellOf? p = some i → s.cellOf? q = some i → p = q

theorem apart_start (home : String) (occurrence : Nat) : (Store.start home occurrence).Apart where
  bounded p i hi := by cases p <;> cases hi
  distinct p _ i hi _ := by cases p <;> cases hi

/-- From one store to the next, no place but one is written to, and no cell but its own, which
may be new. -/
structure WritesOnly (s s' : Store) (p : Place) : Prop where
  raws : ∀ name, p ≠ .raw name → s'.raws.get? name = s.raws.get? name
  objects : ∀ name, p ≠ .object name → s'.objects.get? name = s.objects.get? name
  classes : ∀ name, p ≠ .cls name → s'.classes.get? name = s.classes.get? name
  ready : ∀ c, (s'.learnedOf c).isReady = (s.learnedOf c).isReady
  length_le : s.cells.length ≤ s'.cells.length
  cells : ∀ i, i < s.cells.length → s.cellOf? p ≠ some i → s'.cell i = s.cell i
  own : ∀ i, s'.cellOf? p = some i →
    s.cellOf? p = some i ∨ (s.cells.length ≤ i ∧ i < s'.cells.length)

/-- Two stores look the same but for one place: other names stand for the same, and keep their
cells. -/
structure SameElsewhere (p : Option Place) (s s' : Store) : Prop where
  raws : ∀ name, p ≠ some (.raw name) → s'.raw? name = s.raw? name
  objects : ∀ name, p ≠ some (.object name) →
    (s'.object? name).map Props.seen = (s.object? name).map Props.seen
  classes : ∀ name, p ≠ some (.cls name) →
    (s'.class? name).map PropsClass.seen = (s.class? name).map PropsClass.seen
  cells : ∀ q, p ≠ some q → s'.cellOf? q = s.cellOf? q

theorem SameElsewhere.refl (p : Option Place) (s : Store) : s.SameElsewhere p s :=
  ⟨fun _ _ => rfl, fun _ _ => rfl, fun _ _ => rfl, fun _ _ => rfl⟩

/-- A class is seen as it was as long as it does not get its validator. -/
theorem seen_current {s s' : Store} {c : PropsClass}
    (h : (s'.learnedOf c).isReady = (s.learnedOf c).isReady) :
    (s'.current c).seen = (s.current c).seen := by
  simp [current, Learned.of, PropsClass.seen, h]

/-- To look at a class again shows the same. -/
theorem seen_current_current {s s' : Store} {c : PropsClass}
    (h : (s'.learnedOf c).isReady = (s.learnedOf c).isReady) :
    (s'.current (s.current c)).seen = (s.current c).seen := by
  have hagain : s'.learnedOf (s.current c) = s'.learnedOf c := rfl
  rw [current, hagain]
  cases hr : (s.learnedOf c).isReady <;> simp [current, Learned.of, PropsClass.seen, h, hr]

namespace WritesOnly

variable {s s' : Store} {p : Place} (h : s.WritesOnly s' p)
include h

theorem cellOf?_eq {q : Place} (hq : p ≠ q) : s'.cellOf? q = s.cellOf? q := by
  cases q with
  | raw name => exact h.raws name hq
  | object name => rw [cellOf?, cellOf?, h.objects name hq]
  | cls name => rfl

/-- What is written to one place is seen nowhere else. -/
theorem cell_eq (hs : s.Apart) {q : Place} (hq : p ≠ q) {i : Nat} (hi : s.cellOf? q = some i) :
    s'.cell i = s.cell i :=
  h.cells i (hs.bounded q i hi) fun hp => hq (hs.distinct p q i hp hi)

/-- **The rest looks the same.** -/
theorem sameElsewhere (hs : s.Apart) : s.SameElsewhere (some p) s' where
  raws name hn := by
    have hq : p ≠ .raw name := fun e => hn (congrArg some e)
    have hcell : ∀ i, s.raws.get? name = some i → s'.cell i = s.cell i := fun i hi =>
      h.cell_eq hs hq hi
    rw [raw?, raw?, h.raws name hq]
    cases hi : s.raws.get? name with
    | none => rfl
    | some i => simp only [Option.bind_some, hcell i hi]
  objects name hn := by
    have hq : p ≠ .object name := fun e => hn (congrArg some e)
    rw [object?, object?, h.objects name hq]
    cases ho : s.objects.get? name with
    | none => rfl
    | some stored =>
      have hcell : stored.cell.map s'.cell = stored.cell.map s.cell := by
        cases hi : stored.cell with
        | none => rfl
        | some i =>
          have hplace : s.cellOf? (.object name) = some i := by rw [cellOf?, ho]; exact hi
          rw [Option.map_some, Option.map_some, h.cell_eq hs hq hplace]
      simp only [Option.map_some, load, Props.seen, hcell, seen_current (h.ready stored.object.cls)]
  classes name hn := by
    have hq : p ≠ .cls name := fun e => hn (congrArg some e)
    have hseen : ∀ found : Option PropsClass,
        (found.map s'.current).map PropsClass.seen = (found.map s.current).map PropsClass.seen := by
      intro found
      cases found with
      | none => rfl
      | some c => simp only [Option.map_some, seen_current (h.ready c)]
    unfold class?
    rw [h.classes name hq]
    exact hseen _
  cells q hq := h.cellOf?_eq fun e => hq (congrArg some e)

/-- **Places stay apart.** -/
theorem apart (hs : s.Apart) : s'.Apart where
  bounded q i hi := by
    by_cases hq : p = q
    · subst hq
      rcases h.own i hi with hold | ⟨_, hnew⟩
      · exact Nat.lt_of_lt_of_le (hs.bounded p i hold) h.length_le
      · exact hnew
    · rw [h.cellOf?_eq hq] at hi
      exact Nat.lt_of_lt_of_le (hs.bounded q i hi) h.length_le
  distinct q r i hi hj := by
    -- a cell that the place has is its old one, or is not that of a place that was there
    have hown : ∀ q, p ≠ q → s'.cellOf? p = some i → s'.cellOf? q ≠ some i := by
      intro q hq hp hi
      rw [h.cellOf?_eq hq] at hi
      rcases h.own i hp with hold | ⟨hnew, _⟩
      · exact hq (hs.distinct p q i hold hi)
      · exact Nat.not_lt.2 hnew (hs.bounded q i hi)
    by_cases hq : p = q
    · subst hq
      by_cases hr : p = r
      · exact hr
      · exact absurd hj (hown r hr hi)
    · by_cases hr : p = r
      · subst hr
        exact absurd hi (hown q hq hj)
      · rw [h.cellOf?_eq hq] at hi
        rw [h.cellOf?_eq hr] at hj
        exact hs.distinct q r i hi hj

/-- What a store counts and remembers beside is no matter. -/
theorem holdsSame {s'' : Store} (hsame : s'.HoldsSame s'') : s.WritesOnly s'' p := by
  have hplaces : s''.cellOf? p = s'.cellOf? p := by
    cases p with
    | raw name => rw [cellOf?, cellOf?, hsame.raws]
    | object name => rw [cellOf?, cellOf?, hsame.objects]
    | cls name => rfl
  exact {
    raws := fun name hn => by rw [hsame.raws, h.raws name hn]
    objects := fun name hn => by rw [hsame.objects, h.objects name hn]
    classes := fun name hn => by rw [hsame.classes, h.classes name hn]
    ready := fun c => (hsame.ready c).trans (h.ready c)
    length_le := by rw [hsame.cells]; exact h.length_le
    cells := fun i hi hp => by rw [cell, hsame.cells]; exact h.cells i hi hp
    own := fun i hi => by rw [hsame.cells]; exact h.own i (hplaces ▸ hi) }

end WritesOnly

theorem writesOnly_putRaw (s : Store) (name : String) (e : Entries Key Value) :
    s.WritesOnly (s.putRaw name e) (.raw name) where
  raws n hn := by
    have hne : n ≠ name := fun e => hn (congrArg _ e.symm)
    exact (Entries.get?_insert ..).trans (if_neg hne)
  objects _ _ := rfl
  classes _ _ := rfl
  ready _ := rfl
  length_le := by simp [putRaw]
  cells i hi _ := cell_append_of_lt hi _
  own i hi := by
    have hnew : s.cells.length = i := by simpa [cellOf?, putRaw, Entries.get?_insert] using hi
    exact .inr (by simp [putRaw, hnew])

/-- What is stored of an object, and that nothing else is stored. -/
theorem objects_putObject (s : Store) (name : String) (o : Props) :
    ∃ cell, (s.putObject name o).objects = s.objects.insert name ⟨o, cell⟩ := by
  unfold putObject
  cases o.additional with
  | none => exact ⟨none, rfl⟩
  | some v => exact ⟨some s.cells.length, rfl⟩

theorem writesOnly_putObject (s : Store) (name : String) (o : Props) :
    s.WritesOnly (s.putObject name o) (.object name) := by
  have hobjects : ∀ n, Place.object name ≠ .object n → ∀ stored : Stored,
      (s.objects.insert name stored).get? n = s.objects.get? n := by
    intro n hn stored
    have hne : n ≠ name := fun e => hn (congrArg _ e.symm)
    rw [Entries.get?_insert, if_neg hne]
  unfold putObject
  cases o.additional with
  | none =>
    exact {
      raws := fun _ _ => rfl
      objects := fun n hn => hobjects n hn _
      classes := fun _ _ => rfl
      ready := fun _ => rfl
      length_le := Nat.le_refl _
      cells := fun _ _ _ => rfl
      own := fun i hi => by simp [cellOf?, Entries.get?_insert] at hi }
  | some v =>
    exact {
      raws := fun _ _ => rfl
      objects := fun n hn => hobjects n hn _
      classes := fun _ _ => rfl
      ready := fun _ => rfl
      length_le := by simp
      cells := fun i hi _ => cell_append_of_lt hi v
      own := fun i hi => by
        have hnew : s.cells.length = i := by simpa [cellOf?, Entries.get?_insert] using hi
        exact .inr (by simp [hnew]) }

/-- An object is replaced and keeps its cell. -/
theorem writesOnly_replace {s : Store} {name : String} {stored : Stored}
    (hs : s.objects.get? name = some stored) (o : Props) :
    s.WritesOnly { s with objects := s.objects.insert name ⟨o, stored.cell⟩ } (.object name) where
  raws _ _ := rfl
  objects n hn := by
    have hne : n ≠ name := fun e => hn (congrArg _ e.symm)
    exact (Entries.get?_insert ..).trans (if_neg hne)
  classes _ _ := rfl
  ready _ := rfl
  length_le := Nat.le_refl _
  cells _ _ _ := rfl
  own i hi := by
    refine .inl ?_
    simpa [cellOf?, Entries.get?_insert, hs] using hi

theorem writesOnly_withAssigned {s : Store} {name : String} {stored : Stored}
    (hs : s.objects.get? name = some stored) (field : String) (o : Props) :
    s.WritesOnly (s.withAssigned name field stored o) (.object name) := by
  unfold withAssigned
  split
  · exact s.writesOnly_putObject name o
  · exact writesOnly_replace hs o

/-- A place is written to in its cell. -/
theorem writesOnly_setCell {s : Store} {p : Place} {i : Nat} (hp : s.cellOf? p = some i)
    (hi : i < s.cells.length) (v : Value) : s.WritesOnly (s.setCell i v) p where
  raws _ _ := rfl
  objects _ _ := rfl
  classes _ _ := rfl
  ready _ := rfl
  length_le := by simp [setCell]
  cells j _ hj := by
    have hne : j ≠ i := fun e => hj (e ▸ hp)
    rw [cell_setCell s i j v hi, if_neg hne]
  own _ hj := .inl hj

theorem writesOnly_putClass (s : Store) (name : String) (c : PropsClass) :
    s.WritesOnly (s.putClass name c) (.cls name) where
  raws _ _ := rfl
  objects _ _ := rfl
  classes n hn := by
    have hne : n ≠ name := fun e => hn (congrArg _ e.symm)
    exact (Entries.get?_insert ..).trans (if_neg hne)
  ready _ := rfl
  length_le := Nat.le_refl _
  cells _ _ _ := rfl
  own _ hi := by cases hi

end Store
end Session
end AuditConfig
