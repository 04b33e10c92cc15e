import AuditConfig.Proofs.Inheritance
import AuditConfig.Proofs.NamedValues
import AuditConfig.Props.Found

/-!
# Reading what a build made

What an object holds under a name is not always what is found of it there.  A class
can have something else in place of what finds attributes, or of all that its objects
hold, or a slot of the name.  A class that has nothing of the kind `Reads` the name.

A new object has nothing else under any name (`Props.lastResort_eq_error`), so that of what
it holds, be it a value or not (`Props.holding?`), exactly what its class reads is found
(`found_make_of_holding`).  An ordinary class reads every name (`Plain.reads`).
-/

namespace AuditConfig

/-- What an object holds under a name, a value or a fixture. -/
def Props.holding? (o : Props) (name : String) : Option Holding :=
  ((o.held? name).map .value).or ((o.standing.get? name).map .fixture)

theorem Props.holding?_of_held? {o : Props} {name : String} {v : Value}
    (hv : o.held? name = some v) : o.holding? name = some (.value v) := by
  rw [holding?, hv]
  rfl

namespace PropsClass

variable {c : PropsClass}

/-- Nothing stands between a name and what the objects of a class hold under it. -/
structure Reads (c : PropsClass) (name : String) : Prop where
  /-- Nothing stands in place of what finds attributes. -/
  finder : c.ownValue? finderName = none
  contents : c.hidesContents = false
  slotless : c.hasSlot name = false

/-- A plain class reads every name. -/
theorem Plain.reads (h : c.Plain) (name : String) : c.Reads name where
  finder := by rw [ownValue?, h.replaced]; rfl
  contents := by rw [hidesContents, replaces, ownValue?, h.replaced]; rfl
  slotless := h.hasSlot name

theorem isTrue_firstOverflow (c : PropsClass) : c.firstOverflow.isTrue = false := by
  unfold firstOverflow
  split <;> rfl

end PropsClass

namespace Props

variable {o : Props}

/-- An object without undeclared names and loose attributes has nothing as a last resort. -/
theorem lastResort_eq_error (hoverflow : o.overflow.isTrue = false) (hloose : o.loose = .empty)
    (name : String) : ∃ e, o.lastResort name = .error e := by
  have hentry : ∃ e, o.overflowEntry name = .error e := ⟨_, if_neg (by simp [hoverflow])⟩
  unfold lastResort
  rw [hloose]
  cases o.replacement? lackedName with
  | none => exact hentry
  | some v => cases v <;> exact ⟨_, rfl⟩

/-- What an object holds under a name is visible, unless its class has a slot of the name or
hides what its objects hold. -/
theorem visible?_eq_holding? {name : String} (hs : o.cls.hasSlot name = false)
    (hc : o.cls.hidesContents = false) : o.visible? name = o.holding? name := by
  rw [visible?, hs, hc]
  rfl

/-- **Of what such an object holds, and no slot of it, exactly what its class reads is
found.** -/
theorem found_iff_reads (hoverflow : o.overflow.isTrue = false) (hloose : o.loose = .empty)
    (hslots : o.slots = .empty) {name : String} {held : Holding}
    (hv : o.holding? name = some held) (h : Holding) :
    o.found name = .ok h ↔ o.cls.Reads name ∧ h = held := by
  obtain ⟨e, he⟩ := lastResort_eq_error hoverflow hloose name
  unfold found
  cases hf : o.cls.ownValue? PropsClass.finderName with
  | some w =>
    have hr : ¬ o.cls.Reads name := fun hr => by simpa [hf] using hr.finder
    simp [hr]
  | none =>
    cases hs : o.cls.hasSlot name with
    | true =>
      have hr : ¬ o.cls.Reads name := fun hr => by simpa [hs] using hr.slotless
      simp [visible?, hslots, hs, he, hr, Except.map]
    | false =>
      cases hh : o.cls.hidesContents with
      | true =>
        have hr : ¬ o.cls.Reads name := fun hr => by simpa [hh] using hr.contents
        simp [visible?, hloose, hs, hh, he, hr, Except.map]
      | false =>
        have hr : o.cls.Reads name := ⟨hf, hh, hs⟩
        have hvisible : o.visible? name = some held := by rw [visible?_eq_holding? hs hh, hv]
        simp [hvisible, hr, eq_comm]

end Props

namespace PropsClass

variable {c : PropsClass}

/-- **Of what a new object holds exactly what its class reads is found.** -/
theorem found_make_of_holding {fields : Table FieldDecl} {named : Table Value}
    {additional : Option Value} {name : String} {held : Holding}
    (hv : (c.make fields named additional c.firstOverflow).holding? name = some held)
    (h : Holding) : (c.make fields named additional c.firstOverflow).found name = .ok h ↔
      c.Reads name ∧ h = held :=
  Props.found_iff_reads c.isTrue_firstOverflow rfl rfl hv h

/-- **Of what a build made exactly what the class reads is found.** -/
theorem found_of_holding {raw : Entries Key Value} {r : Report} (hr : c.reportEntries raw = .ok r)
    {name : String} {held : Holding} (hv : r.props.holding? name = some held) (h : Holding) :
    r.props.found name = .ok h ↔ c.Reads name ∧ h = held := by
  obtain ⟨rs, _, hp⟩ := exists_make_of_reportEntries hr
  rw [hp] at hv ⊢
  exact found_make_of_holding hv h

theorem found_of_reportEntries {raw : Entries Key Value} {r : Report}
    (hr : c.reportEntries raw = .ok r) {name : String} {v : Value}
    (hv : r.props.held? name = some v) (h : Holding) :
    r.props.found name = .ok h ↔ c.Reads name ∧ h = .value v :=
  found_of_holding hr (Props.holding?_of_held? hv) h

theorem held?_additional_of_reportEntries {raw : Entries Key Value} {r : Report}
    (h : c.reportEntries raw = .ok r) :
    r.props.held? additionalName = some (.ofEntries (c.passThrough raw)) := by
  obtain ⟨rs, _, hp⟩ := exists_make_of_reportEntries h
  rw [hp]
  rfl

end PropsClass
end AuditConfig
