import AuditConfig.Proofs.Reading
import AuditConfig.Props.Assign
import AuditConfig.Props.Copy

/-!
# Objects with nothing but fields

What builds and copies make holds values and fixtures in declared fields alone, and beside
them what every object of its class has at first (`Props.Unadorned`).  Much that can stand
in the way of an assignment is therefore not there: a field takes the value, or what the
validation makes of it, nothing else of the object changes (`Unadorned.assign_eq_ok`), and
what is to be noted of that is noted (`Unadorned.unnoted?_eq_none`).

A field has no free name (`PropsClass.NamesFields`), so that nothing which an object has
beside its fields is assigned as one.
-/

namespace AuditConfig

namespace PropsClass

/-- No field of a class has a free name. -/
def NamesFields (c : PropsClass) : Prop :=
  ∀ name, (c.fields.get? name).isSome → Attribute.isFree name = false

theorem namesFields_base : base.NamesFields := by
  intro name h
  change ((Entries.empty.insert additionalName _).get? name).isSome = true at h
  rw [Entries.get?_insert] at h
  split at h
  · next hn => rw [hn]; decide
  · cases h

/-- **Every definition keeps fields from free names,** whatever it declares. -/
theorem NamesFields.extend {parent : PropsClass} (hp : parent.NamesFields) (id : Nat)
    (options : Options) (d : Definition) : (PropsClass.extend id options parent d).NamesFields := by
  intro name h
  change ((d.allFields parent).get? name).isSome = true at h
  rw [Definition.get?_allFields] at h
  split at h
  · next hn => rw [hn]; decide
  · rw [Definition.get?_ownFields, Definition.get?_inherited, Option.isSome_or,
      Bool.or_eq_true, Option.isSome_map, Option.isSome_map] at h
    rcases h with hown | hinherited
    · obtain ⟨_, hf⟩ := Option.isSome_iff_exists.1 hown
      have hfield : Attribute.isField name = true := (Option.filter_eq_some_iff.1 hf).2
      simp only [Attribute.isField, Bool.and_eq_true, Bool.not_eq_true'] at hfield
      exact hfield.1
    · exact hp name hinherited

theorem namesFields_processor (p : Processor) : p.cls.NamesFields :=
  namesFields_base.extend p.classId base.options (processorDefinition p)

end PropsClass

namespace Props

/-- An object is another one but for what it holds in a field. -/
structure SameBut (field : String) (o o' : Props) : Prop where
  holding : ∀ name, name ≠ field → o'.holding? name = o.holding? name
  rest : o' = { o with fields := o'.fields, additional := o'.additional, standing := o'.standing }

theorem SameBut.refl (field : String) (o : Props) : o.SameBut field o := ⟨fun _ _ => rfl, rfl⟩

/-- To give a field a value changes nothing else. -/
theorem sameBut_setField (o : Props) (field : String) (v : Value) :
    o.SameBut field (o.setField field v) := by
  refine ⟨fun name hn => ?_, ?_⟩
  · have hstanding : (o.setField field v).standing.get? name = o.standing.get? name := by
      unfold setField
      dsimp only
      split <;> exact (Entries.get?_erase ..).trans (if_neg hn)
    have hheld : (o.setField field v).held? name = o.held? name := by
      unfold setField held?
      by_cases hf : field = additionalName
      · subst hf
        simp [hn]
      · by_cases ha : name = additionalName
        · simp [hf, ha]
        · simp [hf, ha, Entries.get?_insert, hn]
    rw [holding?, holding?, hheld, hstanding]
  · unfold setField
    split <;> rfl

/-- Other additional properties change nothing else. -/
theorem sameBut_additional (o : Props) (v : Option Value) :
    o.SameBut additionalName { o with additional := v } := by
  refine ⟨fun name hn => ?_, rfl⟩
  simp [holding?, held?, hn]

/-- An object that holds values and fixtures in declared fields alone, and beside them has
what every object of its class has at first. -/
structure Unadorned (o : Props) : Prop where
  named : o.cls.NamesFields
  fields : ∀ name, (o.fields.get? name).isSome → (o.cls.fields.get? name).isSome
  standing : ∀ name, (o.standing.get? name).isSome → (o.cls.fields.get? name).isSome
  overflow : o.overflow = o.cls.firstOverflow
  loose : o.loose = .empty
  record : o.record = none
  unset : o.unset = []

/-- **What is built is unadorned.** -/
theorem unadorned_of_reportEntries {c : PropsClass} (hc : c.NamesFields)
    {raw : Entries Key Value} {r : Report} (h : c.reportEntries raw = .ok r) :
    r.props.Unadorned := by
  obtain ⟨rs, _, hprops⟩ := PropsClass.exists_make_of_reportEntries h
  have hanew : ∀ name, (c.fieldsAnew.get? name).isSome → (c.fields.get? name).isSome := by
    intro name hname
    rwa [PropsClass.get?_fieldsAnew, Option.isSome_map] at hname
  rw [hprops]
  refine ⟨hc, fun name hname => hanew name ?_, fun name hname => hanew name ?_, rfl, rfl, rfl, rfl⟩
  · change ((c.namedValues rs).get? name).isSome = true at hname
    obtain ⟨_, hv⟩ := Option.isSome_iff_exists.1 hname
    rw [PropsClass.namedValues, Entries.get?_filterMap, PropsClass.namedFieldsAnew,
      Entries.get?_erase] at hv
    split at hv
    · cases hv
    · obtain ⟨f, hf, _⟩ := Option.bind_eq_some_iff.1 hv
      rw [hf]
      rfl
  · change ((PropsClass.standingFixtures _ _ _).get? name).isSome = true at hname
    obtain ⟨_, hx⟩ := Option.isSome_iff_exists.1 hname
    rw [PropsClass.standingFixtures, Entries.get?_filterMap] at hx
    obtain ⟨f, hf, _⟩ := Option.bind_eq_some_iff.1 hx
    rw [hf]
    rfl

/-- What stands in the way of every assignment to a name is not the validator. -/
theorem assignFlaw?_ne_validator (o : Props) (name : String) (e : ValidatorError) :
    o.assignFlaw? name ≠ some (.validator e) := by
  have hassigner : o.assignerFlaw? ≠ some (.validator e) := by
    unfold assignerFlaw?
    simp only [ne_eq, Option.or_eq_some_iff, Option.map_eq_some_iff, not_or]
    refine ⟨?_, by simp⟩
    rintro ⟨s, _, hs⟩
    cases s <;> cases hs
  have hhandler : o.handlerFlaw? ≠ some (.validator e) := by
    unfold handlerFlaw?
    dsimp only
    split
    · split <;> simp
    · simp
  unfold assignFlaw?
  simp only [ne_eq, Option.or_eq_some_iff, Option.bind_eq_some_iff, not_or, not_and]
  refine ⟨hassigner, fun _ => ⟨?_, fun _ hknown => ?_⟩⟩
  · rintro ⟨v, _, hv⟩
    split at hv
    · cases hv
    · obtain ⟨w, _, hw⟩ := Option.bind_eq_some_iff.1 hv
      split at hw <;> cases hw
  · split at hknown
    · cases hknown
    · exact hhandler hknown

namespace Unadorned

variable {o : Props} (h : o.Unadorned)
include h

/-- It is unadorned whatever its additional properties are, and what slots hold. -/
theorem with_additional (additional : Option Value) (slots : Table Value) (making : Nat) :
    Unadorned { o with additional := additional, slots := slots, making := making } :=
  ⟨h.named, h.fields, h.standing, h.overflow, h.loose, h.record, h.unset⟩

/-- It holds nothing under a name that is no field. -/
theorem holding?_eq_none {name : String} (hn : name ≠ additionalName)
    (hf : o.cls.fields.get? name = none) : o.holding? name = none := by
  have none_of : ∀ {α : Type} (t : Table α),
      ((t.get? name).isSome → (o.cls.fields.get? name).isSome) → t.get? name = none := by
    intro α t ht
    rw [hf] at ht
    exact Option.not_isSome_iff_eq_none.1 fun hs => nomatch ht hs
  simp [holding?, held?, hn, none_of o.fields (h.fields name), h.loose,
    none_of o.standing (h.standing name)]

/-- The additional properties of a copy are not among undeclared names. -/
theorem copiesAside_eq : o.copiesAside = false := by
  rw [copiesAside, h.loose]
  exact Bool.and_false _

/-- **A copy is the same object** but for its additional properties and what slots hold. -/
theorem copyAs_eq_ok {target : PropsClass} {copy : Props} (hcopy : copyAs target o = .ok copy) :
    o.copiesAside = false ∧ ∃ v, copy = { o with additional := some v, slots := .empty } := by
  obtain ⟨_, _, v, _, rfl⟩ := (copyAs_eq_ok_iff ..).1 hcopy
  exact ⟨h.copiesAside_eq, v, by rw [copied, h.copiesAside_eq]; rfl⟩

/-- To put an object together anew changes nothing. -/
theorem regathered_eq : o.regathered = o := by
  have hdeclared : ∀ {α : Type} (t : Table α),
      (∀ name, (t.get? name).isSome → (o.cls.fields.get? name).isSome) →
      (t.filter fun name _ => (o.cls.fields.get? name).isSome) = t ∧
        (t.filter fun name _ => !(o.cls.fields.get? name).isSome) = .empty := by
    intro α t ht
    have hmem : ∀ b ∈ t.toList, (o.cls.fields.get? b.1).isSome = true := fun b hb =>
      ht b.1 (by rw [(t.mem_toList_iff b.1 b.2).1 hb]; rfl)
    constructor
    · exact Entries.ext_toList (List.filter_eq_self.2 fun b hb => hmem b hb)
    · exact Entries.ext_toList (List.filter_eq_nil_iff.2 fun b hb => by simp [hmem b hb])
  have hnothing : namedEntries (o.overflow.entries?.getD .empty) = [] := by
    rw [h.overflow, PropsClass.firstOverflow]
    split <;> rfl
  obtain ⟨hfields, hothers⟩ := hdeclared o.fields h.fields
  have hstanding : o.standingFields = o.standing := (hdeclared o.standing h.standing).1
  have hoverflow := h.overflow
  rw [PropsClass.firstOverflow] at hoverflow
  rw [regathered, hnothing, List.foldl_nil]
  dsimp only
  split
  · next hkept =>
    rw [if_neg hkept] at hoverflow
    rw [← hoverflow]
  · next hkept =>
    rw [if_pos (Decidable.of_not_not hkept)] at hoverflow
    split
    · rw [hothers, hfields]
      change { o with overflow := .map [] } = o
      rw [← hoverflow]
    · have hloose := h.loose
      rw [hstanding, hloose]
      change { o with overflow := .map [], loose := .empty } = o
      rw [← hoverflow, ← hloose]

section

variable {field : String} (hf : (o.cls.fields.get? field).isSome)
include hf

theorem setField (v : Value) : (o.setField field v).Unadorned := by
  have hstanding : ∀ name, ((o.standing.erase field).get? name).isSome →
      (o.cls.fields.get? name).isSome := by
    intro name hname
    rw [Entries.get?_erase] at hname
    split at hname
    · cases hname
    · exact h.standing name hname
  unfold Props.setField
  split
  · exact ⟨h.named, h.fields, hstanding, h.overflow, h.loose, h.record, h.unset⟩
  · refine ⟨h.named, fun name hname => ?_, hstanding, h.overflow, h.loose, h.record, h.unset⟩
    change ((o.fields.insert field v).get? name).isSome = true at hname
    rw [Entries.get?_insert] at hname
    split at hname
    · next hn => rw [hn]; exact hf
    · exact h.fields name hname

/-- What the validation of an assigned value comes to: there is no validator, the value is
refused, or the field has what is made of it. -/
theorem setValidated_cases (occurrence : Nat) (v : Value) :
    (∃ e, o.setValidated occurrence field v = .error e ∧
      ∀ flaw, e = .validator flaw → o.cls.unready = some flaw) ∨
    ∃ w, o.setValidated occurrence field v = .ok (o.setField field w) := by
  unfold setValidated
  split
  · next e he =>
    refine .inl ⟨e, rfl, ?_⟩
    rintro flaw rfl
    rw [validationFlaw?, h.loose, Entries.get?_empty] at he
    cases hu : o.cls.unready with
    | some unready => rw [hu] at he; cases he; rfl
    | none =>
      rw [hu] at he
      cases hs : o.cls.standIn with
      | some p =>
        simp only [hs] at he
        split at he <;> cases he
      | none => simp [hs] at he
  · rw [h.record, h.regathered_eq]
    cases hv : o.validated occurrence field v with
    | ok w => exact .inr ⟨w, if_pos hf⟩
    | error e =>
      refine .inl ⟨e, rfl, ?_⟩
      rintro flaw rfl
      obtain ⟨d, hd⟩ := Option.isSome_iff_exists.1 hf
      rw [validated, hd] at hv
      dsimp only at hv
      split at hv <;> cases hv

/-- What an assignment to a field comes to by its name. -/
theorem assignByName_cases (occurrence : Nat) (v : Value) :
    (∃ e, o.assignByName occurrence field v = .error e ∧ ∀ flaw, e = .validator flaw →
      o.cls.options.validatesAssigned = true ∧ o.cls.unready = some flaw) ∨
    ∃ w, o.assignByName occurrence field v = .ok (o.setField field w) := by
  unfold assignByName
  rw [h.named field hf]
  simp only [Bool.false_eq_true, if_false]
  split
  · exact .inl ⟨_, rfl, fun _ he => by cases he⟩
  · split
    · exact .inl ⟨_, rfl, fun _ he => by cases he⟩
    · split
      · exact .inl ⟨_, rfl, fun _ he => by cases he⟩
      · split
        · next hvalidates =>
          rcases h.setValidated_cases hf occurrence v with ⟨e, he, hflaw⟩ | hset
          · exact .inl ⟨e, he, fun flaw hf => ⟨hvalidates, hflaw flaw hf⟩⟩
          · exact .inr hset
        · rw [← Option.not_isSome, hf]
          cases o.instead with
          | some w => exact .inl ⟨_, rfl, fun _ he => by cases he⟩
          | none => exact .inr ⟨v, rfl⟩

/-- **An assignment to a field gives it a value and changes nothing else.** -/
theorem assign_eq_ok {occurrence : Nat} {v : Value} {p : Props}
    (hp : o.assign occurrence field v = .ok p) : ∃ w, p = o.setField field w := by
  unfold assign at hp
  split at hp
  · cases hp
  · rcases h.assignByName_cases hf occurrence v with ⟨e, he, _⟩ | ⟨w, hw⟩
    · rw [he] at hp
      cases hp
    · have hloose : (o.setField field w).loose = .empty := (h.setField hf w).loose
      simp only [hw, Except.map, hloose, Entries.get?_empty, Option.any_none, Bool.and_false,
        Bool.false_eq_true, if_false] at hp
      cases hp
      exact ⟨w, rfl⟩

/-- **Only where assigned values are validated does an assignment ask for the validator.** -/
theorem assign_eq_validator {occurrence : Nat} {v : Value} {flaw : ValidatorError}
    (he : o.assign occurrence field v = .error (.validator flaw)) :
    o.cls.options.validatesAssigned = true ∧ o.cls.unready = some flaw := by
  unfold assign at he
  split at he
  · next hflaw =>
    cases he
    exact absurd hflaw (o.assignFlaw?_ne_validator field flaw)
  · rcases h.assignByName_cases hf occurrence v with ⟨e, hname, hflaw⟩ | ⟨w, hw⟩
    · rw [hname] at he
      cases he
      exact hflaw flaw rfl
    · rw [hw] at he
      cases he

omit hf in
/-- What is to be noted of an assignment is noted. -/
theorem unnoted?_eq_none (before : Props) : before.unnoted? o field = none := by
  have hrecord : o.recordFound = .ok none := by
    rw [recordFound, h.unset, h.record]
    rfl
  have hrecorded : o.unrecorded? field = none := by
    unfold unrecorded?
    split
    · rfl
    · rw [hrecord]
      rfl
  rw [unnoted?, hrecorded, h.loose]
  rfl

/-- Only an assignment to their field replaces the additional properties. -/
theorem replacesAdditional_eq : o.replacesAdditional field = decide (field = additionalName) := by
  have hspecial : Attribute.Special.ofName? field ≠ some .contents := by
    intro hs
    have hfree := h.named field hf
    unfold Attribute.Special.ofName? at hs
    split at hs
    · cases hs
    · have hname := List.find?_some hs
      rw [decide_eq_true_eq] at hname
      rw [← hname] at hfree
      cases hfree
  have hoverflow : (o.overflow.mentions additionalName).getD false = false := by
    rw [h.overflow, PropsClass.firstOverflow]
    split <;> rfl
  simp [replacesAdditional, hspecial, hoverflow]

end

end Unadorned

end Props
end AuditConfig
