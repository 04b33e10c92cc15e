import AuditConfig.Props.Found
import AuditConfig.Props.Making
import AuditConfig.Value.Bindings

/-!
# Copying an object

An object is copied as a class when it is of that class or of one defined from
it.  The copy has the object's own class and values, and a map of its own for
the additional properties, made anew from what the object holds
(`Value.bindings`).  What the slots of the class hold is not copied.

What the object or its class has under the names that the copying goes by stands
in the way, whatever it is, and so do hidden attributes that are no map and what
stands in place of the record of the fields.

The copying asks the object for its options, and where undeclared names are kept also for
its fields.  If the object has something of its own there that does not mention the
additional properties, the new map goes among the undeclared names of the copy, and the
copy shares the additional properties with the object (`Props.copiesAside`).
-/

namespace AuditConfig

/-- Why a copy is refused. -/
inductive CopyError where
  | otherClass (own target : String)
  /-- The additional properties are not found. -/
  | lack (e : Props.LackError)
  | additional (e : BindingError)
  /-- The additional properties are what this word is for, and cannot be gone through. -/
  | noValue (word : String)
  /-- What stands in the way is called. -/
  | call (e : CallError)
  /-- The hidden attributes are of this kind, and no map. -/
  | hidden (kind : Kind)
  /-- What stands in place of the options is of this kind, and no map. -/
  | options (kind : Kind)
  /-- What stands in place of the fields is of this kind and cannot be searched. -/
  | fields (kind : Kind)
  /-- What should hold the values of undeclared names is of this kind, and no map. -/
  | noItem (kind : Kind)
  /-- What stands in place of the record of the fields is of this kind. -/
  | record (kind : Kind)
  deriving DecidableEq, Repr

namespace CopyError

/-- What is said of a refused copy. -/
def message : CopyError → String
  | .otherClass own target => "Cannot copy " ++ own ++ " as " ++ target
  | .lack e => e.message
  | .additional e => e.message
  | .noValue w => "'" ++ w ++ "' object is not iterable"
  | .call e => e.message
  | .hidden k => "'" ++ k.name ++ "' object has no attribute 'items'"
  | .options k => "'" ++ k.name ++ "' object has no attribute 'get'"
  | .fields k => "argument of type '" ++ k.name ++ "' is not iterable"
  | .noItem k => k.noItemText
  | .record .map => (BindingError.notPair 0 additionalName.length).message
  | .record k => "'" ++ k.name ++ "' object has no attribute 'update'"

end CopyError

namespace Props

/-- The name that the copying as a class goes by. -/
def copyingName : String := "copy_of"

/-- The name that the copying of an object goes by. -/
def copierName : String := "model_copy"

/-- The reserved name that the copying of what it holds goes by. -/
def shallowCopierName : String := "__copy__"

/-- The name under which an object can have fields of its own. -/
def fieldsName : String := "__pydantic_fields__"

/-- What is found of an object for whose name its class has a slot. -/
def slotFound (o : Props) (name : String) : Except LackError Holding :=
  match o.slots.get? name with
  | some v => .ok (.value v)
  | none => (o.lastResort name).map .value

/-- Why nothing is found that copies an object: the class has a slot in place of it. -/
def copierLack? (o : Props) : Option LackError :=
  match o.cls.hasSlot copierName, o.slotFound copierName with
  | true, .error e => some e
  | _, _ => none

/-- What is called in place of what copies an object. -/
def ownCopier? (o : Props) : Option CopyError :=
  let found := if o.cls.hasSlot copierName then (o.slotFound copierName).toOption
    else o.visible? copierName
  found.map fun h => .call h.callError

/-- What stands in the way of copying what an object holds. -/
def shallowCopier? (o : Props) : Option CopyError :=
  if o.cls.hasSlot shallowCopierName then
    match o.slotFound shallowCopierName with
    | .ok h => some (.call h.callError)
    | .error e => some (.lack e)
  else
    (((o.loose.get? shallowCopierName).map (·.kind.name)).or
      (o.cls.uncallable? shallowCopierName)).map fun w => .call (.notCallable w)

/-- What stands in the way of copying an object, as it is called. -/
def copyShadow? (o : Props) : Option CopyError :=
  o.ownCopier?.or <| o.shallowCopier?.or <|
    (o.cls.uncallable? PropsClass.creatorName).map fun w => .call (.notCallable w)

/-- Whether an object says that undeclared names are kept. -/
def saysKept (o : Props) : Bool :=
  match o.loose.get? Attribute.optionsName with
  | none => o.cls.options.undeclared = .kept
  | some v => (Options.update ⟨.empty⟩ (v.entries?.getD .empty)).undeclared = .kept

/-- Whether the additional properties that an object is copied with go among its
undeclared names. -/
def copiesAside (o : Props) : Bool :=
  o.saysKept && (o.loose.get? fieldsName).any fun v => v.mentions additionalName = some false

/-- The values of undeclared names in a copy with additional properties among them. -/
def overflowWith? (o : Props) (v : Value) : Option Value :=
  (if o.overflow.isNull then .map [] else o.overflow).putEntry additionalName v

/-- What is wrong with the options or the fields that an object has of its own. -/
def ownOptionsFlaw? (o : Props) : Option CopyError :=
  let options := (o.loose.get? Attribute.optionsName).bind fun v =>
    if v.kind = .map then none else some (.options v.kind)
  let fields := (o.loose.get? fieldsName).bind fun v =>
    if o.saysKept && (v.mentions additionalName).isNone then some (.fields v.kind) else none
  let aside : Option CopyError :=
    if o.copiesAside && (o.overflowWith? .null).isNone then some (.noItem o.overflow.kind) else none
  options.or (fields.or aside)

/-- Why what every object has is not found of an object. -/
def specialLack? (o : Props) : Option CopyError :=
  match o.overflowFound, o.recordFound with
  | .error e, _ => some (.lack e)
  | .ok _, .error e => some (.lack e)
  | .ok _, .ok _ => none

/-- What stands in place of the record of the fields. -/
def recordFlaw? (o : Props) : Option CopyError :=
  o.recordFound.toOption.join.map fun v => .record v.kind

/-- What stands in the way of copying an object. -/
def copyFlaw? (o : Props) : Option CopyError :=
  let hidden : Option CopyError :=
    if o.hidden.kind = .null || o.hidden.kind = .map then none else some (.hidden o.hidden.kind)
  o.copyShadow?.or <| o.specialLack?.or <| hidden.or <| o.ownOptionsFlaw?.or o.recordFlaw?

/-- What stands in the way of copying as a class before it is known whether an object is
of that class. -/
def kinshipFlaw? (target : PropsClass) (o : Props) : Option CopyError :=
  if target.hasSlot copyingName then some (.call (Holding.fixture FieldDefault.slot).callError)
  else (o.cls.ownValue? PropsClass.finderName).map fun v => .call (.notCallable v.kind.name)

/-- The additional properties of a copy. -/
def copiedAdditional (o : Props) : Except CopyError Value :=
  match o.copierLack?, o.found additionalName with
  | some e, _ => .error (.lack e)
  | none, .error e => .error (.lack e)
  | none, .ok (.fixture f) => .error (.noValue f.word)
  | none, .ok (.value v) =>
    match v.bindings, o.copyFlaw? with
    | .error e, _ => .error (.additional e)
    | .ok _, some e => .error e
    | .ok e, none => .ok (Value.ofEntries e)

/-- The copy of an object with additional properties. -/
def copied (o : Props) (v : Value) : Props :=
  let bare := { o with slots := .empty }
  if o.copiesAside then { bare with overflow := (o.overflowWith? v).getD o.overflow }
  else { bare with additional := some v }

/-- A copy of an object as a class. -/
def copyAs (target : PropsClass) (o : Props) : Except CopyError Props :=
  match o.kinshipFlaw? target with
  | some e => .error e
  | none =>
    if o.cls.isA target then o.copiedAdditional.map o.copied
    else .error (.otherClass o.cls.name target.name)

/-- What is called in place of the copying is not the class. -/
theorem copyShadow?_ne_otherClass (o : Props) (own name : String) :
    o.copyShadow? ≠ some (.otherClass own name) := by
  unfold copyShadow? ownCopier? shallowCopier?
  simp only [ne_eq, Option.or_eq_some_iff, Option.map_eq_some_iff, not_or, not_and]
  refine ⟨by simp, fun _ => ⟨?_, by simp⟩⟩
  split
  · split <;> simp
  · simp

/-- What is wrong with the options or the fields of an object is not the class. -/
theorem ownOptionsFlaw?_ne_otherClass (o : Props) (own name : String) :
    o.ownOptionsFlaw? ≠ some (.otherClass own name) := by
  unfold ownOptionsFlaw?
  simp only [ne_eq, Option.or_eq_some_iff, Option.bind_eq_some_iff, not_or, not_and, not_exists]
  refine ⟨fun v _ => ?_, fun _ => ⟨fun v _ => ?_, fun _ => ?_⟩⟩ <;> split <;> simp

/-- What stands in the way of a copy is not the class. -/
theorem copyFlaw?_ne_otherClass (o : Props) (own name : String) :
    o.copyFlaw? ≠ some (.otherClass own name) := by
  unfold copyFlaw? specialLack? recordFlaw?
  simp only [ne_eq, Option.or_eq_some_iff, not_or, not_and]
  refine ⟨copyShadow?_ne_otherClass o own name, fun _ => ⟨?_, fun _ => ⟨?_, fun _ =>
    ⟨ownOptionsFlaw?_ne_otherClass o own name, by simp⟩⟩⟩⟩
  · split <;> simp
  · split <;> simp

/-- The additional properties are not refused for the class. -/
theorem copiedAdditional_ne_otherClass (o : Props) (own name : String) :
    o.copiedAdditional ≠ .error (.otherClass own name) := by
  unfold copiedAdditional
  split
  · simp
  · simp
  · simp
  · split
    · simp
    · next e hf =>
      simp only [ne_eq, Except.error.injEq]
      rintro rfl
      exact copyFlaw?_ne_otherClass o own name hf
    · simp

/-- **A copy is refused for the class exactly when the object is not of it,** if it can
be asked whether it is. -/
theorem copyAs_eq_otherClass_iff (target : PropsClass) (o : Props) (own name : String) :
    copyAs target o = .error (.otherClass own name) ↔ o.kinshipFlaw? target = none ∧
      o.cls.isA target = false ∧ own = o.cls.name ∧ name = target.name := by
  unfold copyAs
  cases hk : o.kinshipFlaw? target with
  | some e =>
    have : e ≠ .otherClass own name := by
      rintro rfl
      unfold kinshipFlaw? at hk
      split at hk <;> simp at hk
    simpa using this
  | none =>
    cases o.cls.isA target with
    | false => simp [eq_comm]
    | true =>
      cases hc : o.copiedAdditional with
      | ok v => simp [Except.map]
      | error e =>
        have : e ≠ .otherClass own name :=
          fun h => copiedAdditional_ne_otherClass o own name (h ▸ hc)
        simpa [Except.map] using this

/-- An object is copied if it can be asked whether it is of the class, is of it, and its
additional properties can be copied. -/
theorem copyAs_eq_ok_iff (target : PropsClass) (o p : Props) : copyAs target o = .ok p ↔
    o.kinshipFlaw? target = none ∧ o.cls.isA target = true ∧
      ∃ v, o.copiedAdditional = .ok v ∧ o.copied v = p := by
  unfold copyAs
  cases o.kinshipFlaw? target with
  | some e => simp
  | none =>
    cases o.cls.isA target with
    | false => simp
    | true => cases o.copiedAdditional <;> simp [Except.map]

end Props
end AuditConfig
