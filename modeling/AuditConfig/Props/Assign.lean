import AuditConfig.Props.Found
import AuditConfig.Schema.Assigning
import AuditConfig.Validation.Field

/-!
# Assignment

What an assignment does depends on the name first.  The specs belong to the class
and are never assigned.  An attribute of a free name takes any value, unless it
is one that every object has and that does not (`Attribute.Special`).  Then come
the options of the class: a frozen object takes nothing else, and where assigned
values are validated a field takes what the validation makes of the value.
Otherwise a field takes any value, and an undeclared name is refused or kept.

A field that is given a value is recorded, and so is an undeclared name that is kept.  If
something stands in place of the record (`unnoted?`), the field has its value all the
same, unless assigned values are validated.

An object can have something of its own in place of what says how each name is
assigned (`handlersName`).  An assignment that succeeds leaves its way of assigning
there, which is no value, or else with the class (`isRemembered`); if what is there is no
map, the attribute has its value all the same (`unnoted?`).  A name whose way
is not known there is asked for, and an object can have something of its own in place
of that too (`handlerMakerName`).
-/

namespace AuditConfig
namespace Props

/-- Why an assignment is refused. -/
inductive AssignError where
  /-- The attribute belongs to the class. -/
  | ofClass (className : String) (field : String)
  | undeclared (className : String) (field : String)
  /-- The attribute, which every object has, does not take the value. -/
  | special (e : Attribute.Refused)
  /-- The object is frozen, or the value is not valid. -/
  | refused (r : Refusal)
  /-- What should hold the value is of this kind, and no map. -/
  | noItem (kind : Kind)
  /-- What this word is for is called in place of the assignment. -/
  | notCallable (word : String)
  /-- A value of this kind is asked for something that it lacks. -/
  | noMember (kind : Kind) (member : String)
  /-- What this word is for stands where something else is asked for. -/
  | otherKind (word wanted : String)
  /-- The class has no validator. -/
  | validator (e : ValidatorError)
  /-- What is asked for is not found of the object. -/
  | lack (e : LackError)
  /-- What validates is of another sort, which this word is for, and validates no
  assignment. -/
  | unsupported (sort : String)
  deriving Repr

namespace AssignError

/-- What is said of a refused assignment. -/
def message : AssignError → String
  | .ofClass c f =>
    "'" ++ f ++ "' is a ClassVar of \x60" ++ c ++ "\x60 and cannot be set on an instance. " ++
      "If you want to set a value on the class, use \x60" ++ c ++ "." ++ f ++ " = value\x60."
  | .undeclared c f => "\"" ++ c ++ "\" object has no field \"" ++ f ++ "\""
  | .special e => e.message
  | .refused r => r.message
  | .noItem k => k.noItemText
  | .notCallable w => "'" ++ w ++ "' object is not callable"
  | .noMember k m => "'" ++ k.name ++ "' object has no attribute '" ++ m ++ "'"
  | .otherKind k w => "'" ++ k ++ "' object is not an instance of '" ++ w ++ "'"
  | .validator e => e.message
  | .lack e => e.message
  | .unsupported s => "validate_assignment is not supported for " ++ s

/-- Why the class has no validator, if that is why. -/
def validator? : AssignError → Option ValidatorError
  | .validator e => some e
  | _ => none

end AssignError

/-- The reserved name of what assigns an attribute. -/
def assignerName : String := "__setattr__"

/-- The name of what says how each name is assigned. -/
def handlersName : String := "__pydantic_setattr_handlers__"

/-- The name of what finds out how a name is assigned. -/
def handlerMakerName : String := "_setattr_handler"

/-- The name of what validates the objects of a class. -/
def validatorName : String := "__pydantic_validator__"

/-- A way of assigning a name. -/
def handler : Fixture := .plain "function"

/-- A map with one more binding. -/
def withItem (holder : Value) (name : String) (v : Value) : Except AssignError Value :=
  match holder.putEntry name v with
  | some w => .ok w
  | none => .error (.noItem holder.kind)

/-- Gives a field a value. -/
def setField (o : Props) (field : String) (v : Value) : Props :=
  let bare := { o with standing := o.standing.erase field }
  if field = additionalName then { bare with additional := some v }
  else { bare with fields := o.fields.insert field v }

/-- Gives a loose attribute a value. -/
def setLoose (o : Props) (name : String) (v : Value) : Props :=
  { o with loose := o.loose.insert name v, standing := o.standing.erase name }

/-- Puts a value among what an object holds, as a field or as a loose attribute. -/
def setContent (o : Props) (name : String) (v : Value) : Props :=
  if (o.cls.fields.get? name).isSome || o.cls.hidesContents then o.setField name v
  else o.setLoose name v

/-- The entries of a map whose keys are names. -/
def namedEntries (e : Entries Key Value) : List (String × Value) :=
  e.toList.filterMap fun b =>
    match b.1 with
    | .text name => some (name, b.2)
    | _ => none

/-- Replaces all that an object holds but hidden and undeclared names. -/
def withContents (o : Props) (e : Entries Key Value) : Props :=
  let bare :=
    if o.cls.hidesContents then
      { o with
        fields := .empty
        additional := none
        standing := o.standing.filter fun name _ => (o.cls.fields.get? name).isNone }
    else { o with fields := .empty, additional := none, loose := .empty, standing := .empty }
  (namedEntries e).foldl (fun o b => o.setContent b.1 b.2) { bare with instead := none }

/-- Puts a value in place of all that an object holds.  Only where the class hides that
can it be no map. -/
def setContents (o : Props) (v : Value) : Props :=
  let held := o.withContents (v.entries?.getD .empty)
  if v.entries?.isSome then held else { held with instead := some v }

/-- Gives an attribute that every object has a value. -/
def setSpecial (o : Props) (s : Attribute.Special) (name : String) (v : Value) :
    Except AssignError Props :=
  let refusal :=
    if s = .contents && o.cls.hidesContents then none
    else s.refusal? name Member.baseName o.cls.qualified v
  let given := { o with unset := o.unset.erase s }
  match refusal, s with
  | some e, _ => .error (.special e)
  | none, .contents => .ok (o.setContents v)
  | none, .overflow => .ok { given with overflow := v }
  | none, .hidden => .ok { given with hidden := v }
  | none, .record => .ok { given with record := some v }
  | none, _ => .ok (o.setLoose name v)

/-- The attribute of a name that every object has, if the class leaves it to its
objects. -/
def special? (o : Props) (name : String) : Option Attribute.Special :=
  (Attribute.Special.ofName? name).filter fun s =>
    !s.isHideable || !(o.cls.replaces name || o.cls.hasSlot name)

/-- Gives a slot of the class a value, which it holds out of sight. -/
def setSlot (o : Props) (name : String) (v : Value) : Props :=
  { o with slots := o.slots.insert name v }

/-- Gives an attribute of a free name a value. -/
def setFree (o : Props) (name : String) (v : Value) : Except AssignError Props :=
  if (o.cls.privates.get? name).isSome then
    (withItem (if o.hidden.isNull then .map [] else o.hidden) name v).map
      fun h => { o with hidden := h }
  else
    match o.special? name with
    | some s => o.setSpecial s name v
    | none => .ok (if o.cls.hasSlot name then o.setSlot name v else o.setLoose name v)

/-- Gives an undeclared name a value: a member of the class is hidden by it, and a
slot of the class holds it. -/
def setUndeclared (o : Props) (name : String) (v : Value) : Except AssignError Props :=
  if o.cls.options.undeclared ≠ .kept then .error (.undeclared o.cls.name name)
  else if o.cls.hasSlot name then .ok (o.setSlot name v)
  else if (o.cls.members.lookup name).isSome then .ok (o.setLoose name v)
  else
    match o.overflowFound with
    | .error e => .error (.lack e)
    | .ok _ => (withItem o.overflow name v).map fun held => { o with overflow := held }

/-- What an object holds after a validation put it together anew: undeclared names
are among what it holds, or, where they are kept, hold all that is no field.  What is no
map in their place is left out. -/
def regathered (o : Props) : Props :=
  let together := (namedEntries (o.overflow.entries?.getD .empty)).foldl
    (fun o b => o.setContent b.1 b.2) o
  let declared (name : String) : Bool := (o.cls.fields.get? name).isSome
  if o.cls.options.undeclared ≠ .kept then { together with overflow := .null }
  else if o.cls.hidesContents then
    { together with
      overflow := Value.ofTable (together.fields.filter fun name _ => !declared name)
      fields := together.fields.filter fun name _ => declared name }
  else
    { together with
      overflow := Value.ofTable together.loose
      loose := .empty
      standing := together.standingFields }

/-- What validation makes of a value for a name; `occurrence` is for a text that
denotes no number. -/
def validated (o : Props) (occurrence : Nat) (name : String) (v : Value) :
    Except AssignError Value :=
  match o.cls.fields.get? name with
  | some d =>
    match Validation.field o.cls.options.rules occurrence [name] d.annotation v with
    | .ok w => .ok w
    | .error issues => .error (.refused ⟨o.cls.title, issues⟩)
  | none =>
    if o.cls.options.undeclared = .kept then .ok v
    else .error (.refused ⟨o.cls.title, [⟨[name], .noField name⟩]⟩)

/-- What stands in the way of validating an assigned value. -/
def validationFlaw? (o : Props) : Option AssignError :=
  match o.loose.get? validatorName, o.cls.unready, o.cls.standIn with
  | some v, _, _ => some (.noMember v.kind "validate_assignment")
  | none, some e, _ => some (.validator e)
  | none, none, some p =>
    match p.assigningFlaw with
    | .unsupported n => some (.unsupported n)
    | .called w => some (.notCallable w)
    | .noMap => some (.otherKind o.cls.qualified Kind.map.name)
  | none, none, none => o.instead.map fun v => .otherKind v.kind.name Kind.map.name

/-- Gives a name what validation makes of a value; `occurrence` is for a text that
denotes no number. -/
def setValidated (o : Props) (occurrence : Nat) (name : String) (v : Value) :
    Except AssignError Props :=
  match o.validationFlaw? with
  | some e => .error e
  | none =>
    match o.validated occurrence name v, o.record with
    | .error e, _ => .error e
    | .ok _, some r => .error (.otherKind r.kind.name recordWord)
    | .ok w, none =>
      if (o.cls.fields.get? name).isSome then .ok (o.regathered.setField name w)
      else
        let together := o.regathered
        (withItem together.overflow name w).map fun held => { together with overflow := held }

/-- Whether the way of assigning a name is known of an object. -/
def isKnown (o : Props) (name : String) : Bool :=
  (o.loose.get? handlersName).isNone && name ∈ o.cls.handled

/-- What stands in the way of asking an object for the way of assigning a name. -/
def handlerFlaw? (o : Props) : Option AssignError :=
  let held := (o.loose.get? handlerMakerName).map fun v => AssignError.notCallable v.kind.name
  let own := (o.cls.ownValue? Attribute.Special.ownClass.name).map fun v =>
    AssignError.noMember v.kind "__class_vars__"
  if o.cls.hasSlot handlerMakerName then
    match o.slots.get? handlerMakerName, o.lastResort handlerMakerName with
    | some v, _ => some (.notCallable v.kind.name)
    | none, .ok v => some (.notCallable v.kind.name)
    | none, .error e => some (.lack e)
  else held.or own

/-- What is called in place of the assignment of an attribute. -/
def assignerFlaw? (o : Props) : Option AssignError :=
  let own : Option AssignError :=
    (o.cls.replaced.get? assignerName).map fun s =>
      match s with
      | .value v => .notCallable v.kind.name
      | .slot _ => .lack (.emptySlot o.cls.name assignerName)
  own.or ((o.cls.ownValue? PropsClass.finderName).map fun v => .notCallable v.kind.name)

/-- What stands in the way of every assignment to a name. -/
def assignFlaw? (o : Props) (name : String) : Option AssignError :=
  let handlers : Option AssignError :=
    (o.loose.get? handlersName).bind fun h =>
      match h.entries? with
      | none => some (.noMember h.kind "get")
      | some e =>
        (e.get? (.text name)).bind
          fun v => if v.isNull then none else some (.notCallable v.kind.name)
  o.assignerFlaw?.or (handlers.or (if o.isKnown name then none else o.handlerFlaw?))

/-- Gives an attribute a value of any kind, as its name and the class say;
`occurrence` is for a text that denotes no number. -/
def assignByName (o : Props) (occurrence : Nat) (name : String) (v : Value) :
    Except AssignError Props :=
  if name = Attribute.specsName then .error (.ofClass o.cls.name name)
  else if Attribute.isFree name then o.setFree name v
  else if o.cls.options.frozen then .error (.refused (.single o.cls.name [name] .frozen))
  else if name ∈ Attribute.computedNames && !o.cls.hasSlot name then
    .error (.special (.computed name o.cls.qualified))
  else if o.cls.options.validatesAssigned then o.setValidated occurrence name v
  else if (o.cls.fields.get? name).isNone then o.setUndeclared name v
  else
    match o.instead with
    | some w => .error (.noItem w.kind)
    | none => .ok (o.setField name v)

/-- Whether an assignment to a name that is not refused leaves its way of assigning
behind. -/
def isRemembered (o : Props) (name : String) : Bool :=
  if o.isKnown name then false
  else if Attribute.isFree name then (o.cls.privates.get? name).isSome
  else if o.cls.options.validatesAssigned then true
  else if (o.cls.fields.get? name).isSome then o.record.isNone && .record ∉ o.unset
  else (o.cls.members.lookup name).isSome

/-- Gives an attribute a value of any kind; `occurrence` is for a text that denotes
no number. -/
def assign (o : Props) (occurrence : Nat) (name : String) (v : Value) : Except AssignError Props :=
  match o.assignFlaw? name with
  | some e => .error e
  | none =>
    (o.assignByName occurrence name v).map fun p =>
      if o.isRemembered name && (p.loose.get? handlersName).any (·.kind = .map) then
        { p with standing := p.standing.insert handlersName handler }
      else p

/-- Why what is to be noted of an assignment that is not refused is not. -/
inductive Unnoted where
  /-- A value of this kind stands in place of the record. -/
  | noRecord (kind : Kind)
  /-- No record is found. -/
  | lack (e : LackError)
  /-- What should hold the ways of assigning is of this kind, and no map. -/
  | noHandlers (kind : Kind)
  deriving DecidableEq, Repr

/-- What is said of an assignment that is not noted. -/
def Unnoted.message : Unnoted → String
  | .noRecord k => "'" ++ k.name ++ "' object has no attribute 'add'"
  | .lack e => e.message
  | .noHandlers k => k.noItemText

/-- Whether an assignment to a name that is not refused is recorded. -/
def isRecorded (o : Props) (name : String) : Bool :=
  !Attribute.isFree name && !o.cls.options.validatesAssigned &&
    ((o.cls.fields.get? name).isSome || (o.cls.members.lookup name).isNone)

/-- Why an assignment to a name that is not refused is not recorded, of what the object
is after it. -/
def unrecorded? (p : Props) (name : String) : Option Unnoted :=
  if !p.isRecorded name then none
  else
    match p.recordFound with
    | .error e => some (.lack e)
    | .ok r => r.map fun v => .noRecord v.kind

/-- Why what is to be noted of an assignment that made one object of another is not. -/
def unnoted? (o p : Props) (name : String) : Option Unnoted :=
  let handlers : Option Unnoted :=
    (p.loose.get? handlersName).bind fun h =>
      if o.isRemembered name && h.kind ≠ .map then some (.noHandlers h.kind) else none
  (p.unrecorded? name).or handlers

/-- Whether an assignment to a name can replace the additional properties. -/
def replacesAdditional (o : Props) (name : String) : Bool :=
  name = additionalName || Attribute.Special.ofName? name = some .contents ||
    (o.cls.options.validatesAssigned && (o.overflow.mentions additionalName).getD false)

end Props
end AuditConfig
