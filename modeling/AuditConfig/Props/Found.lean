import AuditConfig.Props
import AuditConfig.Text.Clipped
import AuditConfig.Value.Lookup

/-!
# What is found of an object by name

A name is looked for in what the object holds, and if it is not there, in what is
there as a last resort: the hidden attributes, if the object says that the name is
one of them, and else the values of undeclared names (`Props.lastResort`).  What is
found is a value or a fixture (`Holding`), and normally neither can be called.

A class can have a slot of a name; what the slot holds is then found, and nothing else
that the object holds.

What says which attributes are hidden is normally kept by the class; an object can
have something of its own in its place, which then has to be searched.
-/

namespace AuditConfig

/-- What is found under a name. -/
inductive Holding where
  | value (v : Value)
  | fixture (f : Fixture)

/-- Why something that is found cannot be called. -/
inductive CallError where
  /-- What this word is for is no method. -/
  | notCallable (word : String)
  /-- A method of this name is called without an object. -/
  | unbound (method : String)
  deriving DecidableEq, Repr

namespace CallError

/-- What is said of a call that fails. -/
def message : CallError → String
  | .notCallable w => "'" ++ w ++ "' object is not callable"
  | .unbound m => m ++ "() missing 1 required positional argument: 'self'"

end CallError

namespace Holding

/-- The word for what is found. -/
def word : Holding → String
  | .value v => v.kind.name
  | .fixture f => f.word

/-- Why it cannot be called. -/
def callError (h : Holding) : CallError :=
  match h with
  | .fixture ⟨_, some m, _⟩ => .unbound m
  | h => .notCallable h.word

end Holding

namespace Props

/-- Why nothing is found under a name. -/
inductive LackError where
  | lacking (className name : String)
  /-- An object of the class has a slot of the name, which holds nothing. -/
  | emptySlot (className name : String)
  /-- A value of this kind is called in place of what finds attributes. -/
  | notCallable (kind : Kind)
  /-- A value of this kind is searched for the name. -/
  | notSearched (kind : Kind)
  /-- What should hold a value under the name holds none. -/
  | entry (e : EntryError)
  deriving DecidableEq, Repr

namespace LackError

/-- The bytes of the name of a class that are told of an object with an empty slot. -/
def nameRoom : Nat := 200

/-- What is said when nothing is found. -/
def message : LackError → String
  | .lacking c n =>
    String.ofList (Text.Quoted.encode c.toList) ++ " object has no attribute '" ++ n ++ "'"
  | .emptySlot c n =>
    "'" ++ String.ofList (Text.clipped nameRoom c.toList) ++ "' object has no attribute '" ++ n ++
      "'"
  | .notCallable k => "'" ++ k.name ++ "' object is not callable"
  | .notSearched k => "argument of type '" ++ k.name ++ "' is not iterable"
  | .entry e => e.message

end LackError

/-- The reserved name of what is asked for an attribute that an object lacks. -/
def lackedName : String := "__getattr__"

/-- The name of what says which attributes are hidden. -/
def privatesName : String := "__private_attributes__"

/-- What an object has in place of what a reserved name means, if something is there: the
value that its class has, or what a slot of the class holds, which may be empty. -/
def replacement? (o : Props) (name : String) : Option (Option Value) :=
  (o.cls.replaced.get? name).map fun s =>
    match s with
    | .value v => some v
    | .slot _ => o.slots.get? name

/-- What is found under a name of what an object holds. -/
def visible? (o : Props) (name : String) : Option Holding :=
  let standing := if o.cls.hidesContents then none else o.standing.get? name
  if o.cls.hasSlot name then (o.slots.get? name).map .value
  else
    ((if o.cls.hidesContents then o.loose.get? name else o.held? name).map .value).or
      (standing.map .fixture)

/-- That an object has nothing under a name. -/
def lacking (o : Props) (name : String) : LackError :=
  if o.cls.hasSlot name || o.unset.any (·.name = name) then .emptySlot o.cls.name name
  else .lacking o.cls.name name

/-- What is hidden under a name, if what says so has an entry of it. -/
def hiddenEntry (o : Props) (privates : Value) (name : String) : Except LackError Value :=
  match privates.entry name, o.hidden.entry name with
  | .error e, _ => .error (.entry e)
  | .ok _, .ok v => .ok v
  | .ok _, .error (.noEntry _) => .error (.lacking o.cls.name name)
  | .ok _, .error e => .error (.entry e)

/-- What an object has under an undeclared name. -/
def overflowEntry (o : Props) (name : String) : Except LackError Value :=
  if o.overflow.isTrue then
    match o.overflow.mentions name, o.overflow.entry name with
    | none, _ => .error (.notSearched o.overflow.kind)
    | some false, _ => .error (o.lacking name)
    | some true, .ok v => .ok v
    | some true, .error e => .error (.entry e)
  else .error (o.lacking name)

/-- What is found under a name that is not among what an object holds. -/
def lastResort (o : Props) (name : String) : Except LackError Value :=
  match o.replacement? lackedName, o.loose.get? privatesName with
  | some (some v), _ => .error (.notCallable v.kind)
  | some none, _ => .error (.emptySlot o.cls.name lackedName)
  | none, none => o.overflowEntry name
  | none, some privates =>
    match privates.mentions name with
    | none => .error (.notSearched privates.kind)
    | some true => o.hiddenEntry privates name
    | some false => o.overflowEntry name

/-- What is found of an object under a name. -/
def found (o : Props) (name : String) : Except LackError Holding :=
  match o.cls.ownValue? PropsClass.finderName, o.visible? name with
  | some v, _ => .error (.notCallable v.kind)
  | none, some h => .ok h
  | none, none => (o.lastResort name).map .value

/-- What stands in place of the record of the fields, if something does; an object that
was never given a record is asked for it. -/
def recordFound (o : Props) : Except LackError (Option Value) :=
  if .record ∈ o.unset then (o.lastResort Attribute.Special.record.name).map some else .ok o.record

/-- What overflows from an object; one that was never given that is asked for it. -/
def overflowFound (o : Props) : Except LackError Value :=
  if .overflow ∈ o.unset then o.lastResort Attribute.Special.overflow.name else .ok o.overflow

/-- **What an object holds is found,** if nothing is in the way of finding it. -/
theorem found_of_visible {o : Props} {name : String} {h : Holding}
    (hf : o.cls.ownValue? PropsClass.finderName = none) (hv : o.visible? name = some h) :
    o.found name = .ok h := by
  simp [found, hf, hv]

end Props
end AuditConfig
