import AuditConfig.Props

/-!
# Views: what is shown of an object

An object is shown by its additional properties and, beside them, by everything
else that it holds but hidden and undeclared names.  A class can give the name
under which these are kept a meaning of its own; they are then held, and shown,
like loose attributes.  The loose attributes of an object of a class that hides
what its objects hold are not shown.

An object is not shown (`Unshown`) if it has no additional properties, or if it
holds something that is no value.  One that holds what is no map in place of all that
it holds is shown by the map that is made from that.
-/

namespace AuditConfig
namespace Props

/-- Why an object is not shown. -/
inductive Unshown where
  /-- A value of this kind is called in place of what finds attributes. -/
  | notCallable (kind : Kind)
  /-- The object has no additional properties. -/
  | noAdditional
  /-- What stands in place of all that the object holds makes no map. -/
  | contents (e : BindingError)
  /-- The object holds something that is no value and that this word is for. -/
  | noValue (word : String)
  deriving DecidableEq, Repr

namespace Unshown

/-- What is said of an object that is not shown. -/
def message : Unshown → String
  | .notCallable k => "'" ++ k.name ++ "' object is not callable"
  | .noAdditional => "'" ++ additionalName ++ "'"
  | .contents e => e.message
  | .noValue word => "unencodable " ++ word

end Unshown

/-- What is shown of an object. -/
structure View where
  fields : List (String × Value)
  additional : Value

/-- What an object holds like a loose attribute since its class replaces the name
under which it is kept. -/
def displaced (o : Props) : List (String × Value) :=
  [(Attribute.Special.hidden.name, some o.hidden),
    (Attribute.Special.overflow.name, some o.overflow),
    (Attribute.Special.record.name, o.record)].filterMap fun a =>
      if o.cls.replaces a.1 then a.2.map (a.1, ·) else none

/-- What is in sight and is no value; the additional properties count last. -/
def standingWord? (o : Props) : Option String :=
  let shown := if o.cls.hidesContents then o.standingFields else o.standing
  let record :=
    if o.cls.replaces Attribute.Special.record.name && !o.cls.hidesContents && o.record.isNone then
      some recordWord
    else none
  ((shown.toList.find? (·.1 ≠ additionalName)).map (·.2.word)).or <|
    record.or ((shown.get? additionalName).map (·.word))

/-- What is shown of an object that holds a value in place of all. -/
def viewOfContents (v : Value) : Except Unshown View :=
  match v.bindings with
  | .error e => .error (.contents e)
  | .ok e =>
    match e.get? (.text additionalName) with
    | none => .error .noAdditional
    | some additional =>
      .ok ⟨(e.erase (.text additionalName)).toList.map fun b => (b.1.written, b.2), additional⟩

/-- What is shown of an object that holds a map. -/
def viewOfMap (o : Props) : Except Unshown View :=
  match o.additional, o.standing.get? additionalName, o.standingWord? with
  | none, none, _ => .error .noAdditional
  | _, _, some word => .error (.noValue word)
  | additional, _, none =>
    .ok ⟨o.fields.toList ++ (if o.cls.hidesContents then [] else o.loose.toList ++ o.displaced),
      additional.getD .null⟩

/-- What is shown of an object. -/
def view (o : Props) : Except Unshown View :=
  match o.cls.ownValue? PropsClass.finderName, o.instead with
  | some v, _ => .error (.notCallable v.kind)
  | none, some v => viewOfContents v
  | none, none => o.viewOfMap

end Props
end AuditConfig
