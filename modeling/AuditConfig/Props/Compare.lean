import AuditConfig.Props.Found

/-!
# Comparison

Two objects are compared as what they count as, and then by what they hold
(`Props.holdsSame`).  An object normally counts as one of its class; a loose
attribute of one name, `PropsClass.familyName`, can say that it counts as
something else, and makes the comparison fail if it holds something that says
nothing of the kind.  So can a class that gives the name of the class of an object
another meaning.

An object whose class has a value in place of the comparison is not compared, nor is one
of a class with a slot of its name that holds something; an object with an empty slot
there says nothing, and leaves it to the other one (`Props.opinion`).  Of two objects the
second is asked first if its class is defined from that of the first.

Objects that differ in what they hold in sight are looked through for their fields, to
see if they differ in these; that fails where one of them holds no map
(`contentsError`).
-/

namespace AuditConfig
namespace Props

/-- Why two objects are not compared. -/
inductive CompareError where
  /-- A value of this kind is called in place of the comparison, or of what finds
  attributes. -/
  | notCallable (kind : Kind)
  /-- What says what an object counts as has no entry that does, or what an object holds
  in place of a map has no entry of a field. -/
  | entry (e : EntryError)
  /-- What an object holds in place of a map is of this kind, and has no member of a
  name. -/
  | noMap (kind : Kind) (member : String)
  /-- What every object has is not found of one of the two. -/
  | lack (e : LackError)
  deriving DecidableEq, Repr

/-- The reserved name of what compares objects. -/
def comparerName : String := "__eq__"

/-- The entry of that attribute that says it. -/
def originName : String := "origin"

namespace CompareError

/-- What is said of objects that are not compared. -/
def message : CompareError → String
  | .notCallable k => "'" ++ k.name ++ "' object is not callable"
  | .entry e => e.message
  | .noMap k m => "'" ++ k.name ++ "' object has no attribute '" ++ m ++ "'"
  | .lack e => e.message

end CompareError

/-- What an object counts as: a value, or nothing if it is an object of its
class. -/
def family (o : Props) : Except CompareError (Option Value) :=
  let own := o.cls.ownValue? Attribute.Special.ownClass.name
  match o.loose.get? PropsClass.familyName with
  | none => .ok own
  | some v =>
    match v.entry originName with
    | .error e => .error (.entry e)
    | .ok w => .ok (if w.isTrue then some w else own)

/-- Whether the second of two objects is asked to compare them. -/
def asksSecond (a b : Props) : Bool := b.cls.id ≠ a.cls.id && b.cls.isA a.cls

/-- What is called in place of finding an attribute of two objects, of which the first is
asked to compare them. -/
def comparerFlaw? (a b : Props) : Option Kind :=
  ((b.cls.ownValue? PropsClass.finderName).or (a.cls.ownValue? PropsClass.finderName)).map (·.kind)

/-- Whether two objects count as objects of the same. -/
def countsSame (a b : Props) : Option Value → Option Value → Bool
  | none, none => a.cls.id = b.cls.id
  | some v, some w => v.meets w
  | _, _ => false

/-- Whether an object holds no more than fields. -/
def holdsFieldsAlone (o : Props) : Bool :=
  let loose := if o.cls.hidesContents then [] else o.loose.toList
  (o.fields.toList ++ loose).all fun f => (o.cls.fields.get? f.1).isSome

/-- Whether an object has something for every field. -/
def holdsAllFields (o : Props) : Bool :=
  o.cls.fields.keys.all fun name => (o.held? name).isSome || (o.standing.get? name).isSome

/-- Why two objects are not compared of which one holds no map and that differ in what
they hold; fields are those of the first. -/
def contentsError? (a b : Props) : Option CompareError :=
  match a.instead, b.instead with
  | some v, _ => some (.noMap v.kind "keys")
  | none, some w =>
    if a.holdsFieldsAlone then some (.noMap w.kind "keys")
    else if a.holdsAllFields then some (.entry (.notNamed w.kind))
    else some (.noMap w.kind "get")
  | none, none => none

/-- Compares what two objects hold that count as the same. -/
def compareHeld (a b : Props) : Except CompareError Bool :=
  if !a.hidden.meets b.hidden then .ok false
  else
    match a.overflowFound, b.overflowFound with
    | .error e, _ => .error (.lack e)
    | .ok _, .error e => .error (.lack e)
    | .ok _, .ok _ =>
      if a.holdsSame b then .ok true
      else if a.overflowsSame b then
        match contentsError? a b with
        | some e => .error e
        | none => .ok false
      else .ok false

/-- Compares two objects, of which the first is asked. -/
def compareFirst (a b : Props) : Except CompareError Bool :=
  match comparerFlaw? a b with
  | some k => .error (.notCallable k)
  | none => do
    let x ← a.family
    let y ← b.family
    if countsSame a b x y then compareHeld a b else return false

/-- What an object says of being equal to another one, nothing if it leaves that to the
other. -/
def opinion (a b : Props) : Except CompareError (Option Bool) :=
  match a.replacement? comparerName with
  | some (some v) => .error (.notCallable v.kind)
  | some none => .ok none
  | none => (compareFirst a b).map some

/-- Compares two objects; nothing is said if neither says anything. -/
def compare (a b : Props) : Except CompareError (Option Bool) :=
  let (x, y) := if asksSecond a b then (b, a) else (a, b)
  match x.opinion y with
  | .ok none => y.opinion x
  | said => said

end Props
end AuditConfig
