import AuditConfig.PropsClass

/-!
# Properties objects

A properties object belongs to a class and holds a value for its named fields
and one more, normally a map, for what no spec recognizes.  A named field that
was never given a value is not bound, and all that an object holds can be
replaced by something without additional properties, or even by what is no map
(`instead`).

A field without a value can hold a fixture of the class instead, which was its
default (`standing`).

An object also holds values that are no fields.  The private attributes that its
class declares are hidden, and so is what overflows, the values of undeclared
names of an object of a class that keeps them, and what the slots of the class hold.
All others are loose.

Two objects are equal when they are of the same class and hold equal values in
the same fields, in the same hidden attributes and under the same undeclared
names; loose attributes and slots are not compared.
-/

namespace AuditConfig

/-- An object of a properties class. -/
structure Props where
  cls : PropsClass
  /-- The values of the named fields that have one. -/
  fields : Table Value
  additional : Option Value
  /-- The private attributes that the class declares, normally a map, or nothing
  if it declares none. -/
  hidden : Value
  /-- The values of undeclared names, normally a map, or nothing if the class
  keeps none. -/
  overflow : Value
  /-- The values of other attributes. -/
  loose : Table Value
  /-- What stands in place of the record of the fields that were given a value,
  if something does. -/
  record : Option Value
  /-- What is held that is no value, by the name under which it is held. -/
  standing : Table Fixture
  /-- What stands in place of all that is held in sight, if that is no map. -/
  instead : Option Value
  /-- What the slots of the class hold for the object. -/
  slots : Table Value
  /-- The attributes that every object has and this one was never given. -/
  unset : List Attribute.Special
  /-- The number of the object as a new one, which its copies share. -/
  making : Nat

namespace Props

/-- What an object holds under a name, hidden and undeclared names aside. -/
def held? (o : Props) (name : String) : Option Value :=
  if name = additionalName then o.additional
  else (o.fields.get? name).or (o.loose.get? name)

/-- The word for a record of the fields that were given a value. -/
def recordWord : String := "set"

/-- The fields that hold a fixture. -/
def standingFields (o : Props) : Table Fixture :=
  o.standing.filter fun name _ => (o.cls.fields.get? name).isSome

/-- Whether the fields of two objects hold the same fixtures. -/
def standsSame (a b : Props) : Bool :=
  b.standingFields.keys.all (a.standingFields.get? · |>.isSome) &&
    a.standingFields.toList.all fun f =>
      b.standingFields.get? f.1 = some f.2 && (!f.2.isOwn || a.making = b.making)

/-- Whether what overflows from two objects is equal; no undeclared names are the
same as nothing in their place. -/
def overflowsSame (a b : Props) : Bool :=
  (!a.overflow.isTrue && !b.overflow.isTrue) || a.overflow.meets b.overflow

/-- Whether two objects have equal additional properties, or have none both. -/
def additionalSame (a b : Props) : Bool :=
  match a.additional, b.additional with
  | some v, some w => v.equal w
  | none, none => true
  | _, _ => false

/-- Whether two objects hold equal values in their fields. -/
def fieldsSame (a b : Props) : Bool :=
  match a.instead, b.instead with
  | none, none =>
    (Value.ofTable a.fields).equal (Value.ofTable b.fields) && a.additionalSame b && a.standsSame b
  | some v, some w => v.meets w
  | _, _ => false

/-- Whether two objects hold equal values apart from their fields. -/
def apartSame (a b : Props) : Bool := a.hidden.meets b.hidden && a.overflowsSame b

/-- Whether two objects hold equal values, their classes and their loose
attributes aside. -/
def holdsSame (a b : Props) : Bool := a.apartSame b && a.fieldsSame b

end Props
end AuditConfig
