import AuditConfig.PropsClass.Member
import AuditConfig.Value.Text

/-!
# Substitutes: what stands in place of what a reserved name means

A reserved name means something to every class.  A class has something else in place
of that if its definition gives the name a default, a value, or declares a slot of the
name.  A slot is a place for one value of every object, and there it stands for the
value that the object has in it; the class itself has the slot.
-/

namespace AuditConfig

/-- What stands in place of what a reserved name means. -/
inductive Substitute where
  | value (v : Value)
  /-- A slot, which its owner declares. -/
  | slot (owner : String)

namespace Substitute

/-- The value that it is. -/
def value? : Substitute → Option Value
  | .value v => some v
  | .slot _ => none

/-- The word for it. -/
def word : Substitute → String
  | .value v => v.kind.name
  | .slot _ => FieldDefault.slot.word

/-- Whether it counts as true; a slot does. -/
def isTrue : Substitute → Bool
  | .value v => v.isTrue
  | .slot _ => true

/-- Whether it is nothing. -/
def isNull : Substitute → Bool
  | .value v => v.isNull
  | .slot _ => false

/-- Whether it is a slot. -/
def isSlot : Substitute → Bool
  | .value _ => false
  | .slot _ => true

/-- How messages show it under a name. -/
def shown (name : String) : Substitute → Except DigitLimit (List Char)
  | .value v => v.plain
  | .slot owner => .ok (Member.slotText name owner).toList

end Substitute
end AuditConfig
