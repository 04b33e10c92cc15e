import AuditConfig.Value

/-!
# The size of a value

The size of a value is the number of values in it, itself among them
(`Value.size`).  What goes from a value to those that it holds ends before it has made
as many steps.
-/

namespace AuditConfig
namespace Value

mutual

/-- The number of values in a value. -/
def size : Value → Nat
  | .list vs => sizeOfItems vs + 1
  | .map es => sizeOfEntries es + 1
  | _ => 1

/-- The number of values in the items of a list. -/
def sizeOfItems : List Value → Nat
  | [] => 0
  | v :: vs => size v + sizeOfItems vs

/-- The number of values in the entries of a map. -/
def sizeOfEntries : List (Key × Value) → Nat
  | [] => 0
  | (_, v) :: es => size v + sizeOfEntries es

end

end Value
end AuditConfig
