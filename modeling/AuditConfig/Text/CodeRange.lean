/-!
# Code ranges: sets of characters as lists of ranges of code points
-/

namespace AuditConfig
namespace Text

/-- The code points from `first` to `last`. -/
structure CodeRange where
  first : Nat
  last : Nat

namespace CodeRange

/-- Whether a character is one of the range. -/
def contains (r : CodeRange) (c : Char) : Bool := r.first ≤ c.toNat && c.toNat ≤ r.last

/-- The ranges with given bounds. -/
def ofPairs (pairs : List (Nat × Nat)) : List CodeRange := pairs.map fun (a, b) => ⟨a, b⟩

end CodeRange

/-- Whether a character lies in one of the ranges. -/
def inRanges (rs : List CodeRange) (c : Char) : Bool := rs.any (·.contains c)

end Text
end AuditConfig
