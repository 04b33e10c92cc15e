import AuditConfig.Number.Binary64

/-!
# The order of floating-point numbers

The fields of a number, read as one whole number with its sign, order the numbers
(`Binary64.rank?`): the exponent counts first and the fraction behind it, and the
infinities lie beyond all finite numbers.  What is not a number has no place there.
-/

namespace AuditConfig
namespace Binary64

/-- A whole number with a sign. -/
def signed (negative : Bool) (n : Nat) : Int := if negative then -(n : Int) else n

/-- The place of a number in the order. -/
def rank? : Binary64 → Option Int
  | .finite s e f => some (signed s (e.val * twoTo 52 + f.val))
  | .infinite s => some (signed s (2047 * twoTo 52))
  | .nan _ => none

/-- Whether a number lies below another one. -/
def lessThan (x y : Binary64) : Bool :=
  match x.rank?, y.rank? with
  | some m, some n => m < n
  | _, _ => false

/-- Whether a number lies below another one or is the same. -/
def atMost (x y : Binary64) : Bool :=
  match x.rank?, y.rank? with
  | some m, some n => m ≤ n
  | _, _ => false

/-- Whether a number is a whole number of times another one. -/
def isMultipleOf : Binary64 → Binary64 → Bool
  | .finite _ e f, .finite _ e' f' =>
    let (m, n) := (mantissa e f, mantissa e' f')
    match scale e - scale e' with
    | .ofNat k => n ≠ 0 && (m * twoTo k) % n = 0
    | .negSucc k => n ≠ 0 && m % (n * twoTo (k + 1)) = 0
  | _, _ => false

end Binary64
end AuditConfig
