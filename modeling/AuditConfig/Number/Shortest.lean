import AuditConfig.Number.Power

/-!
# Shortest: the fewest decimal digits that read back

A positive number `m · 2 ^ q` is the nearest floating-point number to every
real number between its two midpoints, the ends included exactly when `m` is
even.  For one, two, … seventeen digits in turn the number is put between its
two neighbours on the grid of decimals with that many digits; the first grid
with a neighbour inside the interval gives the digits, and of two neighbours
inside, the nearer one, a tie going to the even one.

All comparisons are of whole numbers.
-/

namespace AuditConfig
namespace Shortest

/-- The interval of the real numbers nearest to `m · 2 ^ q`: every number is
in quarters of `2 ^ q`, over a common denominator. -/
structure Interval where
  low : Nat
  mid : Nat
  high : Nat
  den : Nat
  closed : Bool

/-- The interval of `m · 2 ^ q`.  Below a power of two the neighbours are twice
as close, unless the power is the least one (`narrow` is false there). -/
def interval (m : Nat) (q : Int) (narrow : Bool) : Interval :=
  let up := twoTo (q - 2).toNat
  { low := (if narrow then 4 * m - 1 else 4 * m - 2) * up
    mid := 4 * m * up
    high := (4 * m + 2) * up
    den := twoTo (2 - q).toNat
    closed := m % 2 = 0 }

/-- Whether `c · 10 ^ k` lies in the interval. -/
def Interval.contains (i : Interval) (c : Nat) (k : Int) : Bool :=
  let x := c * tenTo k.toNat * i.den
  let u := tenTo (-k).toNat
  if i.closed then i.low * u ≤ x && x ≤ i.high * u else i.low * u < x && x < i.high * u

/-- The power of ten of the leading digit of a positive quotient. -/
def leadingPower (num den : Nat) : Int :=
  if den ≤ num then (Nat.toDigits 10 (num / den)).length - 1
  else -((Nat.toDigits 10 ((den - 1) / num)).length : Int)

/-- The neighbour of the number on the grid of multiples of `10 ^ k` that lies
in its interval, the nearer one if both do. -/
def neighbour? (i : Interval) (k : Int) : Option Nat :=
  let num := i.mid * tenTo (-k).toNat
  let den := i.den * tenTo k.toNat
  let c := num / den
  let rest := 2 * (num % den)
  match i.contains c k, i.contains (c + 1) k with
  | false, false => none
  | true, false => some c
  | false, true => some (c + 1)
  | true, true => some (if rest < den then c else if den < rest then c + 1 else c + c % 2)

/-- Moves the zeros at the end of a number into the power of ten, at most
`fuel` of them. -/
def dropZeros : Nat → Nat → Int → Nat × Int
  | 0, c, k => (c, k)
  | fuel + 1, c, k => if c % 10 = 0 then dropZeros fuel (c / 10) (k + 1) else (c, k)

/-- The digits `c` and the power of ten `k` with which `c · 10 ^ k` is the
shortest decimal that reads back as `m · 2 ^ q`. -/
def decimal (m : Nat) (q : Int) (narrow : Bool) : Nat × Int :=
  let i := interval m q narrow
  let p := leadingPower i.mid i.den
  let grid (n : Nat) : Option (Nat × Int) :=
    let k := p - n
    (neighbour? i k).map fun c => (c, k)
  let (c, k) := ((List.range 17).findSome? grid).getD (0, 0)
  dropZeros 17 c k

end Shortest
end AuditConfig
