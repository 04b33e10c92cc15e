import AuditConfig.Number.Power

/-!
# Binary64: floating-point numbers of 64 bits, exactly

A finite number is its sign, its exponent field and its fraction field, so
every finite number has one representation and every representation is one
number.  It stands for `±mantissa · 2 ^ scale`, and all that is computed from
it here is computed in whole numbers.

A number that is not a number (`nan`) carries the occurrence that brought it
in: it equals itself and its copies, and nothing else (`equal`).  Everywhere
else two numbers are equal when they denote the same real number, so that the
two zeros are equal.
-/

namespace AuditConfig

/-- A floating-point number of 64 bits. -/
inductive Binary64 where
  /-- Sign, exponent field and fraction field of a finite number. -/
  | finite (negative : Bool) (exponent : Fin 2047) (fraction : Fin (twoTo 52))
  | infinite (negative : Bool)
  | nan (occurrence : Nat)
  deriving DecidableEq, Repr

namespace Binary64

/-- The whole number in front of the power of two: the fraction field, behind
a leading bit unless the exponent field is zero. -/
def mantissa (exponent : Fin 2047) (fraction : Fin (twoTo 52)) : Nat :=
  if exponent.val = 0 then fraction.val else twoTo 52 + fraction.val

/-- The power of two that the mantissa is multiplied by. -/
def scale (exponent : Fin 2047) : Int := (max exponent.val 1 : Nat) - 1075

/-- The whole number that a finite number is, if it is one. -/
def whole? : Binary64 → Option Int
  | .finite s e f =>
    let m := mantissa e f
    let magnitude : Option Nat :=
      match scale e with
      | .ofNat k => some (m * twoTo k)
      | .negSucc k => if m % twoTo (k + 1) = 0 then some (m / twoTo (k + 1)) else none
    magnitude.map fun n => if s then -(n : Int) else n
  | _ => none

/-- A finite number that is neither positive nor negative. -/
def isZero : Binary64 → Bool
  | .finite _ e f => e.val = 0 && f.val = 0
  | _ => false

/-- Whether two numbers are the same real number, the same infinity, or
copies of one occurrence. -/
def equal (x y : Binary64) : Bool := x = y || (x.isZero && y.isZero)

theorem equal_self (x : Binary64) : x.equal x = true := by simp [equal]

/-- The finite number with a given mantissa below two to the 53 and a power of
two in the range of the exponent field. -/
def ofParts (negative : Bool) (m : Nat) (q : Int) : Binary64 :=
  let fraction : Fin (twoTo 52) := ⟨m % twoTo 52, Nat.mod_lt _ (twoTo_pos 52)⟩
  if m < twoTo 52 then .finite negative 0 fraction
  else
    let e := (q + 1075).toNat
    if h : e < 2047 then .finite negative ⟨e, h⟩ fraction else .infinite negative

/-- The zero of a sign. -/
def zero (negative : Bool) : Binary64 := .finite negative 0 ⟨0, twoTo_pos 52⟩

/-- A quotient of whole numbers, rounded to the nearest whole number and a
half to the even one. -/
def roundQuotient (num den : Nat) : Nat :=
  let n := num / den
  let r := 2 * (num % den)
  if r < den then n else if den < r then n + 1 else n + n % 2

/-- How many binary digits a number has. -/
def bitLength (n : Nat) : Nat := if n = 0 then 0 else n.log2 + 1

/-- The number nearest to a positive quotient of whole numbers, a tie going to
the even mantissa; an infinity if the quotient lies beyond the largest finite
number. -/
def nearest (negative : Bool) (num den : Nat) : Binary64 :=
  let rounded (q : Int) : Nat :=
    match q with
    | .ofNat k => roundQuotient num (den * twoTo k)
    | .negSucc k => roundQuotient (num * twoTo (k + 1)) den
  let guess : Int := (bitLength num : Int) - bitLength den - 53
  let fits (q : Int) : Bool :=
    match q with
    | .ofNat k => num < den * twoTo k * twoTo 53
    | .negSucc k => num * twoTo (k + 1) < den * twoTo 53
  let q := max (if fits guess then guess else guess + 1) (-1074)
  let m := rounded q
  if m < twoTo 53 then ofParts negative m q else ofParts negative (twoTo 52) (q + 1)

/-- The power of ten from which on every number is beyond the largest finite
one, and the one up to which every number is nearer to zero than to any other. -/
def decimalRange : Int × Int := (309, -325)

/-- The number nearest to a decimal `digits · 10 ^ exponent`. -/
def ofDecimal (negative : Bool) (digits : Nat) (exponent : Int) : Binary64 :=
  let power := exponent + (Nat.toDigits 10 digits).length - 1
  if digits = 0 ∨ power ≤ decimalRange.2 then zero negative
  else if decimalRange.1 ≤ power then .infinite negative
  else
    match exponent with
    | .ofNat k => nearest negative (digits * tenTo k) 1
    | .negSucc k => nearest negative digits (tenTo (k + 1))

/-- The number nearest to a whole number, unless that is an infinity. -/
def ofInt? (n : Int) : Option Binary64 :=
  match ofDecimal (n < 0) n.natAbs 0 with
  | .finite s e f => some (.finite s e f)
  | _ => none

end Binary64

end AuditConfig
