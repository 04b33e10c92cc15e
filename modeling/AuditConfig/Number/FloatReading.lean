import AuditConfig.Number.Binary64
import AuditConfig.Number.Decimal

/-!
# Float reading: the floating-point number that a text denotes

A text denotes a floating-point number when it is, behind an optional sign, a
word for an infinity or for no number, in any case, or digits with an optional
point among or around them and an optional exponent.  Digits denote the number
nearest to the decimal they spell.
-/

namespace AuditConfig
namespace Binary64

/-- The exponent that a text behind the digits denotes. -/
def exponentOf : List Char → Option Int
  | [] => some 0
  | mark :: rest =>
    let (negative, ds) := Decimal.unsigned rest
    if (mark = 'e' ∨ mark = 'E') ∧ Decimal.isDigits ds then
      some (if negative then -(Decimal.value ds : Int) else Decimal.value ds)
    else none

/-- The number that a text denotes; `occurrence` is for one that is not a
number. -/
def ofText? (occurrence : Nat) (cs : List Char) : Option Binary64 :=
  let (negative, body) := Decimal.unsigned cs
  let word := String.ofList (body.map Char.toLower)
  if word = "inf" ∨ word = "infinity" then some (.infinite negative)
  else if word = "nan" then some (.nan occurrence)
  else
    let (whole, rest) := body.span Char.isDigit
    let (fraction, rest) :=
      match rest with
      | '.' :: r => r.span Char.isDigit
      | r => ([], r)
    if whole.isEmpty ∧ fraction.isEmpty then none
    else
      (exponentOf rest).map fun e =>
        ofDecimal negative (Decimal.value (whole ++ fraction)) (e - fraction.length)

end Binary64
end AuditConfig
