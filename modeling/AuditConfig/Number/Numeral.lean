import AuditConfig.Number.FloatReading
import AuditConfig.Text.Blank
import AuditConfig.Text.Digit

/-!
# Numerals: numbers as texts in the digits of any script

A numeral may stand between blanks, may have underscores between its digits, and
may be written in the digits of any script.  Its plain form has none of these:
it is what remains of the text, in ASCII digits.
-/

namespace AuditConfig
namespace Numeral

/-- The ASCII digit of the same value as a digit, and any other character
itself. -/
def asciiDigit (c : Char) : Char :=
  match Text.digit? c with
  | some n => Nat.digitChar n
  | none => c

/-- The plain form of a numeral. -/
def plain (cs : List Char) : List Char :=
  ((Text.strip Text.isBlank cs).filter (· ≠ '_')).map asciiDigit

/-- The whole number that a numeral denotes. -/
def whole (cs : List Char) : Int :=
  let (negative, digits) := Decimal.unsigned (plain cs)
  if negative then -(Decimal.value digits : Int) else Decimal.value digits

/-- The floating-point number that a numeral denotes; `occurrence` is for one
that is not a number. -/
def float? (occurrence : Nat) (cs : List Char) : Option Binary64 :=
  Binary64.ofText? occurrence (plain cs)

end Numeral
end AuditConfig
