import AuditConfig.Number.Decimal
import AuditConfig.Text.Blank
import AuditConfig.Text.CommaSeparated
import AuditConfig.Validation.Issue

/-!
# Whole numbers from text

A text that is a number in its tidy form is read at once: digits without a
leading zero, or one zero, behind a minus or not.  If it starts with more digits
than numbers are read with, it is refused as too long, whatever stands behind
them.  Any other text is tidied before the number that it denotes is read:

1. the white space around it is dropped, and a sign in front is set apart;
2. the zeros in front are dropped, with any underscores among them
   (`withoutZeros`);
3. a point with only zeros behind it is dropped (`withoutFraction`);
4. if what is left denotes no number, underscores are dropped that each stand
   alone between other characters (`ungrouped?`).

What is then left has to be in the tidy form.  It may have a minus of its own,
which stood behind the zeros, unless there was a minus in front already.  A text
that had to be tidied and has too many digits is refused as any other text that
denotes no number.
-/

namespace AuditConfig
namespace Validation

/-- A text without underscores that each stand alone between other
characters. -/
def ungrouped? (cs : List Char) : Option (List Char) :=
  let groups := Text.pieces '_' cs
  if groups.all (!·.isEmpty) then some groups.flatten else none

/-- What is left behind zeros and underscores, of which `last` is the one before
the text: what starts with another digit or a minus, or `last` itself with a
point behind it or with nothing. -/
def withoutZerosAfter (last : Char) : List Char → Option (List Char)
  | [] => some [last]
  | c :: rest =>
    if c = '0' ∨ c = '_' then withoutZerosAfter c rest
    else if c.isDigit ∨ c = '-' then some (c :: rest)
    else if c = '.' then some (last :: c :: rest)
    else none

/-- A text that starts with a digit or a minus, without the zeros in front. -/
def withoutZeros : List Char → Option (List Char)
  | [] => none
  | c :: rest =>
    if c = '0' then withoutZerosAfter c rest
    else if c.isDigit ∨ c = '-' then some (c :: rest)
    else none

/-- A text without a point that has zeros and nothing else behind it. -/
def withoutFraction (cs : List Char) : List Char :=
  match cs.span (· ≠ '.') with
  | (whole, _ :: zeros) => if !zeros.isEmpty && zeros.all (· = '0') then whole else cs
  | _ => cs

/-- The number that a tidy text denotes: digits without a leading zero, or one
zero, behind a minus or not. -/
def wholeOfTidy (cs : List Char) : Except Fault Int :=
  let (negative, body) :=
    match cs with
    | '-' :: rest => (true, rest)
    | _ => (false, cs)
  let (digits, rest) := body.span Char.isDigit
  if digits.head? = some '0' ∧ 1 < digits.length then .error .unreadableWhole
  else if Decimal.limit < digits.length then .error .wholeTooLong
  else if digits.isEmpty || !rest.isEmpty then .error .unreadableWhole
  else .ok (if negative then -(Decimal.value digits : Int) else Decimal.value digits)

/-- The number that a tidied text denotes, its digits together or in groups. -/
def wholeOfGroups? (cs : List Char) : Option Int :=
  (wholeOfTidy cs).toOption.or ((ungrouped? cs).bind fun ds => (wholeOfTidy ds).toOption)

/-- The number that a text denotes which has to be tidied. -/
def wholeOfUntidy? (cs : List Char) : Option Int :=
  let (negative, body) := Decimal.unsigned (Text.strip Text.isWhiteSpace cs)
  if body.head? = some '-' then none
  else
    (withoutZeros body).bind fun rest =>
      let tidy := withoutFraction rest
      if negative ∧ tidy.head? = some '-' then none
      else (wholeOfGroups? tidy).map fun n => if negative then -n else n

/-- The whole number that a text denotes. -/
def wholeOfText (cs : List Char) : Except Fault Int :=
  match wholeOfTidy cs with
  | .error .unreadableWhole =>
    match wholeOfUntidy? cs with
    | some n => .ok n
    | none => .error .unreadableWhole
  | read => read

end Validation
end AuditConfig
