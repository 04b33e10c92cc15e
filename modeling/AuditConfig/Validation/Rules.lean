import AuditConfig.Text.Blank
import AuditConfig.Text.LetterCase
import AuditConfig.Validation.Issue

/-!
# Rules: how strictly values are validated

Rules say which values a validation takes beside those of the very kind that it
asks for, and what it makes of a text (`TextRules.apply`).

A text is tidied first: the white space around it is dropped if the rules say
so.  Then its characters are counted, and too few or too many are a fault.  Last
its letters are changed to one case, as the later edition of the standard has it.
-/

namespace AuditConfig
namespace Validation

/-- What is made of a text. -/
structure TextRules where
  /-- Whether the white space around a text is dropped. -/
  stripped : Bool
  /-- Whether letters are changed to lower case. -/
  lower : Bool
  /-- Whether letters are changed to upper case, unless they are to lower. -/
  upper : Bool
  /-- The least number of characters. -/
  least : Option Nat
  /-- The greatest number of characters. -/
  most : Option Nat

namespace TextRules

/-- Every text is taken as it is. -/
def plain : TextRules := ⟨false, false, false, none, none⟩

/-- The fault of a text with a number of characters. -/
def lengthFault (r : TextRules) (length : Nat) : Option Fault :=
  match r.least.filter (length < ·) with
  | some n => some (.shortText n)
  | none => (r.most.filter (· < length)).map .longText

/-- What is made of a text. -/
def apply (r : TextRules) (s : String) : Except Fault String :=
  let cs := if r.stripped then Text.strip Text.isWhiteSpace s.toList else s.toList
  match r.lengthFault cs.length with
  | some f => .error f
  | none =>
    let changed :=
      if r.lower then Text.lower .seventeen cs
      else if r.upper then Text.upper .seventeen cs
      else cs
    .ok (String.ofList changed)

end TextRules

/-- How values are validated. -/
structure Rules where
  /-- Whether values of other kinds are refused even if they denote one of the
  kind asked for. -/
  strict : Bool
  /-- Whether a number is taken for its text. -/
  numbersAsText : Bool
  /-- Whether infinities, and what is not a number, are numbers. -/
  unbounded : Bool
  text : TextRules

namespace Rules

/-- The rules when none are given. -/
def standard : Rules := ⟨false, false, true, .plain⟩

end Rules
end Validation
end AuditConfig
