import AuditConfig.Value
import AuditConfig.Number.Decimal
import AuditConfig.Number.FloatText
import AuditConfig.Text.Quoted

/-!
# The text of a value

`Value.plain` is a text as it is and the quoted form of every other value;
`Value.quoted` puts a text between quotes too.  The members of a list and of a
map stand in their quoted form.

A value has no text when it is, or holds at any depth, a whole number of more
digits than are written (`DigitLimit.writing`).

`Key.written` is the name that stands for a key in a JSON object.
-/

namespace AuditConfig
namespace Key

/-- The quoted form of a key. -/
def quoted : Key → Except DigitLimit (List Char)
  | .null => .ok "None".toList
  | .bool b => .ok (if b then "True".toList else "False".toList)
  | .int n => Decimal.write n
  | .float x => .ok x.text
  | .text s => .ok (Text.Quoted.encode s.toList)

/-- The name that stands for a key in a JSON object. -/
def written : Key → String
  | .null => "null"
  | .bool b => if b then "true" else "false"
  | .int n => String.ofList (Decimal.signed n)
  | .float (.nan _) => "NaN"
  | .float (.infinite negative) => if negative then "-Infinity" else "Infinity"
  | .float x => String.ofList x.text
  | .text s => s

end Key

namespace Value

mutual

/-- The quoted form of a value. -/
def quoted : Value → Except DigitLimit (List Char)
  | .null => Key.null.quoted
  | .bool b => (Key.bool b).quoted
  | .int n => (Key.int n).quoted
  | .float x => (Key.float x).quoted
  | .text s => (Key.text s).quoted
  | .list vs => do
    let ts ← quotedItems vs
    return ['['] ++ [',', ' '].intercalate ts ++ [']']
  | .map es => do
    let ts ← quotedEntries es
    return ['\x7b'] ++ [',', ' '].intercalate ts ++ ['\x7d']

/-- The quoted forms of the items of a list. -/
def quotedItems : List Value → Except DigitLimit (List (List Char))
  | [] => .ok []
  | v :: vs => do
    let t ← quoted v
    let ts ← quotedItems vs
    return t :: ts

/-- The quoted forms of the bindings of a map. -/
def quotedEntries : List (Key × Value) → Except DigitLimit (List (List Char))
  | [] => .ok []
  | (k, v) :: es => do
    let n ← k.quoted
    let t ← quoted v
    let ts ← quotedEntries es
    return (n ++ [':', ' '] ++ t) :: ts

end

/-- The text of a value. -/
def plain : Value → Except DigitLimit (List Char)
  | .text s => .ok s.toList
  | v => v.quoted

theorem plain_text (s : String) : plain (.text s) = .ok s.toList := rfl

end Value
end AuditConfig
