import AuditConfig.Number.Order
import AuditConfig.Schema.Rejection

/-!
# What schemas of scalars take

A scalar is validated as a field of its kind is, and then held against the bounds of its
schema, in their order.  A literal takes the values that it expects.

What is no value is of the kind of none of these.
-/

namespace AuditConfig
namespace Schema

/-- A fault of a bound, which a text tells. -/
def boundFault (code relation bound : String) : Fault :=
  .unlike code ("Input should be " ++ relation ++ " " ++ bound)

/-- The fault of what bounds do not allow, the first of them counting; the relations say
whether something is a multiple, at most, or below. -/
def boundsFault? {α : Type} (show? : α → String) (multiple atMost below : α → α → Bool)
    (b : Bounds α) (x : α) : Option Fault :=
  let faults : List (Option Fault) := [
    (b.multipleOf.filter (!multiple x ·)).map
      fun n => boundFault "multiple_of" "a multiple of" (show? n),
    (b.atMost.filter (!atMost x ·)).map fun n =>
      boundFault "less_than_equal" "less than or equal to" (show? n),
    (b.below.filter (!below x ·)).map fun n => boundFault "less_than" "less than" (show? n),
    (b.atLeast.filter (!atMost · x)).map fun n =>
      boundFault "greater_than_equal" "greater than or equal to" (show? n),
    (b.above.filter (!below · x)).map fun n => boundFault "greater_than" "greater than" (show? n)]
  faults.findSome? id

/-- How a bound with a fraction is shown, which none is if it is whole. -/
def realText (x : Binary64) : String :=
  match x.whole? with
  | some n => toString n
  | none => String.ofList x.text

/-- The fault of a whole number. -/
def wholeFault? (b : Bounds Int) (n : Int) : Option Fault :=
  boundsFault? toString (fun m k => m % k = 0) (fun m k => m ≤ k) (fun m k => m < k) b n

/-- The fault of a number with a fraction. -/
def realFault? (b : Bounds Binary64) (x : Binary64) : Option Fault :=
  boundsFault? realText Binary64.isMultipleOf Binary64.atMost Binary64.lessThan b x

/-- What is taken if nothing is wrong with it. -/
def held {α : Type} (fault? : α → Option Fault) : Except Fault α → Except Fault α
  | .ok a =>
    match fault? a with
    | some f => .error f
    | none => .ok a
  | .error f => .error f

/-- The rules for values of a schema that is strict or not. -/
def rulesOf (strict unbounded : Bool) : Validation.Rules :=
  { Validation.Rules.standard with strict, unbounded }

/-- What is made of what is given, which has a fault of its own if it is no value. -/
def given (fault : Fault) (f : Value → Taken) : Option Value → Taken
  | some v => f v
  | none => .error (.single fault)

/-- What a schema of truth values takes. -/
def takeTruth (strict : Bool) : Option Value → Taken :=
  given .notTruth fun v => .ofFault .bool (Validation.truth (rulesOf strict true) v)

/-- What a schema of whole numbers takes. -/
def takeWhole (strict : Bool) (b : Bounds Int) : Option Value → Taken :=
  given .notWhole fun v =>
    .ofFault .int (held (wholeFault? b) (Validation.whole (rulesOf strict true) v))

/-- What a schema of numbers with a fraction takes. -/
def takeReal (strict unbounded : Bool) (b : Bounds Binary64) : Option Value → Taken :=
  given .notNumber fun v =>
    .ofFault .float (held (realFault? b) (Validation.float (rulesOf strict unbounded) 0 v))

/-- What a schema of texts takes. -/
def takeText (r : Validation.Rules) : Option Value → Taken :=
  given .notText fun v => .ofFault .text (Validation.text r v)

/-- What a schema of a plain sort takes: of nothing itself, and otherwise what no value
is. -/
def takePlain (strict : Bool) (p : PlainSort) : Option Value → Taken :=
  given p.kindFault fun v =>
    match p.fault? strict v with
    | some f => .error (.single f)
    | none => .ok (if p = .nothing then some v else none)

/-- Whether a value is an expected one: truth values, whole numbers and texts are so only
among their kind. -/
def isExpected (expected v : Value) : Bool :=
  let apart : List Kind := [.bool, .int, .text]
  if expected.kind ∈ apart then expected.kind = v.kind && expected.equal v
  else expected.equal v

/-- How expected values are told. -/
def expectedText (vs : List Value) : String :=
  match (vs.map quotedText).reverse with
  | [] => ""
  | [t] => t
  | t :: ts => ", ".intercalate ts.reverse ++ " or " ++ t

/-- What a literal takes. -/
def takeLiteral (expected : List Value) : Option Value → Taken :=
  let fault : Fault := .unlike "literal_error" ("Input should be " ++ expectedText expected)
  given fault fun v =>
    match expected.find? (isExpected · v) with
    | some w => .ok (some w)
    | none => .error (.single fault)

/-- The characters that stand around values in a text that is read as one. -/
def isJsonBlank (c : Char) : Bool := c ∈ [' ', '\n', '\r', '\t']

/-- The number or the word that a text is read as. -/
def ofJsonWord? (cs : List Char) : Option Value :=
  let (negative, digits) := Decimal.unsigned cs
  match String.ofList cs with
  | "null" => some .null
  | "true" => some (.bool true)
  | "false" => some (.bool false)
  | "[]" => some (.list [])
  | "\x7b\x7d" => some (.map [])
  | _ =>
    if cs.head? = some '+' then none
    else if Decimal.isDigits digits then
      some (.int (if negative then -(Decimal.value digits : Int) else Decimal.value digits))
    else if digits.head?.any Char.isDigit then (Binary64.ofText? 0 cs).map .float
    else
      match cs with
      | '"' :: rest =>
        if rest.getLast? = some '"' && !(rest.dropLast.any fun c => c = '"' || c = '\\') then
          some (.text (String.ofList rest.dropLast))
        else none
      | _ => none

/-- The value that a text is read as. -/
def ofJson (cs : List Char) : Except Fault Value :=
  let bare := Text.strip isJsonBlank cs
  let flaw :=
    if bare.isEmpty then "EOF while parsing a value at line 1 column 0"
    else "expected value at line 1 column 1"
  match ofJsonWord? bare with
  | some v => .ok v
  | none => .error (.unlike "json_invalid" ("Invalid JSON: " ++ flaw))

end Schema
end AuditConfig
