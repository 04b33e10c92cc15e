import AuditConfig.Number.Decimal
import AuditConfig.Number.FloatReading
import AuditConfig.PropsClass.Declaration
import AuditConfig.Validation.Rules
import AuditConfig.Validation.Truth
import AuditConfig.Validation.WholeText
import AuditConfig.Value.Text

/-!
# Validation of one field

A field takes a value of the kind its annotation names, and some values of
other kinds that denote one:

| annotation | also takes |
| --- | --- |
| text | numbers, if the rules say so |
| whole number | truth values, floating-point numbers without a fraction, texts |
| truth value | the numbers zero and one, and the words for them |
| floating-point number | truth values, whole numbers, texts |
| optional text | nothing |
| list of texts, map of texts | |

Under strict rules it takes none of these, but for nothing and for whole numbers
in place of floating-point ones.

Every member of a list or a map that is no text is an issue of its own, and so
is every key of a map that the rules for texts refuse.
-/

namespace AuditConfig
namespace Validation

/-- The least and the greatest whole number of 64 bits. -/
def word64 : Int × Int := (-(twoTo 63 : Int), twoTo 63 - 1)

/-- The whole number that a floating-point number is, if it has 64 bits. -/
def wholeOfFloat : Binary64 → Except Fault Int
  | .finite s e f =>
    match (Binary64.finite s e f).whole? with
    | none => .error .fractional
    | some n => if word64.1 < n ∧ n ≤ word64.2 then .ok n else .error .wholeTooLong
  | _ => .error .notFinite

/-- The whole number that a value denotes. -/
def whole (r : Rules) : Value → Except Fault Int
  | .int n => .ok n
  | v =>
    if r.strict then .error .notWhole
    else
      match v with
      | .bool b => .ok (if b then 1 else 0)
      | .float x => wholeOfFloat x
      | .text s => wholeOfText s.toList
      | _ => .error .notWhole

/-- The truth value that a whole number of 64 bits denotes. -/
def truthOfWhole (n : Int) : Except Fault Bool :=
  if n = 0 then .ok false
  else if n = 1 then .ok true
  else if word64.1 ≤ n ∧ n ≤ word64.2 then .error .unreadableTruth
  else .error .notTruth

/-- The truth value that a value denotes. -/
def truth (r : Rules) : Value → Except Fault Bool
  | .bool b => .ok b
  | v =>
    if r.strict then .error .notTruth
    else
      match v with
      | .text s =>
        match Truth.ofText? s with
        | some b => .ok b
        | none => .error .unreadableTruth
      | .int n => truthOfWhole n
      | .float x =>
        match wholeOfFloat x with
        | .ok n => truthOfWhole n
        | .error _ => .error .notTruth
      | _ => .error .notTruth

/-- The floating-point number that a text denotes: one between white space, or
one whose digits are in groups. -/
def floatOfText? (occurrence : Nat) (cs : List Char) : Option Binary64 :=
  (Binary64.ofText? occurrence (Text.strip Text.isWhiteSpace cs)).or
    ((ungrouped? cs).bind (Binary64.ofText? occurrence))

/-- A floating-point number that the rules allow. -/
def bounded (r : Rules) (x : Binary64) : Except Fault Binary64 :=
  match x with
  | .finite .. => .ok x
  | _ => if r.unbounded then .ok x else .error .notFinite

/-- The floating-point number that a value denotes; `occurrence` is for one that
is not a number. -/
def float (r : Rules) (occurrence : Nat) : Value → Except Fault Binary64
  | .float x => bounded r x
  | .int n =>
    match Binary64.ofInt? n with
    | some x => .ok x
    | none => .error .notNumber
  | v =>
    if r.strict then .error .notNumber
    else
      match v with
      | .bool b => .ok (Binary64.ofDecimal false (if b then 1 else 0) 0)
      | .text s =>
        match floatOfText? occurrence s.toList with
        | some x => bounded r x
        | none => .error .unreadableNumber
      | _ => .error .notNumber

/-- The text that stands for a number, if the rules take it for one. -/
def numberText? (r : Rules) : Value → Option String
  | .int n => if r.numbersAsText && !r.strict then some (String.ofList (Decimal.signed n)) else none
  | .float x => if r.numbersAsText && !r.strict then some (String.ofList x.text) else none
  | _ => none

/-- The text that a value denotes. -/
def text (r : Rules) : Value → Except Fault String
  | .text s => r.text.apply s
  | v =>
    match numberText? r v with
    | some s => r.text.apply s
    | none => .error .notText

/-- The issues of a result that a fault stands for, at a path. -/
def issuesAt {α : Type} (path : List String) : Except Fault α → List Issue
  | .ok _ => []
  | .error f => [⟨path, f⟩]

/-- The texts of the items of a list, the first at a given index. -/
def items (r : Rules) (path : List String) : Nat → List Value → Except (List Issue) (List Value)
  | _, [] => .ok []
  | i, v :: vs =>
    match text r v, items r path (i + 1) vs with
    | .ok s, .ok ws => .ok (.text s :: ws)
    | first, .ok _ => .error (issuesAt (path ++ [toString i]) first)
    | first, .error rest => .error (issuesAt (path ++ [toString i]) first ++ rest)

/-- What the path of an issue with a key of a map ends with. -/
def keyMark : String := "[key]"

/-- The bindings of a map of texts. -/
def bindings (r : Rules) (path : List String) :
    List (Key × Value) → Except (List Issue) (List (Key × Value))
  | [] => .ok []
  | (k, v) :: rest =>
    let here := path ++ [k.written]
    match text r k.value, text r v, bindings r path rest with
    | .ok key, .ok s, .ok es => .ok ((.text key, .text s) :: es)
    | key, member, others =>
      let later :=
        match others with
        | .ok _ => []
        | .error issues => issues
      .error (issuesAt (here ++ [keyMark]) key ++ issuesAt here member ++ later)

/-- A fault as the one issue at a path. -/
def atPath {α : Type} (path : List String) (make : α → Value) :
    Except Fault α → Except (List Issue) Value
  | .ok a => .ok (make a)
  | .error f => .error [⟨path, f⟩]

/-- The fault of what is of another kind than an annotation names. -/
def otherKind : Annotation → Fault
  | .text => .notText
  | .whole => .notWhole
  | .truth => .notTruth
  | .float => .notNumber
  | .optionalText => .notText
  | .textList => .notList
  | .textMap => .notMap

/-- The issues of a default that is no value: specs are a list of what is no text. -/
def fixtureIssues (r : Rules) (path : List String) (a : Annotation) (d : FieldDefault) :
    List Issue :=
  match d, a with
  | .specs l, .textList =>
    if r.strict then [⟨path, .notList⟩]
    else l.zipIdx.map fun s => ⟨path ++ [toString s.2], .notText⟩
  | _, a => [⟨path, otherKind a⟩]

/-- The value that a field takes for a given one. -/
def field (r : Rules) (occurrence : Nat) (path : List String) (a : Annotation) (v : Value) :
    Except (List Issue) Value :=
  match a with
  | .text => atPath path .text (text r v)
  | .whole => atPath path .int (whole r v)
  | .truth => atPath path .bool (truth r v)
  | .float => atPath path .float (float r occurrence v)
  | .optionalText => if v.isNull then .ok .null else atPath path .text (text r v)
  | .textList =>
    match v with
    | .list vs => (items r path 0 vs).map .list
    | _ => .error [⟨path, .notList⟩]
  | .textMap =>
    match v with
    | .map es => (bindings r path es).map fun bs => Value.ofEntries (Entries.ofList bs)
    | _ => .error [⟨path, .notMap⟩]

end Validation
end AuditConfig
