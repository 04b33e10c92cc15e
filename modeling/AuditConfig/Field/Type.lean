import AuditConfig.Value.Text
import AuditConfig.Text.LetterCase

/-!
# Field types: what a field holds and how a text is taken for it

A field holds a text, a whole number or a truth value, and nothing else:
`accepts` compares kinds, so a truth value is no whole number.

`coerce` takes a text for a value of the type.  Every text is a text; a text is
a whole number when it is one or more ASCII digits; and every text is a truth
value, true exactly when its lower-case form is `true`.  What it gives is always
accepted by the type (`accepts_of_coerce`).
-/

namespace AuditConfig

/-- The type of a field. -/
inductive FieldType where
  | string
  | integer
  | boolean
  deriving DecidableEq, Repr

namespace FieldType

/-- The name of a field type. -/
def name : FieldType → String
  | .string => "string"
  | .integer => "integer"
  | .boolean => "boolean"

/-- The quoted form of a field type. -/
def quoted (t : FieldType) : List Char :=
  "<FieldType.".toList ++ t.name.toList.map Char.toUpper ++ [':', ' '] ++
    Text.Quoted.encode t.name.toList ++ ['>']

/-- All field types. -/
def all : List FieldType := [.string, .integer, .boolean]

/-- The field type of a given name. -/
def ofName? (s : String) : Option FieldType := all.find? fun t => t.name = s

/-- The kind of the values of a type. -/
def kind : FieldType → Kind
  | .string => .text
  | .integer => .int
  | .boolean => .bool

/-- Whether a value is of the type. -/
def accepts (t : FieldType) (v : Value) : Bool := v.kind = t.kind

/-- The value that a text is taken for, if it is well formed. -/
def coerce (t : FieldType) (cs : List Char) : Except DigitLimit (Option Value) :=
  match t with
  | .string => .ok (some (.text (String.ofList cs)))
  | .boolean => .ok (some (.bool (Text.lower .fourteen cs = "true".toList)))
  | .integer =>
    if Decimal.isDigits cs then (Decimal.read cs).map fun n => some (.int n) else .ok none

/-- A coerced value is of the type. -/
theorem accepts_of_coerce {t : FieldType} {cs : List Char} {v : Value}
    (h : t.coerce cs = .ok (some v)) : t.accepts v = true := by
  cases t with
  | string => cases h; rfl
  | boolean => cases h; rfl
  | integer =>
    simp only [coerce] at h
    split at h
    · cases hr : Decimal.read cs with
      | error e => rw [hr] at h; cases h
      | ok n => rw [hr] at h; cases h; rfl
    · cases h

/-- A text is well formed for every type but that of a whole number, for which it has to be
digits. -/
theorem coerce_eq_none_iff (t : FieldType) (cs : List Char) :
    t.coerce cs = .ok none ↔ t = .integer ∧ Decimal.isDigits cs = false := by
  cases t with
  | string => simp [coerce]
  | boolean => simp [coerce]
  | integer =>
    cases hd : Decimal.isDigits cs with
    | false => simp [coerce, hd]
    | true =>
      rw [coerce, if_pos hd]
      cases Decimal.read cs <;> simp [Functor.map, Except.map]

/-- Why a value names no field type. -/
inductive NameError where
  /-- The value, in its quoted form, is none of the names. -/
  | unknown (quoted : List Char)
  | digits (limit : DigitLimit)
  deriving DecidableEq, Repr

/-- What is said of a value that names no field type. -/
def NameError.message : NameError → String
  | .unknown q => String.ofList q ++ " is not a valid FieldType"
  | .digits e => e.message

/-- The field type that a value names. -/
def ofValue (v : Value) : Except NameError FieldType :=
  let found : Option FieldType :=
    match v with
    | .text s => ofName? s
    | _ => none
  match found with
  | some t => .ok t
  | none =>
    match v.quoted with
    | .ok q => .error (.unknown q)
    | .error e => .error (.digits e)

end FieldType
end AuditConfig
