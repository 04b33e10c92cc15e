import AuditConfig.Schema
import AuditConfig.Schema.Entry
import AuditConfig.Text.Pattern

/-!
# Schemas of scalars: numbers, texts and other plain values

The entries of a schema of a plain sort say whether it is strict and what bounds it
sets.  The bounds on days, times and the like have to denote such things themselves.
-/

namespace AuditConfig
namespace Schema

/-- Bounds, each read from its entry. -/
def readBounds {α : Type} (read : String → Except SchemaDefect (Option α)) :
    Except SchemaDefect (Bounds α) := do
  let multipleOf ← read "multiple_of"
  let atMost ← read "le"
  let below ← read "lt"
  let atLeast ← read "ge"
  let above ← read "gt"
  return ⟨multipleOf, atMost, below, atLeast, above⟩

/-- The entries for bounds on what is ordered. -/
def orderNames : List String := ["le", "lt", "ge", "gt"]

/-- A schema of whole numbers. -/
def readWhole (settings : SchemaSettings) (schema : Value) : Except SchemaDefect Schema := do
  let strict ← strictness settings schema
  let bounds ← readBounds (wholeFound? schema)
  return .whole strict bounds

/-- A schema of numbers with a fraction. -/
def readReal (settings : SchemaSettings) (schema : Value) : Except SchemaDefect Schema := do
  let strict ← strictness settings schema
  let unbounded ← flagSetting? settings schema "allow_inf_nan" "allow_inf_nan"
  let bounds ← readBounds fun name => (found? schema name).mapM asReal
  return .real strict (unbounded.getD true) bounds

/-- A schema of truth values. -/
def readTruth (settings : SchemaSettings) (schema : Value) : Except SchemaDefect Schema := do
  let strict ← strictness settings schema
  return .truth strict

/-- Checks that the value of an entry is a pattern, and says whether there is one. -/
def readPattern (schema : Value) : Except SchemaDefect Bool :=
  match found? schema "pattern" with
  | none => .ok false
  | some (.text s) =>
    match Pattern.flaw? s.toList with
    | none => .ok true
    | some (n, f) => refuse (.badPattern s.toList n f)
  | some v => refuse (.noPattern (v.plain.toOption.getD []))

/-- A schema of texts. -/
def readText (settings : SchemaSettings) (schema : Value) : Except SchemaDefect Schema := do
  let hasPattern ← readPattern schema
  let least ← (setting? settings schema "min_length" "str_min_length").mapM asCount
  let most ← (setting? settings schema "max_length" "str_max_length").mapM asCount
  let stripped :=
    (← flagSetting? settings schema "strip_whitespace" "str_strip_whitespace").getD false
  let lower := (← flagSetting? settings schema "to_lower" "str_to_lower").getD false
  let upper := (← flagSetting? settings schema "to_upper" "str_to_upper").getD false
  let numbers :=
    (← flagSetting? settings schema "coerce_numbers_to_str" "coerce_numbers_to_str").getD false
  let strict ← strictness settings schema
  let isNamed := hasPattern || least.isSome || most.isSome || stripped || lower || upper
  return .text isNamed ⟨strict, numbers, true, ⟨stripped, lower, upper, least, most⟩⟩

/-- Checks that the bounds of a plain sort denote values of it. -/
def checkBounds (schema : Value) (p : PlainSort) (thing : String) (names : List String) :
    Except SchemaDefect Unit :=
  names.forM (denoting schema thing fun v => p.denotedBy v)

/-- Checks the entry that asks for what is past or to come. -/
def checkNow (schema : Value) : Except SchemaDefect Unit := do
  match found? schema "now_op" with
  | none => return
  | some v =>
    let word ← asText v
    if word ∉ ["past", "future"] then refuse (.noWord "now_op" word)
    discard ((found? schema "now_utc_offset").mapM asWhole)

/-- Checks the entry that asks for an offset. -/
def checkOffset (schema : Value) : Except SchemaDefect Unit := do
  match found? schema "tz_constraint" with
  | none => return
  | some (.text word) =>
    if word ∉ ["aware", "naive"] then refuse (.noWord "tz_constraint" word)
  | some v => discard (asWhole v)

/-- Checks the entry that says what becomes of what is too precise. -/
def checkPrecision (settings : SchemaSettings) (schema : Value) : Except SchemaDefect Unit := do
  match setting? settings schema "microseconds_precision" "microseconds_precision" with
  | none => return
  | some v =>
    let word ← asText v
    if word ∉ ["truncate", "error"] then refuse .noPrecision

/-- Reads an entry that has to be of a kind, if it is there, for the check alone. -/
def checkEntry {α : Type} (schema : Value) (name : String) (read : Value → Except SchemaDefect α) :
    Except SchemaDefect Unit :=
  discard ((found? schema name).mapM read)

/-- Checks the schemes that are allowed, and gives the name of the schema. -/
def readSchemes (schema : Value) (sort : String) : Except SchemaDefect String := do
  match ← (found? schema "allowed_schemes").mapM asList with
  | none => return sort
  | some [] => refuse (.empty "allowed_schemes")
  | some vs =>
    let names ← vs.mapM asText
    return bracketed sort (names.map fun n => "'" ++ n ++ "'") ","

/-- Checks that what stands in place of a host is one. -/
def checkHost (p : PlainSort) (schema : Value) : Except SchemaDefect Unit := do
  let host ← (found? schema "default_host").mapM asText
  if p = .hosts && host.any (·.toList.contains ',') then refuse .manyHosts

/-- A schema of addresses. -/
def readAddress (settings : SchemaSettings) (schema : Value) (p : PlainSort) :
    Except SchemaDefect Schema := do
  let name ← readSchemes schema p.name
  if p = .hosts then checkHost p schema
  let strict ← strictness settings schema
  checkEntry schema "max_length" asCount
  checkEntry schema "host_required" asFlag
  checkHost p schema
  checkEntry schema "default_port" asPort
  checkEntry schema "default_path" asText
  return .plain name strict p

/-- A schema of decimal numbers. -/
def readDecimal (settings : SchemaSettings) (schema : Value) : Except SchemaDefect Schema := do
  let unbounded := (← flagSetting? settings schema "allow_inf_nan" "allow_inf_nan").getD false
  let places ← count? schema "decimal_places"
  let digits ← count? schema "max_digits"
  if unbounded && (places.isSome || digits.isSome) then refuse .digitsOfInfinite
  let strict ← strictness settings schema
  checkBounds schema .decimal "a Decimal instance" ("multiple_of" :: orderNames)
  return .plain PlainSort.decimal.name strict .decimal

/-- The name of a schema of bytes, whose number has bounds. -/
def boundedBytesName : String := "constrained-bytes"

/-- A schema of bytes. -/
def readBytes (settings : SchemaSettings) (schema : Value) : Except SchemaDefect Schema := do
  let strict ← strictness settings schema
  let least ← count? schema "min_length"
  let most ← count? schema "max_length"
  let isBounded := least.isSome || most.isSome
  return .plain (if isBounded then boundedBytesName else PlainSort.bytes.name) strict .bytes

/-- A schema of a plain sort. -/
def readPlain (settings : SchemaSettings) (schema : Value) (p : PlainSort) :
    Except SchemaDefect Schema := do
  match p with
  | .decimal => readDecimal settings schema
  | .bytes => readBytes settings schema
  | .url => readAddress settings schema p
  | .hosts => readAddress settings schema p
  | .date =>
    let strict ← strictness settings schema
    checkBounds schema p "a date instance" orderNames
    checkNow schema
    return .plain p.name strict p
  | .time =>
    let strict ← strictness settings schema
    checkBounds schema p "a time instance" orderNames
    checkOffset schema
    checkPrecision settings schema
    return .plain p.name strict p
  | .datetime =>
    let strict ← strictness settings schema
    checkBounds schema p "a datetime instance" orderNames
    checkNow schema
    checkOffset schema
    checkPrecision settings schema
    return .plain p.name strict p
  | .duration =>
    checkPrecision settings schema
    let strict ← strictness settings schema
    checkBounds schema p "a timedelta instance" orderNames
    return .plain p.name strict p
  | .uuid =>
    checkEntry schema "version" asCount
    let strict ← strictness settings schema
    return .plain p.name strict p
  | .complex =>
    let strict ← strictness settings schema
    return .plain p.name strict p
  | p => return .plain p.name false p

/-- A schema of expected values. -/
def readLiteral (schema : Value) : Except SchemaDefect Schema := do
  match ← asList (← required schema "expected") with
  | [] => refuse (.empty "expected")
  | vs => return .literal vs

/-- A schema of the members of an enumeration, which no value is. -/
def readMembers (schema : Value) : Except SchemaDefect Schema := do
  match ← asList (← required schema "members") with
  | [] => refuse (.empty "members")
  | v :: _ => refuse (.noMember v.kind.name "value")

/-- A schema of the objects of a class, which no value is. -/
def readInstances (schema : Value) : Except SchemaDefect Schema := do
  discard (required schema "cls")
  refuse .noClass

/-- A class that an entry says, which no value is. -/
def readClass (schema : Value) : Except SchemaDefect Schema := do
  let v ← required schema "cls"
  refuse (.otherKind v.kind "type")

/-- The schema of a sort that holds no other schemas, if there is such a sort. -/
def readScalar? (settings : SchemaSettings) (schema : Value) (sort : String) :
    Option (Except SchemaDefect Schema) :=
  match sort with
  | "any" => some (.ok .any)
  | "bool" => some (readTruth settings schema)
  | "int" => some (readWhole settings schema)
  | "float" => some (readReal settings schema)
  | "str" => some (readText settings schema)
  | "literal" => some (readLiteral schema)
  | "enum" => some (readMembers schema)
  | "is-instance" => some (readInstances schema)
  | "is-subclass" => some (readClass schema)
  | s => (PlainSort.ofName? s).map (readPlain settings schema)

end Schema
end AuditConfig
