import AuditConfig.Schema.Entry
import AuditConfig.Validation.Issue
import AuditConfig.Value.Text

/-!
# Known faults: those that a schema can name

Faults have names, and a schema can ask for one by its name.  A known fault has its own
message, put together from pieces (`FaultPiece`), of which some tell what the schema has
to give under a name: a text, a number, or a count of something.
-/

namespace AuditConfig

/-- A piece of the message of a fault. -/
inductive FaultPiece where
  | plain (text : String)
  /-- The text that is given under a name. -/
  | text (name : String)
  /-- The number that is given under a name. -/
  | number (name : String)
  /-- The count that is given under a name, of what this word is for, if there is one. -/
  | count (name noun : String)

/-- A fault that goes by a known name. -/
structure KnownFault where
  code : String
  pieces : List FaultPiece

namespace KnownFault

/-- The faults whose messages tell nothing that is given. -/
def untold : List (String × String) :=
  [("json_type", "JSON input should be string, bytes or bytearray"),
    ("recursion_loop", "Recursion error - cyclic reference detected"),
    ("missing", "Field required"), ("frozen_field", "Field is frozen"),
    ("frozen_instance", "Instance is frozen"),
    ("extra_forbidden", "Extra inputs are not permitted"),
    ("invalid_key", "Keys should be strings"),
    ("model_attributes_type",
      "Input should be a valid dictionary or object to extract fields from"),
    ("default_factory_not_called",
      "The default factory uses validated data, but at least one validation error occurred"),
    ("none_required", "Input should be None"), ("finite_number", "Input should be a finite number"),
    ("iterable_type", "Input should be iterable"),
    ("string_type", "Input should be a valid string"),
    ("string_sub_type", "Input should be a string, not an instance of a subclass of str"),
    ("string_unicode",
      "Input should be a valid string, unable to parse raw data as a unicode string"),
    ("string_not_ascii", "String should contain only ASCII characters"),
    ("dict_type", "Input should be a valid dictionary"),
    ("list_type", "Input should be a valid list"),
    ("tuple_type", "Input should be a valid tuple"), ("set_type", "Input should be a valid set"),
    ("set_item_not_hashable", "Set items should be hashable"),
    ("bool_type", "Input should be a valid boolean"),
    ("bool_parsing", "Input should be a valid boolean, unable to interpret input"),
    ("int_type", "Input should be a valid integer"),
    ("int_parsing", "Input should be a valid integer, unable to parse string as an integer"),
    ("int_parsing_size", "Unable to parse input string as an integer, exceeded maximum size"),
    ("int_from_float", "Input should be a valid integer, got a number with a fractional part"),
    ("float_type", "Input should be a valid number"),
    ("float_parsing", "Input should be a valid number, unable to parse string as a number"),
    ("bytes_type", "Input should be a valid bytes"),
    ("missing_sentinel_error", "Input should be the 'MISSING' sentinel"),
    ("date_type", "Input should be a valid date"),
    ("date_from_datetime_inexact",
      "Datetimes provided to dates should have zero time - e.g. be exact dates"),
    ("date_past", "Date should be in the past"), ("date_future", "Date should be in the future"),
    ("time_type", "Input should be a valid time"),
    ("datetime_type", "Input should be a valid datetime"),
    ("datetime_past", "Input should be in the past"),
    ("datetime_future", "Input should be in the future"),
    ("timezone_naive", "Input should not have timezone info"),
    ("timezone_aware", "Input should have timezone info"),
    ("time_delta_type", "Input should be a valid timedelta"),
    ("frozen_set_type", "Input should be a valid frozenset"),
    ("callable_type", "Input should be callable"),
    ("arguments_type", "Arguments must be a tuple, list or a dictionary"),
    ("missing_argument", "Missing required argument"),
    ("unexpected_keyword_argument", "Unexpected keyword argument"),
    ("missing_keyword_only_argument", "Missing required keyword only argument"),
    ("unexpected_positional_argument", "Unexpected positional argument"),
    ("missing_positional_only_argument", "Missing required positional only argument"),
    ("multiple_argument_values", "Got multiple values for argument"),
    ("url_type", "URL input should be a string or URL"),
    ("uuid_type", "UUID input should be a string, bytes or UUID object"),
    ("decimal_type", "Decimal input should be an integer, float, string or Decimal object"),
    ("decimal_parsing", "Input should be a valid decimal"),
    ("complex_type",
      "Input should be a valid python complex object, a number, or a valid complex string " ++
        "following the rules"),
    ("complex_str_parsing", "Input should be a valid complex string following the rules")]

/-- The faults whose messages end with a text that is given. -/
def endingInText : List (String × String × String) :=
  [("json_invalid", "Invalid JSON: ", "error"),
    ("get_attribute_error", "Error extracting attribute: ", "error"),
    ("model_type", "Input should be a valid dictionary or instance of ", "class_name"),
    ("dataclass_type", "Input should be a dictionary or an instance of ", "class_name"),
    ("dataclass_exact_type", "Input should be an instance of ", "class_name"),
    ("iteration_error", "Error iterating over object, error: ", "error"),
    ("mapping_type", "Input should be a valid mapping, error: ", "error"),
    ("enum", "Input should be ", "expected"), ("literal_error", "Input should be ", "expected"),
    ("value_error", "Value error, ", "error"), ("assertion_error", "Assertion failed, ", "error"),
    ("date_parsing", "Input should be a valid date in the format YYYY-MM-DD, ", "error"),
    ("date_from_datetime_parsing", "Input should be a valid date or datetime, ", "error"),
    ("time_parsing", "Input should be in a valid time format, ", "error"),
    ("datetime_parsing", "Input should be a valid datetime, ", "error"),
    ("datetime_object_invalid", "Invalid datetime object, got ", "error"),
    ("datetime_from_date_parsing", "Input should be a valid datetime or date, ", "error"),
    ("time_delta_parsing", "Input should be a valid timedelta, ", "error"),
    ("is_instance_of", "Input should be an instance of ", "class"),
    ("is_subclass_of", "Input should be a subclass of ", "class"),
    ("union_tag_not_found", "Unable to extract tag using discriminator ", "discriminator"),
    ("url_parsing", "Input should be a valid URL, ", "error"),
    ("url_syntax_violation", "Input violated strict URL syntax rules, ", "error"),
    ("url_scheme", "URL scheme should be ", "expected_schemes"),
    ("uuid_parsing", "Input should be a valid UUID, ", "error")]

/-- The faults whose messages end with a number that is given. -/
def endingInNumber : List (String × String × String) :=
  [("greater_than", "Input should be greater than ", "gt"),
    ("greater_than_equal", "Input should be greater than or equal to ", "ge"),
    ("less_than", "Input should be less than ", "lt"),
    ("less_than_equal", "Input should be less than or equal to ", "le"),
    ("multiple_of", "Input should be a multiple of ", "multiple_of")]

/-- The other faults. -/
def others : List KnownFault :=
  [⟨"no_such_attribute", [.plain "Object has no attribute '", .text "attribute", .plain "'"]⟩,
    ⟨"needs_python_object",
      [.plain "Cannot check \x60", .text "method_name",
        .plain "\x60 when validating from json, use a JsonOrPython validator instead"]⟩,
    ⟨"too_short",
      [.text "field_type", .plain " should have at least ", .count "min_length" " item",
        .plain " after validation, not ", .count "actual_length" ""]⟩,
    ⟨"too_long",
      [.text "field_type", .plain " should have at most ", .count "max_length" " item",
        .plain " after validation, not ", .count "actual_length" ""]⟩,
    ⟨"string_too_short", [.plain "String should have at least ", .count "min_length" " character"]⟩,
    ⟨"string_too_long", [.plain "String should have at most ", .count "max_length" " character"]⟩,
    ⟨"string_pattern_mismatch",
      [.plain "String should match pattern '", .text "pattern", .plain "'"]⟩,
    ⟨"bytes_too_short", [.plain "Data should have at least ", .count "min_length" " byte"]⟩,
    ⟨"bytes_too_long", [.plain "Data should have at most ", .count "max_length" " byte"]⟩,
    ⟨"bytes_invalid_encoding",
      [.plain "Data should be valid ", .text "encoding", .plain ": ", .text "encoding_error"]⟩,
    ⟨"timezone_offset",
      [.plain "Timezone offset of ", .count "tz_expected" "", .plain " required, got ",
        .count "tz_actual" ""]⟩,
    ⟨"union_tag_invalid",
      [.plain "Input tag '", .text "tag", .plain "' found using ", .text "discriminator",
        .plain " does not match any of the expected tags: ", .text "expected_tags"]⟩,
    ⟨"url_too_long", [.plain "URL should have at most ", .count "max_length" " character"]⟩,
    ⟨"uuid_version", [.plain "UUID version ", .count "expected_version" "", .plain " expected"]⟩,
    ⟨"decimal_max_digits",
      [.plain "Decimal input should have no more than ", .count "max_digits" " digit",
        .plain " in total"]⟩,
    ⟨"decimal_max_places",
      [.plain "Decimal input should have no more than ", .count "decimal_places" " decimal place"]⟩,
    ⟨"decimal_whole_digits",
      [.plain "Decimal input should have no more than ", .count "whole_digits" " digit",
        .plain " before the decimal point"]⟩]

/-- The known faults. -/
def all : List KnownFault :=
  untold.map (fun k => ⟨k.1, [.plain k.2]⟩) ++
    endingInText.map (fun k => ⟨k.1, [.plain k.2.1, .text k.2.2]⟩) ++
    endingInNumber.map (fun k => ⟨k.1, [.plain k.2.1, .number k.2.2]⟩) ++ others

/-- The known fault of a name. -/
def ofCode? (code : String) : Option KnownFault := all.find? fun k => k.code = code

/-- How messages about a fault call it: the words of its name, each with a capital. -/
def title (k : KnownFault) : String := String.join ((k.code.splitOn "_").map String.capitalize)

/-- The value that is given under a name. -/
def givenFor (k : KnownFault) (given : List (Key × Value)) (name : String) :
    Except SchemaDefect Value :=
  match given.lookup (.text name) with
  | some v => .ok v
  | none => Schema.refuse (.unsaid k.title name)

/-- The refusal of a value that is given under a name and should be another thing. -/
def refuseGiven {α : Type} (k : KnownFault) (name thing : String) : Except SchemaDefect α :=
  Schema.refuse (.otherwiseSaid k.title name thing)

/-- The faults that take what is given under a name as it is, whatever it is. -/
def takingAny : List String := ["value_error", "assertion_error"]

/-- How a number is told, which is none if it is not one. -/
def numberText? : Value → Option String
  | .bool b => some (if b then "1" else "0")
  | .int n => some (String.ofList (Decimal.signed n))
  | .float x => some (((x.whole?).map toString).getD (String.ofList x.text))
  | .text s => some s
  | _ => none

/-- The text of a piece. -/
def pieceText (k : KnownFault) (given : List (Key × Value)) :
    FaultPiece → Except SchemaDefect String
  | .plain t => .ok t
  | .text name => do
    match ← k.givenFor given name with
    | .text s => return s
    | v =>
      if k.code ∈ takingAny then return String.ofList (v.plain.toOption.getD [])
      else k.refuseGiven name "String"
  | .number name => do
    match numberText? (← k.givenFor given name) with
    | some t => return t
    | none => k.refuseGiven name "Number"
  | .count name noun => do
    match Schema.asWhole (← k.givenFor given name) with
    | .ok n => return toString n ++ noun ++ (if noun.isEmpty || n = 1 then "" else "s")
    | .error _ => k.refuseGiven name "usize"

/-- The fault with what is given. -/
def fault (k : KnownFault) (given : List (Key × Value)) : Except SchemaDefect Fault := do
  let texts ← k.pieces.mapM (k.pieceText given)
  return .unlike k.code (String.join texts)

end KnownFault
end AuditConfig
