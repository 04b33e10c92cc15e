import AuditConfig.Options.Misfit
import AuditConfig.Value.Search
import AuditConfig.Value.Text

/-!
# Defects: what is wrong in a schema

A schema is a map with an entry for its sort, and more entries as the sort asks for, of
which some are schemas too.  A defect is found in one of these (`SchemaCause`), and it is
told with the parts around it, the outermost first (`SchemaDefect`); one that nothing is
around is told alone.
-/

namespace AuditConfig

/-- What is wrong in a schema. -/
inductive SchemaCause where
  /-- There is no entry of this name. -/
  | lacking (entry : String)
  /-- A value of this kind is asked for an entry. -/
  | noEntries (kind : Kind)
  /-- A value is looked through for another one. -/
  | search (e : SearchError)
  /-- A value of this kind is gone through. -/
  | notIterable (kind : Kind)
  /-- A value of one kind stands where something else is asked for. -/
  | otherKind (kind : Kind) (wanted : String)
  /-- An entry has a value that it cannot have. -/
  | misfit (m : Misfit)
  /-- A value of this kind is no number. -/
  | noReal (kind : Kind)
  /-- A whole number is too great for a number with a fraction. -/
  | tooGreatReal
  /-- A whole number is too great for the number of a port. -/
  | noPort
  /-- The value of an entry does not denote such a thing. -/
  | notDenoting (entry thing : String)
  /-- What this word is for is asked for a member that it lacks. -/
  | noMember (word member : String)
  /-- There is no sort of this name. -/
  | unknownSort (sort : String)
  /-- The sort is that of no valid schema. -/
  | invalidSort
  /-- A list of this name has no items. -/
  | empty (entry : String)
  /-- There is nothing to choose from. -/
  | noChoices
  /-- There is no step to take. -/
  | noSteps
  /-- What objects are to be of is no class. -/
  | noClass
  /-- The word for an entry means nothing there. -/
  | noWord (entry word : String)
  /-- What is no text stands in place of a pattern. -/
  | noPattern (text : List Char)
  /-- A text is no pattern: what is wrong with it where an arrow points. -/
  | badPattern (text : List Char) (place : Nat) (flaw : String)
  /-- What is too precise is neither cut off nor refused. -/
  | noPrecision
  /-- Several hosts stand in place of one. -/
  | manyHosts
  /-- The word is for no way of choosing. -/
  | noMode (word : String)
  /-- The word is for no way of giving an argument. -/
  | noArgumentMode (word : String)
  /-- Numbers that are not finite are allowed, and digits are counted. -/
  | digitsOfInfinite
  /-- A default is given and is to be made too. -/
  | twoDefaults
  /-- A default is to stand in place of what is refused, and there is none. -/
  | noDefault
  /-- Other names have a schema and are not kept. -/
  | othersNotKept (entry : String)
  /-- A field that has to be given has a default. -/
  | requiredDefault (field : String)
  /-- A field that has to be given can be left out. -/
  | requiredOmitted (field : String)
  /-- An argument without a default stands behind one that has one. -/
  | lateArgument (name : String)
  /-- An argument can be left out. -/
  | argumentOmitted (name : String)
  /-- A known fault is given a message of its own. -/
  | messageOfKnown
  /-- A fault of this name tells something that it is not given. -/
  | unsaid (fault entry : String)
  /-- A fault of this name is given something else than such a thing to tell. -/
  | otherwiseSaid (fault entry thing : String)
  /-- There is no path. -/
  | noPath
  /-- A path has no step. -/
  | noStep
  /-- A path starts with what is no name. -/
  | noPathStart
  /-- A step of a path is neither a name nor an index. -/
  | noPathStep
  /-- What makes no schema of its own is to be written by one. -/
  | unwritable (sort : String)
  /-- There is no sort of writing of this name. -/
  | unknownWriting (sort : String)
  deriving DecidableEq, Repr

namespace SchemaCause

/-- The word for the sort of a cause. -/
def sort : SchemaCause → String
  | .lacking _ => "KeyError"
  | .noEntries _ => "TypeError"
  | .search _ => "TypeError"
  | .notIterable _ => "TypeError"
  | .noPathStart => "TypeError"
  | .noPathStep => "TypeError"
  | .otherKind .. => "TypeError"
  | .misfit m => m.sort
  | .noReal _ => "TypeError"
  | .tooGreatReal => "OverflowError"
  | .noPort => "OverflowError"
  | .notDenoting .. => "ValueError"
  | .noMember .. => "AttributeError"
  | .unsaid .. => "TypeError"
  | .otherwiseSaid .. => "TypeError"
  | _ => "SchemaError"

/-- What is said of a value of a kind where something else is asked for. -/
def otherKindText (k : Kind) (wanted : String) : String :=
  (if k = .null then "'None'" else "'" ++ k.name ++ "' object") ++ " is not an instance of '" ++
    wanted ++ "'"

/-- What is said of a cause by itself. -/
def text : SchemaCause → String
  | .lacking e => String.ofList (Text.Quoted.encode e.toList)
  | .noEntries k => (EntryError.notNamed k).message
  | .search e => e.message
  | .notIterable k => (BindingError.notIterable k).message
  | .otherKind k w => otherKindText k w
  | .misfit m => m.text
  | .noReal k => "must be real number, not " ++ k.name
  | .tooGreatReal => "int too large to convert to float"
  | .noPort => "out of range integral type conversion attempted"
  | .notDenoting e t => "'" ++ e ++ "' must be coercible to " ++ t
  | .noMember w m => "'" ++ w ++ "' object has no attribute '" ++ m ++ "'"
  | .unknownSort s => "Unknown schema type: \"" ++ s ++ "\""
  | .invalidSort => "Cannot construct schema with \x60InvalidSchema\x60 member."
  | .empty e => "\x60" ++ e ++ "\x60 should have length > 0"
  | .noChoices => "One or more union choices required"
  | .noSteps => "One or more steps are required for a chain validator"
  | .noClass => "'cls' must be valid as the first argument to 'isinstance'"
  | .noWord e w => "Invalid " ++ e ++ " \"" ++ w ++ "\""
  | .noPattern t => "Invalid pattern, must be str or re.Pattern: " ++ String.ofList t
  | .badPattern t n f =>
    "regex parse error:\n    " ++ String.ofList t ++ "\n    " ++
      String.ofList (List.replicate n ' ') ++ "^\nerror: " ++ f
  | .noPrecision =>
    "Invalid \x60microseconds_precision\x60, must be one of \"truncate\" or \"error\""
  | .manyHosts => "default_host cannot contain a comma, see pydantic-core#326"
  | .noMode w =>
    "Invalid union mode: \x60" ++ w ++ "\x60, expected \x60smart\x60 or \x60left_to_right\x60"
  | .noArgumentMode w => "Invalid arg mode: \x60" ++ w ++ "\x60"
  | .digitsOfInfinite => "allow_inf_nan=True cannot be used with max_digits or decimal_places"
  | .twoDefaults => "'default' and 'default_factory' cannot be used together"
  | .noDefault => "'on_error = default' requires a \x60default\x60 or \x60default_factory\x60"
  | .othersNotKept e => e ++ " can only be used if extra_behavior=allow"
  | .requiredDefault f => "Field '" ++ f ++ "': a required field cannot have a default value"
  | .requiredOmitted f => "Field '" ++ f ++ "': 'on_error = omit' cannot be set for required fields"
  | .lateArgument n => "Non-default argument '" ++ n ++ "' follows default argument"
  | .argumentOmitted n => "Parameter '" ++ n ++ "': omit_on_error cannot be used with arguments"
  | .messageOfKnown =>
    "custom_error_message should not be provided if 'custom_error_type' matches a known error"
  | .unsaid f e => f ++ ": '" ++ e ++ "' required in context"
  | .otherwiseSaid f e t => f ++ ": '" ++ e ++ "' context value must be a " ++ t
  | .noPath => "Lookup paths should have at least one element"
  | .noStep => "Each alias path should have at least one element"
  | .noPathStart => "The first item in an alias path should be a string"
  | .noPathStep => "Item in an alias path should be a string or int"
  | .unwritable s => "\x60" ++ s ++ "\x60 validators require a custom serializer"
  | .unknownWriting s => "Unknown serialization schema type: \x60" ++ s ++ "\x60"

end SchemaCause

/-- A cause with the parts around it, the outermost first. -/
structure SchemaDefect where
  parts : List String
  cause : SchemaCause
  deriving DecidableEq, Repr

namespace SchemaDefect

/-- A cause that nothing is around. -/
def alone (c : SchemaCause) : SchemaDefect := ⟨[], c⟩

/-- A defect in a part. -/
def within (part : String) (d : SchemaDefect) : SchemaDefect := ⟨part :: d.parts, d.cause⟩

/-- The word for the sort of a defect. -/
def sort (d : SchemaDefect) : String := if d.parts.isEmpty then d.cause.sort else "SchemaError"

/-- What is said of a defect. -/
def message (d : SchemaDefect) : String :=
  if d.parts.isEmpty then d.cause.text
  else ":\n  SchemaError: ".intercalate d.parts ++ ":\n  " ++ d.cause.sort ++ ": " ++ d.cause.text

end SchemaDefect
end AuditConfig
