import AuditConfig.Value

/-!
# Issues: what a validation finds wrong

A validation looks at every field and collects an issue for each that it
refuses; a refusal names the model that was to be made and lists the issues in
the order in which they were found.  An issue says where it was found and what
is wrong there: `Fault.code` is the name of the fault and `Fault.message` its
explanation.
-/

namespace AuditConfig

/-- What can be wrong with an input. -/
inductive Fault where
  | missing
  | notText
  | notFieldType
  | frozen
  | notWhole
  | unreadableWhole
  | fractional
  | notFinite
  | wholeTooLong
  | notTruth
  | unreadableTruth
  | notNumber
  | unreadableNumber
  | notList
  | notMap
  | unknownName
  /-- A text of more characters than the rules allow. -/
  | longText (limit : Nat)
  /-- A text of fewer characters than the rules ask for. -/
  | shortText (limit : Nat)
  /-- The class declares no field of the name that a value is assigned to. -/
  | noField (name : String)
  /-- What is asked for is of a sort that no field has; the fault has this name and this
  explanation. -/
  | unlike (code text : String)
  deriving DecidableEq, Repr

namespace Fault

/-- The name of a fault. -/
def code : Fault → String
  | .missing => "missing"
  | .notText => "string_type"
  | .notFieldType => "enum"
  | .frozen => "frozen_instance"
  | .notWhole => "int_type"
  | .unreadableWhole => "int_parsing"
  | .fractional => "int_from_float"
  | .notFinite => "finite_number"
  | .wholeTooLong => "int_parsing_size"
  | .notTruth => "bool_type"
  | .unreadableTruth => "bool_parsing"
  | .notNumber => "float_type"
  | .unreadableNumber => "float_parsing"
  | .notList => "list_type"
  | .notMap => "dict_type"
  | .unknownName => "extra_forbidden"
  | .longText _ => "string_too_long"
  | .shortText _ => "string_too_short"
  | .noField _ => "no_such_attribute"
  | .unlike c _ => c

/-- A count of characters. -/
def characters (n : Nat) : String :=
  toString n ++ (if n = 1 then " character" else " characters")

/-- The explanation of a fault. -/
def message : Fault → String
  | .missing => "Field required"
  | .notText => "Input should be a valid string"
  | .notFieldType => "Input should be 'string', 'integer' or 'boolean'"
  | .frozen => "Instance is frozen"
  | .notWhole => "Input should be a valid integer"
  | .unreadableWhole => "Input should be a valid integer, unable to parse string as an integer"
  | .fractional => "Input should be a valid integer, got a number with a fractional part"
  | .notFinite => "Input should be a finite number"
  | .wholeTooLong => "Unable to parse input string as an integer, exceeded maximum size"
  | .notTruth => "Input should be a valid boolean"
  | .unreadableTruth => "Input should be a valid boolean, unable to interpret input"
  | .notNumber => "Input should be a valid number"
  | .unreadableNumber => "Input should be a valid number, unable to parse string as a number"
  | .notList => "Input should be a valid list"
  | .notMap => "Input should be a valid dictionary"
  | .unknownName => "Extra inputs are not permitted"
  | .longText n => "String should have at most " ++ characters n
  | .shortText n => "String should have at least " ++ characters n
  | .noField n => "Object has no attribute '" ++ n ++ "'"
  | .unlike _ t => t

end Fault

/-- A fault and the path of names that leads to it. -/
structure Issue where
  path : List String
  fault : Fault
  deriving DecidableEq, Repr

/-- The refusal to make a model out of an input. -/
structure Refusal where
  /-- The title of the model, normally its name. -/
  title : Value
  issues : List Issue
  deriving Repr

/-- The refusal of one input of a named model. -/
def Refusal.single (model : String) (path : List String) (fault : Fault) : Refusal :=
  ⟨.text model, [⟨path, fault⟩]⟩

/-- What is said of the first issue of a refusal. -/
def Refusal.message (r : Refusal) : String := (r.issues.head?.map (·.fault.message)).getD ""

end AuditConfig
