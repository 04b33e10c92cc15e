import AuditConfig.Schema.Named

/-!
# Schemas that call something

A schema can call what an entry says before another one validates, after it, around it
or in its place, and it can call something with arguments that it validates.  No value
can be called, so that each such call fails when it comes to it.
-/

namespace AuditConfig
namespace Schema

/-- What is called, by the word for it and as it is shown. -/
def readFunction (schema : Value) : Except SchemaDefect (String × List Char) := do
  let said ← required schema "function"
  discard (asMap said)
  let function ← required said "function"
  discard (asText (← required said "type"))
  return (function.kind.name, function.quoted.toOption.getD [])

/-- A schema that calls something when another one validates. -/
def readCalling (go : SchemaReader) (settings : SchemaSettings) (schema : Value) (c : Calling) :
    Except SchemaDefect Schema := do
  let inner ← readRequired go settings schema "schema"
  let (word, shown) ← readFunction schema
  return .calling c word shown inner

/-- A schema that calls something in place of a validation. -/
def readPlainCalling (schema : Value) : Except SchemaDefect Schema := do
  let (word, shown) ← readFunction schema
  return .calling .alone word shown .any

/-- What stands in place of the name of what is called. -/
def unknownFunction : String := "<unknown>"

/-- A schema that calls something with arguments. -/
def readCall (go : SchemaReader) (settings : SchemaSettings) (schema : Value) :
    Except SchemaDefect Schema := do
  let inner ← readRequired go settings schema "arguments_schema"
  discard (readIfAny go settings schema "return_schema")
  let function ← required schema "function"
  let name ← (found? schema "function_name").mapM asText
  return .call function.kind.name (name.getD unknownFunction) inner

/-- The words for the ways of giving any number of arguments. -/
def manyModes : List String := ["var_args", "var_kwargs_uniform", "var_kwargs_unpacked_typed_dict"]

/-- How an argument is given. -/
def readMode (argument : Value) : Except SchemaDefect ArgumentMode := do
  match ← (found? argument "mode").mapM asText with
  | none => return .byEither
  | some "positional_or_keyword" => return .byEither
  | some "positional_only" => return .byPosition
  | some "keyword_only" => return .byName
  | some word => if word ∈ manyModes then return .byEither else refuse (.noArgumentMode word)

/-- How messages call an argument. -/
def argumentPart (name : String) : String := "Parameter '" ++ name ++ "'"

/-- Arguments that stand behind others, of which one had a default and one was given by
its name alone, or not. -/
def readArguments (go : SchemaReader) (settings : SchemaSettings) (hadDefault hadNamed : Bool) :
    List Value → Except SchemaDefect (List (Lookup × ArgumentMode × Schema))
  | [] => .ok []
  | argument :: rest => do
    discard (asMap argument)
    let name ← asText (← required argument "name")
    let mode ← readMode argument
    let lookup ← readLookup settings argument name "alias"
    let inner ← required argument "schema"
    let s ← inPart (argumentPart name) (go settings inner)
    if omitsRefused s then refuse (.argumentOmitted name)
    let named := hadNamed || mode = .byName
    if hadDefault && !hasFallback s && !named then refuse (.lateArgument name)
    let others ← readArguments go settings (hadDefault || hasFallback s) named rest
    return (lookup, mode, s) :: others

/-- A schema of arguments. -/
def readParameters (go : SchemaReader) (settings : SchemaSettings) (schema : Value) :
    Except SchemaDefect Schema := do
  let parameters ←
    readArguments go settings false false (← asList (← required schema "arguments_schema"))
  let named ← readIfAny go settings schema "var_kwargs_schema"
  let rest ← readIfAny go settings schema "var_args_schema"
  checkNaming settings
  let others ← readUndeclared settings schema .refused
  return .arguments others rest named parameters

/-- The schema of a sort that calls something, if there is such a sort. -/
def readCall? (go : SchemaReader) (settings : SchemaSettings) (schema : Value) (sort : String) :
    Option (Except SchemaDefect Schema) :=
  match sort with
  | "function-before" => some (readCalling go settings schema .before)
  | "function-after" => some (readCalling go settings schema .after)
  | "function-wrap" => some (readCalling go settings schema .around)
  | "function-plain" => some (readPlainCalling schema)
  | "call" => some (readCall go settings schema)
  | "arguments" => some (readParameters go settings schema)
  | "arguments-v3" => some (readParameters go settings schema)
  | _ => none

end Schema
end AuditConfig
