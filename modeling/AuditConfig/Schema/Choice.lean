import AuditConfig.Schema.Collection
import AuditConfig.Schema.CustomFault

/-!
# Schemas of choices

A schema can choose among others, by trying them or by what is found at a place
(`readLookup`), and it can put others one behind the other.  Some schemas change what
another one takes, or what it tells.
-/

namespace AuditConfig
namespace Schema

/-- A step of a path at an index. -/
def readPathStep (index : Nat) : Value → Except SchemaDefect Key
  | .text s => .ok (.text s)
  | .int n => if index = 0 then refuse .noPathStart else .ok (.int n)
  | _ => if index = 0 then refuse .noPathStart else refuse .noPathStep

/-- A path. -/
def readPath (v : Value) : Except SchemaDefect (List Key) := do
  match ← asList v with
  | [] => refuse .noStep
  | vs => (vs.zipIdx).mapM fun s => readPathStep s.2 s.1

/-- Some paths: one name, one path, or several paths. -/
def readPaths : Value → Except SchemaDefect (List (List Key))
  | .text s => .ok [[.text s]]
  | v => do
    match ← asList v with
    | [] => refuse .noPath
    | .text s :: vs =>
      let path ← readPath (.list (.text s :: vs))
      return [path]
    | vs => vs.mapM readPath

/-- How a step of a path is shown. -/
def stepText (k : Key) : String := String.ofList (k.quoted.toOption.getD [])

/-- How paths are shown. -/
def pathsText (paths : List (List Key)) : String :=
  " | ".intercalate (paths.map fun p => ".".intercalate (p.map stepText))

/-- A schema of choices that are tried. -/
def readUnion (go : SchemaReader) (settings : SchemaSettings) (schema : Value) :
    Except SchemaDefect Schema := do
  let choices ← (← asList (← required schema "choices")).mapM (go settings)
  match ← (found? schema "mode").mapM asText with
  | none => pure ()
  | some word => if word ∉ ["smart", "left_to_right"] then refuse (.noMode word)
  let collapses :=
    match found? schema "auto_collapse" with
    | some (.bool b) => b
    | _ => true
  match choices, collapses with
  | [], _ => refuse .noChoices
  | [s], true => return s
  | ss, _ =>
    let fault ← customFault? schema
    let strict ← strictness settings schema
    return .union strict fault (ss.map (none, ·))

/-- A schema of choices by what is found at a place. -/
def readTagged (go : SchemaReader) (settings : SchemaSettings) (schema : Value) :
    Except SchemaDefect Schema := do
  let paths ← readPaths (← required schema "discriminator")
  let choices ← (← asMap (← required schema "choices")).mapM fun e => do
    let s ← go settings e.2
    return (e.1.value, s)
  let fromAttributes ← flagSetting? settings schema "from_attributes" "from_attributes"
  let strict ← strictness settings schema
  let fault ← customFault? schema
  return .tagged strict (fromAttributes.getD true) fault ⟨pathsText paths, paths, []⟩ choices

/-- A schema of another one's values and of nothing. -/
def readNullable (go : SchemaReader) (settings : SchemaSettings) (schema : Value) :
    Except SchemaDefect Schema := do
  let inner ← readRequired go settings schema "schema"
  return .nullable inner

/-- What stands in place of a value that is not given. -/
def readFallback (schema : Value) : Except SchemaDefect Fallback :=
  match found? schema "default", found? schema "default_factory" with
  | some _, some _ => refuse .twoDefaults
  | some v, none => .ok (.value v)
  | none, some f => do
    discard (flag? schema "default_factory_takes_data")
    return .called f.kind.name
  | none, none => .ok .none

/-- What becomes of a value that is refused. -/
def readOnRefusal (schema : Value) (fallback : Fallback) : Except SchemaDefect OnRefusal := do
  match ← (found? schema "on_error").mapM asText with
  | some "omit" => return .omit
  | some "default" =>
    match fallback with
    | .none => refuse .noDefault
    | _ => return .fallback
  | _ => return .raise

/-- A schema with a default. -/
def readDefault (go : SchemaReader) (settings : SchemaSettings) (schema : Value) :
    Except SchemaDefect Schema := do
  let fallback ← readFallback schema
  let onRefusal ← readOnRefusal schema fallback
  let inner ← readRequired go settings schema "schema"
  let validated ← flagSetting? settings schema "validate_default" "validate_default"
  return .default fallback onRefusal (validated.getD false) inner

/-- A schema that tells one fault in place of others. -/
def readRenaming (go : SchemaReader) (settings : SchemaSettings) (schema : Value) :
    Except SchemaDefect Schema := do
  let fault ← customFault? schema
  let inner ← readRequired go settings schema "schema"
  return (fault.map fun f => Schema.renaming f inner).getD inner

/-- The steps of a schema, which is itself a step if it has none. -/
def stepsOf : Schema → List Schema
  | .chain ss => ss
  | s => [s]

/-- A schema of steps. -/
def readChain (go : SchemaReader) (settings : SchemaSettings) (schema : Value) :
    Except SchemaDefect Schema := do
  let steps ← (← asList (← required schema "steps")).mapM (go settings)
  match steps.flatMap stepsOf with
  | [] => refuse .noSteps
  | [s] => return s
  | ss => return .chain ss

/-- A schema of two, of which one is for strict validation. -/
def readLaxOrStrict (go : SchemaReader) (settings : SchemaSettings) (schema : Value) :
    Except SchemaDefect Schema := do
  let lax ← readRequired go settings schema "lax_schema"
  let strictly ← readRequired go settings schema "strict_schema"
  let strict ← strictness settings schema
  return .laxOrStrict strict lax strictly

/-- A schema of two, of which one is for texts that are read as values. -/
def readJsonOrPlain (go : SchemaReader) (settings : SchemaSettings) (schema : Value) :
    Except SchemaDefect Schema := do
  let json ← readRequired go settings schema "json_schema"
  let plain ← readRequired go settings schema "python_schema"
  return .jsonOrPlain json plain

/-- A schema of texts that are read as values. -/
def readJson (go : SchemaReader) (settings : SchemaSettings) (schema : Value) :
    Except SchemaDefect Schema := do
  let inner ← readOrAny go settings schema "schema"
  return .json inner

/-- The schema of a sort of choices, if there is such a sort. -/
def readChoice? (go : SchemaReader) (settings : SchemaSettings) (schema : Value) (sort : String) :
    Option (Except SchemaDefect Schema) :=
  match sort with
  | "union" => some (readUnion go settings schema)
  | "tagged-union" => some (readTagged go settings schema)
  | "nullable" => some (readNullable go settings schema)
  | "default" => some (readDefault go settings schema)
  | "custom-error" => some (readRenaming go settings schema)
  | "chain" => some (readChain go settings schema)
  | "lax-or-strict" => some (readLaxOrStrict go settings schema)
  | "json-or-python" => some (readJsonOrPlain go settings schema)
  | "json" => some (readJson go settings schema)
  | _ => none

end Schema
end AuditConfig
