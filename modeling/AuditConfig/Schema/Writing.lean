import AuditConfig.Options.Writing
import AuditConfig.Schema.Reading

/-!
# Schemas of what is written

What writes the objects of a class is made from its schema too, in parts for the schemas
in it.  A schema can say how its values are written by a schema of its own; otherwise
they are written by its sort.  Arguments are written by no sort.

`Schema.checkWriting` finds the first defect of a schema that was read.
-/

namespace AuditConfig
namespace Schema

/-- What checks the writing of a schema with settings. -/
abbrev WritingCheck := SchemaSettings → Value → Except SchemaDefect Unit

/-- Checks the setting for a way of writing. -/
def checkWritingMode (settings : SchemaSettings) (m : WritingMode) : Except SchemaDefect Unit := do
  match settings.get? m.option with
  | none => return
  | some v =>
    let word ← asText v
    if word ∉ m.choices then refuse (.misfit (.noWriting m word))

/-- Checks the schema of an entry, if there is one. -/
def checkIfAny (go : WritingCheck) (settings : SchemaSettings) (schema : Value) (name : String) :
    Except SchemaDefect Unit :=
  discard ((found? schema name).mapM (go settings))

/-- Checks the schema of an entry, which has to be there. -/
def checkRequired (go : WritingCheck) (settings : SchemaSettings) (schema : Value) (name : String) :
    Except SchemaDefect Unit := do
  go settings (← required schema name)

/-- Checks the schemas of a list. -/
def checkItems (go : WritingCheck) (settings : SchemaSettings) (schema : Value) (name : String) :
    Except SchemaDefect Unit := do
  (← asList (← required schema name)).forM (go settings)

/-- Checks the schemas of the fields of a list or a map, each by the name that messages
have for it. -/
def checkFields (go : WritingCheck) (settings : SchemaSettings) (fields : List (String × Value)) :
    Except SchemaDefect Unit := do
  discard ((settings.get? "serialize_by_alias").mapM asFlag)
  fields.forM fun f => do
    match found? f.2 "serialization_exclude" with
    | some (.bool true) => return
    | _ => inPart (Options.fieldWriter f.1) (checkRequired go settings f.2 "schema")

/-- Checks the schemas of the fields of a map. -/
def checkNamed (go : WritingCheck) (settings : SchemaSettings) (schema : Value) :
    Except SchemaDefect Unit := do
  checkIfAny go settings schema "extras_schema"
  checkFields go settings (← asNamed (← required schema "fields"))

/-- The settings that a schema brings itself. -/
def ownSettings (schema : Value) : SchemaSettings :=
  match found? schema "config" with
  | some (.map es) => Entries.ofList (es.filterMap fun e =>
      match e.1 with
      | .text name => some (name, e.2)
      | _ => none)
  | _ => .empty

/-- Checks the entry that says when a way of writing is used. -/
def checkUse (said : Value) : Except SchemaDefect Unit :=
  discard ((found? said "when_used").mapM asText)

/-- Checks what is called in place of a way of writing. -/
def checkWritingCall (go : WritingCheck) (settings : SchemaSettings) (said : Value) :
    Except SchemaDefect Unit := do
  discard (required said "function")
  ["is_field_serializer", "info_arg"].forM fun name => discard (flag? said name)
  checkIfAny go settings said "return_schema"
  checkUse said

/-- The entries of the schemas that schemas of some sorts are written by, if they have
them. -/
def writtenIfAny : List (String × List String) :=
  [("list", ["items_schema"]), ("set", ["items_schema"]), ("frozenset", ["items_schema"]),
    ("generator", ["items_schema"]), ("dict", ["keys_schema", "values_schema"]),
    ("json", ["schema"]), ("call", ["return_schema"])]

/-- The same for schemas that have to have them. -/
def writtenBy : List (String × List String) :=
  [("nullable", ["schema"]), ("default", ["schema"]), ("custom-error", ["schema"]),
    ("function-before", ["schema"]), ("function-after", ["schema"]), ("function-wrap", ["schema"]),
    ("lax-or-strict", ["strict_schema"]), ("json-or-python", ["json_schema", "python_schema"])]

/-- The ways of writing that the values of some sorts have. -/
def writingModes (settings : SchemaSettings) : List (String × WritingMode) :=
  let lengths :=
    if (settings.get? WritingMode.temporal.option).isSome then WritingMode.temporal else .duration
  [("float", .unbounded), ("bytes", .bytes), ("date", .temporal), ("time", .temporal),
    ("datetime", .temporal), ("timedelta", lengths)]

/-- The sorts of values that nothing more is asked of to write them. -/
def writtenPlainly : List String :=
  ["any", "none", "bool", "int", "str", "decimal", "literal", "enum", "is-instance", "is-subclass",
    "callable", "missing-sentinel", "url", "multi-host-url", "uuid", "complex", "function-plain",
    "definition-ref", "model", "dataclass"]

/-- The sorts that are not written. -/
def unwritten : List String := ["arguments", "arguments-v3"]

/-- Checks the writing of a schema by its sort, if there is such a sort. -/
def checkSort? (go : WritingCheck) (settings : SchemaSettings) (schema : Value) (sort : String) :
    Option (Except SchemaDefect Unit) :=
  match sort with
  | "tuple" => some (checkItems go settings schema "items_schema")
  | "union" => some (checkItems go settings schema "choices")
  | "chain" => some do
    match (← asList (← required schema "steps")).getLast? with
    | none => return
    | some s => go settings s
  | "tagged-union" => some do
    (← asMap (← required schema "choices")).forM fun e => go settings e.2
  | "definitions" => some do
    checkItems go settings schema "definitions"
    checkRequired go settings schema "schema"
  | "model-fields" => some (checkNamed go settings schema)
  | "typed-dict" => some (checkNamed go (ownSettings schema) schema)
  | "dataclass-args" => some do
    let fields ← asList (← required schema "fields")
    checkFields go settings (fields.zipIdx.map fun f => (toString f.2, f.1))
  | "format" => some do
    discard (asText (← required schema "formatting_string"))
    checkUse schema
  | "to-string" => some (checkUse schema)
  | s =>
    if s ∈ unwritten then some (refuse (.unwritable s))
    else if s ∈ writtenPlainly then some (.ok ())
    else
      match writtenIfAny.lookup s, writtenBy.lookup s, (writingModes settings).lookup s with
      | some names, _, _ => some (names.forM (checkIfAny go settings schema))
      | none, some names, _ => some (names.forM (checkRequired go settings schema))
      | none, none, some m => some (checkWritingMode settings m)
      | none, none, none => none

/-- Checks the writing of a schema by a sort. -/
def checkSort (go : WritingCheck) (settings : SchemaSettings) (schema : Value) (sort : String) :
    Except SchemaDefect Unit :=
  match checkSort? go settings schema sort with
  | some r => inPart (Options.writerFor sort) r
  | none => refuse (.unknownWriting sort)

/-- Checks the writing of a schema by its own sort. -/
def checkOwnSort (go : WritingCheck) (settings : SchemaSettings) (schema : Value) :
    Except SchemaDefect Unit := do
  checkSort go settings schema (← asText (← required schema SchemaOutline.sortName))

/-- The sorts of writing that go with the sort of the schema. -/
def besideSorts : List String := ["include-exclude-sequence", "include-exclude-dict"]

/-- Checks the writing of a schema as it says itself. -/
def checkSaid (go : WritingCheck) (settings : SchemaSettings) (schema said : Value) :
    Except SchemaDefect Unit := do
  discard (asMap said)
  match ← (found? said SchemaOutline.sortName).mapM asText with
  | none => checkOwnSort go settings schema
  | some "function-plain" =>
    inPart (Options.writerFor "function-plain") (checkWritingCall go settings said)
  | some "function-wrap" =>
    inPart (Options.writerFor "function-wrap") do
      checkWritingCall go settings said
      match found? said "schema" with
      | some inner => go settings inner
      | none => checkOwnSort go settings schema
  | some sort =>
    if sort ∈ besideSorts then checkOwnSort go settings schema else checkSort go settings said sort

/-- Checks the writing of a schema, as many steps deep as are given. -/
def checkWriting (inlined : List (Key × Value)) : Nat → WritingCheck
  | 0, _, _ => .ok ()
  | fuel + 1, settings, schema =>
    match inPlaceOf? inlined schema with
    | some definition => checkWriting inlined fuel settings definition
    | none =>
      let go := checkWriting inlined fuel
      match found? schema SchemaOutline.writingName with
      | some said => checkSaid go settings schema said
      | none => checkOwnSort go settings schema

end Schema

namespace SchemaOutline

/-- Checks the writing of an outline of which some references were met. -/
def checkWriting (o : SchemaOutline) (met : SchemaReferences) (settings : SchemaSettings) :
    Except SchemaDefect Unit :=
  let go := Schema.checkWriting (o.inlined met) o.depth settings
  match o.kept met with
  | [] => go o.root
  | ds =>
    Schema.inPart (Options.writerFor definingSort) do
      ds.forM go
      go o.root

end SchemaOutline
end AuditConfig
