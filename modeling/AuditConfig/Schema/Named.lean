import AuditConfig.Options.Validating
import AuditConfig.Schema.Choice

/-!
# Schemas of named values

A schema of named values has a schema for each name, which may be looked for under
another name (`readLookup`), and says what becomes of other names.  The map of a typed
map has settings of its own; the fields of a model and of a class that is no more than
its data have those of the class.

No value is a class, so that the schemas of models by their class are never read to
their end.
-/

namespace AuditConfig
namespace Schema

/-- The truth value of a setting, or another one. -/
def settingFlag (settings : SchemaSettings) (name : String) (otherwise : Bool) : Bool :=
  match settings.get? name with
  | some (.bool b) => b
  | _ => otherwise

/-- Where a named value is looked for; the entry of some name says other names for it. -/
def readLookup (settings : SchemaSettings) (field : Value) (name aliasEntry : String) :
    Except SchemaDefect Lookup := do
  let plain : List (List Key) := [[.text name]]
  match ← (found? field aliasEntry).mapM readPaths with
  | none => return ⟨name, plain, [name]⟩
  | some paths =>
    let byAlias := settingFlag settings "validate_by_alias" true
    let byName := settingFlag settings "validate_by_name" false
    let tells := settingFlag settings "loc_by_alias" true && byAlias
    let told := if tells then ((paths.head?.getD []).map Key.written) else [name]
    return ⟨name, if !byAlias then plain else if byName then paths ++ plain else paths, told⟩

/-- Checks the settings for the names of fields, which are asked for at last. -/
def checkNaming (settings : SchemaSettings) : Except SchemaDefect Unit :=
  ["loc_by_alias", "validate_by_alias", "validate_by_name"].forM fun name =>
    discard ((settings.get? name).mapM asFlag)

/-- What becomes of other names. -/
def readUndeclared (settings : SchemaSettings) (schema : Value) (otherwise : Undeclared) :
    Except SchemaDefect Undeclared := do
  match setting? settings schema "extra_behavior" "extra_fields_behavior" with
  | none => return otherwise
  | some .null => return otherwise
  | some v =>
    let word ← asText v
    match Undeclared.ofWord? word with
    | some u => return u
    | none => refuse (.misfit (.noChoice word))

/-- The schema of the values of other names. -/
def readOthers (go : SchemaReader) (settings : SchemaSettings) (schema : Value)
    (others : Undeclared) (entry : String) : Except SchemaDefect (Option Schema) := do
  match found? schema entry with
  | none => return none
  | some v =>
    if others ≠ .kept then refuse (.othersNotKept entry)
    let s ← go settings v
    return some s

/-- Whether a schema has something in place of a value that is not given. -/
def hasFallback : Schema → Bool
  | .default .none _ _ _ => false
  | .default .. => true
  | _ => false

/-- Whether a value that a schema refuses is left out. -/
def omitsRefused : Schema → Bool
  | .default _ .omit _ _ => true
  | _ => false

/-- Whether the value of a name has to be given. -/
def readNeed (field : Value) (name : String) (s : Schema) (otherwise : Bool) :
    Except SchemaDefect Bool := do
  let said ← flag? field "required"
  if said = some true && hasFallback s then refuse (.requiredDefault name)
  let required := said.getD otherwise
  if required && omitsRefused s then refuse (.requiredOmitted name)
  return required

/-- A schema of a typed map. -/
def readTyped (go : SchemaReader) (schema : Value) : Except SchemaDefect Schema := do
  let own ← (found? schema "config").mapM asMap
  let settings : SchemaSettings := Entries.ofList ((own.getD []).filterMap fun e =>
    match e.1 with
    | .text name => some (name, e.2)
    | _ => none)
  let strict ← strictness settings schema
  let total := (← flagSetting? settings schema "total" "typed_dict_total").getD true
  let others ← readUndeclared settings schema .dropped
  let othersSchema ← readOthers go settings schema others "extras_schema"
  let fields ← (← asMap (← required schema "fields")).mapM fun e => do
    discard (asMap e.2)
    let name ← asText e.1.value
    let inner ← required e.2 "schema"
    let s ← inPart (Options.fieldPart name) (go settings inner)
    let need ← readNeed e.2 name s total
    let lookup ← readLookup settings e.2 name "validation_alias"
    return (lookup, need, s)
  checkNaming settings
  let name :=
    match found? schema "cls_name" with
    | some (.text s) => some s
    | _ => none
  return .named (.map name) strict false others othersSchema fields

/-- The name of a model that has none of its own. -/
def modelName : String := "Model"

/-- A schema of the fields of a model. -/
def readModelFields (go : SchemaReader) (settings : SchemaSettings) (schema : Value) :
    Except SchemaDefect Schema := do
  let strict ← strictness settings schema
  let fromAttributes ← flagSetting? settings schema "from_attributes" "from_attributes"
  let others ← readUndeclared settings schema .dropped
  let othersSchema ← readOthers go settings schema others "extras_schema"
  discard (readOthers go settings schema others "extras_keys_schema")
  let name := (← (found? schema "model_name").mapM asText).getD modelName
  let fields ← (← asMap (← required schema "fields")).mapM fun e => do
    discard (asMap e.2)
    let name ← asText e.1.value
    let inner ← required e.2 "schema"
    let s ← inPart (Options.fieldPart name) (go settings inner)
    let lookup ← readLookup settings e.2 name "validation_alias"
    checkEntry e.2 "frozen"
    return (lookup, true, s)
  checkNaming settings
  return .named (.model name) strict (fromAttributes.getD false) others othersSchema fields
where
  /-- Checks that the value of an entry is a truth value. -/
  checkEntry (field : Value) (name : String) : Except SchemaDefect Unit :=
    discard (flag? field name)

/-- How messages call a field of a class that is no more than its data. -/
def dataFieldPart (name : String) : String := "Field '" ++ name ++ "'"

/-- A schema of the fields of a class that is no more than its data. -/
def readDataFields (go : SchemaReader) (settings : SchemaSettings) (schema : Value) :
    Except SchemaDefect Schema := do
  let others ← readUndeclared settings schema .dropped
  let othersSchema ← readOthers go settings schema others "extras_schema"
  let fields ← (← asList (← required schema "fields")).mapM fun field => do
    discard (asMap field)
    let name ← asText (← required field "name")
    let inner ← required field "schema"
    let lookup ← readLookup settings field name "validation_alias"
    let s ← inPart (dataFieldPart name) (go settings inner)
    ["kw_only", "init", "init_only", "frozen"].forM fun e => discard (flag? field e)
    return (lookup, true, s)
  discard (flag? schema "collect_init_only")
  let name ← asText (← required schema "dataclass_name")
  checkNaming settings
  return .named (.data name) false false others othersSchema fields

/-- A schema of the objects of a class that is said by an entry. -/
def readOfClass (schema : Value) : Except SchemaDefect Schema := do
  discard ((found? schema "config").mapM asMap)
  let v ← required schema "cls"
  refuse (.otherKind v.kind "type")

/-- The schema of a sort of named values, if there is such a sort. -/
def readNamed? (go : SchemaReader) (settings : SchemaSettings) (schema : Value) (sort : String) :
    Option (Except SchemaDefect Schema) :=
  match sort with
  | "typed-dict" => some (readTyped go schema)
  | "model-fields" => some (readModelFields go settings schema)
  | "dataclass-args" => some (readDataFields go settings schema)
  | "model" => some (readOfClass schema)
  | "dataclass" => some (readOfClass schema)
  | _ => none

end Schema
end AuditConfig
