import AuditConfig.Schema.Call
import AuditConfig.Schema.Outline
import AuditConfig.Schema.Scalar

/-!
# Reading schemas

A schema is read by its sort, and the schemas in it are read with it (`Schema.read`).  A
reference is what it refers to, or stays a reference, as its outline says.  A defect is
told with the parts that are made for the sorts around it.

`SchemaPlan` is an outline that is read.
-/

namespace AuditConfig

/-- A schema that is read, and the definitions that it refers to. -/
structure SchemaPlan where
  root : Schema
  definitions : List (String × Schema)
  /-- The number of values that it was read from. -/
  size : Nat

namespace Schema

/-- The definition of an item of a list of definitions, by its name. -/
def readDefinition (go : SchemaReader) (settings : SchemaSettings) (v : Value) :
    Except SchemaDefect (String × Schema) := do
  discard (asMap v)
  let name ← asText (← required v "ref")
  let s ← go settings v
  return (name, s)

/-- A schema of definitions, which are told by others. -/
def readDefinitions (go : SchemaReader) (settings : SchemaSettings) (schema : Value) :
    Except SchemaDefect Schema := do
  discard ((← asList (← required schema "definitions")).mapM (readDefinition go settings))
  readRequired go settings schema "schema"

/-- A reference that stays one. -/
def readReference (schema : Value) : Except SchemaDefect Schema := do
  let name ← asText (← required schema "schema_ref")
  return .reference name

/-- The schema of a sort, if there is such a sort. -/
def readSort? (go : SchemaReader) (settings : SchemaSettings) (schema : Value) (sort : String) :
    Option (Except SchemaDefect Schema) :=
  match sort with
  | "definitions" => some (readDefinitions go settings schema)
  | "definition-ref" => some (readReference schema)
  | s =>
    (readScalar? settings schema s).or <| (readCollection? go settings schema s).or <|
      (readChoice? go settings schema s).or <| (readNamed? go settings schema s).or <|
        readCall? go settings schema s

/-- The sort of what is no valid schema. -/
def invalidSort : String := "invalid"

/-- The definition that takes the place of a schema, if it is a reference with one. -/
def inPlaceOf? (inlined : List (Key × Value)) (schema : Value) : Option Value := do
  let sort ← found? schema SchemaOutline.sortName
  let name ← found? schema "schema_ref"
  let k ← name.key?
  if sort.isName SchemaOutline.referenceSort then SchemaOutline.boundTo k inlined else none

/-- Reads a schema, as many steps deep as are given. -/
def read (inlined : List (Key × Value)) : Nat → SchemaReader
  | 0, _, _ => refuse .invalidSort
  | fuel + 1, settings, schema =>
    match inPlaceOf? inlined schema with
    | some definition => read inlined fuel settings definition
    | none => do
      discard (asMap schema)
      let sort ← asText (← required schema SchemaOutline.sortName)
      if sort = invalidSort then refuse .invalidSort
      else
        match readSort? (read inlined fuel) settings schema sort with
        | some r => inPart (Options.partFor sort) r
        | none => refuse (.unknownSort sort)

end Schema

namespace SchemaOutline

/-- The definitions that take the place of references to them. -/
def inlined (o : SchemaOutline) (met : SchemaReferences) : List (Key × Value) :=
  met.filterMap fun r =>
    match r.2, boundTo r.1 o.definitions with
    | some reference, some d => if takesPlace reference then some (r.1, d) else none
    | _, _ => none

/-- The definitions that stay beside the schema. -/
def kept (o : SchemaOutline) (met : SchemaReferences) : List Value :=
  met.filterMap fun r =>
    if (boundTo r.1 (o.inlined met)).isSome then none else boundTo r.1 o.definitions

/-- The number of steps in which an outline is read. -/
def depth (o : SchemaOutline) : Nat := 2 * o.size + 1

/-- Reads an outline of which some references were met. -/
def read (o : SchemaOutline) (met : SchemaReferences) (settings : SchemaSettings) :
    Except SchemaDefect SchemaPlan := do
  let go := Schema.read (o.inlined met) o.depth
  (o.kept met).forM fun d => discard (entryOf d sortName)
  match o.kept met with
  | [] =>
    let root ← go settings o.root
    return ⟨root, [], o.size⟩
  | ds =>
    Schema.inPart (Options.partFor definingSort) do
      let definitions ← ds.mapM (Schema.readDefinition go settings)
      let root ← go settings o.root
      return ⟨root, definitions, o.size⟩

end SchemaOutline
end AuditConfig
