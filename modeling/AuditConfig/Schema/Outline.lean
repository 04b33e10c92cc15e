import AuditConfig.Schema.Entry
import AuditConfig.Value.Size

/-!
# Outlines: a schema and the definitions it refers to

A schema is looked through before it is read.  A schema of definitions is the schema
that they are for, and beside it the definitions by their names; a schema with a name is
itself a definition, and a reference to it stands in its place (`SchemaOutline.ofValue`).

Then the schema is followed from each schema to those in it, and from references to what
they stand for, the first time that each of these is met (`SchemaOutline.references`).
What is looked for on the way and not there is a defect; a reference to what is not
defined puts the whole schema off (`SchemaHalt.undefined`).

A definition that is met once can take the place of the reference, unless the reference
says something itself (`SchemaOutline.takesPlace`).
-/

namespace AuditConfig

/-- A schema and the definitions beside it. -/
structure SchemaOutline where
  root : Value
  /-- The definitions by what they are referred to. -/
  definitions : List (Key × Value)

/-- The references that were met: what they refer to, and the schema of a reference that
was met once. -/
abbrev SchemaReferences := List (Key × Option Value)

/-- Why a schema is not followed to its end. -/
inductive SchemaHalt where
  | defect (d : SchemaDefect)
  /-- A reference is to what is not defined. -/
  | undefined
  deriving Repr

namespace SchemaOutline

/-- The entry of a schema that tells its sort. -/
def sortName : String := "type"

/-- The entry that holds what a schema says of itself. -/
def metadataName : String := "metadata"

/-- The entry of that for what describes a schema. -/
def describersName : String := "pydantic_js_functions"

/-- The entry of that for what chooses among others. -/
def chooserName : String := "pydantic_internal_union_discriminator"

/-- The entry that says how values are written. -/
def writingName : String := "serialization"

/-- The sort of the schemas that refer to others. -/
def referenceSort : String := "definition-ref"

/-- The sort of the schemas that define others. -/
def definingSort : String := "definitions"

/-- The entry of a value. -/
def entryOf (v : Value) (name : String) : Except SchemaDefect Value :=
  match v.entry name with
  | .ok w => .ok w
  | .error (.noEntry n) => Schema.refuse (.lacking n)
  | .error (.notNamed k) => Schema.refuse (.noEntries k)

/-- The items of a value. -/
def itemsOf (v : Value) : Except SchemaDefect (List Value) :=
  match v.sequence? with
  | some vs => .ok vs
  | none => Schema.refuse (.notIterable v.kind)

/-- What a value is looked up by. -/
def keyOf (v : Value) : Except SchemaDefect Key :=
  match v.key? with
  | some k => .ok k
  | none => Schema.refuse (.search (.unhashable v.kind))

/-- The value of a map whose member of this name is asked for. -/
def mapOf (v : Value) (member : String) : Except SchemaDefect (List (Key × Value)) :=
  match v with
  | .map es => .ok es
  | v => Schema.refuse (.noMember v.kind.name member)

/-- What is bound to a key that is the same. -/
def boundTo {α : Type} (k : Key) (l : List (Key × α)) : Option α := (l.find? (·.1.same k)).map (·.2)

/-- The definition of an item of a list of definitions. -/
def definitionOf (v : Value) : Except SchemaDefect (Key × Value) := do
  let name ← entryOf v "ref"
  let k ← keyOf name
  return (k, v)

/-- A reference to a name. -/
def referenceTo (name : Value) : Value :=
  .map [(.text sortName, .text referenceSort), (.text "schema_ref", name)]

/-- The outline of a value that is given for a schema. -/
def ofValue (v : Value) : Except SchemaDefect SchemaOutline := do
  let sort ← entryOf v sortName
  let definitions ←
    if sort.isName definingSort then
      let listed ← itemsOf (← entryOf v definingSort)
      listed.mapM definitionOf
    else .ok []
  let root ← if sort.isName definingSort then entryOf v "schema" else .ok v
  let es ← mapOf root "get"
  let name := ((Entries.ofList es).get? (.text "ref")).getD .null
  if name.isTrue then
    let k ← keyOf name
    return ⟨referenceTo name, (k, root) :: definitions.filter (!·.1.same k)⟩
  else return ⟨root, definitions⟩

/-- The schema that what describes the class is put with, if there is one. -/
def described? (o : SchemaOutline) : Except SchemaDefect (Option Value) := do
  let sort ← entryOf o.root sortName
  if sort.isName referenceSort then
    let k ← keyOf (← entryOf o.root "schema_ref")
    return boundTo k o.definitions
  else if sort.isName definingSort then
    let inner ← entryOf o.root "schema"
    return some inner
  else return some o.root

/-- Checks that what describes the class, which this word is for, can be put with what
describes a schema. -/
def checkDescribers (word : String) (v : Value) : Except SchemaDefect Unit :=
  match v with
  | .list _ => .ok ()
  | .map _ => Schema.refuse (.noMember Kind.map.name "append")
  | .text _ =>
    Schema.refuse (.search (.notText word))
  | v => Schema.refuse (.search (.notIterable v.kind.name))

/-- Checks that what describes the class, which this word is for, can be put with the
schema. -/
def checkDescribed (o : SchemaOutline) (word : String) : Except SchemaDefect Unit := do
  match (← o.described?).filter Value.isTrue with
  | none => return
  | some v =>
    let es ← mapOf v "setdefault"
    match (Entries.ofList es).get? (.text metadataName) with
    | none => return
    | some m =>
      let said ← mapOf m "setdefault"
      match (Entries.ofList said).get? (.text describersName) with
      | none => return
      | some l => checkDescribers word l

/-- What follows a schema: it collects references. -/
abbrev Following := StateT SchemaReferences (Except SchemaHalt)

/-- What is looked for on the way. -/
def looked {α : Type} : Except SchemaDefect α → Following α
  | .ok a => pure a
  | .error d => throw (.defect d)

/-- Whether a name is found in a value. -/
def hasEntry (v : Value) (name : String) : Except SchemaDefect Bool :=
  match v.mentions name with
  | some b => .ok b
  | none => Schema.refuse (.search (.notIterable v.kind.name))

/-- Follows the schema of an entry, which has to be there. -/
def followEntry (go : Value → Following Unit) (v : Value) (name : String) : Following Unit := do
  go (← looked (entryOf v name))

/-- Follows the schema of an entry, if it is there. -/
def followEntryIfAny (go : Value → Following Unit) (v : Value) (name : String) :
    Following Unit := do
  if ← looked (hasEntry v name) then followEntry go v name

/-- Follows the schemas that the value of an entry has for items. -/
def followItems (go : Value → Following Unit) (v : Value) (name : String) : Following Unit := do
  (← looked (do itemsOf (← entryOf v name))).forM go

/-- The same if the entry is there. -/
def followItemsIfAny (go : Value → Following Unit) (v : Value) (name : String) :
    Following Unit := do
  if ← looked (hasEntry v name) then followItems go v name

/-- Follows the schemas that the map of an entry has for values. -/
def followValues (go : Value → Following Unit) (v : Value) (name : String) : Following Unit := do
  let es ← looked (do mapOf (← entryOf v name) "values")
  es.forM fun e => go e.2

/-- Looks for what chooses among others in what a schema says of itself. -/
def checkMetadata (v : Value) : Except SchemaDefect Unit := do
  let es ← mapOf v "get"
  match ((Entries.ofList es).get? (.text metadataName)).filter (!·.isNull) with
  | none => return
  | some m => discard (hasEntry m chooserName)

/-- Follows a reference. -/
def followReference (definitions : List (Key × Value)) (go : Value → Following Unit) (v : Value) :
    Following Unit := do
  let k ← looked (do keyOf (← entryOf v "schema_ref"))
  let met ← get
  if met.any (·.1.same k) then
    set (met.map fun r => if r.1.same k then (r.1, none) else r)
  else
    match boundTo k definitions with
    | none => throw .undefined
    | some d =>
      set (met ++ [(k, some v)])
      go d
      followEntryIfAny go v writingName
      looked (checkMetadata v)

/-- Follows the schemas in a schema of a sort. -/
def followParts (go : Value → Following Unit) (v : Value) (sort : String) : Following Unit := do
  match sort with
  | "definitions" =>
    followEntry go v "schema"
    followItems go v definingSort
  | "list" => followEntryIfAny go v "items_schema"
  | "set" => followEntryIfAny go v "items_schema"
  | "frozenset" => followEntryIfAny go v "items_schema"
  | "generator" => followEntryIfAny go v "items_schema"
  | "tuple" => followItemsIfAny go v "items_schema"
  | "dict" =>
    followEntryIfAny go v "keys_schema"
    followEntryIfAny go v "values_schema"
  | "union" => followItems go v "choices"
  | "tagged-union" => followValues go v "choices"
  | "chain" => followItems go v "steps"
  | "lax-or-strict" =>
    followEntry go v "lax_schema"
    followEntry go v "strict_schema"
  | "json-or-python" =>
    followEntry go v "json_schema"
    followEntry go v "python_schema"
  | "model-fields" =>
    followEntryIfAny go v "extras_schema"
    followItemsIfAny go v "computed_fields"
    followValues go v "fields"
  | "typed-dict" =>
    followEntryIfAny go v "extras_schema"
    followItemsIfAny go v "computed_fields"
    followValues go v "fields"
  | "dataclass-args" =>
    followItemsIfAny go v "computed_fields"
    followItems go v "fields"
  | "arguments" =>
    followItems (followEntry go · "schema") v "arguments_schema"
    followEntryIfAny go v "var_args_schema"
    followEntryIfAny go v "var_kwargs_schema"
  | "arguments-v3" => followItems (followEntry go · "schema") v "arguments_schema"
  | "call" =>
    followEntry go v "arguments_schema"
    followEntryIfAny go v "return_schema"
  | "computed-field" => followEntry go v "return_schema"
  | "function-before" =>
    followEntryIfAny go v "schema"
    followEntryIfAny go v "json_schema_input_schema"
  | "function-plain" =>
    followEntryIfAny go v "return_schema"
    followEntryIfAny go v "json_schema_input_schema"
  | "function-wrap" =>
    followEntryIfAny go v "schema"
    followEntryIfAny go v "return_schema"
    followEntryIfAny go v "json_schema_input_schema"
  | _ => followEntryIfAny go v "schema"

/-- Follows a schema to those in it, as many steps as are given. -/
def follow (definitions : List (Key × Value)) : Nat → Value → Following Unit
  | 0, _ => pure ()
  | fuel + 1, v => do
    if ← looked (hasEntry v sortName) then
      let sort ← looked (entryOf v sortName)
      if sort.isName referenceSort then
        followReference definitions (follow definitions fuel) v
      else
        match ← looked (keyOf sort) with
        | .text s => followParts (follow definitions fuel) v s
        | _ => followEntryIfAny (follow definitions fuel) v "schema"
        followEntryIfAny (follow definitions fuel) v writingName
        looked (checkMetadata v)

/-- The number of values in an outline, which no way through it is longer than. -/
def size (o : SchemaOutline) : Nat := o.root.size + Value.sizeOfEntries o.definitions

/-- The references of an outline. -/
def references (o : SchemaOutline) : Except SchemaHalt SchemaReferences :=
  ((follow o.definitions (o.size + 1) o.root).run []).map (·.2)

/-- Whether a definition takes the place of a reference that is met once. -/
def takesPlace (reference : Value) : Bool :=
  (reference.entry writingName).toOption.isNone &&
    (match (reference.entry metadataName).toOption with
      | none => true
      | some m =>
        !m.isTrue ||
          (match m with
            | .map [(k, _)] => k = .text chooserName
            | _ => false))

end SchemaOutline
end AuditConfig
