import AuditConfig.Schema
import AuditConfig.Schema.Entry

/-!
# Schemas of collections

A schema of a collection has schemas for the members, and bounds on their number.  A
collection whose members have no schema takes members of all kinds.

What reads the schemas of the members is given (`SchemaReader`).
-/

namespace AuditConfig

/-- What reads a schema with settings. -/
abbrev SchemaReader := SchemaSettings → Value → Except SchemaDefect Schema

namespace Schema

/-- The schema of an entry, which has to be there. -/
def readRequired (go : SchemaReader) (settings : SchemaSettings) (schema : Value) (name : String) :
    Except SchemaDefect Schema := do
  go settings (← required schema name)

/-- The schema of an entry, if there is one. -/
def readIfAny (go : SchemaReader) (settings : SchemaSettings) (schema : Value) (name : String) :
    Except SchemaDefect (Option Schema) :=
  (found? schema name).mapM (go settings)

/-- The schema of an entry, or that of any value. -/
def readOrAny (go : SchemaReader) (settings : SchemaSettings) (schema : Value) (name : String) :
    Except SchemaDefect Schema := do
  return (← readIfAny go settings schema name).getD .any

/-- Checks whether the first fault ends the validation. -/
def checkFailing (schema : Value) : Except SchemaDefect Unit := discard (flag? schema "fail_fast")

/-- A schema of lists. -/
def readList (go : SchemaReader) (settings : SchemaSettings) (schema : Value) :
    Except SchemaDefect Schema := do
  let item ← readOrAny go settings schema "items_schema"
  let strict ← strictness settings schema
  let least ← count? schema "min_length"
  let most ← count? schema "max_length"
  checkFailing schema
  return .list strict ⟨least, most⟩ item

/-- A schema of collections without order, which are fixed or not. -/
def readSet (go : SchemaReader) (settings : SchemaSettings) (schema : Value) (fixed : Bool) :
    Except SchemaDefect Schema := do
  let item ← readOrAny go settings schema "items_schema"
  let most ← count? schema "max_length"
  let strict ← strictness settings schema
  let least ← count? schema "min_length"
  checkFailing schema
  return .set fixed strict ⟨least, most⟩ item

/-- A schema of lists that have a schema for each item. -/
def readTuple (go : SchemaReader) (settings : SchemaSettings) (schema : Value) :
    Except SchemaDefect Schema := do
  let items ← (← asList (← required schema "items_schema")).mapM (go settings)
  let repeated ← count? schema "variadic_item_index"
  let strict ← strictness settings schema
  let least ← count? schema "min_length"
  let most ← count? schema "max_length"
  checkFailing schema
  return .tuple strict ⟨least, most⟩ repeated items

/-- A schema of what can be gone through. -/
def readGenerator (go : SchemaReader) (settings : SchemaSettings) (schema : Value) :
    Except SchemaDefect Schema := do
  let item ← readOrAny go settings schema "items_schema"
  discard (count? schema "min_length")
  discard (count? schema "max_length")
  return .generator item

/-- A schema of maps. -/
def readDict (go : SchemaReader) (settings : SchemaSettings) (schema : Value) :
    Except SchemaDefect Schema := do
  let key ← readOrAny go settings schema "keys_schema"
  let value ← readOrAny go settings schema "values_schema"
  let strict ← strictness settings schema
  let least ← count? schema "min_length"
  let most ← count? schema "max_length"
  checkFailing schema
  return .dict strict ⟨least, most⟩ key value

/-- The schema of a sort of collections, if there is such a sort. -/
def readCollection? (go : SchemaReader) (settings : SchemaSettings) (schema : Value)
    (sort : String) : Option (Except SchemaDefect Schema) :=
  match sort with
  | "list" => some (readList go settings schema)
  | "set" => some (readSet go settings schema false)
  | "frozenset" => some (readSet go settings schema true)
  | "tuple" => some (readTuple go settings schema)
  | "generator" => some (readGenerator go settings schema)
  | "dict" => some (readDict go settings schema)
  | _ => none

end Schema
end AuditConfig
