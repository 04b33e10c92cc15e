import AuditConfig.Schema.Defect
import AuditConfig.Validation.Field
import AuditConfig.Value.Lookup

/-!
# Entries of a schema: what they must be

A schema is read entry by entry.  An entry may have to be there, and its value has to be
of a kind, or to denote something.  Some entries are looked for among general settings
too, which are given by name, if the schema does not have them (`Schema.setting?`).
-/

namespace AuditConfig

/-- The settings that a schema is read with. -/
abbrev SchemaSettings := Table Value

namespace Schema

/-- The refusal to read a schema for a cause. -/
def refuse {α : Type} (c : SchemaCause) : Except SchemaDefect α := .error (.alone c)

/-- What a reading gives in a part of a schema. -/
def inPart {α : Type} (part : String) : Except SchemaDefect α → Except SchemaDefect α
  | .ok a => .ok a
  | .error d => .error (d.within part)

/-- The value of an entry, if the schema has it. -/
def found? (schema : Value) (name : String) : Option Value := (schema.entry name).toOption

/-- The value of an entry that has to be there. -/
def required (schema : Value) (name : String) : Except SchemaDefect Value :=
  match found? schema name with
  | some v => .ok v
  | none => refuse (.lacking name)

/-- The value of an entry, or that of a setting in its place. -/
def setting? (settings : SchemaSettings) (schema : Value) (name setting : String) : Option Value :=
  (found? schema name).or (settings.get? setting)

/-- A value as a truth value. -/
def asFlag : Value → Except SchemaDefect Bool
  | .bool b => .ok b
  | v => refuse (.otherKind v.kind Kind.bool.name)

/-- A value as a text. -/
def asText : Value → Except SchemaDefect String
  | .text s => .ok s
  | v => refuse (.otherKind v.kind Kind.text.name)

/-- A value as a list. -/
def asList : Value → Except SchemaDefect (List Value)
  | .list vs => .ok vs
  | v => refuse (.otherKind v.kind Kind.list.name)

/-- A value as a map. -/
def asMap : Value → Except SchemaDefect (List (Key × Value))
  | .map es => .ok es
  | v => refuse (.otherKind v.kind Kind.map.name)

/-- A value as a map of names. -/
def asNamed (v : Value) : Except SchemaDefect (List (String × Value)) := do
  let es ← asMap v
  es.mapM fun e => do
    let name ← asText e.1.value
    return (name, e.2)

/-- A value as a count below a bound. -/
def asCountBelow (bound : Nat) : Value → Except SchemaDefect Nat
  | .bool b => .ok (if b then 1 else 0)
  | .int n =>
    if n < 0 then refuse (.misfit .negative)
    else if n < bound then .ok n.toNat
    else refuse (.misfit .tooGreat)
  | v => refuse (.misfit (.noCount v.kind))

/-- A value as a count of 64 bits. -/
def asCount : Value → Except SchemaDefect Nat := asCountBelow (twoTo 64)

/-- A value as the number of a port. -/
def asPort (v : Value) : Except SchemaDefect Nat :=
  match v with
  | .int n => if 0 ≤ n && n < twoTo 16 then .ok n.toNat else refuse .noPort
  | v => asCount v

/-- A value as a whole number. -/
def asWhole (v : Value) : Except SchemaDefect Int :=
  match v with
  | .bool b => .ok (if b then 1 else 0)
  | .int n => .ok n
  | v => refuse (.misfit (.noCount v.kind))

/-- A value as a number with a fraction. -/
def asReal : Value → Except SchemaDefect Binary64
  | .float x => .ok x
  | .bool b => .ok (Binary64.ofDecimal false (if b then 1 else 0) 0)
  | .int n =>
    match Binary64.ofInt? n with
    | some x => .ok x
    | none => refuse .tooGreatReal
  | v => refuse (.noReal v.kind)

/-- The whole number that the value of an entry denotes, if the schema has it. -/
def wholeFound? (schema : Value) (name : String) : Except SchemaDefect (Option Int) :=
  match found? schema name with
  | none => .ok none
  | some v =>
    match Validation.whole .standard v with
    | .ok n => .ok (some n)
    | .error _ => refuse (.notDenoting name "an integer")

/-- Checks that the value of an entry denotes a thing, if the schema has it. -/
def denoting (schema : Value) (thing : String) (denotes : Value → Bool) (name : String) :
    Except SchemaDefect Unit :=
  match found? schema name with
  | none => .ok ()
  | some v => if denotes v then .ok () else refuse (.notDenoting name thing)

/-- The truth value of an entry, if the schema has it. -/
def flag? (schema : Value) (name : String) : Except SchemaDefect (Option Bool) :=
  (found? schema name).mapM asFlag

/-- The count of an entry, if the schema has it. -/
def count? (schema : Value) (name : String) : Except SchemaDefect (Option Nat) :=
  (found? schema name).mapM asCount

/-- The truth value of an entry or of the setting of its name, if there is one. -/
def flagSetting? (settings : SchemaSettings) (schema : Value) (name setting : String) :
    Except SchemaDefect (Option Bool) :=
  (setting? settings schema name setting).mapM asFlag

/-- Whether a schema is strict. -/
def strictness (settings : SchemaSettings) (schema : Value) : Except SchemaDefect Bool := do
  return (← flagSetting? settings schema "strict" "strict").getD false

end Schema
end AuditConfig
