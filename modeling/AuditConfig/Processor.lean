import AuditConfig.Processor.Specs
import AuditConfig.Props.Report
import AuditConfig.PropsClass.Definition

/-!
# Processors: the registered properties classes

There are seven processors, each with a name and a properties class whose model
fields are those its specs declare.  `ofValue` finds the processor of a name; a
value that is no name is refused with the names there are.

The keys and the defaults of a processor's fields are also published as named
constants (`constants`).
-/

namespace AuditConfig

/-- A registered processor. -/
inductive Processor where
  | common
  | cassandra
  | jdbc
  | log
  | timestamp
  | machineId
  | eventId
  deriving DecidableEq, Repr

namespace Processor

/-- The processors in the order of their registration. -/
def all : List Processor := [.common, .cassandra, .jdbc, .log, .timestamp, .machineId, .eventId]

theorem mem_all (p : Processor) : p ∈ all := by cases p <;> decide

/-- The name under which a processor is registered. -/
def name : Processor → String
  | .common => "common"
  | .cassandra => "cassandra"
  | .jdbc => "jdbc"
  | .log => "log"
  | .timestamp => "timestamp"
  | .machineId => "machine_id"
  | .eventId => "event_id"

/-- The name of a processor's properties class. -/
def className : Processor → String
  | .common => "CommonProperties"
  | .cassandra => "CassandraProperties"
  | .jdbc => "JdbcProperties"
  | .log => "LogProperties"
  | .timestamp => "TimestampProperties"
  | .machineId => "MachineIdProperties"
  | .eventId => "EventIdProperties"

/-- The specs of a processor's fields. -/
def specs : Processor → List FieldSpec
  | .common => commonSpecs
  | .cassandra => cassandraSpecs
  | .jdbc => jdbcSpecs
  | .log => logSpecs
  | .timestamp => timestampSpecs
  | .machineId => machineIdSpecs
  | .eventId => eventIdSpecs

/-- The number of a processor's properties class; the base class has the number
zero. -/
def classId : Processor → Nat
  | .common => 1
  | .cassandra => 2
  | .jdbc => 3
  | .log => 4
  | .timestamp => 5
  | .machineId => 6
  | .eventId => 7

/-- The least number that no processor's class and no base class has. -/
def firstFreeId : Nat := 8

/-- The model field that a spec declares. -/
def declared (s : FieldSpec) : String × FieldDecl :=
  (s.name, ⟨s.type.annotation, .value s.default⟩)

/-- The members that the properties class of a processor has beside those of
every class. -/
def ownMembers : Processor → List (String × Member)
  | .common => [("processor_names", .function (className .common ++ ".processor_names"))]
  | _ => []

/-- Where the properties class of a processor is defined. -/
def home (p : Processor) : String := "auditkit.props.processors." ++ p.name

/-- The properties class of a processor. -/
def cls (p : Processor) : PropsClass :=
  let c := PropsClass.extend p.classId PropsClass.base.options .base
    ⟨p.className, p.home, some p.specs, p.specs.map declared⟩
  { c with members := p.ownMembers ++ c.members }

/-- The processor of a given name. -/
def ofName? (s : String) : Option Processor := all.find? fun p => p.name = s

theorem ofName?_name (p : Processor) : ofName? p.name = some p := by
  cases p <;> decide

/-- Why a value names no processor. -/
inductive NameError where
  /-- The text of the value is not the name of a processor. -/
  | unknown (text : List Char)
  /-- A value of this kind cannot be looked up. -/
  | unhashable (kind : Kind)
  | digits (limit : DigitLimit)
  deriving DecidableEq, Repr

namespace NameError

/-- The names there are, as messages list them. -/
def available : String :=
  "[" ++ ", ".intercalate (all.map fun p => String.ofList (Text.Quoted.encode p.name.toList)) ++ "]"

/-- What is said of a value that names no processor. -/
def message : NameError → String
  | .unknown t =>
    "Unknown processor: '" ++ String.ofList t ++ "'. Available processors: " ++ available
  | .unhashable k => "unhashable type: '" ++ k.name ++ "'"
  | .digits e => e.message

end NameError

/-- The processor that a value names. -/
def ofValue (v : Value) : Except NameError Processor :=
  match v with
  | .list _ => .error (.unhashable .list)
  | .map _ => .error (.unhashable .map)
  | v =>
    let found : Option Processor :=
      match v with
      | .text s => ofName? s
      | _ => none
    match found with
    | some p => .ok p
    | none =>
      match v.plain with
      | .ok t => .error (.unknown t)
      | .error e => .error (.digits e)

/-- The name of a processor names it. -/
theorem ofValue_name (p : Processor) : ofValue (.text p.name) = .ok p := by
  simp only [ofValue, ofName?_name]

/-- The letters of a field's name as they stand in the names of constants. -/
def constantStem (field : String) : String := String.ofList (field.toList.map Char.toUpper)

/-- What the name of a constant for a default begins with. -/
def defaultMark : String := "DEFAULT_"

/-- The name of the constant for the key of a field. -/
def keyConstant (field : String) : String := "KEY_" ++ constantStem field

/-- The name of the constant for the default of a field; a field whose own name
begins with the mark keeps it single. -/
def defaultConstant (field : String) : String :=
  let stem := constantStem field
  if defaultMark.toList.isPrefixOf stem.toList then stem else defaultMark ++ stem

/-- The published keys and defaults of a processor's fields. -/
def constants (p : Processor) : List (String × Value) :=
  p.specs.flatMap fun s =>
    [(keyConstant s.name, .text s.key), (defaultConstant s.name, s.default)]

end Processor
end AuditConfig
