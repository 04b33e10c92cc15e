import AuditConfig.Log.Level
import AuditConfig.Processor

/-!
# Log events: what is said of a built object

A build is told by two kinds of events.  The first says how many entries were
passed through and how many fields fell back to their defaults, the second
which fields these are and which of them were given a malformed value.  An
event carries numbers and names of fields and never a value.
-/

namespace AuditConfig

/-- What happened to the properties of a processor. -/
inductive Event where
  | built (processor : Processor) (additional defaulted : Nat)
  | defaulted (processor : Processor) (fields malformed : List String)
  deriving DecidableEq, Repr

namespace Event

/-- What kind of event it is. -/
def name : Event → String
  | .built .. => "props.built"
  | .defaulted .. => "props.defaulted"

/-- The processor it is about. -/
def processor : Event → Processor
  | .built p .. => p
  | .defaulted p .. => p

/-- The name of the logger that tells it. -/
def logger (e : Event) : String := "props." ++ e.processor.name

/-- How severe it is. -/
def level : Event → Level
  | .built .. => .info
  | .defaulted .. => .debug

/-- The name of its level. -/
def levelName (e : Event) : String :=
  match e with
  | .built .. => "info"
  | .defaulted .. => "debug"

/-- A list of names as a value. -/
def nameList (names : List String) : Value := .list (names.map .text)

/-- What it carries, in the order of the names. -/
def details : Event → List (String × Value)
  | .built _ a d => [("additional_properties", .int a), ("defaulted_count", .int d)]
  | .defaulted _ fs ms => [("fields", nameList fs), ("malformed", nameList ms)]

end Event

namespace Props

/-- How many entries an object holds that no spec recognizes. -/
def additionalCount (o : Props) : Nat :=
  match o.additional with
  | some (.map l) => l.length
  | _ => 0

end Props

namespace Report

/-- The events that tell of the report of a processor's object. -/
def events (r : Report) (p : Processor) : List Event :=
  .built p r.props.additionalCount r.defaulted.length ::
    (if r.defaulted.isEmpty then [] else [.defaulted p r.defaulted r.malformed])

end Report
end AuditConfig
