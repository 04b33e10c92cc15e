import AuditConfig.Text.LetterCase

/-!
# Log levels

A level has a severity, and an event passes a level when it is at least as
severe.  Two levels have two names each.  `ofText` reads a name in any case, by
the full upper-case form of the text.
-/

namespace AuditConfig

/-- The severity of an event, or what a logger lets pass. -/
inductive Level where
  | notset
  | debug
  | info
  | warning
  | error
  | critical
  deriving DecidableEq, Repr

namespace Level

/-- How severe a level is. -/
def severity : Level → Nat
  | .notset => 0
  | .debug => 10
  | .info => 20
  | .warning => 30
  | .error => 40
  | .critical => 50

/-- Whether an event of a level passes a logger of this level. -/
def passes (logger event : Level) : Bool := logger.severity ≤ event.severity

/-- The names of the levels. -/
def names : List (String × Level) := [
  ("CRITICAL", .critical), ("FATAL", .critical), ("ERROR", .error), ("WARN", .warning),
  ("WARNING", .warning), ("INFO", .info), ("DEBUG", .debug), ("NOTSET", .notset)]

/-- A text, in its upper-case form, that names no level. -/
structure Unknown where
  text : List Char
  deriving DecidableEq, Repr

/-- The level that a text names. -/
def ofText (s : String) : Except Unknown Level :=
  let t := Text.upper .fourteen s.toList
  match names.lookup (String.ofList t) with
  | some l => .ok l
  | none => .error ⟨t⟩

end Level
end AuditConfig
