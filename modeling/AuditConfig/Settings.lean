import AuditConfig.Text.LetterCase
import AuditConfig.Validation.Issue
import AuditConfig.Validation.Truth

/-!
# Settings: how the library logs, from the environment

There are two settings, the name of the level and whether lines are written as
JSON.  Each is read from an environment variable of its own, whose name is
compared without regard to case; of two variables that differ in case only, the
later is read.
-/

namespace AuditConfig

/-- The settings of the library. -/
structure Settings where
  /-- The name of the level, any text. -/
  level : String
  json : Bool
  deriving DecidableEq, Repr

namespace Settings

/-- The settings in an empty environment. -/
def standard : Settings := ⟨"INFO", true⟩

/-- The name under which an environment is refused. -/
def modelName : String := "Settings"

/-- The name of the setting for the level. -/
def levelName : String := "LOG_LEVEL"

/-- The name of the setting for the format of lines. -/
def jsonName : String := "LOG_JSON"

/-- What the names of the environment variables begin with. -/
def variableMark : String := "AUDITKIT_"

/-- The text of the environment variable for a setting, if it is set. -/
def textOf? (env : List (String × String)) (setting : String) : Option String :=
  let name := Text.lower .fourteen (variableMark ++ setting).toList
  (env.reverse.find? fun v => Text.lower .fourteen v.1.toList = name).map (·.2)

/-- The settings in an environment. -/
def ofEnvironment (env : List (String × String)) : Except Refusal Settings :=
  let level := (textOf? env levelName).getD standard.level
  match textOf? env jsonName with
  | none => .ok ⟨level, standard.json⟩
  | some t =>
    match Truth.ofText? t with
    | some json => .ok ⟨level, json⟩
    | none => .error (.single modelName [jsonName] .unreadableTruth)

end Settings
end AuditConfig
