import AuditConfig.Log.Line
import AuditConfig.Settings

/-!
# Logging: configured once, from the settings of the moment

Logging is configured on first use.  Configuring puts a handler on the root
logger and gives it the level that the settings name, if it has no handler yet,
and chooses the renderer; once a renderer is chosen nothing changes any more.

A name of no level is refused, with no renderer chosen.  The handler is already
there by then, so that the next attempt leaves the level of the root logger as
it is.
-/

namespace AuditConfig

/-- The state of logging. -/
structure Logging where
  settings : Settings
  /-- Whether the root logger has a handler. -/
  handler : Bool
  /-- What the root logger lets pass. -/
  root : Level
  /-- How lines are written, once that is configured. -/
  renderer : Option Renderer
  deriving DecidableEq, Repr

namespace Logging

/-- Nothing is configured, and the settings are those of an empty environment. -/
def fresh : Logging := ⟨.standard, false, .warning, none⟩

/-- Whether logging is configured. -/
def configured (l : Logging) : Bool := l.renderer.isSome

/-- The renderer that settings ask for. -/
def rendererOf (s : Settings) : Renderer := if s.json then .json else .console

/-- Replaces the settings and nothing else. -/
def withSettings (l : Logging) (s : Settings) : Logging := { l with settings := s }

/-- Configures logging, unless that is done, and tells the failure if the
settings name no level. -/
def configure (l : Logging) : Logging × Option Level.Unknown :=
  if l.configured then (l, none)
  else
    let done := { l with handler := true, renderer := some (rendererOf l.settings) }
    if l.handler then (done, none)
    else
      match Level.ofText l.settings.level with
      | .ok level => ({ done with root := level }, none)
      | .error e => ({ l with handler := true }, some e)

/-- The lines that events leave behind. -/
def write (l : Logging) (events : List Event) : List Line :=
  match l.renderer with
  | none => []
  | some r => (events.filter fun e => l.root.passes e.level).map r.render

theorem configure_of_configured {l : Logging} (h : l.configured = true) :
    l.configure = (l, none) := by
  simp [configure, h]

/-- **Logging is configured after configuring, unless that failed.** -/
theorem configured_configure (l : Logging) :
    l.configure.1.configured = true ↔ l.configure.2 = none := by
  unfold configure
  cases hc : l.configured with
  | true => simp [hc]
  | false =>
    cases l.handler with
    | true => simp [configured]
    | false =>
      cases Level.ofText l.settings.level with
      | ok _ => simp [configured]
      | error _ => simpa [configured] using hc

end Logging

namespace Level

/-- What is said of a text that names no level. -/
def Unknown.message (u : Unknown) : String :=
  "Unknown level: " ++ String.ofList (Text.Quoted.encode u.text)

end Level
end AuditConfig
