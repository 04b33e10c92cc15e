import AuditConfig.Log.Build

/-!
# Runs: sequences of steps on one state of logging

A run starts with nothing configured.  A step replaces the settings by those of
an environment, configures logging, or builds by the name of a processor; a
step that fails is answered with its failure, and the run goes on.  Beside the
answer of a step stand the lines it wrote and whether logging is configured
after it.
-/

namespace AuditConfig
namespace Logging

/-- What can be done to logging. -/
inductive Step where
  | settings (env : List (String × String))
  | configure
  | build (name raw : Value)

/-- What a step answers. -/
inductive Answer where
  | settings (s : Settings)
  | configured
  | built (o : Props)
  | refused (r : Refusal)
  | failed (e : LoggedBuild.Failure)

/-- A step's answer, what it wrote, and whether logging is configured after
it. -/
structure Trace where
  answer : Answer
  configured : Bool
  lines : List Line

/-- Takes one step. -/
def step (l : Logging) : Step → Logging × Trace
  | .settings env =>
    match Settings.ofEnvironment env with
    | .ok s => (l.withSettings s, ⟨.settings s, l.configured, []⟩)
    | .error r => (l, ⟨.refused r, l.configured, []⟩)
  | .configure =>
    match l.configure with
    | (l', none) => (l', ⟨.configured, l'.configured, []⟩)
    | (l', some e) => (l', ⟨.failed (.level e), l'.configured, []⟩)
  | .build name raw =>
    let o := LoggedBuild.run l name raw
    match o.answer with
    | .ok r => (o.logging, ⟨.built r.props, o.logging.configured, o.lines⟩)
    | .error e => (o.logging, ⟨.failed e, o.logging.configured, o.lines⟩)

/-- Takes steps one after the other. -/
def run (l : Logging) : List Step → Logging × List Trace
  | [] => (l, [])
  | s :: rest =>
    let (l', t) := l.step s
    let (l'', ts) := run l' rest
    (l'', t :: ts)

end Logging
end AuditConfig
