import AuditConfig.Log.Run

/-!
# Configuring logging in the course of a run

Configuring does one of four things (`configure_cases`): it finds that it is done, it
finds a handler and leaves the level of the root logger alone, it sets the level that the
settings name, or it fails since they name none.  A failure leaves a handler behind and
changes nothing else (`configure_eq_error_iff`).

So the handler is the memory of the failure.  As long as logging is not configured in a
run, there is a handler exactly if a step has failed to configure it, and the root logger
has the level it had at first (`TellsFailures.run`).  The attempt after a failure
therefore comes through with that level, whatever level the settings name by then
(`configuring_in_run`).
-/

namespace AuditConfig
namespace Logging

/-- The state with a handler on the root logger. -/
def withHandler (l : Logging) : Logging := { l with handler := true }

/-- The state that configuring leaves when it comes through, the root logger at a given
level. -/
def settled (l : Logging) (root : Level) : Logging :=
  { l with handler := true, root := root, renderer := some (rendererOf l.settings) }

/-- **What configuring does,** in four cases. -/
theorem configure_cases (l : Logging) :
    (l.configured = true ∧ l.configure = (l, none)) ∨
    (l.configured = false ∧ l.handler = true ∧ l.configure = (l.settled l.root, none)) ∨
    (l.configured = false ∧ l.handler = false ∧ ∃ level, Level.ofText l.settings.level = .ok level ∧
      l.configure = (l.settled level, none)) ∨
    (l.configured = false ∧ l.handler = false ∧ ∃ u, Level.ofText l.settings.level = .error u ∧
      l.configure = (l.withHandler, some u)) := by
  cases hc : l.configured with
  | true => exact .inl ⟨rfl, configure_of_configured hc⟩
  | false =>
    cases hh : l.handler with
    | true => exact .inr (.inl ⟨rfl, rfl, by simp [configure, settled, hc, hh]⟩)
    | false =>
      cases hl : Level.ofText l.settings.level with
      | ok level =>
        exact .inr (.inr (.inl ⟨rfl, rfl, level, rfl, by simp [configure, settled, hc, hh, hl]⟩))
      | error u =>
        exact .inr (.inr (.inr ⟨rfl, rfl, u, rfl, by simp [configure, withHandler, hc, hh, hl]⟩))

/-- **Configuring fails exactly** if it is not done, there is no handler, and the settings
name no level; it then leaves a handler behind. -/
theorem configure_eq_error_iff (l l' : Logging) (u : Level.Unknown) :
    l.configure = (l', some u) ↔ l.configured = false ∧ l.handler = false ∧
      Level.ofText l.settings.level = .error u ∧ l' = l.withHandler := by
  rcases l.configure_cases with ⟨hc, h⟩ | ⟨hc, hh, h⟩ | ⟨hc, hh, level, hl, h⟩ | ⟨hc, hh, v, hl, h⟩
  · simp [h, hc]
  · simp [h, hc, hh]
  · simp [h, hc, hh, hl]
  · rw [h, Prod.mk.injEq, Option.some.injEq, hl, Except.error.injEq]
    constructor
    · rintro ⟨rfl, rfl⟩
      exact ⟨hc, hh, rfl, rfl⟩
    · rintro ⟨_, _, rfl, rfl⟩
      exact ⟨rfl, rfl⟩

/-- The failure to configure logging that a step was answered with. -/
def Answer.unknown? : Answer → Option Level.Unknown
  | .failed (.level u) => some u
  | _ => none

/-- The failures to configure logging in the traces of a run. -/
def failures (ts : List Trace) : List Level.Unknown := ts.filterMap (·.answer.unknown?)

theorem failures_cons (l : Logging) (s : Step) (rest : List Step) :
    failures (l.run (s :: rest)).2 =
      (l.step s).2.answer.unknown?.toList ++ failures ((l.step s).1.run rest).2 := by
  simp only [Logging.run, failures, List.filterMap_cons]
  cases (l.step s).2.answer.unknown? <;> rfl

/-- Whether a step comes to configuring logging: it is told to, or it builds and that does
not fail before. -/
def Step.configures : Step → Bool
  | .settings _ => false
  | .configure => true
  | .build name raw => (LoggedBuild.prepare name raw).isOk

/-- **A step that comes to configuring** leaves the state that configuring leaves, and is
answered with its failure if it fails. -/
theorem step_of_configures {s : Step} (h : s.configures = true) (l : Logging) :
    (l.step s).1 = l.configure.1 ∧ (l.step s).2.answer.unknown? = l.configure.2 := by
  cases s with
  | settings env => cases h
  | configure =>
    cases hc : l.configure with
    | mk l' o => cases o <;> simp [step, hc, Answer.unknown?]
  | build name raw =>
    cases hp : LoggedBuild.prepare name raw with
    | error e => simp [Step.configures, hp, Except.isOk, Except.toBool] at h
    | ok found =>
      cases hc : l.configure with
      | mk l' o =>
        cases o with
        | none => simp [step, LoggedBuild.run_of_configure hp hc, Answer.unknown?]
        | some u => simp [step, LoggedBuild.run_of_configure_error hp hc, Answer.unknown?]

/-- **Any other step** changes nothing but the settings, and does not fail to
configure. -/
theorem step_of_not_configures {s : Step} (h : s.configures = false) (l : Logging) :
    (∃ settings, (l.step s).1 = l.withSettings settings) ∧
      (l.step s).2.answer.unknown? = none := by
  cases s with
  | settings env =>
    cases he : Settings.ofEnvironment env with
    | ok settings => exact ⟨⟨settings, by simp [step, he]⟩, by simp [step, he, Answer.unknown?]⟩
    | error e =>
      exact ⟨⟨l.settings, by simp [step, he, withSettings]⟩, by simp [step, he, Answer.unknown?]⟩
  | configure => cases h
  | build name raw =>
    cases hp : LoggedBuild.prepare name raw with
    | ok found => simp [Step.configures, hp, Except.isOk, Except.toBool] at h
    | error e =>
      have hrun := LoggedBuild.run_of_prepare_error hp l
      refine ⟨⟨l.settings, by simp [step, hrun, withSettings]⟩, ?_⟩
      rcases (LoggedBuild.prepare_eq_error_iff ..).1 hp with ⟨n, _, rfl⟩ | ⟨p, b, _, _, rfl⟩ <;>
        simp [step, hrun, Answer.unknown?]

/-- Configuring was tried before, as the state of logging tells. -/
def Tried (l : Logging) : Prop := l.configured = true ∨ l.handler = true

/-- **Configuring comes through** exactly if it was tried before or the settings name a
level. -/
theorem configure_snd_eq_none_iff (l : Logging) : l.configure.2 = none ↔
    l.Tried ∨ ∃ level, Level.ofText l.settings.level = .ok level := by
  unfold Tried
  rcases l.configure_cases with ⟨hc, h⟩ | ⟨hc, hh, h⟩ | ⟨hc, hh, level, hl, h⟩ | ⟨hc, hh, u, hl, h⟩
  · simp [h, hc]
  · simp [h, hh]
  · simp [h, hl]
  · simp [h, hc, hh, hl]

theorem not_tried_iff (l : Logging) : ¬ l.Tried ↔ l.configured = false ∧ l.handler = false := by
  simp [Tried]

theorem configure_snd_eq_some_iff (l : Logging) (u : Level.Unknown) : l.configure.2 = some u ↔
    ¬ l.Tried ∧ Level.ofText l.settings.level = .error u := by
  rw [not_tried_iff, and_assoc]
  constructor
  · intro h
    obtain ⟨hc, hh, hl, _⟩ := (l.configure_eq_error_iff l.configure.1 u).1 (by rw [← h])
    exact ⟨hc, hh, hl⟩
  · rintro ⟨hc, hh, hl⟩
    rw [(l.configure_eq_error_iff l.withHandler u).2 ⟨hc, hh, hl, rfl⟩]

theorem tried_configure (l : Logging) : l.configure.1.Tried := by
  rcases l.configure_cases with ⟨hc, h⟩ | ⟨_, _, h⟩ | ⟨_, _, _, _, h⟩ | ⟨_, _, _, _, h⟩ <;> rw [h]
  · exact .inl hc
  · exact .inr rfl
  · exact .inr rfl
  · exact .inr rfl

/-- After a step configuring was tried if it was before, or if the step comes to it. -/
theorem tried_step_iff (l : Logging) (s : Step) :
    (l.step s).1.Tried ↔ l.Tried ∨ s.configures = true := by
  cases hs : s.configures with
  | false =>
    obtain ⟨⟨settings, hl⟩, _⟩ := step_of_not_configures hs l
    rw [hl]
    simp [Tried, withSettings, configured]
  | true =>
    rw [(step_of_configures hs l).1]
    simp [tried_configure l]

/-- **After a run configuring was tried** if it was before, or if a step came to it. -/
theorem tried_run_iff (l : Logging) (steps : List Step) :
    (l.run steps).1.Tried ↔ l.Tried ∨ ∃ s ∈ steps, s.configures = true := by
  induction steps generalizing l with
  | nil => simp [Logging.run]
  | cons s rest ih =>
    change ((l.step s).1.run rest).1.Tried ↔ _
    simp [ih, tried_step_iff, or_assoc]

/-- What the state of logging tells of a run, as long as logging is not configured. -/
structure TellsFailures (l : Logging) (us : List Level.Unknown) : Prop where
  /-- The root logger has the level it had at first. -/
  root : l.configured = false → l.root = fresh.root
  /-- There is a handler exactly if configuring has failed. -/
  handler : l.configured = false → (l.handler = true ↔ us ≠ [])

theorem tellsFailures_fresh : TellsFailures fresh [] where
  root _ := rfl
  handler _ := by simp [fresh]

theorem TellsFailures.step {l : Logging} {us : List Level.Unknown} (h : l.TellsFailures us)
    (s : Step) : (l.step s).1.TellsFailures (us ++ (l.step s).2.answer.unknown?.toList) := by
  cases hs : s.configures with
  | false =>
    obtain ⟨⟨settings, hl⟩, hu⟩ := step_of_not_configures hs l
    rw [hl, hu, Option.toList_none, List.append_nil]
    exact ⟨h.root, h.handler⟩
  | true =>
    obtain ⟨hl, hu⟩ := step_of_configures hs l
    rw [hl, hu]
    -- in the second case and the third logging is configured, and nothing is left to tell
    rcases l.configure_cases with ⟨hc, he⟩ | ⟨_, _, he⟩ | ⟨_, _, _, _, he⟩ | ⟨hc, _, u, _, he⟩ <;>
      rw [he]
    · simpa using h
    · exact ⟨nofun, nofun⟩
    · exact ⟨nofun, nofun⟩
    · exact ⟨fun _ => h.root hc, fun _ => by simp [withHandler]⟩

/-- **In a run the state of logging keeps telling of the failures** to configure it. -/
theorem TellsFailures.run {l : Logging} {us : List Level.Unknown} (h : l.TellsFailures us)
    (steps : List Step) : (l.run steps).1.TellsFailures (us ++ failures (l.run steps).2) := by
  -- the failures so far are put before those of the steps that are left
  induction steps generalizing l us with
  | nil => simpa [Logging.run, failures] using h
  | cons s rest ih =>
    have hrest := ih (h.step s)
    rw [List.append_assoc] at hrest
    rw [failures_cons]
    exact hrest

/-- **A state that configuring fails in** is one that no attempt came before. -/
theorem TellsFailures.configure_eq_error_iff {l : Logging} {us : List Level.Unknown}
    (h : l.TellsFailures us) (l' : Logging) (u : Level.Unknown) :
    l.configure = (l', some u) ↔ (l.configured = false ∧ us = [] ∧
      Level.ofText l.settings.level = .error u) ∧ l' = l.withHandler := by
  rw [Logging.configure_eq_error_iff, and_assoc, and_assoc]
  refine and_congr_right fun hc => and_congr_left fun _ => ?_
  rw [← Bool.not_eq_true, h.handler hc, Classical.not_not]

/-- **Configuring that comes through** gives the root logger the level that the settings
name if it has not failed before, and otherwise leaves it the level it had at first. -/
theorem TellsFailures.exists_settled {l : Logging} {us : List Level.Unknown}
    (h : l.TellsFailures us) (hc : l.configured = false) (hdone : l.configure.1.configured = true) :
    ∃ root, l.configure.1 = l.settled root ∧
      (us = [] → Level.ofText l.settings.level = .ok root) ∧ (us ≠ [] → root = fresh.root) := by
  have htells := h.handler hc
  rcases l.configure_cases with ⟨hc', _⟩ | ⟨_, hh, he⟩ | ⟨_, hh, root, hl, he⟩ | ⟨_, _, u, _, he⟩
  · rw [hc] at hc'
    cases hc'
  · exact ⟨l.root, by rw [he], fun hus => absurd hus (htells.1 hh), fun _ => h.root hc⟩
  · refine ⟨root, by rw [he], fun _ => hl, fun hus => ?_⟩
    rw [htells.2 hus] at hh
    cases hh
  · rw [he] at hdone
    exact absurd (hc.symm.trans hdone) Bool.false_ne_true

/-- **What configuring does in the course of a run.**  At every moment it fails exactly if
logging is not configured, no step has failed to configure it, and the settings name no
level; a handler is then left behind, which was not there, and all else is as it was.

A step that brings logging from not configured to configured chooses the renderer that
the settings ask for.  The root logger has the level that they name exactly if no step has
failed to configure logging or that level is a warning; for after a failure it is at
warning, whatever the settings name. -/
theorem configuring_in_run (steps : List Step) (s : Step) :
    let l := (fresh.run steps).1
    let failed := failures (fresh.run steps).2
    (∀ l' u, l.configure = (l', some u) ↔ (l.configured = false ∧ failed = [] ∧
      Level.ofText l.settings.level = .error u) ∧ l' = { l with handler := true }) ∧
    (∀ l' u, l.configure = (l', some u) → l' ≠ l) ∧
    (l.configured = false → (l.step s).1.configured = true → ∃ root,
      (l.step s).1 = ⟨l.settings, true, root, some (rendererOf l.settings)⟩ ∧
      (failed ≠ [] → root = .warning) ∧
      (Level.ofText l.settings.level = .ok root ↔
        failed = [] ∨ Level.ofText l.settings.level = .ok .warning)) := by
  intro l failed
  have h : l.TellsFailures failed := tellsFailures_fresh.run steps
  refine ⟨h.configure_eq_error_iff, fun l' u he => ?_, fun hc hdone => ?_⟩
  · obtain ⟨_, hh, _, rfl⟩ := (configure_eq_error_iff ..).1 he
    intro hl
    have hhandler : l.handler = true := by rw [← hl]; rfl
    rw [hh] at hhandler
    cases hhandler
  · cases hs : s.configures with
    | false =>
      obtain ⟨⟨settings, hl⟩, _⟩ := step_of_not_configures hs l
      rw [hl] at hdone
      exact absurd (hc.symm.trans hdone) Bool.false_ne_true
    | true =>
      obtain ⟨hl, _⟩ := step_of_configures hs l
      rw [hl] at hdone ⊢
      obtain ⟨root, hsettled, hfirst, hlater⟩ := h.exists_settled hc hdone
      refine ⟨root, hsettled, hlater, ?_⟩
      -- after a failure the level is a warning, which the settings may name all the same
      by_cases hus : failed = []
      · simp [hus, hfirst hus]
      · rw [hlater hus]
        simp [hus, fresh]

/-- The level `DEBUG` is lost that is named after a failure. -/
theorem level_lost_after_failure :
    let bad := (fresh.run [.settings [("AUDITKIT_LOG_LEVEL", "loud")]]).1
    let good := (fresh.run [.settings [("AUDITKIT_LOG_LEVEL", "loud")], .configure,
      .settings [("AUDITKIT_LOG_LEVEL", "DEBUG")]]).1
    (∃ l u, bad.configure = (l, some u) ∧ bad.handler = false ∧ l.handler = true) ∧
    good.configured = false ∧ Level.ofText good.settings.level = .ok .debug ∧
    ∃ l, good.configure = (l, none) ∧ l.configured = true ∧ l.root = .warning := by
  refine ⟨⟨_, _, rfl, rfl, rfl⟩, rfl, rfl, _, rfl, rfl, rfl⟩

end Logging
end AuditConfig
