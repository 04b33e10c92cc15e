import AuditConfig.Proofs.Configuring

/-!
# The life cycle of logging

A run goes through at most three phases.  As long as no step comes to configuring, logging is
as it was at first, its settings aside, and no line is written.  The first step that comes to
it decides: either it configures logging, or it fails for good, since the settings name no
level.  In the second case logging stays as the failure left it until the next step comes to
configuring, and that one comes through, with the root logger at a warning.

What is between two such steps, and all that follows once logging is configured, changes
nothing but the settings; `run_of_idle` is the one lemma that says so.  The last phase is
therefore never left (`life_cycle`).
-/

namespace AuditConfig
namespace Logging

theorem run_cons (l : Logging) (s : Step) (rest : List Step) :
    l.run (s :: rest) = (((l.step s).1.run rest).1,
      (l.step s).2 :: ((l.step s).1.run rest).2) := rfl

theorem run_append (l : Logging) (steps more : List Step) :
    l.run (steps ++ more) = (((l.run steps).1.run more).1,
      (l.run steps).2 ++ ((l.run steps).1.run more).2) := by
  induction steps generalizing l with
  | nil => rfl
  | cons s rest ih => simp only [List.cons_append, Logging.run, ih]

theorem run_append_cons (l : Logging) (before : List Step) (s : Step) (after : List Step) :
    (l.run (before ++ s :: after)).1 = (((l.run before).1.step s).1.run after).1 := by
  rw [run_append]
  rfl

/-- A step is idle in a state in which logging is configured, and everywhere if it does not
come to configuring. -/
def Step.IsIdle (s : Step) (l : Logging) : Prop := l.configured = true ∨ s.configures = false

/-- **An idle step changes nothing but the settings,** and does not fail to configure. -/
theorem step_of_isIdle {l : Logging} {s : Step} (h : s.IsIdle l) :
    (∃ settings, (l.step s).1 = l.withSettings settings) ∧
      (l.step s).2.answer.unknown? = none := by
  cases hs : s.configures with
  | false => exact step_of_not_configures hs l
  | true =>
    have hc : l.configured = true := h.resolve_right (by simp [hs])
    obtain ⟨hl, hu⟩ := step_of_configures hs l
    rw [hl, hu, configure_of_configured hc]
    exact ⟨⟨l.settings, rfl⟩, rfl⟩

/-- **A run of idle steps changes nothing but the settings.** -/
theorem run_of_idle {l : Logging} {steps : List Step}
    (h : l.configured = true ∨ ∀ s ∈ steps, s.configures = false) :
    ∃ settings, (l.run steps).1 = l.withSettings settings := by
  induction steps generalizing l with
  | nil => exact ⟨l.settings, rfl⟩
  | cons s rest ih =>
    have hidle : s.IsIdle l := h.imp_right fun hall => hall s (.head _)
    obtain ⟨⟨settings, hl⟩, _⟩ := step_of_isIdle hidle
    -- whether logging is configured does not depend on the settings
    have hrest : (l.step s).1.configured = true ∨ ∀ t ∈ rest, t.configures = false := by
      rw [hl]
      exact h.imp_right fun hall t ht => hall t (.tail _ ht)
    obtain ⟨later, hlater⟩ := ih hrest
    refine ⟨later, ?_⟩
    rw [run_cons, hlater, hl]
    rfl

/-- The trace of a step says whether logging is configured after it. -/
theorem configured_trace (l : Logging) (s : Step) :
    (l.step s).2.configured = (l.step s).1.configured := by
  cases s with
  | settings env =>
    cases he : Settings.ofEnvironment env <;> simp [step, he, withSettings, configured]
  | configure =>
    cases hc : l.configure with
    | mk l' o => cases o <;> simp [step, hc]
  | build name raw => cases ha : (LoggedBuild.run l name raw).answer <;> simp [step, ha]

/-- **No line is written while logging is not configured.** -/
theorem lines_of_not_configured {l : Logging} {s : Step} (h : (l.step s).1.configured = false) :
    (l.step s).2.lines = [] := by
  cases s with
  | settings env => cases he : Settings.ofEnvironment env <;> simp [step, he]
  | configure =>
    cases hc : l.configure with
    | mk l' o => cases o <;> simp [step, hc]
  | build name raw =>
    cases hp : LoggedBuild.prepare name raw with
    | error e => simp [step, LoggedBuild.run_of_prepare_error hp]
    | ok found =>
      cases hc : l.configure with
      | mk l' o =>
        cases o with
        | some u => simp [step, LoggedBuild.run_of_configure_error hp hc]
        | none =>
          -- a build that is told of leaves logging configured
          have hdone : l.configure.1.configured = true := l.configured_configure.2 (by rw [hc])
          rw [hc] at hdone
          simp [step, LoggedBuild.run_of_configure hp hc, hdone] at h

/-- As long as no step comes to configuring, the traces tell of nothing. -/
theorem traces_of_not_configures {l : Logging} (h : l.configured = false) {steps : List Step}
    (hsteps : ∀ s ∈ steps, s.configures = false) :
    ∀ t ∈ (l.run steps).2, t.configured = false ∧ t.lines = [] := by
  induction steps generalizing l with
  | nil => exact fun t ht => absurd ht List.not_mem_nil
  | cons s rest ih =>
    obtain ⟨⟨settings, hl⟩, _⟩ := step_of_not_configures (hsteps s (.head _)) l
    have hnext : (l.step s).1.configured = false := by
      rw [hl]
      exact h
    intro t ht
    rw [run_cons] at ht
    rcases List.mem_cons.1 ht with rfl | ht
    · exact ⟨by rw [configured_trace, hnext], lines_of_not_configured hnext⟩
    · exact ih hnext (fun s hs => hsteps s (.tail _ hs)) t ht

/-- **Once logging is configured it stays so** in all traces that follow. -/
theorem configured_of_mem_traces {l : Logging} (h : l.configured = true) {steps : List Step}
    {t : Trace} (ht : t ∈ (l.run steps).2) : t.configured = true := by
  induction steps generalizing l with
  | nil => cases ht
  | cons s rest ih =>
    obtain ⟨⟨settings, hl⟩, _⟩ := step_of_isIdle (s := s) (.inl h)
    have hnext : (l.step s).1.configured = true := by
      rw [hl]
      exact h
    rw [run_cons] at ht
    rcases List.mem_cons.1 ht with rfl | ht
    · rw [configured_trace]
      exact hnext
    · exact ih hnext ht

/-- **The flag is never cleared** in the course of a run. -/
theorem pairwise_configured (l : Logging) (steps : List Step) :
    (l.run steps).2.Pairwise fun t t' => t.configured = true → t'.configured = true := by
  induction steps generalizing l with
  | nil => exact .nil
  | cons s rest ih =>
    rw [run_cons]
    refine .cons (fun t' ht' ht => ?_) (ih _)
    rw [configured_trace] at ht
    exact configured_of_mem_traces ht ht'

/-- After configuring was tried it never fails. -/
theorem failures_of_tried {l : Logging} (h : l.Tried) (steps : List Step) :
    failures (l.run steps).2 = [] := by
  induction steps generalizing l with
  | nil => rfl
  | cons s rest ih =>
    have hs : (l.step s).2.answer.unknown? = none := by
      cases hc : s.configures with
      | false => exact (step_of_not_configures hc l).2
      | true =>
        rw [(step_of_configures hc l).2]
        exact l.configure_snd_eq_none_iff.2 (.inl h)
    rw [failures_cons, hs, ih ((l.tried_step_iff s).2 (.inl h))]
    rfl

/-- **A run fails to configure logging once at most.** -/
theorem length_failures_le_one (l : Logging) (steps : List Step) :
    (failures (l.run steps).2).length ≤ 1 := by
  induction steps generalizing l with
  | nil => exact Nat.zero_le 1
  | cons s rest ih =>
    rw [failures_cons]
    cases hu : (l.step s).2.answer.unknown? with
    | none => exact ih _
    | some u =>
      -- what fails comes to configuring, which was tried from then on
      have hs : s.configures = true := by
        cases hc : s.configures with
        | true => rfl
        | false =>
          rw [(step_of_not_configures hc l).2] at hu
          cases hu
      have hrest : failures ((l.step s).1.run rest).2 = [] :=
        failures_of_tried ((l.tried_step_iff s).2 (.inr hs)) rest
      rw [hrest]
      exact Nat.le_refl 1

/-- Whether a step that comes to configuring comes through: it tells that it configured, or
answers with its object. -/
def Answer.isDone : Answer → Bool
  | .configured => true
  | .built _ => true
  | _ => false

/-- **A step that comes to configuring** comes through if configuring does, and otherwise
answers with its failure. -/
theorem answer_of_configures {s : Step} (h : s.configures = true) (l : Logging) :
    (l.configure.2 = none → (l.step s).2.answer.isDone = true) ∧
      ∀ u, l.configure.2 = some u → (l.step s).2.answer = .failed (.level u) := by
  cases s with
  | settings env => cases h
  | configure =>
    cases hc : l.configure with
    | mk l' o => cases o <;> simp [step, hc, Answer.isDone]
  | build name raw =>
    cases hp : LoggedBuild.prepare name raw with
    | error e => simp [Step.configures, hp, Except.isOk, Except.toBool] at h
    | ok found =>
      cases hc : l.configure with
      | mk l' o =>
        cases o with
        | none => simp [step, LoggedBuild.run_of_configure hp hc, Answer.isDone]
        | some u => simp [step, LoggedBuild.run_of_configure_error hp hc]

/-- The first attempt to configure sets the level that the settings name. -/
theorem configure_of_level {l : Logging} (h : ¬ l.Tried) {level : Level}
    (hl : Level.ofText l.settings.level = .ok level) : l.configure = (l.settled level, none) := by
  obtain ⟨hc, hh⟩ := l.not_tried_iff.1 h
  simp [configure, settled, hc, hh, hl]

/-- The attempt after a failure leaves the level of the root logger alone. -/
theorem configure_of_handler {l : Logging} (hc : l.configured = false) (hh : l.handler = true) :
    l.configure = (l.settled l.root, none) := by
  simp [configure, settled, hc, hh]

/-- **A step that configures logging** comes through, and nothing but the settings changes in
the run that follows. -/
theorem run_of_settled {l : Logging} {s : Step} (hs : s.configures = true) {root : Level}
    (hl : l.configure = (l.settled root, none)) :
    (l.step s).2.answer.isDone = true ∧ ∀ after, ∃ settings,
      ((l.step s).1.run after).1 = ⟨settings, true, root, some (rendererOf l.settings)⟩ := by
  refine ⟨(answer_of_configures hs l).1 (by rw [hl]), fun after => ?_⟩
  have hstate : (l.step s).1 = l.settled root := by rw [(step_of_configures hs l).1, hl]
  obtain ⟨settings, hrun⟩ : ∃ settings, ((l.settled root).run after).1 =
      (l.settled root).withSettings settings := run_of_idle (.inl rfl)
  exact ⟨settings, by rw [hstate, hrun]; rfl⟩

/-- **The life cycle of logging in a run.**  Before any step comes to configuring, logging is
as it was at first but for its settings: nothing is configured and no line is written.

The first step that comes to configuring comes through if the settings name a level then.
Logging is configured from that step on, the root logger at that level and with the renderer
that the settings ask for, whatever steps follow.

If they name no level, the step answers with that failure, and logging is not configured
until the next step comes to configuring.  That one comes through, whatever the settings are,
and from then on the root logger is at a warning and the renderer is the one that the
settings asked for in that step.

No run fails to configure logging more than once, and once configured logging stays so. -/
theorem life_cycle {before : List Step} (hbefore : ∀ s ∈ before, s.configures = false) :
    let l := (fresh.run before).1
    (l = fresh.withSettings l.settings ∧ l.configured = false ∧
      ∀ t ∈ (fresh.run before).2, t.configured = false ∧ t.lines = []) ∧
    (∀ a : Step, a.configures = true →
      (∀ root, Level.ofText l.settings.level = .ok root → (l.step a).2.answer.isDone = true ∧
        ∀ after, ∃ settings, (fresh.run (before ++ a :: after)).1 =
          ⟨settings, true, root, some (rendererOf l.settings)⟩) ∧
      ∀ u, Level.ofText l.settings.level = .error u →
        (l.step a).2.answer = .failed (.level u) ∧
        ∀ between, (∀ s ∈ between, s.configures = false) →
          let m := (fresh.run (before ++ a :: between)).1
          m.configured = false ∧ ∀ b : Step, b.configures = true →
            (m.step b).2.answer.isDone = true ∧
            ∀ after, ∃ settings, (fresh.run ((before ++ a :: between) ++ b :: after)).1 =
              ⟨settings, true, .warning, some (rendererOf m.settings)⟩) ∧
    ∀ steps, (failures (fresh.run steps).2).length ≤ 1 ∧
      (fresh.run steps).2.Pairwise fun t t' => t.configured = true → t'.configured = true := by
  intro l
  have hl : l = fresh.withSettings l.settings := by
    obtain ⟨settings, hsettings⟩ : ∃ settings, l = fresh.withSettings settings :=
      run_of_idle (.inr hbefore)
    rw [hsettings]
    rfl
  have huntried : ¬ l.Tried := by
    rw [hl]
    exact (not_tried_iff _).2 ⟨rfl, rfl⟩
  refine ⟨⟨hl, (l.not_tried_iff.1 huntried).1, traces_of_not_configures rfl hbefore⟩,
    fun a ha => ⟨fun root hroot => ?_, fun u hu => ?_⟩,
    fun steps => ⟨length_failures_le_one fresh steps, pairwise_configured fresh steps⟩⟩
  · obtain ⟨hdone, hafter⟩ := run_of_settled ha (configure_of_level huntried hroot)
    refine ⟨hdone, fun after => ?_⟩
    rw [run_append_cons]
    exact hafter after
  · have hfailed : l.configure.2 = some u := (l.configure_snd_eq_some_iff u).2 ⟨huntried, hu⟩
    refine ⟨(answer_of_configures ha l).2 u hfailed, fun between hbetween => ?_⟩
    intro m
    -- the handler that the failure left is all that is new
    have hm : m = (fresh.withSettings m.settings).withHandler := by
      obtain ⟨_, _, _, hleft⟩ := (l.configure_eq_error_iff l.configure.1 u).1 (by rw [← hfailed])
      obtain ⟨settings, hrun⟩ := run_of_idle (l := (l.step a).1) (.inr hbetween)
      have hsettings : m = (fresh.withSettings settings).withHandler := by
        change (fresh.run (before ++ a :: between)).1 = _
        rw [run_append_cons, hrun, (step_of_configures ha l).1, hleft, hl]
        rfl
      rw [hsettings]
      rfl
    have hc : m.configured = false := by rw [hm]; rfl
    have hh : m.handler = true := by rw [hm]; rfl
    have hroot : m.root = .warning := by rw [hm]; rfl
    refine ⟨hc, fun b hb => ?_⟩
    obtain ⟨hdone, hafter⟩ := run_of_settled hb (configure_of_handler hc hh)
    refine ⟨hdone, fun after => ?_⟩
    rw [run_append_cons, ← hroot]
    exact hafter after

/-- Replaces the settings by a level and console lines. -/
def console (level : String) : Step :=
  .settings [("AUDITKIT_LOG_LEVEL", level), ("AUDITKIT_LOG_JSON", "no")]

/-- A first build fails to configure with a level that is none.  The next step configures
logging for the console and leaves the root logger at a warning, whatever level is named
before and after it. -/
theorem life_cycle_of_loud :
    let first := Step.build (.text "event_id") .null
    (∃ u, ((fresh.run [console "loud"]).1.step first).2.answer = .failed (.level u)) ∧
    ((fresh.run [console "loud", first, console "DEBUG"]).1.step .configure).2.answer.isDone =
      true ∧
    ∃ settings, (fresh.run ([console "loud", first, console "DEBUG"] ++ .configure ::
      [.settings [("AUDITKIT_LOG_LEVEL", "ERROR")], first])).1 =
        ⟨settings, true, .warning, some .console⟩ := by
  intro first
  have hloud : (fresh.run [console "loud"]).1.settings = ⟨"loud", false⟩ := by decide +kernel
  have hdebug : (fresh.run [console "loud", first, console "DEBUG"]).1.settings =
    ⟨"DEBUG", false⟩ := by decide +kernel
  obtain ⟨u, hu⟩ : ∃ u, Level.ofText "loud" = .error u := ⟨_, rfl⟩
  have hconsole : ∀ s ∈ [console "loud"], s.configures = false := by
    simp [console, Step.configures]
  obtain ⟨_, hcycle, _⟩ := life_cycle hconsole
  obtain ⟨hanswer, hbetween⟩ := (hcycle first rfl).2 u (by rw [hloud]; exact hu)
  obtain ⟨_, hsecond⟩ := hbetween [console "DEBUG"] (by simp [console, Step.configures])
  obtain ⟨hdone, hafter⟩ := hsecond .configure rfl
  obtain ⟨settings, hend⟩ := hafter [.settings [("AUDITKIT_LOG_LEVEL", "ERROR")], first]
  refine ⟨⟨u, hanswer⟩, hdone, settings, hend.trans ?_⟩
  change _ = Logging.mk settings true .warning (some (rendererOf ⟨"DEBUG", false⟩))
  rw [← hdebug]
  rfl

end Logging
end AuditConfig
