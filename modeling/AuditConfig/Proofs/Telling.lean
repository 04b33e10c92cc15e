import Mathlib.Data.List.Forall2
import AuditConfig.Proofs.LifeCycle
import AuditConfig.Proofs.Lines
import AuditConfig.Proofs.Secrecy

/-!
# The lines of a run

A build that comes through configuring tells of its report: the events of the report that
the level of the root logger lets pass (`Report.eventsAt`) are written one by one, and no
other step writes anything.  So the lines of a run are the events that it tells of, in the
one way to write them that the run has chosen (`lines_run`).

What is told depends on the format in nothing and on the level in one direction.  Two runs
are compared step by step.  `Follows` relates the states of two runs in which the settings
of the second are related to those of the first; one step keeps it (`Follows.step`) and
tells in the second run some of what it tells in the first (`Follows.told`).  A higher
level therefore only takes lines away, and with levels that are the same the same is told
(`lines_determined`).
-/

namespace AuditConfig
namespace Level

variable {l m : Level}

/-- What passes a level passes every level that is less severe. -/
theorem passes_of_severity_le (h : l.severity ≤ m.severity) {e : Level}
    (he : m.passes e = true) : l.passes e = true := by
  simp only [passes, decide_eq_true_eq] at he ⊢
  exact Nat.le_trans h he

theorem passes_info_of_passes_debug (h : l.passes .debug = true) : l.passes .info = true := by
  simp only [passes, decide_eq_true_eq] at h ⊢
  exact Nat.le_trans h (by decide)

/-- A text for a level is raised to another: the two are the same, or they name levels of
which the second is at least as severe as the first. -/
def Raises (s t : String) : Prop :=
  s = t ∨ ∃ l m, ofText s = .ok l ∧ ofText t = .ok m ∧ l.severity ≤ m.severity

theorem Raises.exists_ofText {s t : String} (h : Raises s t) (hl : ofText s = .ok l) :
    ∃ m, ofText t = .ok m ∧ l.severity ≤ m.severity := by
  obtain rfl | ⟨l', m, hl', hm, hle⟩ := h
  · exact ⟨l, hl, Nat.le_refl _⟩
  · obtain rfl := Except.ok.inj (hl.symm.trans hl')
    exact ⟨m, hm, hle⟩

theorem Raises.eq_of_unknown {s t : String} (h : Raises s t) {u : Unknown}
    (hu : ofText s = .error u) : s = t := by
  obtain rfl | ⟨l, m, hl, _⟩ := h
  · rfl
  · rw [hu] at hl
    cases hl

end Level

namespace Event

/-- Every event that names the fields at their defaults comes right after the one of the
same logger that counts them. -/
def Introduced (es : List Event) : Prop :=
  ∀ before p fs ms after, es = before ++ .defaulted p fs ms :: after →
    ∃ earlier n, before = earlier ++ [.built p n fs.length]

theorem introduced_nil : Introduced [] := fun before p fs ms after heq => by simp at heq

theorem introduced_built (p : Processor) (n d : Nat) : Introduced [.built p n d] := by
  intro before q fs ms after heq
  simp [List.singleton_eq_append_iff] at heq

theorem introduced_both (p : Processor) (n : Nat) (fs ms : List String) :
    Introduced [.built p n fs.length, .defaulted p fs ms] := by
  intro before q gs ns after heq
  cases before with
  | nil => simp at heq
  | cons b before =>
    obtain ⟨rfl, hrest⟩ := List.cons.inj heq
    obtain ⟨rfl, hlast⟩ | ⟨-, hnil⟩ := List.singleton_eq_append_iff.1 hrest
    · obtain ⟨hevent, -⟩ := List.cons.inj hlast
      cases hevent
      exact ⟨[], n, rfl⟩
    · cases hnil

theorem Introduced.append {es es' : List Event} (h : Introduced es) (h' : Introduced es') :
    Introduced (es ++ es') := by
  intro before p fs ms after heq
  obtain ⟨as, rfl, has⟩ | ⟨bs, rfl, hbs⟩ := List.append_eq_append_iff.1 heq
  · obtain ⟨earlier, n, rfl⟩ := h' as p fs ms after has
    exact ⟨es ++ earlier, n, (List.append_assoc ..).symm⟩
  · cases bs with
    | nil =>
      -- the event would be the first of the second list, which nothing comes before
      obtain ⟨earlier, n, hnil⟩ := h' [] p fs ms after hbs.symm
      simp at hnil
    | cons b bs =>
      obtain ⟨rfl, -⟩ := List.cons.inj hbs
      exact h before p fs ms bs rfl

theorem introduced_flatten {blocks : List (List Event)} (h : ∀ es ∈ blocks, Introduced es) :
    Introduced blocks.flatten := by
  induction blocks with
  | nil => exact introduced_nil
  | cons es rest ih => exact (h es (.head _)).append (ih fun es hes => h es (.tail _ hes))

end Event

namespace Line

/-- Every line that names the fields at their defaults comes right after the one of the same
logger that counts them. -/
def Introduced (ls : List Line) : Prop :=
  ∀ before line after p fs ms, ls = before ++ line :: after → line.Shows (.defaulted p fs ms) →
    ∃ earlier first n, before = earlier ++ [first] ∧ first.Shows (.built p n fs.length)

/-- What is told in order is written in order. -/
theorem introduced_map_render {es : List Event} (h : Event.Introduced es)
    (hw : ∀ e ∈ es, e.IsWritten) (way : Renderer) : Introduced (es.map way.render) := by
  intro before line after p fs ms heq hline
  obtain ⟨told, rest, rfl, rfl, hrest⟩ := List.map_eq_append_iff.1 heq
  obtain ⟨e, later, rfl, rfl, rfl⟩ := List.map_eq_cons_iff.1 hrest
  -- the line shows its own event, and no other
  have he : e = .defaulted p fs ms := (way.shows_render (hw e (by simp))).unique hline
  obtain ⟨earlier, n, rfl⟩ := h told p fs ms later (by rw [he])
  exact ⟨earlier.map way.render, way.render (.built p n fs.length), n, by simp,
    way.shows_render (hw _ (by simp))⟩

end Line

namespace Report

variable (r : Report) (p : Processor) {l m : Level}

/-- The events of a report that a level lets pass. -/
def eventsAt (l : Level) : List Event := (r.events p).filter fun e => l.passes e.level

/-- **What a level lets pass of a report:** the event that counts if it lets pass what is
informative, and the one that names fields if it lets pass debugging and there are any. -/
theorem eventsAt_eq (l : Level) : r.eventsAt p l =
    (if l.passes .info then [.built p r.props.additionalCount r.defaulted.length] else []) ++
      if l.passes .debug ∧ r.defaulted ≠ [] then [.defaulted p r.defaulted r.malformed]
      else [] := by
  cases hi : l.passes .info <;> cases hd : l.passes .debug <;> cases hf : r.defaulted <;>
    simp [eventsAt, events, Event.level, hi, hd, hf]

/-- A more severe level lets pass some of the same events. -/
theorem eventsAt_sublist (h : l.severity ≤ m.severity) :
    (r.eventsAt p m).Sublist (r.eventsAt p l) :=
  (r.events p).monotone_filter_right fun _ => Level.passes_of_severity_le h

theorem isWritten_eventsAt (ha : r.props.additionalCount < tenTo Decimal.limit)
    (hd : r.defaulted.length < tenTo Decimal.limit) (l : Level) :
    ∀ e ∈ r.eventsAt p l, e.IsWritten := by
  intro e he
  obtain rfl | he := List.mem_cons.1 (List.mem_filter.1 he).1
  · exact ⟨ha, hd⟩
  · split at he
    · cases he
    · obtain rfl := List.mem_singleton.1 he
      trivial

theorem introduced_eventsAt (l : Level) : Event.Introduced (r.eventsAt p l) := by
  rw [eventsAt_eq]
  cases hd : l.passes .debug with
  | false => cases l.passes .info <;> simp [Event.introduced_nil, Event.introduced_built]
  | true =>
    -- what lets debugging pass lets pass the event that counts as well
    rw [Level.passes_info_of_passes_debug hd]
    by_cases hf : r.defaulted = []
    · simp [hf, Event.introduced_built]
    · simp [hf, Event.introduced_both]

end Report

namespace PropsClass

/-- The number that is told is that of the entries of the additional properties. -/
theorem exists_additional_of_report {c : PropsClass} {raw : Value} {r : Report}
    (h : c.report raw = .ok r) : ∃ entries,
      r.props.held? additionalName = some (.ofEntries entries) ∧
        r.props.additionalCount = entries.size := by
  obtain ⟨entries, hr⟩ := exists_entries_of_report h
  exact ⟨c.passThrough entries, held?_additional_of_reportEntries hr,
    additionalCount_of_reportEntries hr⟩

end PropsClass

namespace Processor

/-- A processor's class has few fields that can be at their defaults. -/
theorem length_defaulted_lt {p : Processor} {raw : Value} {r : Report}
    (h : p.cls.report raw = .ok r) : r.defaulted.length < tenTo Decimal.limit := by
  obtain ⟨entries, hr⟩ := PropsClass.exists_entries_of_report h
  have hspecs : p.cls.specs.length < tenTo 2 := by cases p <;> decide
  rw [PropsClass.defaulted_of_reportEntries hr, List.length_map]
  exact Nat.lt_of_le_of_lt (List.length_filter_le ..)
    (Nat.lt_of_lt_of_le hspecs (tenTo_mono (by decide)))

end Processor

namespace Logging

/-- The lines of events in the way that is chosen; there are none before one is. -/
def rendered (l : Logging) (es : List Event) : List Line :=
  match l.renderer with
  | none => []
  | some r => es.map r.render

theorem write_events (l : Logging) (r : Report) (p : Processor) :
    l.write (r.events p) = l.rendered (r.eventsAt p l.root) := rfl

theorem rendered_nil (l : Logging) : l.rendered [] = [] := by
  cases h : l.renderer <;> simp [rendered, h]

theorem rendered_sublist (l : Logging) {es es' : List Event} (h : es'.Sublist es) :
    (l.rendered es').Sublist (l.rendered es) := by
  unfold rendered
  split
  · exact .slnil
  · exact h.map _

theorem rendered_flatten (l : Logging) (blocks : List (List Event)) :
    (blocks.map l.rendered).flatten = l.rendered blocks.flatten := by
  cases h : l.renderer with
  | none => simp [rendered, h]
  | some way =>
    have hmap : l.rendered = List.map way.render := funext fun es => by simp [rendered, h]
    rw [hmap, List.map_flatten]

/-- The events that a step tells of. -/
def told (l : Logging) : Step → List Event
  | .settings _ => []
  | .configure => []
  | .build name raw =>
    match LoggedBuild.prepare name raw, l.configure with
    | .ok (p, r), (l', none) => r.eventsAt p l'.root
    | _, _ => []

/-- The events that the steps of a run tell of, one list for each step. -/
def toldIn (l : Logging) : List Step → List (List Event)
  | [] => []
  | s :: rest => l.told s :: (l.step s).1.toldIn rest

theorem told_build {l : Logging} {name raw : Value} {p : Processor} {r : Report}
    (h : LoggedBuild.prepare name raw = .ok (p, r)) (hl : l.configure.2 = none) :
    l.told (.build name raw) = r.eventsAt p l.configure.1.root := by
  simp only [told, h]
  split
  · next hp hc =>
    cases hp
    rw [hc]
  · next hnot => exact absurd (Prod.ext rfl hl : l.configure = (_, none)) (hnot _ _ _ rfl)

theorem told_build_of_failed {l : Logging} {name raw : Value}
    (h : ∀ found, LoggedBuild.prepare name raw = .ok found → l.configure.2 ≠ none) :
    l.told (.build name raw) = [] := by
  simp only [told]
  split
  · next hp hc => exact absurd (by rw [hc]) (h _ hp)
  · rfl

/-- **A step writes what it tells of.** -/
theorem lines_step (l : Logging) (s : Step) :
    (l.step s).2.lines = (l.step s).1.rendered (l.told s) := by
  cases s with
  | settings env => cases he : Settings.ofEnvironment env <;> simp [step, he, told, rendered_nil]
  | configure =>
    cases hc : l.configure with
    | mk l' o => cases o <;> simp [step, hc, told, rendered_nil]
  | build name raw =>
    obtain ⟨hstate, hlines⟩ := l.step_build name raw
    rw [hstate, hlines]
    cases hp : LoggedBuild.prepare name raw with
    | error e =>
      have htold : l.told (.build name raw) = [] :=
        told_build_of_failed fun found h => by rw [hp] at h; cases h
      rw [htold, rendered_nil, LoggedBuild.run_of_prepare_error hp]
    | ok found =>
      cases hc : l.configure with
      | mk l' o =>
        cases o with
        | none =>
          rw [told_build hp (by rw [hc]), LoggedBuild.run_of_configure hp hc, hc]
          exact l'.write_events found.2 found.1
        | some u =>
          have htold : l.told (.build name raw) = [] :=
            told_build_of_failed fun _ _ => by rw [hc]; exact Option.some_ne_none u
          rw [htold, rendered_nil, LoggedBuild.run_of_configure_error hp hc]

/-- Nothing is told while logging is not configured. -/
theorem told_of_not_configured {l : Logging} {s : Step} (h : (l.step s).1.configured = false) :
    l.told s = [] := by
  cases s with
  | settings env => rfl
  | configure => rfl
  | build name raw =>
    refine told_build_of_failed fun found hp hl => ?_
    rw [(step_of_configures (by simp [Step.configures, hp, Except.isOk, Except.toBool]) l).1,
      l.configured_configure.2 hl] at h
    cases h

/-- What a step tells of is told in order. -/
theorem introduced_told (l : Logging) (s : Step) : Event.Introduced (l.told s) := by
  unfold told
  split
  · exact Event.introduced_nil
  · exact Event.introduced_nil
  · split
    · exact Report.introduced_eventsAt _ _ _
    · exact Event.introduced_nil

theorem introduced_toldIn (l : Logging) (steps : List Step) :
    ∀ es ∈ l.toldIn steps, Event.Introduced es := by
  induction steps generalizing l with
  | nil => exact nofun
  | cons s rest ih =>
    intro es hes
    obtain rfl | hes := List.mem_cons.1 hes
    · exact l.introduced_told s
    · exact ih _ es hes

/-- The way to write lines stays once it is chosen. -/
theorem rendered_run {l : Logging} (h : l.configured = true) (steps : List Step) :
    (l.run steps).1.rendered = l.rendered := by
  obtain ⟨settings, hrun⟩ : ∃ settings, (l.run steps).1 = l.withSettings settings :=
    run_of_idle (.inl h)
  rw [hrun]
  rfl

/-- **The steps of a run write what they tell of,** in the one way that the run has
chosen. -/
theorem lines_run (l : Logging) (steps : List Step) :
    (l.run steps).2.map (·.lines) = (l.toldIn steps).map (l.run steps).1.rendered := by
  induction steps generalizing l with
  | nil => rfl
  | cons s rest ih =>
    have hstep : (l.step s).2.lines = ((l.step s).1.run rest).1.rendered (l.told s) := by
      rw [lines_step]
      cases hc : (l.step s).1.configured with
      | true => rw [rendered_run hc]
      | false => rw [told_of_not_configured hc, rendered_nil, rendered_nil]
    rw [run_cons, List.map_cons, toldIn, List.map_cons, hstep, ih]

/-- **A build that fails writes nothing,** neither before logging nor in configuring it. -/
theorem lines_of_answer_error {l : Logging} {name raw : Value} {e : LoggedBuild.Failure}
    (h : (LoggedBuild.run l name raw).answer = .error e) :
    (LoggedBuild.run l name raw).lines = [] := by
  obtain hp | ⟨found, u, hp, hu, rfl⟩ := (LoggedBuild.answer_eq_error_iff ..).1 h
  · rw [LoggedBuild.run_of_prepare_error hp]
  · rw [LoggedBuild.run_of_configure_error hp (Prod.ext rfl hu)]

section Compared

variable {R : Settings → Settings → Prop} {l m : Logging}

/-- Two steps do the same, or they replace the settings by ones that are related, or both
are refused the settings. -/
inductive Step.Varied (R : Settings → Settings → Prop) : Step → Step → Prop where
  | same (s : Step) : Varied R s s
  | settings {env env' : List (String × String)} {s t : Settings}
      (hs : Settings.ofEnvironment env = .ok s) (ht : Settings.ofEnvironment env' = .ok t)
      (h : R s t) : Varied R (.settings env) (.settings env')
  | refused {env env' : List (String × String)} {r r' : Refusal}
      (hr : Settings.ofEnvironment env = .error r)
      (hr' : Settings.ofEnvironment env' = .error r') : Varied R (.settings env) (.settings env')

/-- A state of logging in a run, and the state in a run with related settings. -/
structure Follows (R : Settings → Settings → Prop) (l m : Logging) : Prop where
  settings : R l.settings m.settings
  handler : l.handler = m.handler
  /-- The second root logger lets no more pass. -/
  root : l.root.severity ≤ m.root.severity
  /-- The ways to write lines are those that related settings ask for. -/
  renderer : Option.Rel (fun x y => ∃ s t, R s t ∧ rendererOf s = x ∧ rendererOf t = y)
    l.renderer m.renderer

theorem Follows.configured (h : Follows R l m) : l.configured = m.configured := by
  have hrel := h.renderer
  unfold Logging.configured
  generalize l.renderer = x, m.renderer = y at hrel
  cases hrel <;> rfl

theorem Follows.withSettings (h : Follows R l m) {s t : Settings} (hs : R s t) :
    Follows R (l.withSettings s) (m.withSettings t) :=
  ⟨hs, h.handler, h.root, h.renderer⟩

theorem Follows.withHandler (h : Follows R l m) : Follows R l.withHandler m.withHandler :=
  ⟨h.settings, rfl, h.root, h.renderer⟩

theorem Follows.settled (h : Follows R l m) {a b : Level} (hab : a.severity ≤ b.severity) :
    Follows R (l.settled a) (m.settled b) :=
  ⟨h.settings, rfl, hab, .some ⟨_, _, h.settings, rfl, rfl⟩⟩

/-- A relation of settings along which the level stays or is raised. -/
structure IsRaising (R : Settings → Settings → Prop) : Prop where
  refl : ∀ s, R s s
  level : ∀ {s t}, R s t → Level.Raises s.level t.level

/-- A state is followed by itself with a level that is at least as severe. -/
theorem IsRaising.follows (hR : IsRaising R) {root : Level}
    (h : l.root.severity ≤ root.severity) : Follows R l { l with root := root } where
  settings := hR.refl _
  handler := rfl
  root := h
  renderer := by
    cases l.renderer with
    | none => exact .none
    | some way =>
      cases way with
      | json => exact .some ⟨⟨"", true⟩, _, hR.refl _, rfl, rfl⟩
      | console => exact .some ⟨⟨"", false⟩, _, hR.refl _, rfl, rfl⟩

/-- **Configuring in both runs** comes through in both or in none. -/
theorem Follows.configure (hR : IsRaising R) (h : Follows R l m) :
    Follows R l.configure.1 m.configure.1 ∧ (l.configure.2 = none ↔ m.configure.2 = none) := by
  have hraises := hR.level h.settings
  rcases l.configure_cases with ⟨hc, he⟩ | ⟨hc, hh, he⟩ | ⟨hc, hh, level, hl, he⟩ |
    ⟨hc, hh, u, hu, he⟩ <;> rw [he]
  · rw [configure_of_configured (h.configured.symm.trans hc)]
    exact ⟨h, Iff.rfl⟩
  · rw [configure_of_handler (h.configured.symm.trans hc) (h.handler.symm.trans hh)]
    exact ⟨h.settled h.root, Iff.rfl⟩
  · obtain ⟨level', hl', hle⟩ := hraises.exists_ofText hl
    have hm : ¬ m.Tried :=
      m.not_tried_iff.2 ⟨h.configured.symm.trans hc, h.handler.symm.trans hh⟩
    rw [configure_of_level hm hl']
    exact ⟨h.settled hle, Iff.rfl⟩
  · -- a text that names no level is the same in the second run
    have hu' : Level.ofText m.settings.level = .error u := by
      rw [← hraises.eq_of_unknown hu, hu]
    have hm : m.configure = (m.withHandler, some u) := (m.configure_eq_error_iff _ u).2
      ⟨h.configured.symm.trans hc, h.handler.symm.trans hh, hu', rfl⟩
    rw [hm]
    exact ⟨h.withHandler, by simp⟩

/-- **One step of both runs** leaves states that are related. -/
theorem Follows.step (hR : IsRaising R) (h : Follows R l m) {s t : Step} (hs : s.Varied R t) :
    Follows R (l.step s).1 (m.step t).1 := by
  cases hs with
  | settings hs ht hst => simpa [Logging.step, hs, ht] using h.withSettings hst
  | refused hr hr' => simpa [Logging.step, hr, hr'] using h
  | same =>
    cases s with
    | settings env =>
      cases he : Settings.ofEnvironment env with
      | error r => simpa [Logging.step, he] using h
      | ok settings => simpa [Logging.step, he] using h.withSettings (hR.refl settings)
    | configure =>
      rw [(step_of_configures rfl l).1, (step_of_configures rfl m).1]
      exact (h.configure hR).1
    | build name raw =>
      rw [(l.step_build name raw).1, (m.step_build name raw).1]
      cases hp : LoggedBuild.prepare name raw with
      | error e =>
        rw [LoggedBuild.run_of_prepare_error hp, LoggedBuild.run_of_prepare_error hp]
        exact h
      | ok found =>
        rw [LoggedBuild.logging_of_prepare hp, LoggedBuild.logging_of_prepare hp]
        exact (h.configure hR).1

/-- **One step of both runs** tells in the second some of what it tells in the first. -/
theorem Follows.told (hR : IsRaising R) (h : Follows R l m) {s t : Step} (hs : s.Varied R t) :
    (m.told t).Sublist (l.told s) := by
  cases hs with
  | settings => exact .slnil
  | refused => exact .slnil
  | same =>
    cases s with
    | settings env => exact .slnil
    | configure => exact .slnil
    | build name raw =>
      obtain ⟨hfollows, hnone⟩ := h.configure hR
      by_cases htold : ∃ found, LoggedBuild.prepare name raw = .ok found ∧ l.configure.2 = none
      · obtain ⟨⟨p, r⟩, hp, hl⟩ := htold
        rw [told_build hp hl, told_build hp (hnone.1 hl)]
        exact r.eventsAt_sublist p hfollows.root
      · have hm : m.told (.build name raw) = [] :=
          told_build_of_failed fun found hp hm => htold ⟨found, hp, hnone.2 hm⟩
        rw [hm]
        exact List.nil_sublist _

/-- **The runs of steps that vary one by one** tell step by step in the second some of what
they tell in the first. -/
theorem Follows.run (hR : IsRaising R) {steps steps' : List Step}
    (hsteps : List.Forall₂ (Step.Varied R) steps steps') (h : Follows R l m) :
    Follows R (l.run steps).1 (m.run steps').1 ∧
      List.Forall₂ (fun es es' => es'.Sublist es) (l.toldIn steps) (m.toldIn steps') := by
  induction hsteps generalizing l m with
  | nil => exact ⟨h, .nil⟩
  | cons hs _ ih =>
    obtain ⟨hend, htold⟩ := ih (h.step hR hs)
    exact ⟨hend, .cons (h.told hR hs) htold⟩

end Compared

/-- The settings differ in the level alone, which is raised or stays. -/
structure Quieter (s t : Settings) : Prop where
  level : Level.Raises s.level t.level
  json : s.json = t.json

theorem isRaising_quieter : IsRaising Quieter := ⟨fun _ => ⟨.inl rfl, rfl⟩, fun h => h.level⟩

theorem Follows.rendered_eq {l m : Logging} (h : Follows Quieter l m) :
    l.rendered = m.rendered := by
  have hrel := h.renderer
  have hsame : l.renderer = m.renderer := by
    generalize l.renderer = x, m.renderer = y at hrel
    cases hrel with
    | none => rfl
    | some hsettings =>
      obtain ⟨s, t, hst, rfl, rfl⟩ := hsettings
      rw [rendererOf, rendererOf, hst.json]
  funext es
  rw [rendered, rendered, hsame]

/-- **A higher level only takes lines away,** step by step. -/
theorem lines_sublist {l : Logging} {root : Level} (h : l.root.severity ≤ root.severity)
    {steps steps' : List Step} (hsteps : List.Forall₂ (Step.Varied Quieter) steps steps') :
    List.Forall₂ (fun ls ls' => ls'.Sublist ls) ((l.run steps).2.map (·.lines))
      ((({ l with root := root } : Logging).run steps').2.map (·.lines)) := by
  obtain ⟨hend, htold⟩ := (isRaising_quieter.follows h).run isRaising_quieter hsteps
  rw [lines_run, lines_run, hend.rendered_eq, List.forall₂_map_left_iff,
    List.forall₂_map_right_iff]
  exact htold.imp fun es es' hes => rendered_sublist _ hes

/-- The settings differ in the format of lines alone. -/
def Restyled (s t : Settings) : Prop := s.level = t.level

theorem isRaising_restyled : IsRaising Restyled := ⟨fun _ => rfl, fun h => .inl h⟩

theorem Step.Varied.symm {s t : Step} (h : s.Varied Restyled t) : t.Varied Restyled s := by
  cases h with
  | same => exact .same _
  | settings hs ht hst => exact .settings ht hs (Eq.symm hst)
  | refused hr hr' => exact .refused hr' hr

/-- **The format of lines changes nothing of what is told.** -/
theorem toldIn_eq_of_restyled (l : Logging) {steps steps' : List Step}
    (h : List.Forall₂ (Step.Varied Restyled) steps steps') : l.toldIn steps = l.toldIn steps' := by
  have hl : Follows Restyled l l := isRaising_restyled.follows (Nat.le_refl _)
  have hless := (hl.run isRaising_restyled h).2
  have hmore := (hl.run isRaising_restyled (h.imp fun _ _ => Step.Varied.symm).flip).2
  rw [← List.forall₂_eq_eq_eq]
  exact hless.mp (fun es es' hes hes' => hes'.antisymm hes) hmore.flip

/-- The lines of a run are in order, as far as the counts in them have a text. -/
theorem introduced_rendered (l : Logging) {es : List Event} (h : Event.Introduced es)
    (hw : ∀ e ∈ es, e.IsWritten) : Line.Introduced (l.rendered es) := by
  unfold rendered
  split
  · exact Line.introduced_map_render Event.introduced_nil nofun .json
  · exact Line.introduced_map_render h hw _

/-- **A build writes exactly what its report and the level say.** -/
theorem run_of_report {l : Logging} {way : Renderer} (hl : l.renderer = some way)
    {name raw : Value} {p : Processor} {r : Report} (hp : Processor.ofValue name = .ok p)
    (hr : p.cls.report (LoggedBuild.entriesOrNone raw) = .ok r) : ∃ entries,
      r.props.held? additionalName = some (.ofEntries entries) ∧
      let told : List Event :=
        (if l.root.passes .info then [.built p entries.size r.defaulted.length] else []) ++
          if l.root.passes .debug ∧ r.defaulted ≠ [] then
            [.defaulted p r.defaulted r.malformed] else []
      LoggedBuild.run l name raw = ⟨l, told.map way.render, .ok r⟩ ∧
        (entries.size < tenTo Decimal.limit →
          List.Forall₂ Line.Shows (told.map way.render) told) := by
  obtain ⟨entries, hheld, hcount⟩ := PropsClass.exists_additional_of_report hr
  have hprepare := (LoggedBuild.prepare_eq_ok_iff ..).2 ⟨hp, hr⟩
  have hconfigure : l.configure = (l, none) :=
    configure_of_configured (by rw [Logging.configured, hl]; rfl)
  refine ⟨entries, hheld, ?_⟩
  rw [← hcount, ← r.eventsAt_eq]
  refine ⟨?_, fun hsize => ?_⟩
  · rw [LoggedBuild.run_of_configure hprepare hconfigure, write_events, rendered, hl]
  · rw [List.forall₂_map_left_iff, List.forall₂_same]
    intro e he
    exact way.shows_render
      (r.isWritten_eventsAt p hsize (Processor.length_defaulted_lt hr) l.root e he)

/-- **The lines of builds are determined by their reports and the level.**  If logging is
configured, a build that has a report writes a line that counts the entries of the
additional properties and the fields at their defaults, if the root logger lets pass what is
informative, and after it one that names these fields and the malformed ones, if it lets
pass debugging and there are any; it writes nothing else.  Each line shows its event, on a
console as far as the number of entries has a text, and no line shows two.  A build that
fails writes nothing in any state.

So each step of a run writes the events that it tells of, in one way for the whole run, and
every line that names fields comes right after the line of the same logger that counts
them.  If the level is raised, in the state or by the settings, each step writes some of
what it wrote; if the settings differ in the format alone, each step tells of the same
events. -/
theorem lines_determined (l : Logging) :
    (∀ (way : Renderer) (name raw : Value) (p : Processor) (r : Report),
      l.renderer = some way → Processor.ofValue name = .ok p →
      p.cls.report (LoggedBuild.entriesOrNone raw) = .ok r → ∃ entries,
        r.props.held? additionalName = some (.ofEntries entries) ∧
        let told : List Event :=
          (if l.root.passes .info then [.built p entries.size r.defaulted.length] else []) ++
            if l.root.passes .debug ∧ r.defaulted ≠ [] then
              [.defaulted p r.defaulted r.malformed] else []
        LoggedBuild.run l name raw = ⟨l, told.map way.render, .ok r⟩ ∧
          (entries.size < tenTo Decimal.limit →
            List.Forall₂ Line.Shows (told.map way.render) told)) ∧
    (∀ (line : Line) (e e' : Event), line.Shows e → line.Shows e' → e = e') ∧
    (∀ (name raw : Value) (e : LoggedBuild.Failure),
      (LoggedBuild.run l name raw).answer = .error e → (LoggedBuild.run l name raw).lines = []) ∧
    (∀ steps : List Step, let m := (l.run steps).1
      let told := (l.toldIn steps).flatten
      (l.run steps).2.map (·.lines) = (l.toldIn steps).map m.rendered ∧
        (l.run steps).2.flatMap (·.lines) = m.rendered told ∧ Event.Introduced told ∧
        ((∀ e ∈ told, e.IsWritten) → Line.Introduced ((l.run steps).2.flatMap (·.lines)))) ∧
    (∀ root : Level, l.root.severity ≤ root.severity →
      ∀ steps steps', List.Forall₂ (Step.Varied Quieter) steps steps' →
        List.Forall₂ (fun ls ls' => ls'.Sublist ls) ((l.run steps).2.map (·.lines))
          ((({ l with root := root } : Logging).run steps').2.map (·.lines))) ∧
    ∀ steps steps' : List Step, List.Forall₂ (Step.Varied Restyled) steps steps' →
      l.toldIn steps = l.toldIn steps' := by
  refine ⟨fun way name raw p r hl hp hr => run_of_report hl hp hr,
    fun line e e' h h' => h.unique h', fun name raw e he => lines_of_answer_error he,
    fun steps => ?_, fun root h steps steps' hsteps => lines_sublist h hsteps,
    fun steps steps' hsteps => l.toldIn_eq_of_restyled hsteps⟩
  have hlines := l.lines_run steps
  have hflat : (l.run steps).2.flatMap (·.lines) =
      (l.run steps).1.rendered (l.toldIn steps).flatten := by
    rw [List.flatMap_def, hlines, rendered_flatten]
  have horder := Event.introduced_flatten (l.introduced_toldIn steps)
  refine ⟨hlines, hflat, horder, fun hw => ?_⟩
  rw [hflat]
  exact introduced_rendered _ horder hw

/-- With the level `DEBUG` a build of nothing is told of in two lines; with the level `ERROR`
every step writes some of what it writes then. -/
theorem lines_of_debug :
    let named := fun level => Step.settings [("AUDITKIT_LOG_LEVEL", level)]
    let first := Step.build (.text "event_id") .null
    (LoggedBuild.run (fresh.run [named "DEBUG", .configure]).1 (.text "event_id") .null).lines =
      [.json (.built .eventId 0 2), .json (.defaulted .eventId ["length", "event_field_name"] [])] ∧
    List.Forall₂ (fun ls ls' => ls'.Sublist ls)
      ((fresh.run [named "DEBUG", first]).2.map (·.lines))
      ((fresh.run [named "ERROR", first]).2.map (·.lines)) := by
  intro named first
  constructor
  · obtain ⟨r, hr, hdefaulted, hmalformed, hnone⟩ : ∃ r,
      Processor.eventId.cls.report (.map []) = .ok r ∧
      r.defaulted = ["length", "event_field_name"] ∧ r.malformed = [] ∧
      r.props.held? additionalName = some (.map []) := ⟨_, rfl, rfl, rfl, rfl⟩
    obtain ⟨hexact, _⟩ := lines_determined (fresh.run [named "DEBUG", .configure]).1
    obtain ⟨entries, hheld, hrun, _⟩ :=
      hexact .json (.text "event_id") .null .eventId r rfl rfl hr
    have hempty : entries.toList = [] := by
      rw [hnone] at hheld
      exact (Value.map.inj (Option.some.inj hheld)).symm
    have hsize : entries.size = 0 := by rw [Entries.size, hempty]; rfl
    rw [hrun, hsize, hdefaulted, hmalformed]
    rfl
  · have hdebug : Settings.ofEnvironment [("AUDITKIT_LOG_LEVEL", "DEBUG")] =
      .ok ⟨"DEBUG", true⟩ := rfl
    have herror : Settings.ofEnvironment [("AUDITKIT_LOG_LEVEL", "ERROR")] =
      .ok ⟨"ERROR", true⟩ := rfl
    have hlevel : Level.Raises "DEBUG" "ERROR" := .inr ⟨.debug, .error, rfl, rfl, by decide⟩
    obtain ⟨_, _, _, _, hraised, _⟩ := lines_determined fresh
    exact hraised .warning (Nat.le_refl _) _ _
      (.cons (.settings hdebug herror ⟨hlevel, rfl⟩) (.cons (.same first) .nil))

end Logging
end AuditConfig
