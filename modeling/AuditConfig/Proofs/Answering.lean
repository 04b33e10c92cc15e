import AuditConfig.Proofs.Configuring

/-!
# What logged builds answer

A logged build builds the object first and configures logging then.  It answers with the
object, but for one case: configuring was never tried before, and the settings name no
level (`answer_of_build`).  The build then fails though its object is there.  Once it was
tried, in that build or in any other step, every build answers with its object from then
on, so that a call that failed so comes through when it is repeated.
-/

namespace AuditConfig
namespace LoggedBuild

variable {name raw : Value} {p : Processor} {r : Report}

/-- A report by the class of a processor is what its name and the raw map prepare. -/
theorem prepare_of_report {entries : Entries Key Value}
    (h : p.cls.report (.ofEntries entries) = .ok r) :
    prepare (.text p.name) (.ofEntries entries) = .ok (p, r) :=
  (prepare_eq_ok_iff ..).2 ⟨p.ofValue_name, h⟩

/-- A build that does not fail before logging answers with its report, unless configuring
fails. -/
theorem answer_of_prepare (h : prepare name raw = .ok (p, r)) (l : Logging) :
    (run l name raw).answer =
      match l.configure.2 with
      | none => .ok r
      | some u => .error (.level u) := by
  cases hl : l.configure with
  | mk l' o =>
    cases o with
    | none => rw [run_of_configure h hl]
    | some u => rw [run_of_configure_error h hl]

/-- It leaves logging as configuring leaves it. -/
theorem logging_of_prepare (h : prepare name raw = .ok (p, r)) (l : Logging) :
    (run l name raw).logging = l.configure.1 := by
  cases hl : l.configure with
  | mk l' o =>
    cases o with
    | none => rw [run_of_configure h hl]
    | some u => rw [run_of_configure_error h hl]

/-- **A logged build answers with a report** exactly if the report is made and configuring
comes through. -/
theorem answer_eq_ok_iff (l : Logging) (name raw : Value) (r : Report) :
    (run l name raw).answer = .ok r ↔
      (∃ p, prepare name raw = .ok (p, r)) ∧ l.configure.2 = none := by
  cases hp : prepare name raw with
  | error e => simp [run_of_prepare_error hp l]
  | ok found =>
    obtain ⟨p, s⟩ := found
    rw [answer_of_prepare hp l]
    cases l.configure.2 <;> simp

/-- **A logged build fails** as it does before logging, or with the failure to configure
it. -/
theorem answer_eq_error_iff (l : Logging) (name raw : Value) (e : Failure) :
    (run l name raw).answer = .error e ↔ prepare name raw = .error e ∨
      ∃ found u, prepare name raw = .ok found ∧ l.configure.2 = some u ∧ e = .level u := by
  cases hp : prepare name raw with
  | error d => simp [run_of_prepare_error hp l]
  | ok found =>
    obtain ⟨p, r⟩ := found
    rw [answer_of_prepare hp l]
    cases l.configure.2 <;> simp [eq_comm]

/-- A logged build answers with an object exactly if its class builds that and configuring
comes through. -/
theorem object_eq_ok_iff (l : Logging) (name raw : Value) (o : Props) :
    (run l name raw).answer.map (·.props) = .ok o ↔
      (∃ p, Processor.ofValue name = .ok p ∧ p.cls.build (entriesOrNone raw) = .ok o) ∧
        (l.Tried ∨ ∃ level, Level.ofText l.settings.level = .ok level) := by
  have hmap : (run l name raw).answer.map (·.props) = .ok o ↔
      ∃ r, (run l name raw).answer = .ok r ∧ r.props = o := by
    cases (run l name raw).answer <;> simp [Except.map]
  simp only [hmap, answer_eq_ok_iff, l.configure_snd_eq_none_iff, prepare_eq_ok_iff,
    PropsClass.build_eq_ok_iff_report]
  constructor
  · rintro ⟨r, ⟨⟨p, hp, hr⟩, hl⟩, rfl⟩
    exact ⟨⟨p, hp, r, hr, rfl⟩, hl⟩
  · rintro ⟨⟨p, hp, r, hr, rfl⟩, hl⟩
    exact ⟨r, ⟨⟨p, hp, hr⟩, hl⟩, rfl⟩

/-- **What a logged build answers, and when it fails.**  It answers with an object exactly
if the processor's class builds that of the raw value, no entries standing for nothing,
and configuring was tried before or the settings name a level.  It fails with the failure
to find the processor or to build its object; and there is one more way to fail, that the
object is built, nothing was tried, and the settings name no level.

Whatever is done after a logged build of what makes an object, the same build answers
with that object then, so that only the first of several can fail.  In a run configuring
was tried exactly if a step came to it. -/
theorem answer_of_build (l : Logging) (name raw : Value) :
    (∀ o, (run l name raw).answer.map (·.props) = .ok o ↔
      (∃ p, Processor.ofValue name = .ok p ∧ p.cls.build (entriesOrNone raw) = .ok o) ∧
        (l.Tried ∨ ∃ level, Level.ofText l.settings.level = .ok level)) ∧
    (∀ e, (run l name raw).answer = .error e ↔
      (∃ n, Processor.ofValue name = .error n ∧ e = .name n) ∨
      (∃ p b, Processor.ofValue name = .ok p ∧ p.cls.build (entriesOrNone raw) = .error b ∧
        e = .build b) ∨
      ∃ p o u, Processor.ofValue name = .ok p ∧ p.cls.build (entriesOrNone raw) = .ok o ∧
        ¬ l.Tried ∧ Level.ofText l.settings.level = .error u ∧ e = .level u) ∧
    (∀ p o, Processor.ofValue name = .ok p → p.cls.build (entriesOrNone raw) = .ok o → ∀ steps,
      (run ((run l name raw).logging.run steps).1 name raw).answer.map (·.props) = .ok o) ∧
    ∀ steps, (Logging.fresh.run steps).1.Tried ↔ ∃ s ∈ steps, s.configures = true := by
  refine ⟨object_eq_ok_iff l name raw, fun e => ?_, fun p o hp ho steps => ?_, fun steps => ?_⟩
  · simp only [answer_eq_error_iff, prepare_eq_error_iff, PropsClass.build_eq_error_iff_report,
      l.configure_snd_eq_some_iff, or_assoc]
    refine or_congr_right (or_congr_right ?_)
    simp only [Prod.exists, prepare_eq_ok_iff, PropsClass.build_eq_ok_iff_report]
    constructor
    · rintro ⟨p, r, u, ⟨hp, hr⟩, ⟨ht, hl⟩, rfl⟩
      exact ⟨p, r.props, u, hp, ⟨r, hr, rfl⟩, ht, hl, rfl⟩
    · rintro ⟨p, o, u, hp, ⟨r, hr, _⟩, ht, hl, rfl⟩
      exact ⟨p, r, u, ⟨hp, hr⟩, ⟨ht, hl⟩, rfl⟩
  · -- the first build has tried, whether it failed or not, and trying is never forgotten
    obtain ⟨r, hr, _⟩ := (p.cls.build_eq_ok_iff_report ..).1 ho
    have htried : (run l name raw).logging.Tried := by
      rw [logging_of_prepare ((prepare_eq_ok_iff ..).2 ⟨hp, hr⟩)]
      exact l.tried_configure
    exact (object_eq_ok_iff ..).2 ⟨⟨p, hp, ho⟩, .inl ((Logging.tried_run_iff ..).2 (.inl htried))⟩
  · rw [Logging.tried_run_iff]
    simp [Logging.Tried, Logging.fresh, Logging.configured]

/-- A first build fails though its object can be built, and comes through when it is
repeated. -/
theorem no_answer_of_unknown_level : ∃ o u,
    let l := (Logging.fresh.run [.settings [("AUDITKIT_LOG_LEVEL", "loud")]]).1
    let first := run l (.text "event_id") .null
    Processor.eventId.cls.build (entriesOrNone .null) = .ok o ∧
    first.answer = .error (.level u) ∧
    (run first.logging (.text "event_id") .null).answer.map (·.props) = .ok o :=
  ⟨_, _, rfl, rfl, rfl⟩

end LoggedBuild
end AuditConfig
