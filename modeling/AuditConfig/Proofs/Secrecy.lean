import AuditConfig.Proofs.Answering
import AuditConfig.Proofs.Reporting

/-!
# What the log tells of a raw map

A build tells of its report: how many entries were passed through, which specs fell back
to their defaults, and which of those were given a malformed value.  The specs are found
from their outcomes alone (`defaulted_of_reportEntries`, `malformed_of_reportEntries`), and
no event carries a value.

So two raw maps are told of in the same way that give every spec the same outcome and have
as many entries passed through (`PropsClass.Alike`), whatever they hold.  Logging is left
in the same state by both builds, and as its state alone says whether configuring fails,
both builds fail or none (`LoggedBuild.tells_same_of_alike`).  Hence two runs of the same
steps, but for builds of such raw maps, are told of in the same way as well
(`Logging.run_of_alike`).
-/

namespace AuditConfig
namespace PropsClass

variable {c : PropsClass} {raw raw' : Entries Key Value} {r r' : Report}

/-- The number that is told is that of the entries passed through. -/
theorem additionalCount_of_reportEntries (h : c.reportEntries raw = .ok r) :
    r.props.additionalCount = (c.passThrough raw).size := by
  obtain ⟨rs, _, hprops⟩ := exists_make_of_reportEntries h
  rw [hprops]
  rfl

/-- **Two raw maps look alike to a class** that differ only in what must stay untold: the
values that are configured or malformed, and the entries that are passed through. -/
structure Alike (c : PropsClass) (raw raw' : Entries Key Value) : Prop where
  /-- Every spec has the same outcome. -/
  outcomes : ∀ s ∈ c.specs, s.outcome? (rawAt raw s.key) = s.outcome? (rawAt raw' s.key)
  /-- As many entries are passed through. -/
  passed : (c.passThrough raw).size = (c.passThrough raw').size

/-- **What is told of raw maps that look alike is the same.** -/
theorem Alike.events_eq (h : c.Alike raw raw') (hr : c.reportEntries raw = .ok r)
    (hr' : c.reportEntries raw' = .ok r') (p : Processor) : r.events p = r'.events p := by
  have hdefaulted : r.defaulted = r'.defaulted := by
    rw [defaulted_of_reportEntries hr, defaulted_of_reportEntries hr']
    exact congrArg _ (List.filter_congr fun s hs => by rw [h.outcomes s hs])
  have hmalformed : r.malformed = r'.malformed := by
    rw [malformed_of_reportEntries hr, malformed_of_reportEntries hr']
    exact congrArg _ (List.filter_congr fun s hs => by rw [h.outcomes s hs])
  have hcount : r.props.additionalCount = r'.props.additionalCount := by
    rw [additionalCount_of_reportEntries hr, additionalCount_of_reportEntries hr', h.passed]
  rw [Report.events, Report.events, hdefaulted, hmalformed, hcount]

end PropsClass

namespace LoggedBuild

variable {p : Processor} {raw raw' : Entries Key Value} {o o' : Props}

/-- **Builds of raw maps that look alike** come to reports that are told of in the same
way. -/
theorem exists_prepare_of_alike (ho : p.cls.build (.ofEntries raw) = .ok o)
    (ho' : p.cls.build (.ofEntries raw') = .ok o') (h : p.cls.Alike raw raw') : ∃ r r',
      prepare (.text p.name) (.ofEntries raw) = .ok (p, r) ∧ r.props = o ∧
      prepare (.text p.name) (.ofEntries raw') = .ok (p, r') ∧ r'.props = o' ∧
      r.events p = r'.events p := by
  obtain ⟨r, hr, hprops⟩ := (p.cls.build_eq_ok_iff_report ..).1 ho
  obtain ⟨r', hr', hprops'⟩ := (p.cls.build_eq_ok_iff_report ..).1 ho'
  refine ⟨r, r', prepare_of_report hr, hprops, prepare_of_report hr', hprops', ?_⟩
  rw [PropsClass.report_ofEntries] at hr hr'
  exact h.events_eq hr hr' p

/-- Builds that are told of in the same way write the same lines and leave logging in the
same state. -/
theorem run_eq_of_events_eq {name name' value value' : Value} {r r' : Report}
    (h : prepare name value = .ok (p, r)) (h' : prepare name' value' = .ok (p, r'))
    (he : r.events p = r'.events p) (l : Logging) :
    (run l name value).lines = (run l name' value').lines ∧
      (run l name value).logging = (run l name' value').logging := by
  cases hl : l.configure with
  | mk l' u =>
    cases u with
    | none => simp [run_of_configure h hl, run_of_configure h' hl, he]
    | some u => simp [run_of_configure_error h hl, run_of_configure_error h' hl]

/-- **Configured values never reach the log.**  Take two raw maps that a processor's class
builds objects of, that give every spec the same outcome, and of which as many entries are
passed through.  In every state of logging the builds of the two by the name of the
processor write the same lines, the time of writing aside, and leave the same state behind;
and either both answer with their objects, or both fail with the same failure. -/
theorem tells_same_of_alike (l : Logging) (ho : p.cls.build (.ofEntries raw) = .ok o)
    (ho' : p.cls.build (.ofEntries raw') = .ok o') (h : p.cls.Alike raw raw') :
    let one := run l (.text p.name) (.ofEntries raw)
    let other := run l (.text p.name) (.ofEntries raw')
    one.lines = other.lines ∧ one.logging = other.logging ∧
      ((one.answer.map (·.props) = .ok o ∧ other.answer.map (·.props) = .ok o') ∨
        ∃ e, one.answer = .error e ∧ other.answer = .error e) := by
  intro one other
  obtain ⟨r, r', hr, rfl, hr', rfl, hevents⟩ := exists_prepare_of_alike ho ho' h
  obtain ⟨hlines, hlogging⟩ := run_eq_of_events_eq hr hr' hevents l
  have hone : one.answer = _ := answer_of_prepare hr l
  have hother : other.answer = _ := answer_of_prepare hr' l
  refine ⟨hlines, hlogging, ?_⟩
  rw [hone, hother]
  cases l.configure.2 with
  | none => exact .inl ⟨rfl, rfl⟩
  | some u => exact .inr ⟨.level u, rfl, rfl⟩

/-- The raw configuration of a length and of a token that nothing recognizes. -/
def tokened (length token : String) : RawConfig :=
  Entries.ofList [("audit.processor.eventId.length", some length), ("token", some token)]

/-- Another length and another token are told of in the same way. -/
theorem tells_same_of_tokened : ∃ o o',
    Processor.eventId.cls.build (tokened "16" "secret").value = .ok o ∧
    Processor.eventId.cls.build (tokened "8" "open sesame").value = .ok o' ∧
    o.fields.get? "length" = some (.int 16) ∧ o'.fields.get? "length" = some (.int 8) ∧
    (run .fresh (.text Processor.eventId.name) (tokened "16" "secret").value).lines =
      (run .fresh (.text Processor.eventId.name) (tokened "8" "open sesame").value).lines := by
  obtain ⟨o, ho, hlength⟩ : ∃ o, Processor.eventId.cls.build (tokened "16" "secret").value = .ok o ∧
    o.fields.get? "length" = some (.int 16) := ⟨_, rfl, rfl⟩
  obtain ⟨o', ho', hlength'⟩ : ∃ o,
    Processor.eventId.cls.build (tokened "8" "open sesame").value = .ok o ∧
    o.fields.get? "length" = some (.int 8) := ⟨_, rfl, rfl⟩
  have halike : Processor.eventId.cls.Alike (tokened "16" "secret").entries
    (tokened "8" "open sesame").entries := ⟨by decide +kernel, rfl⟩
  exact ⟨o, o', ho, ho', hlength, hlength', (tells_same_of_alike .fresh ho ho' halike).1⟩

end LoggedBuild

namespace Logging

/-- Two steps do the same, or they build by the name of a processor of raw maps that look
alike to its class. -/
inductive Step.Alike : Step → Step → Prop where
  | same (s : Step) : Alike s s
  | build {p : Processor} {raw raw' : Entries Key Value} {o o' : Props}
      (ho : p.cls.build (.ofEntries raw) = .ok o) (ho' : p.cls.build (.ofEntries raw') = .ok o')
      (h : p.cls.Alike raw raw') :
      Alike (.build (.text p.name) (.ofEntries raw)) (.build (.text p.name) (.ofEntries raw'))

/-- A step that builds leaves the state and the lines of the build. -/
theorem step_build (l : Logging) (name raw : Value) :
    (l.step (.build name raw)).1 = (LoggedBuild.run l name raw).logging ∧
      (l.step (.build name raw)).2.lines = (LoggedBuild.run l name raw).lines := by
  cases h : (LoggedBuild.run l name raw).answer <;> simp [step, h]

theorem step_of_alike {s t : Step} (h : s.Alike t) (l : Logging) :
    (l.step s).1 = (l.step t).1 ∧ (l.step s).2.lines = (l.step t).2.lines := by
  cases h with
  | same => exact ⟨rfl, rfl⟩
  | @build p raw raw' o o' ho ho' h =>
    obtain ⟨r, r', hr, _, hr', _, hevents⟩ := LoggedBuild.exists_prepare_of_alike ho ho' h
    obtain ⟨hlines, hlogging⟩ := LoggedBuild.run_eq_of_events_eq hr hr' hevents l
    obtain ⟨hstate, hwritten⟩ := l.step_build (.text p.name) (.ofEntries raw)
    obtain ⟨hstate', hwritten'⟩ := l.step_build (.text p.name) (.ofEntries raw')
    rw [hstate, hstate', hwritten, hwritten']
    exact ⟨hlogging, hlines⟩

/-- **Two runs of steps that are alike one by one** write the same lines and leave logging
in the same state. -/
theorem run_of_alike (pairs : List (Step × Step)) (h : ∀ s ∈ pairs, s.1.Alike s.2) (l : Logging) :
    (l.run (pairs.map (·.1))).1 = (l.run (pairs.map (·.2))).1 ∧
      (l.run (pairs.map (·.1))).2.map (·.lines) = (l.run (pairs.map (·.2))).2.map (·.lines) := by
  -- before every pair of steps both runs are in one state
  induction pairs generalizing l with
  | nil => exact ⟨rfl, rfl⟩
  | cons s rest ih =>
    obtain ⟨hstate, hlines⟩ := step_of_alike (h s (.head _)) l
    obtain ⟨hrest, hrestLines⟩ := ih (fun t ht => h t (.tail _ ht)) (l.step s.1).1
    simp only [List.map_cons, run]
    rw [← hstate, ← hlines]
    exact ⟨hrest, congrArg _ hrestLines⟩

end Logging
end AuditConfig
