import AuditConfig.Proofs.Answering
import AuditConfig.Proofs.Buildable
import AuditConfig.Proofs.Reading
import AuditConfig.Proofs.Seeing
import AuditConfig.Session.Step

/-!
# Building in stages

A raw map can be shared out among several classes: the first builds from it, and each
later one from the additional properties of the object built before it (`stages`).  If
no two of the classes recognize one key (`Apart`), every one of them makes what it makes
of the raw map directly, in whatever order they come.

The stages before a class take keys away that it does not ask for, and entries that
hold nothing, which are the same to it as entries that are not there
(`rawAt_leftOver`).  What a stage works on is therefore what the stages before it left
over of the raw map (`leftOver`), up to entries that hold nothing.  One stage makes the
same report of that as of the raw map (`report_of_leftOver`) and leaves over what the next
one works on (`passThrough_of_leftOver`), and so all of them do (`stages_eq_ok_iff`).
-/

namespace AuditConfig
namespace Staging

open PropsClass Session

/-- What none of some classes recognizes of a raw map, and holds something. -/
def leftOver (cs : List PropsClass) (raw : Entries Key Value) : Entries Key Value :=
  raw.filter fun k v => !cs.any (·.recognizes k) && !v.isNull

/-- No key is recognized by both of two classes. -/
def Apart (c d : PropsClass) : Prop := ∀ k ∈ c.keys, k ∉ d.keys

theorem Apart.symm {c d : PropsClass} (h : Apart c d) : Apart d c := fun k hd hc => h k hc hd

/-- What some classes leave over of what others left over. -/
theorem leftOver_leftOver (cs ds : List PropsClass) (raw : Entries Key Value) :
    leftOver cs (leftOver ds raw) = leftOver (ds ++ cs) raw := by
  apply Entries.ext_toList
  simp only [leftOver, Entries.filter, List.filter_filter, List.any_append, Bool.not_or]
  congr
  funext b
  cases b.2.isNull <;> simp [Bool.and_comm]

theorem leftOver_perm {cs ds : List PropsClass} (h : cs.Perm ds) (raw : Entries Key Value) :
    leftOver cs raw = leftOver ds raw := by
  have hany : ∀ k, cs.any (·.recognizes k) = ds.any (·.recognizes k) := fun k => h.any_eq
  simp only [leftOver, hany]

theorem passThrough_eq_leftOver (c : PropsClass) (raw : Entries Key Value) :
    c.passThrough raw = leftOver [c] raw := by
  simp [passThrough, leftOver]

/-- **What is left over holds the same under a key that none of the classes
recognizes.** -/
theorem rawAt_leftOver {cs : List PropsClass} {key : String} (h : ∀ c ∈ cs, key ∉ c.keys)
    (raw : Entries Key Value) : rawAt (leftOver cs raw) key = rawAt raw key := by
  have hany : cs.any (·.recognizes (.text key)) = false := by
    rw [List.any_eq_false]
    intro c hc
    rw [recognizes_text]
    exact h c hc
  rw [rawAt, rawAt, leftOver, Entries.get?_filter]
  cases raw.get? (.text key) with
  | none => rfl
  | some v =>
    rw [Option.filter_some, hany]
    cases hv : v.isNull with
    | true => exact ((Value.isNull_iff v).1 hv).symm
    | false => rfl

section

variable {c : PropsClass} {before : List PropsClass} {raw entries : Entries Key Value}
  (hentries : leftOver [] entries = leftOver before raw)
include hentries

/-- A class finds what the raw map holds under its keys in what was left over of it. -/
theorem rawAt_of_apart (hapart : ∀ d ∈ before, Apart d c) :
    ∀ s ∈ c.specs, rawAt entries s.key = rawAt raw s.key := by
  intro s hs
  have hkey : ∀ d ∈ before, s.key ∉ d.keys := fun d hd hk =>
    hapart d hd s.key hk (List.mem_map_of_mem hs)
  calc rawAt entries s.key
      = rawAt (leftOver [] entries) s.key := (rawAt_leftOver (by simp) entries).symm
    _ = rawAt (leftOver before raw) s.key := by rw [hentries]
    _ = rawAt raw s.key := rawAt_leftOver hkey raw

/-- A class leaves over what it and the ones before it recognize none of. -/
theorem passThrough_of_leftOver : c.passThrough entries = leftOver (before ++ [c]) raw := by
  calc c.passThrough entries
      = leftOver [c] entries := passThrough_eq_leftOver c entries
    _ = leftOver [c] (leftOver [] entries) := (leftOver_leftOver [c] [] entries).symm
    _ = leftOver [c] (leftOver before raw) := by rw [hentries]
    _ = leftOver (before ++ [c]) raw := leftOver_leftOver [c] before raw

end

/-- **What is left over of a raw map makes the same report** for a class that is apart
from the ones before it, but for the additional properties. -/
theorem report_of_leftOver {c : PropsClass} (hc : c.Accepted) {before : List PropsClass}
    (hapart : ∀ d ∈ before, Apart d c) {raw entries : Entries Key Value}
    (hentries : leftOver [] entries = leftOver before raw) {direct : Report}
    (hdirect : c.reportEntries raw = .ok direct) : c.report (.ofEntries entries) =
      .ok (direct.withAdditional (leftOver (before ++ [c]) raw)) := by
  obtain ⟨rs, hrs, rfl, ho⟩ := (reportEntries_eq_ok_iff ..).1 hdirect
  have hspecs := map_spec_of_resolveAll hrs
  have hbuildable := (hc.obstacle?_eq_none_iff hspecs _).1 ho
  have hresolve : resolveAll entries c.specs = resolveAll raw c.specs := resolveAll_congr
    fun s hs => congrArg s.resolve (rawAt_of_apart hentries hapart s hs)
  rw [report_ofEntries, reportOf_withAdditional, reportEntries_eq_ok_iff]
  refine ⟨rs, ?_, ?_, (hc.obstacle?_eq_none_iff hspecs _).2 hbuildable⟩
  · rw [hresolve, hrs]
  · rw [passThrough_of_leftOver hentries]

/-- Builds for one class after the other, each from the additional properties that are
found of the object built before it. -/
def stagesAfter (o : Props) : List PropsClass → Except Failure (List Report)
  | [] => .ok []
  | c :: rest => do
    let found ← Store.additionalOf o
    let raw ← Store.rawFor c found
    let report ← failing .build (c.report raw)
    let others ← stagesAfter report.props rest
    return report :: others

/-- Builds for the first class from a raw value, and for the others one after the
other. -/
def stages (raw : Value) : List PropsClass → Except Failure (List Report)
  | [] => .ok []
  | c :: rest => do
    let report ← failing .build (c.report raw)
    let others ← stagesAfter report.props rest
    return report :: others

/-- Given additional properties are what is found of an object, if its class reads
them. -/
def Passes (o : Props) (e : Entries Key Value) : Prop :=
  ∀ h, Store.additionalOf o = .ok h ↔ o.cls.Reads additionalName ∧ h = .value (.ofEntries e)

theorem cls_withAdditional {c : PropsClass} {raw : Entries Key Value} {direct : Report}
    (h : c.reportEntries raw = .ok direct) (e : Entries Key Value) :
    (direct.withAdditional e).props.cls = c := by
  obtain ⟨rs, _, rfl, _⟩ := (reportEntries_eq_ok_iff ..).1 h
  rfl

/-- An object that a stage made passes on its additional properties. -/
theorem passes_withAdditional {c : PropsClass} {raw : Entries Key Value} {direct : Report}
    (h : c.reportEntries raw = .ok direct) (e : Entries Key Value) :
    Passes (direct.withAdditional e).props e := by
  obtain ⟨rs, _, rfl, _⟩ := (reportEntries_eq_ok_iff ..).1 h
  rw [reportOf_withAdditional]
  intro found
  rw [Store.additionalOf, failing_eq_ok_iff]
  exact found_make_of_holding rfl found

section

variable {raw : Entries Key Value} {direct : PropsClass → Report}

/-- **All stages after an object** make what the classes make of the raw map directly, but
for what they pass on, and fail only if one of the classes whose objects are asked for
that does not read it. -/
theorem stagesAfter_eq_ok_iff {cs before : List PropsClass} {o : Props}
    (ho : Passes o (leftOver before raw)) (hcs : ∀ c ∈ cs, c.Accepted)
    (hbefore : ∀ d ∈ before, ∀ c ∈ cs, Apart d c) (hapart : cs.Pairwise Apart)
    (hdirect : ∀ c ∈ cs, c.reportEntries raw = .ok (direct c)) (out : List Report) :
    stagesAfter o cs = .ok out ↔ (∀ c ∈ (o.cls :: cs).dropLast, c.Reads additionalName) ∧
      out = cs.mapIdx fun i c =>
        (direct c).withAdditional (leftOver (before ++ cs.take (i + 1)) raw) := by
  induction cs generalizing before o out with
  | nil => simp [stagesAfter, eq_comm]
  | cons c rest ih =>
    obtain ⟨hc, hrest⟩ := List.pairwise_cons.1 hapart
    have hentries : leftOver [] (leftOver before raw) = leftOver before raw := by
      rw [leftOver_leftOver, List.append_nil]
    have hreport := report_of_leftOver (hcs c (.head _))
      (fun d hd => hbefore d hd c (.head _)) hentries (hdirect c (.head _))
    have hsoFar : ∀ d ∈ before ++ [c], ∀ e ∈ rest, Apart d e := by
      intro d hd e he
      rcases List.mem_append.1 hd with hd | hd
      · exact hbefore d hd e (.tail _ he)
      · rw [List.mem_singleton.1 hd]
        exact hc e he
    -- what this stage passes on is what the others start from
    have hothers := ih (passes_withAdditional (hdirect c (.head _)) _)
      (fun d hd => hcs d (.tail _ hd)) hsoFar hrest (fun d hd => hdirect d (.tail _ hd))
    rw [cls_withAdditional (hdirect c (.head _))] at hothers
    simp only [stagesAfter, bind_eq_ok_iff, ho _, List.mapIdx_cons, List.take_succ_cons,
      List.take_zero, List.dropLast_cons_cons, List.forall_mem_cons]
    constructor
    · rintro ⟨_, ⟨hr, rfl⟩, _, hraw, report, hr', others, ho', hout⟩
      cases hraw
      rw [failing_eq_ok_iff, hreport] at hr'
      cases hr'
      obtain ⟨hreads, rfl⟩ := (hothers others).1 ho'
      cases hout
      refine ⟨⟨hr, hreads⟩, ?_⟩
      simp
    · rintro ⟨⟨hr, hreads⟩, rfl⟩
      refine ⟨_, ⟨hr, rfl⟩, _, rfl, _, failing_eq_ok_iff.2 hreport, _,
        (hothers _).2 ⟨hreads, rfl⟩, ?_⟩
      simp [pure, Except.pure]

/-- **All stages** make what the classes make of the raw map directly, but for what they
pass on, and fail only if one of the classes before the last does not read that. -/
theorem stages_eq_ok_iff {cs : List PropsClass} (hcs : ∀ c ∈ cs, c.Accepted)
    (hapart : cs.Pairwise Apart) (hdirect : ∀ c ∈ cs, c.reportEntries raw = .ok (direct c))
    (out : List Report) : stages (.ofEntries raw) cs = .ok out ↔
      (∀ c ∈ cs.dropLast, c.Reads additionalName) ∧ out = cs.mapIdx fun i c =>
        (direct c).withAdditional (leftOver (cs.take (i + 1)) raw) := by
  cases cs with
  | nil => simp [stages, eq_comm]
  | cons c rest =>
    obtain ⟨hc, hrest⟩ := List.pairwise_cons.1 hapart
    have hentries : leftOver [] raw = leftOver [] raw := rfl
    have hreport := report_of_leftOver (hcs c (.head _)) (by simp) hentries (hdirect c (.head _))
    rw [List.nil_append] at hreport
    have hfirst : ∀ d ∈ [c], ∀ e ∈ rest, Apart d e := by simpa using hc
    have hothers := stagesAfter_eq_ok_iff (passes_withAdditional (hdirect c (.head _)) _)
      (fun d hd => hcs d (.tail _ hd)) hfirst hrest (fun d hd => hdirect d (.tail _ hd))
    rw [cls_withAdditional (hdirect c (.head _))] at hothers
    simp only [stages, bind_eq_ok_iff, failing_eq_ok_iff, hreport, Except.ok.injEq,
      exists_eq_left', hothers, List.mapIdx_cons, List.take_succ_cons, List.take_zero]
    constructor
    · rintro ⟨others, ⟨hreads, rfl⟩, hout⟩
      cases hout
      exact ⟨hreads, rfl⟩
    · rintro ⟨hreads, rfl⟩
      exact ⟨_, ⟨hreads, rfl⟩, rfl⟩

end

/-- No two processors recognize one key. -/
theorem apart_processors {p q : Processor} (h : p ≠ q) : Apart p.cls q.cls := by
  have hall : (Processor.all.all fun p => Processor.all.all fun q =>
      p = q || p.cls.keys.all (· ∉ q.cls.keys)) = true := by decide +kernel
  have hpq := List.all_eq_true.1 (List.all_eq_true.1 hall p p.mem_all) q q.mem_all
  have hkeys : ∀ k ∈ p.cls.keys, k ∉ q.cls.keys := by simpa [h] using hpq
  exact hkeys

/-- A build by the name of a processor answers with the report, unless logging is not
configured after it. -/
theorem answer_of_report (l : Logging) (p : Processor) {e : Entries Key Value} {r : Report}
    (hr : p.cls.report (.ofEntries e) = .ok r) :
    (LoggedBuild.run l (.text p.name) (.ofEntries e)).answer =
      match l.configure.2 with
      | none => .ok r
      | some u => .error (.level u) :=
  LoggedBuild.answer_of_prepare (LoggedBuild.prepare_of_report hr) l

/-- **Staged building equals direct building, in any order.**  Take accepted classes no
two of which recognize one key, and a raw map of which each of them makes a report
directly.  In every order the stages come through exactly if all classes before the last
read their additional properties, and each stage then makes the direct report of its
class, with what no class up to it recognizes as additional properties.  These are also
what is found of its object, if the class reads them, and after the last stage they are
the same in every order.

In particular a processor's report by way of the common properties is its direct one,
but for the keys of the common properties, unless logging cannot be configured. -/
theorem stages_eq_direct {cs : List PropsClass} (hcs : ∀ c ∈ cs, c.Accepted)
    (hapart : cs.Pairwise Apart) {raw : Entries Key Value} {direct : PropsClass → Report}
    (hdirect : ∀ c ∈ cs, c.report (.ofEntries raw) = .ok (direct c)) {order : List PropsClass}
    (horder : order.Perm cs) :
    (∀ out, stages (.ofEntries raw) order = .ok out ↔
      (∀ c ∈ order.dropLast, c.Reads additionalName) ∧ out = order.mapIdx fun i c =>
        (direct c).withAdditional (leftOver (order.take (i + 1)) raw)) ∧
    (∀ c ∈ cs, ∀ e h, Store.additionalOf ((direct c).withAdditional e).props = .ok h ↔
      c.Reads additionalName ∧ h = .value (.ofEntries e)) ∧
    leftOver order raw = leftOver cs raw ∧
    ∀ p : Processor, p ≠ .common → ∀ common own,
      Processor.common.cls.report (.ofEntries raw) = .ok common →
      p.cls.report (.ofEntries raw) = .ok own →
        ∃ e, Store.additionalOf common.props = .ok (.value (.ofEntries e)) ∧
          ∀ l, (LoggedBuild.run l (.text p.name) (.ofEntries e)).answer =
            match l.configure.2 with
            | none => .ok (own.withAdditional (leftOver [Processor.common.cls, p.cls] raw))
            | some u => .error (.level u) := by
  have hperm : ∀ {c}, c ∈ order ↔ c ∈ cs := horder.mem_iff
  simp only [report_ofEntries] at hdirect ⊢
  refine ⟨?_, ?_, leftOver_perm horder raw, ?_⟩
  · exact stages_eq_ok_iff (fun c hc => hcs c (hperm.1 hc))
      ((horder.pairwise_iff Apart.symm).2 hapart) fun c hc => hdirect c (hperm.1 hc)
  · intro c hc e h
    have hpasses := passes_withAdditional (hdirect c hc) e h
    rwa [cls_withAdditional (hdirect c hc)] at hpasses
  · intro p hp common own hcommon hown
    have hfound := found_of_reportEntries hcommon (held?_additional_of_reportEntries hcommon)
    have hreads := (plain_processor .common).reads additionalName
    refine ⟨leftOver [Processor.common.cls] raw, ?_, fun l => answer_of_report l p ?_⟩
    · rw [Store.additionalOf, failing_eq_ok_iff, hfound, passThrough_eq_leftOver]
      exact ⟨hreads, rfl⟩
    · refine report_of_leftOver (.processor p) ?_ (leftOver_leftOver [] _ raw) hown
      intro d hd
      rw [List.mem_singleton.1 hd]
      exact apart_processors hp.symm

/-- Keys of two processors and one that none recognizes. -/
def mixed : RawConfig := Entries.ofList [("audit.processors", some "event_id"),
  ("audit.processor.eventId.length", some "16"), ("unrelated", some "value"), ("nothing", none)]

/-- Two processors share out a raw configuration, the common one last. -/
theorem stages_of_mixed : ∃ event common,
    Processor.eventId.cls.report mixed.value = .ok event ∧
    Processor.common.cls.report mixed.value = .ok common ∧
    stages mixed.value [Processor.eventId.cls, Processor.common.cls] =
      .ok [event.withAdditional (leftOver [Processor.eventId.cls] mixed.entries),
        common.withAdditional
          (leftOver [Processor.eventId.cls, Processor.common.cls] mixed.entries)] := by
  have hshort : mixed.IsShort := by decide +kernel
  have hreport : ∀ p : Processor, ∃ r, p.cls.report (.ofEntries mixed.entries) = .ok r := fun p =>
    report_ofEntries p.cls _ ▸
      (Accepted.processor p).exists_reportEntries_of_isShort (buildable_processor p) hshort
  obtain ⟨event, hevent⟩ := hreport .eventId
  obtain ⟨common, hcommon⟩ := hreport .common
  refine ⟨event, common, hevent, hcommon, ?_⟩
  have haccepted : ∀ c ∈ [Processor.common.cls, Processor.eventId.cls], c.Accepted := by
    simp only [List.forall_mem_cons]
    exact ⟨.processor .common, .processor .eventId, by simp⟩
  have hapart : [Processor.common.cls, Processor.eventId.cls].Pairwise Apart := by
    simpa using apart_processors (p := .common) (q := .eventId) (by decide)
  have hdirect : ∀ c ∈ [Processor.common.cls, Processor.eventId.cls],
      c.report (.ofEntries mixed.entries) =
        .ok (if c.id = Processor.common.classId then common else event) := by
    simp only [List.forall_mem_cons]
    exact ⟨hcommon, hevent, by simp⟩
  have hreads := (plain_processor .eventId).reads additionalName
  refine ((stages_eq_direct haccepted hapart hdirect (.swap ..)).1 _).2 ⟨by simpa using hreads, ?_⟩
  rfl

end Staging
end AuditConfig
