import AuditConfig.Proofs.Buildable
import AuditConfig.Proofs.Seeing
import AuditConfig.Proofs.Totality

/-!
# When a build fails

A raw value can be of any kind, and so can be what a raw map holds.  A build of it fails
(`PropsClass.FailsOn`)

* if the raw value is nothing;
* if it is no map, whatever else it is;
* if a spec fails on what it is given (`FieldSpec.FailsOn`), and then the first that does so
  tells why;

and it fails if something in the class stands in the way of its objects, whatever the raw
value is.  It fails on nothing else (`build_fails_iff`), and in particular not on what is
passed through.

That an accepted class has nothing in the way of its objects does not hold, whatever the names
of its specs: the check of a class does not ask whether objects of it can be made
(`unbuilt_of_told`).
-/

namespace AuditConfig
namespace PropsClass

variable {c : PropsClass}

/-- **What a build fails on,** and why, but for what lies in the class. -/
inductive FailsOn (c : PropsClass) : Value → BuildError → Prop where
  | nothing : FailsOn c .null .nothing
  /-- What is no map is first asked for the value of the first spec. -/
  | lookup {raw : Value} (hn : raw ≠ .null) (hk : raw.kind ≠ .map) (hs : c.specs ≠ []) :
      FailsOn c raw (.notMap raw.kind.name .lookup)
  /-- If there is no spec, it is asked for all that it holds. -/
  | listing {raw : Value} (hn : raw ≠ .null) (hk : raw.kind ≠ .map) (hs : c.specs = []) :
      FailsOn c raw (.notMap raw.kind.name .listing)
  /-- The first spec that fails tells why. -/
  | digits {raw : Value} {entries : Entries Key Value} {before after : List FieldSpec}
      {s : FieldSpec} {d : DigitLimit} (hraw : raw.entries? = some entries)
      (hspecs : c.specs = before ++ s :: after)
      (hbefore : ∀ t ∈ before, ∀ e, ¬ t.FailsOn (rawAt entries t.key) e)
      (hs : s.FailsOn (rawAt entries s.key) d) : FailsOn c raw (.digits d)

theorem resolveAll_eq_error_iff_failsOn (c : PropsClass) {raw : Value} {entries : Entries Key Value}
    (hraw : raw.entries? = some entries) (e : BuildError) :
    (∃ d, resolveAll entries c.specs = .error d ∧ e = .digits d) ↔ c.FailsOn raw e := by
  simp only [resolveAll_eq_error_iff, FieldSpec.exists_resolve_iff, FieldSpec.resolve_eq_error_iff]
  constructor
  · rintro ⟨d, ⟨before, s, after, hspecs, hbefore, hs⟩, rfl⟩
    exact .digits hraw hspecs hbefore hs
  · intro h
    cases h with
    | nothing => cases hraw
    | lookup _ hk => cases hraw.symm.trans ((Value.entries?_eq_none_iff _).2 hk)
    | listing _ hk => cases hraw.symm.trans ((Value.entries?_eq_none_iff _).2 hk)
    | digits hraw' hspecs hbefore hs =>
      obtain rfl := Option.some.inj (hraw.symm.trans hraw')
      exact ⟨_, ⟨_, _, _, hspecs, hbefore, hs⟩, rfl⟩

theorem firstRequest_of_nil (hs : c.specs = []) : c.firstRequest = .listing := by
  simp [firstRequest, hs]

theorem firstRequest_of_ne_nil (hs : c.specs ≠ []) : c.firstRequest = .lookup := by
  simp [firstRequest, hs]

theorem report_of_not_map (c : PropsClass) {raw : Value} (hn : raw ≠ .null) (hk : raw.kind ≠ .map) :
    c.report raw = .error (.notMap raw.kind.name c.firstRequest) := by
  rw [report, (Value.entries?_eq_none_iff raw).2 hk]
  exact if_neg (mt (Value.isNull_iff raw).1 hn)

/-- A build fails on that, whatever the class. -/
theorem report_of_failsOn {raw : Value} {e : BuildError} (h : c.FailsOn raw e) :
    c.report raw = .error e := by
  cases h with
  | nothing => rfl
  | lookup hn hk hs => rw [c.report_of_not_map hn hk, firstRequest_of_ne_nil hs]
  | listing hn hk hs => rw [c.report_of_not_map hn hk, firstRequest_of_nil hs]
  | digits hraw hspecs hbefore hs =>
    obtain ⟨d, hd, he⟩ := (resolveAll_eq_error_iff_failsOn c hraw _).2
      (.digits hraw hspecs hbefore hs)
    rw [report, hraw, he]
    simp only [reportEntries, hd]

/-- A build for a buildable class fails on nothing else. -/
theorem Accepted.failsOn_of_report (h : c.Accepted) (hb : c.Buildable) {raw : Value}
    {e : BuildError} (he : c.report raw = .error e) : c.FailsOn raw e := by
  cases hraw : raw.entries? with
  | some entries =>
    rw [report, hraw] at he
    exact (resolveAll_eq_error_iff_failsOn c hraw e).1
      ((h.reportEntries_eq_error_iff hb entries e).1 he)
  | none =>
    have hk := (Value.entries?_eq_none_iff raw).1 hraw
    by_cases hn : raw = .null
    · subst hn
      cases he
      exact .nothing
    · rw [c.report_of_not_map hn hk] at he
      cases he
      by_cases hs : c.specs = []
      · exact firstRequest_of_nil hs ▸ .listing hn hk hs
      · exact firstRequest_of_ne_nil hs ▸ .lookup hn hk hs

/-- **A build fails exactly on what it fails on or if objects of the class cannot be built.** -/
theorem Accepted.exists_report_error_iff (h : c.Accepted) (raw : Value) :
    (∃ e, c.report raw = .error e) ↔ (∃ e, c.FailsOn raw e) ∨ ¬ c.Buildable := by
  constructor
  · rintro ⟨e, he⟩
    by_cases hb : c.Buildable
    · exact .inl ⟨e, h.failsOn_of_report hb he⟩
    · exact .inr hb
  · rintro (⟨e, he⟩ | hb)
    · exact ⟨e, report_of_failsOn he⟩
    · cases hr : c.report raw with
      | error e => exact ⟨e, rfl⟩
      | ok r =>
        obtain ⟨entries, hentries⟩ := exists_entries_of_report hr
        exact absurd (h.buildable_of_reportEntries hentries) hb

/-- **When a build fails.**  A build for an accepted class fails on what it fails on, and with
that; and a build for a class that is not buildable fails on everything.  A build for a
buildable class fails on nothing else, and an ordinary class is buildable as long as no spec
takes the name of an argument.

What a raw map holds under keys that no spec has makes no difference. -/
theorem build_fails_iff (h : c.Accepted) :
    (∀ raw e, c.FailsOn raw e → c.build raw = .error e) ∧
    (∀ raw, (∃ e, c.build raw = .error e) ↔ (∃ e, c.FailsOn raw e) ∨ ¬ c.Buildable) ∧
    (c.Buildable → ∀ raw e, c.build raw = .error e ↔ c.FailsOn raw e) ∧
    (c.Ordinary →
      (c.Buildable ↔ ∀ s ∈ c.specs, s.name ≠ additionalName ∧ s.name ≠ classArgument)) ∧
    ∀ raw raw' : Entries Key Value, (∀ s ∈ c.specs, rawAt raw s.key = rawAt raw' s.key) →
      ∀ e, c.build (.ofEntries raw) = .error e ↔ c.build (.ofEntries raw') = .error e := by
  simp only [build_eq_error_iff_report]
  refine ⟨fun _ _ => report_of_failsOn, h.exists_report_error_iff, fun hb raw e =>
    ⟨h.failsOn_of_report hb, report_of_failsOn⟩, fun ho => ho.plain.buildable_iff, ?_⟩
  intro raw raw' hsame e
  have hresolve : resolveAll raw c.specs = resolveAll raw' c.specs :=
    resolveAll_congr fun s hs => by rw [hsame s hs]
  rw [report_ofEntries, report_ofEntries, reportEntries_of_resolveAll_eq hresolve,
    map_eq_error_iff]

/-- The shortest whole number that is not written. -/
def unwritten : Value := .int (tenTo Decimal.limit)

theorem holdsLong_unwritten : unwritten.HoldsLong := by
  rw [unwritten, Value.holdsLong_int_iff, Int.natAbs_natCast, ← Nat.not_le,
    Decimal.length_digits_le_iff _ (by decide)]
  exact Nat.lt_irrefl _

/-- A raw map with a length, a name, and something that no spec asks for. -/
def eventIdRaw (length name other : Value) : Entries Key Value :=
  .ofList [(.text "x", other), (.text "audit.processor.eventId.eventFieldName", name),
    (.text "audit.processor.eventId.length", length)]

/-- A build fails on a name that is not written, unless it fails on the length. -/
theorem failsOn_eventIdRaw {length name : Value} (other : Value)
    (hlength : ∀ e, ¬ (Processor.wholeSpec "length" "audit.processor.eventId.length" 32).FailsOn
      length e) (hname : name.HoldsLong) :
    Processor.eventId.cls.FailsOn (.ofEntries (eventIdRaw length name other))
      (.digits .writing) := by
  have hspecs : Processor.eventId.cls.specs =
      [Processor.wholeSpec "length" "audit.processor.eventId.length" 32] ++
        Processor.textSpec "event_field_name" "audit.processor.eventId.eventFieldName"
          "auditkit.processors.eventid" :: [] := rfl
  refine .digits (Value.entries?_ofEntries _) hspecs ?_ (FieldSpec.failsOn_of_holdsLong _ hname)
  intro t ht
  rw [List.mem_singleton.1 ht]
  exact hlength

/-- What is malformed makes no build fail, however long it is; a number that is not written
does, deep down in what is given for the name. -/
theorem build_of_unwritten : Processor.eventId.cls.Accepted ∧
    Processor.eventId.cls.build (.ofEntries (eventIdRaw (.text (nines 4301 ++ "x"))
      (.list [.map [(.text "k", unwritten)]]) unwritten)) = .error (.digits .writing) := by
  have hlength : ∀ e, ¬ (Processor.wholeSpec "length" "audit.processor.eventId.length" 32).FailsOn
      (.text (nines 4301 ++ "x")) e := by
    rintro e ⟨_, _, ⟨hlong, _⟩ | ⟨_, cs, hcs, hdigits, _⟩⟩
    · exact Value.not_holdsLong_text _ hlong
    · rw [Value.plain_text, Except.ok.injEq] at hcs
      subst hcs
      exact absurd (hdigits 'x' (by simp)) (by decide)
  have hlong : (Value.list [.map [(.text "k", unwritten)]]).HoldsLong := by
    simp [Value.holdsLong_list_iff, Value.holdsLong_map_iff, holdsLong_unwritten]
  exact ⟨.processor .eventId, (build_fails_iff (.processor .eventId)).1 _ _
    (failsOn_eventIdRaw unwritten hlength hlong)⟩

/-- A definition with a private attribute and a field of the name under which its objects are
told that they were made. -/
def told : Definition where
  name := "Told"
  home := "__main__"
  specs := some [⟨"x", "a", .string, .text "d"⟩]
  fields := [("x", ⟨.text, .value (.text "d")⟩), ("_p", ⟨.text, .value (.text "s")⟩),
    ("model_post_init", ⟨.text, .value (.text "m")⟩)]

/-- It is accepted, and no object of it can be built. -/
theorem unbuilt_of_told : ∃ c, define Processor.firstFreeId base told = .ok c ∧ c.Accepted ∧
    (∀ s ∈ c.specs, s.name ≠ additionalName ∧ s.name ≠ classArgument) ∧
    c.build (.map []) = .error (.making (.notCallable "str")) ∧
    ∀ e, ¬ c.FailsOn (.map []) e := by
  have hdefine : define Processor.firstFreeId base told =
    .ok (extend Processor.firstFreeId base.options base told) := rfl
  refine ⟨_, hdefine, .define .base hdefine, by decide, rfl, fun e he => ?_⟩
  cases he with
  | lookup _ hk | listing _ hk => exact hk rfl
  | digits hraw _ _ hs =>
    cases hraw
    exact hs.1 rfl

end PropsClass
end AuditConfig
