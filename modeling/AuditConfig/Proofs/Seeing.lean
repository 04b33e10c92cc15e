import AuditConfig.Proofs.Resolving
import AuditConfig.PropsClass.Accepted

/-!
# What a class sees of a raw map

A class asks a raw map for the keys of its specs, and takes what is missing there, nothing
and the empty text for the same.  Of the other entries it takes those that hold something.
It sees no order in which a raw map was filled.

Two raw maps of which it sees the same (`PropsClass.SeesSame`) make the same report, but for
the order of the additional properties, or fail for the same reason (`report_of_seesSame`).
This holds of every class, whatever stands in the way of its objects: what fails does not
depend on the additional properties (`obstacle?_reportOf`), so that a report is determined by
what the specs resolve to and what is passed through (`reportEntries_of_resolveAll_eq`).
-/

namespace AuditConfig

/-- The same report of an object with other additional properties. -/
def Report.withAdditional (r : Report) (e : Entries Key Value) : Report :=
  { r with props := { r.props with additional := some (.ofEntries e) } }

namespace PropsClass

variable {c : PropsClass} {raw raw' : Entries Key Value}

theorem reportOf_withAdditional (c : PropsClass) (rs : List Resolved) (e e' : Entries Key Value) :
    (c.reportOf rs e).withAdditional e' = c.reportOf rs e' := by
  have hstanding := standingFixtures_some c.fieldsAnew (c.namedValues rs) (.ofEntries e)
    (.ofEntries e')
  simp [Report.withAdditional, reportOf, make, hstanding]

/-- **What stands in the way of an object does not depend on its additional properties.** -/
theorem obstacle?_reportOf (c : PropsClass) (rs : List Resolved) (e e' : Entries Key Value) :
    c.obstacle? rs (c.reportOf rs e).props = c.obstacle? rs (c.reportOf rs e').props :=
  rfl

/-- **Raw maps that resolve to the same make the same report,** but for what is passed through,
or fail for the same reason. -/
theorem reportEntries_of_resolveAll_eq (h : resolveAll raw c.specs = resolveAll raw' c.specs) :
    c.reportEntries raw' =
      (c.reportEntries raw).map (·.withAdditional (c.passThrough raw')) := by
  rw [reportEntries, reportEntries, h]
  cases resolveAll raw' c.specs with
  | error e => rfl
  | ok rs =>
    have hobstacle := c.obstacle?_reportOf rs (c.passThrough raw) (c.passThrough raw')
    simp only [hobstacle]
    cases c.obstacle? rs (c.reportOf rs (c.passThrough raw')).props with
    | some e => rfl
    | none => exact congrArg Except.ok (c.reportOf_withAdditional rs _ _).symm

/-- **A class sees the same of two raw maps.** -/
structure SeesSame (c : PropsClass) (raw raw' : Entries Key Value) : Prop where
  /-- Under the key of a spec both hold the same, or what counts as not given. -/
  recognized : ∀ s ∈ c.specs, rawAt raw s.key = rawAt raw' s.key ∨
    (FieldSpec.isMissing (rawAt raw s.key) = true ∧ FieldSpec.isMissing (rawAt raw' s.key) = true)
  /-- Under every other key both hold the same, unless it is nothing. -/
  others : ∀ k, c.recognizes k = false → ∀ v, v ≠ .null →
    (raw.get? k = some v ↔ raw'.get? k = some v)

/-- The specs resolve to the same. -/
theorem SeesSame.resolveAll_eq (h : c.SeesSame raw raw') :
    resolveAll raw c.specs = resolveAll raw' c.specs := by
  refine resolveAll_congr fun s hs => ?_
  rcases h.recognized s hs with heq | ⟨hm, hm'⟩
  · rw [heq]
  · rw [s.resolve_of_isMissing hm, s.resolve_of_isMissing hm']

/-- The same entries are passed through. -/
theorem SeesSame.get?_passThrough (h : c.SeesSame raw raw') (k : Key) :
    (c.passThrough raw').get? k = (c.passThrough raw).get? k := by
  apply Option.ext
  intro v
  rw [PropsClass.get?_passThrough, PropsClass.get?_passThrough]
  constructor
  · rintro ⟨hv, hk, hne⟩
    exact ⟨(h.others k hk v hne).2 hv, hk, hne⟩
  · rintro ⟨hv, hk, hne⟩
    exact ⟨(h.others k hk v hne).1 hv, hk, hne⟩

/-- **A build depends only on what the class sees of the raw map.**  If that is the same of two
raw maps, either both builds fail for the same reason, or the reports of both are the same but
for the additional properties, and these hold the same under every key. -/
theorem report_of_seesSame (h : c.SeesSame raw raw') :
    (∀ e, c.report (.ofEntries raw) = .error e ↔ c.report (.ofEntries raw') = .error e) ∧
    ∀ r, c.report (.ofEntries raw) = .ok r → ∃ e e', r.props.additional = some (.ofEntries e) ∧
      c.report (.ofEntries raw') = .ok (r.withAdditional e') ∧ ∀ k, e'.get? k = e.get? k := by
  rw [report_ofEntries, report_ofEntries, reportEntries_of_resolveAll_eq h.resolveAll_eq]
  constructor
  · exact fun e => (map_eq_error_iff ..).symm
  · intro r hr
    obtain ⟨rs, _, rfl, _⟩ := (reportEntries_eq_ok_iff ..).1 hr
    refine ⟨c.passThrough raw, c.passThrough raw', rfl, ?_, h.get?_passThrough⟩
    rw [hr]
    rfl

/-- A length, an empty name, and entries of which one holds the empty text and one nothing. -/
def sparseRaw : Entries Key Value :=
  .ofList [(.text "audit.processor.eventId.length", .text "16"),
    (.text "audit.processor.eventId.eventFieldName", .text ""), (.text "x", .text "1"),
    (.text "y", .text ""), (.text "z", .null)]

/-- The same in another order, without what counts as not given. -/
def denseRaw : Entries Key Value :=
  .ofList [(.text "y", .text ""), (.text "x", .text "1"),
    (.text "audit.processor.eventId.length", .text "16")]

theorem seesSame_sparseRaw : Processor.eventId.cls.SeesSame sparseRaw denseRaw where
  recognized := by
    change ∀ s ∈ Processor.eventIdSpecs, _
    simp only [Processor.eventIdSpecs, List.forall_mem_cons]
    exact ⟨.inl rfl, .inr ⟨rfl, rfl⟩, by simp⟩
  others k hk v hv := by
    have hlength : k ≠ .text "audit.processor.eventId.length" := by rintro rfl; cases hk
    have hname : k ≠ .text "audit.processor.eventId.eventFieldName" := by rintro rfl; cases hk
    simp only [sparseRaw, denseRaw, Entries.get?_ofList, List.reverse_cons, List.reverse_nil,
      List.nil_append, List.cons_append, Entries.lookup_cons_eq, List.lookup_nil, hlength, hname,
      if_false]
    by_cases hz : k = .text "z"
    · subst hz
      simp [hv.symm]
    · rw [if_neg hz]
      by_cases hx : k = .text "x" <;> simp [hx]

/-- They make the same report. -/
theorem report_of_sparseRaw : ∃ r e e',
    Processor.eventId.cls.report (.ofEntries sparseRaw) = .ok r ∧
    Processor.eventId.cls.report (.ofEntries denseRaw) = .ok (r.withAdditional e') ∧
    r.defaulted = ["event_field_name"] ∧ r.props.additional = some (.ofEntries e) ∧
    e'.get? (.text "y") = e.get? (.text "y") := by
  obtain ⟨r, hr, hdefaulted⟩ : ∃ r, Processor.eventId.cls.report (.ofEntries sparseRaw) = .ok r ∧
    r.defaulted = ["event_field_name"] := ⟨_, rfl, rfl⟩
  obtain ⟨e, e', he, hr', hget⟩ := (report_of_seesSame seesSame_sparseRaw).2 r hr
  exact ⟨r, e, e', hr, hr', hdefaulted, he, hget _⟩

end PropsClass
end AuditConfig
