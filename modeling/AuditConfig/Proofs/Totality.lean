import AuditConfig.Proofs.FieldValues

/-!
# When a build succeeds

A build of a raw configuration fails on two things only, a fault of the class and a
number of too many digits: it succeeds exactly when the class is buildable and the raw
configuration is not overlong for any spec (`exists_report_iff`).  Every other text is
taken for a value of the field, or else the field is at its default.

That no build should fail does not hold, as the longest number that is read and one that
is a digit longer show.
-/

namespace AuditConfig
namespace PropsClass

variable {c : PropsClass}

theorem exists_build_iff (c : PropsClass) (raw : Value) :
    (∃ o, c.build raw = .ok o) ↔ ∃ r, c.report raw = .ok r := by
  unfold build
  cases c.report raw <;> simp [Except.map]

/-- **A build of a raw configuration fails at the first spec that it is overlong for,** if
the class is buildable. -/
theorem Accepted.report_eq_error_iff (h : c.Accepted) (hb : c.Buildable) (raw : RawConfig)
    (e : BuildError) : c.report raw.value = .error e ↔
      ∃ before s after t, c.specs = before ++ s :: after ∧
        (∀ u ∈ before, ∀ t, ¬ raw.Overlong u t) ∧ raw.Overlong s t ∧
          e = .digits (.reading t.toList.length) := by
  simp only [RawConfig.value, report_ofEntries, h.reportEntries_eq_error_iff hb,
    resolveAll_eq_error_iff, RawConfig.exists_resolve_iff, RawConfig.resolve_eq_error_iff]
  constructor
  · rintro ⟨_, ⟨before, s, after, hs, hbefore, t, ht, rfl⟩, rfl⟩
    exact ⟨before, s, after, t, hs, hbefore, ht, rfl⟩
  · rintro ⟨before, s, after, t, hs, hbefore, ht, rfl⟩
    exact ⟨_, ⟨before, s, after, hs, hbefore, t, ht, rfl⟩, rfl⟩

/-- **What is given to a spec is coerced or replaced by the default.** -/
theorem Accepted.coerced_or_default (h : c.Accepted) {raw : RawConfig} {r : Report}
    (hr : c.report raw.value = .ok r) {s : FieldSpec} (hs : s ∈ c.specs) :
    ∃ v, r.props.fields.get? s.name = some v ∧ (v = s.default ∨ ∃ t ∈ c.specs, t.name = s.name ∧
      ∃ text, raw.get? t.key = some (some text) ∧
        s.type.coerce text.toList = .ok (some v)) := by
  rw [RawConfig.value, report_ofEntries] at hr
  obtain ⟨t, ht, hn, v, outcome, hv, hget⟩ := h.exists_resolved hr hs
  refine ⟨v, hget, ?_⟩
  rw [RawConfig.rawAt_entries] at hv
  rcases RawConfig.value_of_resolve hv with hdefault | ⟨text, htext, hcoerce⟩
  · exact .inl (hdefault.trans (h.default_eq ht hs hn))
  · rw [h.type_eq ht hs hn] at hcoerce
    exact .inr ⟨t, ht, hn, text, Option.join_eq_some_iff.1 htext, hcoerce⟩

/-- **When a build of a raw configuration succeeds:** exactly when the class is buildable
and the raw configuration is not overlong for any of its specs.  The field of every spec
then holds what is configured for a spec of its name, coerced, or else the default.

For a buildable class the first spec that the raw configuration is overlong for makes the
build fail, and an ordinary class is buildable as long as no spec takes the name of an
argument. -/
theorem exists_report_iff (h : c.Accepted) (raw : RawConfig) :
    ((∃ r, c.report raw.value = .ok r) ↔ c.Buildable ∧ ∀ s ∈ c.specs, ∀ t, ¬ raw.Overlong s t) ∧
    ((∃ o, c.build raw.value = .ok o) ↔ c.Buildable ∧ ∀ s ∈ c.specs, ∀ t, ¬ raw.Overlong s t) ∧
    (∀ r, c.report raw.value = .ok r → ∀ s ∈ c.specs, ∃ v, r.props.fields.get? s.name = some v ∧
      (v = s.default ∨ ∃ t ∈ c.specs, t.name = s.name ∧
        ∃ text, raw.get? t.key = some (some text) ∧
          s.type.coerce text.toList = .ok (some v))) ∧
    (c.Buildable → ∀ e, c.report raw.value = .error e ↔
      ∃ before s after t, c.specs = before ++ s :: after ∧
        (∀ u ∈ before, ∀ t, ¬ raw.Overlong u t) ∧ raw.Overlong s t ∧
          e = .digits (.reading t.toList.length)) ∧
    (c.Ordinary →
      (c.Buildable ↔ ∀ s ∈ c.specs, s.name ≠ additionalName ∧ s.name ≠ classArgument)) := by
  have hreport : (∃ r, c.report raw.value = .ok r) ↔
      c.Buildable ∧ ∀ s ∈ c.specs, ∀ t, ¬ raw.Overlong s t := by
    simp only [RawConfig.value, report_ofEntries, h.exists_reportEntries_iff,
      RawConfig.exists_resolve_iff]
  refine ⟨hreport, (exists_build_iff c _).trans hreport, ?_, ?_, ?_⟩
  · exact fun r hr s hs => h.coerced_or_default hr hs
  · exact fun hb => h.report_eq_error_iff hb raw
  · exact fun ho => ho.plain.buildable_iff

/-- A text of as many nines as wanted. -/
def nines (n : Nat) : String := String.ofList (List.replicate n '9')

theorem length_nines (n : Nat) : (nines n).toList.length = n := by
  rw [nines, String.toList_ofList, List.length_replicate]

theorem isDigits_nines {n : Nat} (h : 0 < n) : Decimal.isDigits (nines n).toList = true := by
  rw [Decimal.isDigits_iff]
  refine ⟨List.ne_nil_of_length_pos ((length_nines n).symm ▸ h), fun c hc => ?_⟩
  rw [nines, String.toList_ofList] at hc
  rw [List.eq_of_mem_replicate hc]
  rfl

/-- The longest text that is read makes no build fail. -/
theorem report_of_longest : Processor.eventId.cls.Accepted ∧
    ∃ r, Processor.eventId.cls.report
      (RawConfig.single "audit.processor.eventId.length" (nines 4300)).value = .ok r := by
  have hshort := (RawConfig.isShort_single_iff "audit.processor.eventId.length" (nines 4300)).2
    (Nat.le_of_eq (length_nines 4300))
  exact ⟨.processor .eventId, (exists_report_iff (.processor .eventId) _).1.2
    ⟨buildable_processor .eventId, fun s _ => hshort.not_overlong s⟩⟩

/-- One digit more does. -/
theorem report_of_too_long : Processor.jdbc.cls.report (RawConfig.single
    "audit.processor.jdbc.indexedFieldsMaxLength" (nines 4301)).value =
      .error (.digits (.reading 4301)) := by
  rw [(Accepted.processor .jdbc).report_eq_error_iff (buildable_processor .jdbc)]
  refine ⟨Processor.jdbcSpecs.take 4, Processor.wholeSpec "indexed_fields_max_length"
    "audit.processor.jdbc.indexedFieldsMaxLength" 255, Processor.jdbcSpecs.drop 5, nines 4301, rfl,
    fun u hu t ht => ?_, ⟨rfl, ?_, isDigits_nines (by decide), ?_⟩, ?_⟩
  · have htype : ∀ u ∈ Processor.jdbcSpecs.take 4, u.type ≠ .integer := by decide
    exact htype u hu ht.1
  · rw [RawConfig.get?_single]
    exact if_pos rfl
  · rw [length_nines]
    decide
  · rw [length_nines]

end PropsClass
end AuditConfig
