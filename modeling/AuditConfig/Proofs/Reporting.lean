import AuditConfig.Proofs.FieldValues
import Mathlib.Data.List.Nodup

/-!
# What a report tells

A report lists the specs that fell back to their defaults, and those of them that were
given a malformed value.  Both lists are found from the outcomes of the specs alone
(`defaulted_of_reportEntries`, `malformed_of_reportEntries`).

The outcome of a spec says how its value came about, and there are three ways
(`FieldSpec.resolve_cases`).  So if no two specs have one name, being listed says exactly
what the raw map holds for a spec, and what the field holds (`report_exact`):

| listed as | the raw map holds | the field holds |
| --- | --- | --- |
| neither | a value whose text is well formed | that text, coerced |
| defaulted | nothing or the empty text | the default |
| both | a value for a whole number that is none | the default |

A value that is configured can be the same as the default; it is not listed for that.
-/

namespace AuditConfig
namespace FieldSpec

/-- A raw map gives a spec a value of some text: under the key stands neither nothing nor the
empty text. -/
def GivenText (s : FieldSpec) (raw : Entries Key Value) (cs : List Char) : Prop :=
  ∃ v, raw.get? (.text s.key) = some v ∧ v ≠ .null ∧ v ≠ .text "" ∧ v.plain = .ok cs

theorem isMissing_rawAt_iff (raw : Entries Key Value) (key : String) :
    isMissing (rawAt raw key) = true ↔ raw.get? (.text key) = none ∨
      raw.get? (.text key) = some .null ∨ raw.get? (.text key) = some (.text "") := by
  rw [isMissing_iff, rawAt]
  cases raw.get? (.text key) <;> simp

theorem givenText_iff (s : FieldSpec) (raw : Entries Key Value) (cs : List Char) :
    s.GivenText raw cs ↔
      isMissing (rawAt raw s.key) = false ∧ (rawAt raw s.key).plain = .ok cs := by
  rw [GivenText, ← Bool.not_eq_true, isMissing_iff, rawAt]
  cases raw.get? (.text s.key) <;> simp [and_assoc]

/-- How the value of a spec comes about that a raw value is given for, if it resolves. -/
def outcome? (s : FieldSpec) (raw : Value) : Option Outcome :=
  match s.resolve raw with
  | .ok r => some r.2
  | .error _ => none

end FieldSpec

/-- **The resolved specs of some outcomes** are the specs that have these for what the raw
map holds under their keys. -/
theorem filter_outcome_of_resolveAll {raw : Entries Key Value} {specs : List FieldSpec}
    {rs : List Resolved} (h : resolveAll raw specs = .ok rs) (p : Option Outcome → Bool) :
    (rs.filter fun r => p (some r.outcome)).map (·.spec) =
      specs.filter fun s => p (s.outcome? (rawAt raw s.key)) := by
  have houtcome : ∀ r ∈ rs, some r.outcome = r.spec.outcome? (rawAt raw r.spec.key) := by
    intro r hr
    rw [FieldSpec.outcome?, resolve_of_mem_resolveAll h r hr]
  rw [← map_spec_of_resolveAll h, List.filter_map]
  exact congrArg _ (List.filter_congr fun r hr => congrArg p (houtcome r hr))

/-- With distinct names, a name is among those of the specs that pass a test exactly if its
spec passes. -/
theorem name_mem_map_filter_iff {specs : List FieldSpec} (hnames : (specs.map (·.name)).Nodup)
    {s : FieldSpec} (hs : s ∈ specs) (p : FieldSpec → Bool) :
    s.name ∈ (specs.filter p).map (·.name) ↔ p s = true := by
  constructor
  · intro hm
    obtain ⟨t, ht, hn⟩ := List.mem_map.1 hm
    obtain ⟨ht, hp⟩ := List.mem_filter.1 ht
    rwa [← List.inj_on_of_nodup_map hnames ht hs hn]
  · exact fun hp => List.mem_map_of_mem (List.mem_filter.2 ⟨hs, hp⟩)

namespace PropsClass

variable {c : PropsClass} {raw : Entries Key Value} {r : Report}

/-- The fields that fell back to their defaults are those of the specs that were not
configured. -/
theorem defaulted_of_reportEntries (h : c.reportEntries raw = .ok r) :
    r.defaulted =
      (c.specs.filter fun s => s.outcome? (rawAt raw s.key) ≠ some .configured).map (·.name) := by
  obtain ⟨rs, hrs, rfl, _⟩ := (reportEntries_eq_ok_iff ..).1 h
  rw [← filter_outcome_of_resolveAll hrs fun o => decide (o ≠ some .configured), List.map_map]
  simp [reportOf]

theorem malformed_of_reportEntries (h : c.reportEntries raw = .ok r) :
    r.malformed =
      (c.specs.filter fun s => s.outcome? (rawAt raw s.key) = some .malformed).map (·.name) := by
  obtain ⟨rs, hrs, rfl, _⟩ := (reportEntries_eq_ok_iff ..).1 h
  rw [← filter_outcome_of_resolveAll hrs fun o => decide (o = some .malformed), List.map_map]
  simp [reportOf]

/-- What is listed as malformed is listed as defaulted, in the same order. -/
theorem malformed_sublist_defaulted (h : c.reportEntries raw = .ok r) :
    r.malformed.Sublist r.defaulted := by
  rw [malformed_of_reportEntries h, defaulted_of_reportEntries h]
  refine (List.monotone_filter_right _ fun s hs => ?_).map _
  simp only [decide_eq_true_eq] at hs ⊢
  simp [hs]

section Listed

variable (hnames : (c.specs.map (·.name)).Nodup) (h : c.reportEntries raw = .ok r)
  {s : FieldSpec} (hs : s ∈ c.specs) {v : Value} {outcome : Outcome}
  (hv : s.resolve (rawAt raw s.key) = .ok (v, outcome))
include hnames h hs hv

/-- A name is listed as defaulted exactly if its spec is not configured. -/
theorem name_mem_defaulted_iff : s.name ∈ r.defaulted ↔ outcome ≠ .configured := by
  rw [defaulted_of_reportEntries h, name_mem_map_filter_iff hnames hs]
  simp [FieldSpec.outcome?, hv]

theorem name_mem_malformed_iff : s.name ∈ r.malformed ↔ outcome = .malformed := by
  rw [malformed_of_reportEntries h, name_mem_map_filter_iff hnames hs]
  simp [FieldSpec.outcome?, hv]

end Listed

/-- **What a report tells of a spec.** -/
structure TellsOf (r : Report) (raw : Entries Key Value) (s : FieldSpec) : Prop where
  /-- It is not listed exactly if the raw map gives it a value whose text is well formed. -/
  configured : s.name ∉ r.defaulted ↔
    ∃ cs, s.GivenText raw cs ∧ (s.type = .integer → Decimal.isDigits cs = true)
  /-- The field then holds that text, coerced. -/
  coerced : ∀ cs, s.GivenText raw cs → (s.type = .integer → Decimal.isDigits cs = true) →
    ∃ v, s.type.coerce cs = .ok (some v) ∧ r.props.fields.get? s.name = some v
  /-- It is listed as defaulted only, exactly if the raw map has nothing for it. -/
  missing : s.name ∈ r.defaulted ∧ s.name ∉ r.malformed ↔ raw.get? (.text s.key) = none ∨
    raw.get? (.text s.key) = some .null ∨ raw.get? (.text s.key) = some (.text "")
  /-- It is listed as malformed exactly if what is given for a whole number is none. -/
  malformed : s.name ∈ r.malformed ↔
    s.type = .integer ∧ ∃ cs, s.GivenText raw cs ∧ Decimal.isDigits cs = false
  /-- The field of what is listed holds the default. -/
  fallen : s.name ∈ r.defaulted → r.props.fields.get? s.name = some s.default

/-- A report tells of every spec of its class, if no two have one name. -/
theorem Accepted.tellsOf (h : c.Accepted) (hnames : (c.specs.map (·.name)).Nodup)
    (hr : c.reportEntries raw = .ok r) {s : FieldSpec} (hs : s ∈ c.specs) : TellsOf r raw s := by
  obtain ⟨⟨v, outcome⟩, hv⟩ := ((h.exists_reportEntries_iff raw).1 ⟨r, hr⟩).2 s hs
  have hfield := h.get?_fields_of_resolved hnames hr hs hv
  have hdefaulted := name_mem_defaulted_iff hnames hr hs hv
  have hmalformed := name_mem_malformed_iff hnames hr hs hv
  have hgiven := s.givenText_iff raw
  have hmissing := FieldSpec.isMissing_rawAt_iff raw s.key
  obtain ⟨hm, rfl, rfl⟩ | ⟨cs, hm, hp, hc⟩ := FieldSpec.resolve_cases hv
  · -- nothing is given
    simp only [hm, reduceCtorEq, false_and, iff_false] at hgiven
    constructor
    · simp [hdefaulted, hgiven]
    · exact fun cs hcs => absurd hcs (hgiven cs)
    · simpa [hdefaulted, hmalformed] using hmissing.1 hm
    · simp [hmalformed, hgiven]
    · exact fun _ => hfield
  · -- something is given, whose text is well formed or not
    have htext : ∀ cs', s.GivenText raw cs' ↔ cs' = cs := by
      intro cs'
      rw [hgiven, hp, Except.ok.injEq, and_iff_right hm, eq_comm]
    have hwell := FieldType.coerce_eq_none_iff s.type cs
    have hgot := mt hmissing.2 (by simp [hm])
    obtain ⟨hc, rfl⟩ | ⟨hc, rfl, rfl⟩ := hc
    · have hdigits : s.type = .integer → Decimal.isDigits cs = true := by simpa [hc] using hwell
      constructor
      · simpa [hdefaulted, htext] using hdigits
      · intro cs' hcs' _
        rw [(htext cs').1 hcs']
        exact ⟨v, hc, hfield⟩
      · simpa [hdefaulted] using hgot
      · simpa [hmalformed, htext] using hdigits
      · simp [hdefaulted]
    · obtain ⟨htype, hdigits⟩ := hwell.1 hc
      constructor
      · simp [hdefaulted, htext, htype, hdigits]
      · intro cs' hcs' hwell'
        rw [(htext cs').1 hcs', hdigits] at hwell'
        cases hwell' htype
      · simpa [hmalformed] using hgot
      · simp [hmalformed, htext, htype, hdigits]
      · exact fun _ => hfield

/-- **The report is exact.**  Take a class whose specs have names of their own.  What is listed
as defaulted are names of specs, each once and in the order of the specs, and what is listed as
malformed is among it, in the same order.  For every spec the lists say what the raw map holds
for it, and with that what its field holds; and the object of the report is the one that a build
makes. -/
theorem report_exact (h : c.Accepted) (hnames : (c.specs.map (·.name)).Nodup)
    (hr : c.report (.ofEntries raw) = .ok r) :
    r.defaulted.Nodup ∧ r.defaulted.Sublist (c.specs.map (·.name)) ∧
      r.malformed.Sublist r.defaulted ∧ (∀ s ∈ c.specs, TellsOf r raw s) ∧
      c.build (.ofEntries raw) = .ok r.props := by
  rw [report_ofEntries] at hr
  have hsublist : r.defaulted.Sublist (c.specs.map (·.name)) := by
    rw [defaulted_of_reportEntries hr]
    exact List.filter_sublist.map _
  exact ⟨hnames.sublist hsublist, hsublist, malformed_sublist_defaulted hr,
    fun s hs => h.tellsOf hnames hr hs, (build_ofEntries_eq_ok_iff ..).2 ⟨r, hr, rfl⟩⟩

/-- A definition with two whole numbers and a text. -/
def counted : Definition where
  name := "Counted"
  home := "__main__"
  specs := some [⟨"n", "a", .integer, .int 255⟩, ⟨"m", "b", .integer, .int 7⟩,
    ⟨"t", "c", .string, .text "d"⟩]
  fields := [("n", ⟨.whole, .value (.int 255)⟩), ("m", ⟨.whole, .value (.int 7)⟩),
    ("t", ⟨.text, .value (.text "d")⟩)]

/-- A raw map that gives the default of the first, something malformed for the second and
nothing for the text. -/
def countedRaw : Entries Key Value :=
  .ofList [(.text "c", .text ""), (.text "b", .bool true), (.text "a", .text "0255")]

/-- The default is not listed where it is given. -/
theorem report_of_counted : ∃ c r, define Processor.firstFreeId base counted = .ok c ∧
    c.Accepted ∧ c.report (.ofEntries countedRaw) = .ok r ∧ r.defaulted = ["m", "t"] ∧
    r.malformed = ["m"] ∧ r.props.fields.get? "n" = some (.int 255) ∧
    r.props.fields.get? "m" = some (.int 7) ∧ r.props.fields.get? "t" = some (.text "d") := by
  have hdefine : define Processor.firstFreeId base counted =
    .ok (extend Processor.firstFreeId base.options base counted) := rfl
  obtain ⟨r, hr, hdefaulted, hmalformed⟩ : ∃ r,
      (extend Processor.firstFreeId base.options base counted).report (.ofEntries countedRaw) =
        .ok r ∧ r.defaulted = ["m", "t"] ∧ r.malformed = ["m"] := ⟨_, rfl, rfl, rfl⟩
  have haccepted := Accepted.define .base hdefine
  have htells := (report_exact haccepted (by decide) hr).2.2.2.1
  obtain ⟨v, hv, hn⟩ := (htells ⟨"n", "a", .integer, .int 255⟩ (.head _)).coerced
    "0255".toList ⟨_, rfl, by simp, by simp, rfl⟩ fun _ => by decide
  have hm := (htells ⟨"m", "b", .integer, .int 7⟩ (.tail _ (.head _))).fallen
    (by simp [hdefaulted])
  have ht := (htells ⟨"t", "c", .string, .text "d"⟩ (.tail _ (.tail _ (.head _)))).fallen
    (by simp [hdefaulted])
  cases hv
  exact ⟨_, r, hdefine, haccepted, hr, hdefaulted, hmalformed, hn, hm, ht⟩

end PropsClass
end AuditConfig
