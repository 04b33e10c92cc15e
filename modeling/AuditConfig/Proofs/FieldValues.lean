import AuditConfig.Proofs.Buildable
import AuditConfig.Proofs.Reading

/-!
# What the fields of a built object hold

A build validates nothing, and yet every field that a spec names holds a value of the
type of the spec and of the annotation of the field (`wellTyped_of_build`).  This rests
on the check of the class for the defaults, and on what specs resolve to for all other
values; that a spec is inherited or a field declared again makes no difference, since
every class is checked anew.

What a field holds is what the last spec of its name resolves to.  The others of the
name are resolved too, and what was configured under their keys is lost.  So the fields
hold what the specs resolve to exactly if specs of one name have one key
(`keepsConfigured_iff`), which no check asks for: there is a class that loses what is
configured (`twice`).
-/

namespace AuditConfig

/-- The kind of the values of an annotation, if they are all of one kind that a field
can be of. -/
def Annotation.kind? : Annotation → Option Kind
  | .text => some .text
  | .whole => some .int
  | .truth => some .bool
  | _ => none

theorem FieldType.kind?_annotation {t : FieldType} {v : Value} (h : t.accepts v = true) :
    t.annotation.kind? = some v.kind := by
  rw [accepts, decide_eq_true_eq] at h
  rw [h]
  cases t <;> rfl

theorem FieldType.ne_null_of_accepts {t : FieldType} {v : Value} (h : t.accepts v = true) :
    v ≠ .null := by
  rintro rfl
  cases t <;> cases h

namespace PropsClass

variable {c : PropsClass}

/-- **The last spec of a name says what the field holds.** -/
theorem Accepted.get?_fields_of_last (h : c.Accepted) {raw : Entries Key Value} {r : Report}
    (hr : c.reportEntries raw = .ok r) {before after : List FieldSpec} {s : FieldSpec}
    (hsplit : c.specs = before ++ s :: after) (hlast : ∀ t ∈ after, t.name ≠ s.name) :
    ∃ v outcome, s.resolve (rawAt raw s.key) = .ok (v, outcome) ∧
      r.props.fields.get? s.name = some v := by
  obtain ⟨rs, hrs, hprops⟩ := exists_make_of_reportEntries hr
  have hs : s ∈ c.specs := by rw [hsplit]; simp
  obtain ⟨_, f, _, hf, _⟩ := h.exists_field hs
  have hname := ((h.buildable_of_reportEntries hr).arguments s hs).1
  rw [hprops]
  exact get?_namedValues_of_last hrs hsplit hlast (Option.isSome_of_eq_some hf) hname

/-- The field of every spec holds what some spec of its name resolves to. -/
theorem Accepted.exists_resolved (h : c.Accepted) {raw : Entries Key Value} {r : Report}
    (hr : c.reportEntries raw = .ok r) {s : FieldSpec} (hs : s ∈ c.specs) :
    ∃ t ∈ c.specs, t.name = s.name ∧ ∃ v outcome, t.resolve (rawAt raw t.key) = .ok (v, outcome) ∧
      r.props.fields.get? s.name = some v := by
  obtain ⟨before, t, after, hsplit, hn, hlast⟩ := exists_last_named hs
  obtain ⟨v, outcome, hv, hget⟩ := h.get?_fields_of_last hr hsplit hlast
  exact ⟨t, by rw [hsplit]; simp, hn, v, outcome, hv, hn ▸ hget⟩

/-- With distinct names, the field of a spec holds what the spec resolves to. -/
theorem Accepted.get?_fields_of_resolved (h : c.Accepted) (hnames : (c.specs.map (·.name)).Nodup)
    {raw : Entries Key Value} {r : Report} (hr : c.reportEntries raw = .ok r) {s : FieldSpec}
    (hs : s ∈ c.specs) {v : Value} {outcome : Outcome}
    (hv : s.resolve (rawAt raw s.key) = .ok (v, outcome)) :
    r.props.fields.get? s.name = some v := by
  obtain ⟨before, after, hsplit⟩ := List.append_of_mem hs
  have hlast : ∀ t ∈ after, t.name ≠ s.name := by
    rw [hsplit, List.map_append, List.map_cons, List.nodup_append, List.nodup_cons] at hnames
    exact fun t ht hn => hnames.2.1.1 (hn ▸ List.mem_map_of_mem ht)
  obtain ⟨w, _, hw, hget⟩ := h.get?_fields_of_last hr hsplit hlast
  rw [hv] at hw
  cases hw
  exact hget

/-- **The fields of a built object are of their types.**  For every spec of an accepted
class the object holds a value of the type of the spec under its name, which is of the
kind that the annotation of the field says and not nothing; and if the class reads the
name it is what is found there.

The additional properties are the entries of the raw map that the class does not
recognize, without those that hold nothing, so that they are texts by texts if the raw map
has nothing else. -/
theorem wellTyped_of_build (h : c.Accepted) {raw : Value} {o : Props} (hb : c.build raw = .ok o) :
    (∀ s ∈ c.specs, ∃ v f, o.fields.get? s.name = some v ∧ s.type.accepts v = true ∧ v ≠ .null ∧
      c.fields.get? s.name = some f ∧ f.annotation.kind? = some v.kind ∧
      ∀ found, o.found s.name = .ok found ↔ c.Reads s.name ∧ found = .value v) ∧
    ∃ entries e, raw.entries? = some entries ∧ o.additional = some (.ofEntries e) ∧
      (∀ k v, e.get? k = some v ↔ entries.get? k = some v ∧ c.recognizes k = false ∧ v ≠ .null) ∧
      ((∀ k v, entries.get? k = some v → (∃ s, k = .text s) ∧ (v = .null ∨ ∃ t, v = .text t)) →
        ∀ k v, e.get? k = some v → (∃ s, k = .text s) ∧ ∃ t, v = .text t) := by
  obtain ⟨entries, r, hraw, hr, rfl⟩ := (build_eq_ok_iff ..).1 hb
  constructor
  · intro s hs
    obtain ⟨t, ht, hn, v, outcome, hv, hget⟩ := h.exists_resolved hr hs
    obtain ⟨hdefault, _⟩ := h.exists_field ht
    have haccepts : s.type.accepts v = true := by
      rw [← h.type_eq ht hs hn]
      exact FieldSpec.accepts_of_resolve hdefault hv
    obtain ⟨_, f, _, hf, hkind, _⟩ := h.exists_field hs
    refine ⟨v, f, hget, haccepts, FieldType.ne_null_of_accepts haccepts, hf, ?_, ?_⟩
    · rw [hkind, FieldType.kind?_annotation haccepts]
    · refine found_of_reportEntries hr ?_
      rw [Props.held?, if_neg ((h.buildable_of_reportEntries hr).arguments s hs).1, hget,
        Option.some_or]
  · obtain ⟨rs, _, hprops⟩ := exists_make_of_reportEntries hr
    refine ⟨entries, c.passThrough entries, hraw, by rw [hprops]; rfl, get?_passThrough c entries,
      fun htext k v hk => ?_⟩
    obtain ⟨hk, _, hv⟩ := (get?_passThrough ..).1 hk
    obtain ⟨hkey, hnull | htext⟩ := htext k v hk
    · exact absurd hnull hv
    · exact ⟨hkey, htext⟩

/-- A text that is no whole number leaves a whole number in the field. -/
theorem wellTyped_of_malformed : ∃ o v, Processor.jdbc.cls.build (RawConfig.single
      "audit.processor.jdbc.indexedFieldsMaxLength" "asdf").value = .ok o ∧
    o.fields.get? "indexed_fields_max_length" = some v ∧ v.kind = .int := by
  have haccepted := Accepted.processor .jdbc
  obtain ⟨r, hr⟩ := haccepted.exists_reportEntries_of_isShort (buildable_processor .jdbc)
    ((RawConfig.isShort_single_iff "audit.processor.jdbc.indexedFieldsMaxLength" "asdf").2
      (by decide))
  have hbuild := (build_ofEntries_eq_ok_iff ..).2 ⟨r, hr, rfl⟩
  have hspec : (⟨"indexed_fields_max_length", "audit.processor.jdbc.indexedFieldsMaxLength",
      .integer, .int 255⟩ : FieldSpec) ∈ Processor.jdbc.cls.specs := by
    change _ ∈ Processor.jdbcSpecs
    simp [Processor.jdbcSpecs, Processor.wholeSpec]
  obtain ⟨v, _, hv, haccepts, _⟩ := (wellTyped_of_build haccepted hbuild).1 _ hspec
  exact ⟨_, v, hbuild, hv, of_decide_eq_true haccepts⟩

/-- In everything that is built, the field of every spec holds what the spec resolves to. -/
def KeepsConfigured (c : PropsClass) : Prop :=
  ∀ raw o, c.build (.ofEntries raw) = .ok o → ∀ s ∈ c.specs, ∃ v outcome,
    s.resolve (rawAt raw s.key) = .ok (v, outcome) ∧ o.fields.get? s.name = some v

/-- Of every type there are two texts that are taken for different values. -/
theorem exists_two_texts (type : FieldType) : ∃ t u v w, type.coerce t.toList = .ok (some v) ∧
    type.coerce u.toList = .ok (some w) ∧ v ≠ w ∧
      ∀ x ∈ [t, u], x ≠ "" ∧ x.toList.length ≤ Decimal.limit := by
  cases type with
  | string => exact ⟨"0", "1", .text "0", .text "1", rfl, rfl, by simp, by decide⟩
  | integer => exact ⟨"0", "1", .int 0, .int 1, rfl, rfl, by simp, by decide⟩
  | boolean => exact ⟨"true", "false", .bool true, .bool false, rfl, rfl, by simp, by decide⟩

/-- Something can be configured for every spec that is not its default. -/
theorem exists_configured (s : FieldSpec) : ∃ t v, t.toList.length ≤ Decimal.limit ∧
    s.resolve (.text t) = .ok (v, .configured) ∧ v ≠ s.default := by
  obtain ⟨t, u, v, w, ht, hu, hne, htexts⟩ := exists_two_texts s.type
  obtain ⟨htext, htlength⟩ := htexts t (by simp)
  obtain ⟨hutext, hulength⟩ := htexts u (by simp)
  by_cases hv : v = s.default
  · refine ⟨u, w, hulength, ?_, fun hw => hne (hv.trans hw.symm)⟩
    rw [s.resolve_text hutext, hu]
    rfl
  · refine ⟨t, v, htlength, ?_, hv⟩
    rw [s.resolve_text htext, ht]
    rfl

/-- **If what is configured is kept, specs of one name have one key:** what is configured
under one key only would have to be the same as the default. -/
theorem Accepted.key_eq_of_keepsConfigured (h : c.Accepted) (hb : c.Buildable)
    (hk : c.KeepsConfigured) {s t : FieldSpec} (hs : s ∈ c.specs) (ht : t ∈ c.specs)
    (hn : s.name = t.name) : s.key = t.key := by
  apply Decidable.byContradiction
  intro hkey
  obtain ⟨text, v, hlength, hv, hne⟩ := exists_configured s
  obtain ⟨r, hr⟩ := h.exists_reportEntries_of_isShort hb
    ((RawConfig.isShort_single_iff s.key text).2 hlength)
  have hbuild := (build_ofEntries_eq_ok_iff ..).2 ⟨r, hr, rfl⟩
  have hgiven : rawAt (RawConfig.single s.key text).entries s.key = .text text := by
    rw [RawConfig.rawAt_entries, RawConfig.get?_single, if_pos rfl]
    rfl
  have hmissing : rawAt (RawConfig.single s.key text).entries t.key = .null := by
    rw [RawConfig.rawAt_entries, RawConfig.get?_single, if_neg fun e => hkey e.symm]
    rfl
  obtain ⟨v₁, _, hv₁, hfield⟩ := hk _ _ hbuild s hs
  obtain ⟨v₂, _, hv₂, hfield'⟩ := hk _ _ hbuild t ht
  rw [hgiven, hv] at hv₁
  rw [hmissing, FieldSpec.resolve_of_isMissing t rfl] at hv₂
  cases hv₁
  cases hv₂
  rw [hn, hfield'] at hfield
  rw [h.default_eq hs ht hn] at hne
  exact hne (Option.some.inj hfield).symm

/-- **Configured values are kept exactly if specs of one name have one key.**  What the
field of a spec holds is what the last spec of its name resolves to; so it is what every
spec of the name resolves to as long as they have one key, and a class that objects can
be built for does not keep what is configured for a spec if another one has its name and
not its key. -/
theorem keepsConfigured_iff (h : c.Accepted) :
    (∀ raw o, c.build (.ofEntries raw) = .ok o → ∀ before s after, c.specs = before ++ s :: after →
      (∀ t ∈ after, t.name ≠ s.name) → ∃ v outcome,
        s.resolve (rawAt raw s.key) = .ok (v, outcome) ∧ o.fields.get? s.name = some v) ∧
    (c.KeepsConfigured ↔
      (c.Buildable → ∀ s ∈ c.specs, ∀ t ∈ c.specs, s.name = t.name → s.key = t.key)) := by
  refine ⟨?_, fun hk hb s hs t ht hn => h.key_eq_of_keepsConfigured hb hk hs ht hn, ?_⟩
  · intro raw o hbuild before s after hsplit hlast
    obtain ⟨r, hr, rfl⟩ := (build_ofEntries_eq_ok_iff ..).1 hbuild
    exact h.get?_fields_of_last hr hsplit hlast
  · intro hkeys raw o hbuild s hs
    obtain ⟨r, hr, rfl⟩ := (build_ofEntries_eq_ok_iff ..).1 hbuild
    obtain ⟨t, ht, hn, v, outcome, hv, hget⟩ := h.exists_resolved hr hs
    have hkey := hkeys (h.buildable_of_reportEntries hr) t ht s hs hn
    exact ⟨v, outcome, h.eq_of_name_of_key ht hs hn hkey ▸ hv, hget⟩

/-- What is configured for a processor is kept. -/
theorem keepsConfigured_jdbc : Processor.jdbc.cls.KeepsConfigured :=
  (keepsConfigured_iff (.processor .jdbc)).2.2 fun _ => by decide +kernel

/-- A definition with two specs of one name, which is refused for nothing. -/
def twice : Definition where
  name := "Twice"
  home := "__main__"
  specs := some [⟨"x", "a", .string, .text "d"⟩, ⟨"x", "b", .string, .text "d"⟩]
  fields := [("x", ⟨.text, .value (.text "d")⟩)]

/-- What is configured under the first key is lost. -/
theorem lost_of_twice : ∃ c o s, define Processor.firstFreeId base twice = .ok c ∧
    c.Accepted ∧ s ∈ c.specs ∧ c.build (RawConfig.single "a" "one").value = .ok o ∧
    s.resolve (rawAt (RawConfig.single "a" "one").entries s.key) =
      .ok (.text "one", .configured) ∧
    o.fields.get? s.name = some (.text "d") := by
  have hdefine : define Processor.firstFreeId base twice =
    .ok (extend Processor.firstFreeId base.options base twice) := rfl
  exact ⟨_, _, ⟨"x", "a", .string, .text "d"⟩, hdefine, .define .base hdefine, .head _, rfl, rfl,
    rfl⟩

end PropsClass
end AuditConfig
