import AuditConfig.Proofs.Resolving
import AuditConfig.PropsClass.Accepted

/-!
# What a build puts into the named fields

A build puts resolved values into the fields that the specs name, and the defaults of
the declarations into the others (`get?_namedValues`).  Several specs can have one
name; what the last of them resolves to is then what the field holds
(`get?_namedValues_of_last`).

Every spec of an accepted class has a field, whose default is a value that agrees with
the default of the spec (`Accepted.exists_field`).  Hence specs of one name have one
type and one default, and can only differ in their keys (`Accepted.default_eq`).
-/

namespace AuditConfig

theorem FieldDefault.agrees_iff (d : FieldDefault) (w : Value) :
    d.agrees w = true ↔ ∃ v, d = .value v ∧ v.equal w = true := by
  cases d <;> simp [agrees]

theorem FieldType.annotation_injective {t u : FieldType} (h : t.annotation = u.annotation) :
    t = u := by
  cases t <;> cases u <;> first | rfl | cases h

/-- A value of a field type is a text, a whole number or a truth value. -/
theorem FieldType.accepts_iff (t : FieldType) (v : Value) : t.accepts v = true ↔
    (t = .string ∧ ∃ s, v = .text s) ∨ (t = .integer ∧ ∃ n, v = .int n) ∨
      (t = .boolean ∧ ∃ b, v = .bool b) := by
  cases t <;> cases v <;> simp [accepts, Value.kind, kind]

theorem Value.eq_of_equal_text {v : Value} {s : String} (h : v.equal (.text s) = true) :
    v = .text s := by
  cases v <;> simp_all [equal, scalarEqual, integer?]

/-- What equals a truth value or a whole number is the same number, or a floating-point
number that is. -/
theorem Value.integer?_of_equal {v w : Value} {n : Int} (hw : w.integer? = some n)
    (h : v.equal w = true) :
    v.integer? = some n ∨ ∃ x : Binary64, v = .float x ∧ x.whole? = some n := by
  cases w with
  | bool b => cases v <;> simp_all [equal, scalarEqual, integer?]
  | int m => cases v <;> simp_all [equal, scalarEqual, integer?]
  | _ => cases hw

/-- One value equals one number. -/
theorem Value.integer?_unique {v w w' : Value} {n n' : Int} (hw : w.integer? = some n)
    (hw' : w'.integer? = some n') (h : v.equal w = true) (h' : v.equal w' = true) : n = n' := by
  rcases integer?_of_equal hw h with hv | ⟨x, rfl, hx⟩
  · rcases integer?_of_equal hw' h' with hv' | ⟨y, rfl, _⟩
    · exact Option.some.inj (hv.symm.trans hv')
    · cases hv
  · rcases integer?_of_equal hw' h' with hv' | ⟨y, hy, hy'⟩
    · cases hv'
    · cases hy
      exact Option.some.inj (hx.symm.trans hy')

/-- **Two values of one field type are the same if one value equals both.** -/
theorem FieldType.eq_of_equal {t : FieldType} {v w w' : Value} (hw : t.accepts w = true)
    (hw' : t.accepts w' = true) (h : v.equal w = true) (h' : v.equal w' = true) : w = w' := by
  rcases (accepts_iff t w).1 hw with ⟨rfl, s, rfl⟩ | ⟨rfl, n, rfl⟩ | ⟨rfl, b, rfl⟩
  · rw [← Value.eq_of_equal_text h]
    rcases (accepts_iff _ w').1 hw' with ⟨_, s', rfl⟩ | ⟨ht, _⟩ | ⟨ht, _⟩
    · exact Value.eq_of_equal_text h'
    · cases ht
    · cases ht
  · rcases (accepts_iff _ w').1 hw' with ⟨ht, _⟩ | ⟨_, n', rfl⟩ | ⟨ht, _⟩
    · cases ht
    · have hint : ∀ m, (Value.int m).integer? = some m := fun _ => rfl
      rw [Value.integer?_unique (hint n) (hint n') h h']
    · cases ht
  · rcases (accepts_iff _ w').1 hw' with ⟨ht, _⟩ | ⟨ht, _⟩ | ⟨_, b', rfl⟩
    · cases ht
    · cases ht
    · have hbool : ∀ x, (Value.bool x).integer? = some (if x then 1 else 0) := fun _ => rfl
      have hb := Value.integer?_unique (hbool b) (hbool b') h h'
      cases b <;> cases b' <;> first | rfl | cases hb

namespace PropsClass

variable {c : PropsClass}

/-- **Every spec of an accepted class has a field** of its type with its default. -/
theorem Accepted.exists_field (h : c.Accepted) {s : FieldSpec} (hs : s ∈ c.specs) :
    s.type.accepts s.default = true ∧ ∃ f v, c.fields.get? s.name = some f ∧
      f.annotation = s.type.annotation ∧ f.default = .value v ∧ v.equal s.default = true := by
  obtain ⟨ha, f, hf, hann, hd⟩ := (check_eq_none_iff ..).1 (h.check_eq_none s hs)
  obtain ⟨v, hv, he⟩ := (FieldDefault.agrees_iff ..).1 hd
  exact ⟨ha, f, v, hf, hann, hv, he⟩

/-- Specs of one name have one type. -/
theorem Accepted.type_eq (h : c.Accepted) {s t : FieldSpec} (hs : s ∈ c.specs) (ht : t ∈ c.specs)
    (hn : s.name = t.name) : s.type = t.type := by
  obtain ⟨_, f, _, hf, hfa, _⟩ := h.exists_field hs
  obtain ⟨_, g, _, hg, hga, _⟩ := h.exists_field ht
  rw [hn, hg] at hf
  obtain rfl := Option.some.inj hf
  exact FieldType.annotation_injective (hfa.symm.trans hga)

/-- **Specs of one name have one default,** since both agree with that of the field. -/
theorem Accepted.default_eq (h : c.Accepted) {s t : FieldSpec} (hs : s ∈ c.specs)
    (ht : t ∈ c.specs) (hn : s.name = t.name) : s.default = t.default := by
  obtain ⟨has, f, v, hf, _, hv, hvs⟩ := h.exists_field hs
  obtain ⟨hat, g, w, hg, _, hw, hwt⟩ := h.exists_field ht
  rw [hn, hg] at hf
  obtain rfl := Option.some.inj hf
  rw [hv] at hw
  obtain rfl := FieldDefault.value.inj hw
  rw [← h.type_eq hs ht hn] at hat
  exact FieldType.eq_of_equal has hat hvs hwt

/-- Specs of one name and one key are the same. -/
theorem Accepted.eq_of_name_of_key (h : c.Accepted) {s t : FieldSpec} (hs : s ∈ c.specs)
    (ht : t ∈ c.specs) (hn : s.name = t.name) (hk : s.key = t.key) : s = t := by
  have htype := h.type_eq hs ht hn
  have hdefault := h.default_eq hs ht hn
  cases s
  cases t
  simp_all

theorem get?_fieldsAnew (c : PropsClass) (name : String) :
    c.fieldsAnew.get? name =
      (c.fields.get? name).map fun f => ⟨f.annotation, c.defaultAnew name f.default⟩ := by
  rw [fieldsAnew, Entries.get?_filterMap]
  cases c.fields.get? name <;> rfl

theorem get?_namedFieldsAnew (c : PropsClass) {name : String} (hn : name ≠ additionalName) :
    c.namedFieldsAnew.get? name = c.fieldsAnew.get? name := by
  rw [namedFieldsAnew, Entries.get?_erase, if_neg hn]

/-- **A field holds what was resolved for it,** or else the default of its
declaration. -/
theorem get?_namedValues (c : PropsClass) (rs : List Resolved) (name : String) :
    (c.namedValues rs).get? name = (c.namedFieldsAnew.get? name).bind fun f =>
      ((Entries.ofList (rs.map fun r => (r.spec.name, r.value))).get? name).or
        f.default.value? := by
  rw [namedValues, Entries.get?_filterMap]

/-- Nothing is resolved for a field that no spec names. -/
theorem not_given_of_unnamed {rs : List Resolved} (hrs : rs.map (·.spec) = c.specs) {name : String}
    (hs : ∀ s ∈ c.specs, s.name ≠ name) :
    (Entries.ofList (rs.map fun r => (r.spec.name, r.value))).get? name = none := by
  apply Entries.get?_ofList_of_not_mem
  rw [List.map_map, List.mem_map]
  rintro ⟨r, hr, hn⟩
  exact hs r.spec (hrs ▸ List.mem_map_of_mem hr) hn

/-- Of the specs that have a name there is a last one. -/
theorem exists_last_named {specs : List FieldSpec} {s : FieldSpec} (hs : s ∈ specs) :
    ∃ before t after, specs = before ++ t :: after ∧ t.name = s.name ∧
      ∀ u ∈ after, u.name ≠ t.name := by
  have hsome : (specs.reverse.find? fun t => t.name = s.name).isSome :=
    List.find?_isSome.2 ⟨s, List.mem_reverse.2 hs, by simp⟩
  obtain ⟨t, ht⟩ := Option.isSome_iff_exists.1 hsome
  obtain ⟨hn, l₁, l₂, hl, hlast⟩ := List.find?_eq_some_iff_append.1 ht
  simp only [decide_eq_true_eq] at hn
  refine ⟨l₂.reverse, t, l₁.reverse, ?_, hn, fun u hu hu' => ?_⟩
  · rw [← List.reverse_reverse specs, hl]
    simp
  · simpa [hu', hn] using hlast u (List.mem_reverse.1 hu)

/-- **Of several specs of one name the last says what the field holds.** -/
theorem get?_namedValues_of_last {raw : Entries Key Value} {rs : List Resolved}
    (hr : resolveAll raw c.specs = .ok rs) {before after : List FieldSpec} {s : FieldSpec}
    (hs : c.specs = before ++ s :: after) (hlast : ∀ u ∈ after, u.name ≠ s.name)
    (hf : (c.fields.get? s.name).isSome) (hn : s.name ≠ additionalName) :
    ∃ v o, s.resolve (rawAt raw s.key) = .ok (v, o) ∧ (c.namedValues rs).get? s.name = some v := by
  have hmap := map_spec_of_resolveAll hr
  rw [hs, List.map_eq_append_iff] at hmap
  obtain ⟨r₁, r', rfl, _, hmap⟩ := hmap
  rw [List.map_eq_cons_iff] at hmap
  obtain ⟨r, r₂, rfl, rfl, hafter⟩ := hmap
  refine ⟨r.value, r.outcome, resolve_of_mem_resolveAll hr r (by simp), ?_⟩
  have hgiven : (Entries.ofList ((r₁ ++ r :: r₂).map fun r => (r.spec.name, r.value))).get?
      r.spec.name = some r.value := by
    rw [List.map_append, List.map_cons]
    apply Entries.get?_ofList_of_last
    intro hm
    rw [List.map_map, List.mem_map] at hm
    obtain ⟨q, hq, hqn⟩ := hm
    exact hlast q.spec (hafter ▸ List.mem_map_of_mem hq) hqn
  obtain ⟨f, hf⟩ := Option.isSome_iff_exists.1 hf
  rw [get?_namedValues, get?_namedFieldsAnew c hn, get?_fieldsAnew, hf, hgiven]
  rfl

/-- An object that is built holds these values and what is passed through. -/
theorem exists_make_of_reportEntries {raw : Entries Key Value} {r : Report}
    (h : c.reportEntries raw = .ok r) : ∃ rs, resolveAll raw c.specs = .ok rs ∧
      r.props = c.make c.fieldsAnew (c.namedValues rs)
        (some (.ofEntries (c.passThrough raw))) c.firstOverflow := by
  obtain ⟨rs, hrs, rfl, _⟩ := (reportEntries_eq_ok_iff ..).1 h
  exact ⟨rs, hrs, rfl⟩

end PropsClass
end AuditConfig
