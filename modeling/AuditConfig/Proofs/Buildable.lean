import AuditConfig.Proofs.Inheritance
import AuditConfig.Proofs.NamedValues

/-!
# Classes that objects can be built for

Two things make a build fail.  One lies in the class alone, whatever the raw map
holds: a spec takes the name of an argument of what makes objects, or the class has
something else where new objects need it.  A class without such faults is `Buildable`,
and what stands in the way of an object says exactly whether it is
(`Accepted.obstacle?_eq_none_iff`).  A plain class is buildable as long as no spec takes
the name of an argument (`Plain.buildable_iff`).

The other is that a spec does not resolve: a report is made exactly when the class is
buildable and every spec resolves (`Accepted.exists_reportEntries_iff`).
-/

namespace AuditConfig

theorem FieldDefault.holds_of_not_isRequired {d : FieldDefault} (h : d.isRequired = false) :
    d.value?.isSome ∨ d.fixture?.isSome := by
  cases d with
  | required => cases h
  | specs l => cases l <;> simp [value?, fixture?]
  | _ => simp [value?, fixture?]

namespace PropsClass

variable {c : PropsClass}

theorem isRequired_defaultAnew (c : PropsClass) (name : String) (d : FieldDefault) :
    (c.defaultAnew name d).isRequired = d.isRequired := by
  cases d with
  | lostSlot shown =>
    cases hm : c.members.lookup name with
    | none => simp [defaultAnew, hm]
    | some m => cases m <;> simp [defaultAnew, hm, Member.held, FieldDefault.isRequired]
  | _ => rfl

theorem defaultAnew_eq_lostSlot_iff (c : PropsClass) (name shown : String) (d : FieldDefault) :
    c.defaultAnew name d = .lostSlot shown ↔
      d = .lostSlot shown ∧ c.members.lookup name = none := by
  cases d with
  | lostSlot s =>
    cases hm : c.members.lookup name with
    | none => simp [defaultAnew, hm]
    | some m => simp [defaultAnew, hm, Member.held_ne_lostSlot]
  | _ => simp [defaultAnew]

/-- That a new object is told that it was made without harm: it has no slot of the name
under which it is told, and if it has private attributes no field of that name that
holds something. -/
def Tellable (c : PropsClass) : Prop :=
  c.hasSlot Member.madeName = false ∧ (c.privates.size = 0 ∨
    (c.ownValue? finderName = none ∧ (c.hidesContents = true ∨
      ∀ f, c.fields.get? Member.madeName = some f → f.default.isRequired = true)))

/-- Nothing in a class stands in the way of new objects. -/
structure Buildable (c : PropsClass) : Prop where
  /-- No spec has the name of an argument of what makes objects. -/
  arguments : ∀ s ∈ c.specs, s.name ≠ additionalName ∧ s.name ≠ classArgument
  /-- What makes objects of given values is no slot. -/
  constructed : c.hasSlot Member.constructingName = false
  /-- Nothing stands in place of what makes objects. -/
  created : c.replaced.get? creatorName = none
  /-- A field that is a lost slot has a member of its name. -/
  found : ∀ name f shown, name ≠ additionalName → c.fields.get? name = some f →
    f.default = .lostSlot shown → c.members.lookup name ≠ none
  told : c.Tellable
  /-- The private attribute that cannot be copied has no value at first. -/
  registered : ∀ v, c.privates.get? registryName ≠ some (some v)

theorem argumentClash_eq_none_iff (c : PropsClass) : c.argumentClash = none ↔
    (∀ s ∈ c.specs, s.name ≠ additionalName ∧ s.name ≠ classArgument) ∧
      c.hasSlot Member.constructingName = false := by
  unfold argumentClash
  by_cases ha : additionalName ∈ c.specs.map (·.name)
  · obtain ⟨s, hs, hn⟩ := List.mem_map.1 ha
    simp only [ha, if_true, reduceCtorEq, false_iff, not_and]
    exact fun h => absurd hn (h s hs).1
  · have ha' : ∀ s ∈ c.specs, s.name ≠ additionalName := fun s hs hn =>
      ha (List.mem_map.2 ⟨s, hs, hn⟩)
    cases hslot : c.hasSlot Member.constructingName with
    | true => simp [ha]
    | false =>
      by_cases hc : classArgument ∈ c.specs.map (·.name)
      · obtain ⟨s, hs, hn⟩ := List.mem_map.1 hc
        simp only [ha, hc, if_true, if_false, reduceCtorEq, false_iff, and_true, Bool.false_eq_true]
        exact fun h => absurd hn (h s hs).2
      · have hc' : ∀ s ∈ c.specs, s.name ≠ classArgument := fun s hs hn =>
          hc (List.mem_map.2 ⟨s, hs, hn⟩)
        simp only [ha, hc, if_false, Bool.false_eq_true, and_true, true_iff]
        exact fun s hs => ⟨ha' s hs, hc' s hs⟩

/-- A field whose default is no value is named by no spec, so nothing is resolved for
it. -/
theorem Accepted.not_given (h : c.Accepted) {rs : List Resolved}
    (hrs : rs.map (·.spec) = c.specs) {name : String} {f : FieldDecl}
    (hf : c.fields.get? name = some f) (hd : ∀ v, f.default ≠ .value v) :
    (Entries.ofList (rs.map fun r => (r.spec.name, r.value))).get? name = none := by
  refine not_given_of_unnamed hrs fun s hs hn => ?_
  obtain ⟨_, g, v, hg, _, hv, _⟩ := h.exists_field hs
  rw [hn, hf] at hg
  obtain rfl := Option.some.inj hg
  exact hd v hv

/-- No field of a new object is a lost slot exactly when every field that is one has a
member of its name. -/
theorem Accepted.slotFlaw?_eq_none_iff (h : c.Accepted) {rs : List Resolved}
    (hrs : rs.map (·.spec) = c.specs) : c.slotFlaw? (c.namedValues rs) = none ↔
      ∀ name f shown, name ≠ additionalName → c.fields.get? name = some f →
        f.default = .lostSlot shown → c.members.lookup name ≠ none := by
  rw [slotFlaw?, List.findSome?_eq_none_iff]
  constructor
  · intro hall name f shown hn hf hd hm
    have hanew := (defaultAnew_eq_lostSlot_iff c name shown f.default).2 ⟨hd, hm⟩
    have hmem : (name, (⟨f.annotation, .lostSlot shown⟩ : FieldDecl)) ∈
        c.namedFieldsAnew.toList := by
      rw [Entries.mem_toList_iff, get?_namedFieldsAnew c hn, get?_fieldsAnew, hf, ← hanew]
      rfl
    have hvalue : (c.namedValues rs).get? name = none := by
      rw [get?_namedValues, h.not_given hrs hf (by simp [hd]), get?_namedFieldsAnew c hn,
        get?_fieldsAnew, hf]
      simp [hanew, FieldDefault.value?]
    have hnone := hall _ hmem
    rw [hvalue] at hnone
    cases hnone
  · intro hall b hb
    obtain ⟨name, g⟩ := b
    rw [Entries.mem_toList_iff] at hb
    have hn : name ≠ additionalName := by
      rintro rfl
      rw [namedFieldsAnew, Entries.get?_erase, if_pos rfl] at hb
      cases hb
    rw [get?_namedFieldsAnew c hn, get?_fieldsAnew, Option.map_eq_some_iff] at hb
    obtain ⟨f, hf, rfl⟩ := hb
    split
    · next shown hd =>
      obtain ⟨hd, hm⟩ := (defaultAnew_eq_lostSlot_iff ..).1 hd
      exact absurd hm (hall name f shown hn hf hd)
    · rfl

/-- A field of a new object holds nothing exactly when it has to be given a value and
is not. -/
theorem Accepted.holdsNothing_iff (h : c.Accepted) {rs : List Resolved}
    (hrs : rs.map (·.spec) = c.specs) {name : String} (hn : name ≠ additionalName) :
    ((c.namedValues rs).get? name = none ∧
        (c.fieldsAnew.get? name).bind (·.default.fixture?) = none) ↔
      ∀ f, c.fields.get? name = some f → f.default.isRequired = true := by
  rw [get?_namedValues, get?_namedFieldsAnew c hn, get?_fieldsAnew]
  cases hf : c.fields.get? name with
  | none => simp
  | some f =>
    simp only [Option.map_some, Option.bind_some, Option.some.injEq, forall_eq']
    rw [← isRequired_defaultAnew c name f.default]
    cases hreq : (c.defaultAnew name f.default).isRequired with
    | false =>
      simp only [Bool.false_eq_true, iff_false, not_and]
      intro hnone hfix
      rcases FieldDefault.holds_of_not_isRequired hreq with hv | hx
      · rw [(Option.or_eq_none_iff.1 hnone).2] at hv
        cases hv
      · rw [hfix] at hx
        cases hx
    | true =>
      have hd : c.defaultAnew name f.default = .required := by
        cases hd : c.defaultAnew name f.default <;> rw [hd] at hreq <;> first | rfl | cases hreq
      have hgiven := h.not_given hrs hf fun v hv => by
        rw [isRequired_defaultAnew, hv] at hreq
        cases hreq
      simp [hgiven, hd, FieldDefault.value?, FieldDefault.fixture?]

/-- **A new object is told that it was made without harm** exactly if its class is such
that it can be. -/
theorem Accepted.tellingFlaw?_eq_none_iff (h : c.Accepted) {rs : List Resolved}
    (hrs : rs.map (·.spec) = c.specs) (additional : Option Value) (overflow : Value) :
    tellingFlaw? (c.make c.fieldsAnew (c.namedValues rs) additional overflow) c.fieldsAnew = none ↔
      c.Tellable := by
  have hmade : Member.madeName ≠ additionalName := by decide
  have hheld := h.holdsNothing_iff hrs hmade
  unfold tellingFlaw? tellingFixture? Tellable
  rw [← hheld]
  generalize Props.lastResort _ Member.madeName = found
  simp only [make]
  cases c.ownValue? finderName with
  | some v =>
    by_cases hs : c.hasSlot Member.madeName = true
    · simp [hs]
    · by_cases hp : c.privates.size = 0 <;> simp [hs, hp]
  | none =>
    by_cases hs : c.hasSlot Member.madeName = true
    · cases found <;> simp [hs]
    · by_cases hp : c.privates.size = 0
      · simp [hs, hp]
      · by_cases hh : c.hidesContents = true
        · simp [hs, hh]
        · cases (c.namedValues rs).get? Member.madeName <;> simp [hs, hp, hh]

theorem registryFlaw?_eq_none_iff (c : PropsClass) :
    c.registryFlaw? = none ↔ ∀ v, c.privates.get? registryName ≠ some (some v) := by
  unfold registryFlaw?
  cases c.privates.get? registryName with
  | none => simp
  | some o => cases o <;> simp

/-- **What stands in the way of an object is a fault of its class,** whatever the raw map
holds. -/
theorem Accepted.obstacle?_eq_none_iff (h : c.Accepted) {rs : List Resolved}
    (hrs : rs.map (·.spec) = c.specs) (extra : Entries Key Value) :
    c.obstacle? rs (c.reportOf rs extra).props = none ↔ c.Buildable := by
  have hcreated : c.uncallable? creatorName = none ↔ c.replaced.get? creatorName = none :=
    Option.map_eq_none_iff
  have hregistry : (c.reportOf rs extra).props.cls.registryFlaw? = c.registryFlaw? := rfl
  rw [obstacle?, finishingFlaw?, Option.or_eq_none_iff, Option.map_eq_none_iff,
    Option.or_eq_none_iff, Option.map_eq_none_iff, Option.or_eq_none_iff, Option.or_eq_none_iff,
    hregistry, reportOf, argumentClash_eq_none_iff, hcreated, h.slotFlaw?_eq_none_iff hrs,
    h.tellingFlaw?_eq_none_iff hrs, registryFlaw?_eq_none_iff]
  constructor
  · rintro ⟨⟨ha, hs⟩, hn, hf, ht, hr⟩
    exact ⟨ha, hs, hn, hf, ht, hr⟩
  · rintro ⟨ha, hs, hn, hf, ht, hr⟩
    exact ⟨⟨ha, hs⟩, hn, hf, ht, hr⟩

/-- **A report is made exactly when the class is buildable and every spec resolves.** -/
theorem Accepted.exists_reportEntries_iff (h : c.Accepted) (raw : Entries Key Value) :
    (∃ r, c.reportEntries raw = .ok r) ↔
      c.Buildable ∧ ∀ s ∈ c.specs, ∃ r, s.resolve (rawAt raw s.key) = .ok r := by
  rw [← exists_resolveAll_iff]
  constructor
  · rintro ⟨r, hr⟩
    obtain ⟨rs, hrs, rfl, ho⟩ := (reportEntries_eq_ok_iff ..).1 hr
    exact ⟨(h.obstacle?_eq_none_iff (map_spec_of_resolveAll hrs) _).1 ho, rs, hrs⟩
  · rintro ⟨hb, rs, hrs⟩
    exact ⟨_, (reportEntries_eq_ok_iff ..).2 ⟨rs, hrs, rfl,
      (h.obstacle?_eq_none_iff (map_spec_of_resolveAll hrs) _).2 hb⟩⟩

theorem Accepted.buildable_of_reportEntries (h : c.Accepted) {raw : Entries Key Value} {r : Report}
    (hr : c.reportEntries raw = .ok r) : c.Buildable :=
  ((h.exists_reportEntries_iff raw).1 ⟨r, hr⟩).1

/-- A plain class is buildable as long as no spec takes the name of an argument. -/
theorem Plain.buildable_iff (h : c.Plain) :
    c.Buildable ↔ ∀ s ∈ c.specs, s.name ≠ additionalName ∧ s.name ≠ classArgument := by
  refine ⟨fun hb => hb.arguments, fun ha => ⟨ha, h.hasSlot _, h.replaced _, ?_, ?_, ?_⟩⟩
  · exact fun name f shown _ hf hd => absurd hd (h.unlost name f hf shown)
  · exact ⟨h.hasSlot _, .inl h.privates⟩
  · intro v hv
    have hnil := (Entries.toList_eq_nil_iff c.privates).1 (List.length_eq_zero_iff.1 h.privates)
    rw [hnil] at hv
    cases hv

/-- The class of a processor is buildable. -/
theorem buildable_processor (p : Processor) : p.cls.Buildable := by
  rw [(plain_processor p).buildable_iff]
  cases p <;> decide +kernel

/-- **An object is built exactly of the entries of a map** that a report is made of. -/
theorem build_eq_ok_iff (c : PropsClass) (raw : Value) (o : Props) : c.build raw = .ok o ↔
    ∃ entries r, raw.entries? = some entries ∧ c.reportEntries entries = .ok r ∧ r.props = o := by
  rw [build_eq_ok_iff_report, report]
  cases raw.entries? with
  | none => cases raw.isNull <;> simp
  | some entries => simp

theorem build_ofEntries_eq_ok_iff (c : PropsClass) (raw : Entries Key Value) (o : Props) :
    c.build (.ofEntries raw) = .ok o ↔ ∃ r, c.reportEntries raw = .ok r ∧ r.props = o := by
  simp [build_eq_ok_iff, Value.entries?_ofEntries]

/-- A build for a buildable class fails with the failure to resolve the specs, and only
with that. -/
theorem Accepted.reportEntries_eq_error_iff (h : c.Accepted) (hb : c.Buildable)
    (raw : Entries Key Value) (e : BuildError) : c.reportEntries raw = .error e ↔
      ∃ d, resolveAll raw c.specs = .error d ∧ e = .digits d := by
  rw [reportEntries]
  cases hr : resolveAll raw c.specs with
  | error d => simp [eq_comm]
  | ok rs =>
    have ho := (h.obstacle?_eq_none_iff (map_spec_of_resolveAll hr) (c.passThrough raw)).2 hb
    simp [ho]

/-- A report is made of a short raw configuration. -/
theorem Accepted.exists_reportEntries_of_isShort (h : c.Accepted) (hb : c.Buildable)
    {raw : RawConfig} (hshort : raw.IsShort) : ∃ r, c.reportEntries raw.entries = .ok r := by
  rw [h.exists_reportEntries_iff]
  exact ⟨hb, fun s _ => (raw.exists_resolve_iff s).2 (hshort.not_overlong s)⟩

end PropsClass
end AuditConfig
