import AuditConfig.Proofs.Inheritance
import AuditConfig.Proofs.NamedValues

/-!
# Lawful definitions: what can be wrong with them

A spec fits the model fields of a class if all four conditions of the check hold (`Fits`).
If it does not, it fails on the first of them that does not hold (`Fails`), and the first
spec that fails says why the class is refused (`firstViolation_eq_some_iff`).

Much else can be wrong with a definition.  One that keeps to the names that fields can have,
and says no options, is lawful (`Definition.IsLawful`).  Nothing else is wrong with it if its
parent is lawful too (`Lawful`), as the base class is, those of the processors, and every
class that a lawful definition makes of one.  So a lawful definition is refused for its
specs and for nothing else (`define_of_lawful`).
-/

namespace AuditConfig
namespace PropsClass

/-- A spec fits model fields: its default is of its type, and there is a field of its name,
which is annotated with its type and has its default. -/
structure Fits (fields : Table FieldDecl) (s : FieldSpec) : Prop where
  accepted : s.type.accepts s.default = true
  declared : ∃ f v, fields.get? s.name = some f ∧ f.annotation = s.type.annotation ∧
    f.default = .value v ∧ v.equal s.default = true

/-- The first condition that does not hold of a spec and model fields. -/
inductive Fails (fields : Table FieldDecl) (s : FieldSpec) : Violation → Prop where
  /-- Its default is not of its type. -/
  | accepted (h : s.type.accepts s.default = false) : Fails fields s (.defaultRejected s)
  /-- There is no field of its name. -/
  | missing (ha : s.type.accepts s.default = true) (h : fields.get? s.name = none) :
      Fails fields s (.fieldMissing s)
  /-- The field is annotated otherwise. -/
  | annotated {f : FieldDecl} (ha : s.type.accepts s.default = true)
      (hf : fields.get? s.name = some f) (h : f.annotation ≠ s.type.annotation) :
      Fails fields s (.annotationDiffers s f.annotation)
  /-- The default of the field is another or none. -/
  | defaulted {f : FieldDecl} (ha : s.type.accepts s.default = true)
      (hf : fields.get? s.name = some f) (hann : f.annotation = s.type.annotation)
      (h : ∀ v, f.default = .value v → v.equal s.default = false) :
      Fails fields s (.defaultDiffers s f.default)

theorem fits_iff (fields : Table FieldDecl) (s : FieldSpec) :
    Fits fields s ↔ check fields s = none := by
  rw [check_eq_none_iff]
  constructor
  · rintro ⟨ha, f, v, hf, hann, hv, he⟩
    exact ⟨ha, f, hf, hann, (FieldDefault.agrees_iff ..).2 ⟨v, hv, he⟩⟩
  · rintro ⟨ha, f, hf, hann, hd⟩
    obtain ⟨v, hv, he⟩ := (FieldDefault.agrees_iff ..).1 hd
    exact ⟨ha, f, v, hf, hann, hv, he⟩

/-- **The check finds the first condition that does not hold.** -/
theorem fails_iff (fields : Table FieldDecl) (s : FieldSpec) (v : Violation) :
    Fails fields s v ↔ check fields s = some v := by
  constructor
  · rintro (h | ⟨ha, h⟩ | ⟨ha, hf, h⟩ | ⟨ha, hf, hann, h⟩)
    · simp [check, h]
    · simp [check, ha, h]
    · simp [check, ha, hf, h]
    · have hd : ∀ f : FieldDefault, (∀ v, f = .value v → v.equal s.default = false) →
          f.agrees s.default = false := by
        intro f hv
        rw [← Bool.not_eq_true, FieldDefault.agrees_iff]
        rintro ⟨v, rfl, he⟩
        rw [hv v rfl] at he
        cases he
      simp [check, ha, hf, hann, hd _ h]
  · intro h
    unfold check at h
    cases ha : s.type.accepts s.default with
    | false => simp only [ha] at h; cases h; exact .accepted ha
    | true =>
      simp only [ha, Bool.not_true, Bool.false_eq_true, if_false] at h
      cases hf : fields.get? s.name with
      | none => simp only [hf] at h; cases h; exact .missing ha hf
      | some f =>
        simp only [hf, ne_eq] at h
        split at h
        · next hann => cases h; exact .annotated ha hf hann
        · next hann =>
          split at h
          · next hd =>
            cases h
            refine .defaulted ha hf (Decidable.of_not_not hann) fun w hw => ?_
            rw [hw] at hd
            simpa [FieldDefault.agrees] using hd
          · cases h

/-- **The first spec that does not fit says why a class is refused.** -/
theorem firstViolation_eq_some_iff (c : PropsClass) (v : Violation) :
    c.firstViolation = some v ↔ ∃ before s after, c.specs = before ++ s :: after ∧
      (∀ t ∈ before, Fits c.fields t) ∧ Fails c.fields s v := by
  simp only [firstViolation, List.findSome?_eq_some_iff, fits_iff, fails_iff]
  constructor
  · rintro ⟨before, s, after, hs, hv, hb⟩
    exact ⟨before, s, after, hs, hb, hv⟩
  · rintro ⟨before, s, after, hs, hb, hv⟩
    exact ⟨before, s, after, hs, hv, hb⟩

theorem firstViolation_eq_none_iff (c : PropsClass) :
    c.firstViolation = none ↔ ∀ s ∈ c.specs, Fits c.fields s := by
  simp only [firstViolation, List.findSome?_eq_none_iff, fits_iff]

/-- The texts that guard the names of members. -/
def guardTexts : List String := ["model_validate", "model_dump"]

/-- Whether a name starts with a text that guards the names of members. -/
def isGuarded (name : String) : Bool := guardTexts.any fun g => g.toList.isPrefixOf name.toList

/-- That a field can have a name: it is not that of the options, nor the guarded name of a
member. -/
def IsLegal (name : String) : Prop :=
  name ≠ Attribute.optionsName ∧
    (isGuarded name = true → Member.ofEveryClass.lookup name = none)

instance (name : String) : Decidable (IsLegal name) :=
  inferInstanceAs (Decidable (_ ∧ _))

/-- A definition that declares fields under legal names and says no options. -/
structure Definition.IsLawful (d : Definition) : Prop where
  named : '\x00' ∉ d.name.toList
  plain : d.IsPlain
  legal : ∀ f ∈ d.fields, IsLegal f.1
  optionless : ∀ l, d.default? Options.oldName ≠ some (.map l)

/-- A class that lawful definitions reach. -/
structure Lawful (c : PropsClass) : Prop where
  plain : c.Plain
  options : c.options = .base
  parameters : c.parameters = .value (.list [])
  /-- Its members under guarded names are those of every class. -/
  guarded : ∀ name, isGuarded name = true → Member.ofEveryClass.lookup name = none →
    c.members.lookup name = none

namespace Definition

variable {d : Definition} (hd : d.IsLawful)
include hd

theorem IsLawful.own_get?_eq_none {name : String} (h : ¬ IsLegal name) :
    d.own.get? name = none := by
  cases hf : d.own.get? name with
  | none => rfl
  | some f =>
    exact absurd (declared_of_get? (P := fun n _ => IsLegal n) hd.legal hf) h

theorem IsLawful.default?_eq_none {name : String} (h : Attribute.isFree name = true) :
    d.default? name = none :=
  hd.plain.default?_of_isFree h

theorem IsLawful.substitute?_eq_none {name : String} (h : Attribute.isFree name = true) :
    d.substitute? name = none := by
  simp [substitute?, hd.default?_eq_none h, hd.plain.slots_eq]

theorem IsLawful.not_options : d.own.get? Attribute.optionsName = none :=
  hd.own_get?_eq_none fun h => h.1 rfl

theorem IsLawful.options_eq {parent : PropsClass} (hp : parent.Lawful) :
    d.options parent = .ok .base := by
  have hown : d.default? Attribute.optionsName = none := by rw [default?, hd.not_options]; rfl
  have hdeclared : Options.base.declared .null ((d.default? Options.oldName).getD .null) =
      .ok .base := by
    cases ho : d.default? Options.oldName with
    | none => rfl
    | some v =>
      cases v with
      | map l => exact absurd ho (hd.optionless l)
      | _ => rfl
  rw [options, hp.options, hown, Option.getD_none, hdeclared]
  rfl

section

variable {parent : PropsClass} (hp : parent.Lawful)
include hp

theorem IsLawful.replaced?_eq_none {name : String} (h : Attribute.isFree name = true) :
    d.replaced? parent name = none := by
  rw [replaced?, hd.substitute?_eq_none h, hp.plain.replaced]
  rfl

omit hd in
/-- The parent has nothing under a guarded name that the definition declares. -/
theorem memberText?_eq_none {name : String} (hg : isGuarded name = true)
    (hlegal : IsLegal name) (hspecs : name ≠ Attribute.specsName) :
    parent.memberText? name = none := by
  have hprivates : parent.privates.get? name = none :=
    (Entries.toList_eq_nil_iff _).1 (List.length_eq_zero_iff.1 hp.plain.privates) name
  rw [memberText?, if_neg hspecs, hprivates, hp.plain.replaced,
    hp.guarded name hg (hlegal.2 hg)]
  rfl

/-- Nothing is wrong with a name that the definition or its parent declares. -/
theorem IsLawful.nameFlaw?_eq_none {name : String}
    (hname : (d.own.get? name).isSome ∨ (parent.fields.get? name).isSome ∨
      name = Attribute.specsName) :
    d.nameFlaw? .base (guardTexts.map .text) parent name = none := by
  have hguarded : ∀ g ∈ guardTexts, g.toList.isPrefixOf name.toList = true →
      guardedFlaw? (guardTexts.map .text) parent name g = none := by
    intro g hg hprefix
    have hisGuarded : isGuarded name = true := List.any_eq_true.2 ⟨g, hg, hprefix⟩
    have hspecs : name ≠ Attribute.specsName := by
      rintro rfl
      revert hisGuarded
      decide
    have hconflict : (parent.fields.get? name).isSome = true ∨ parent.memberText? name = none := by
      rcases hname with hown | hfield | hs
      · refine .inr (memberText?_eq_none hp hisGuarded ?_ hspecs)
        apply Decidable.byContradiction
        intro hlegal
        rw [hd.own_get?_eq_none hlegal] at hown
        cases hown
      · exact .inl hfield
      · exact absurd hs hspecs
    rcases hconflict with h | h
    · simp [guardedFlaw?, h, guardTexts, Value.kind]
    · simp [guardedFlaw?, h, guardTexts, Value.kind]
  have hshadow : d.shadowFlaw? parent name = none := by
    simp [shadowFlaw?, hp.plain.replaced]
  have hlisted : d.listedFlaw? name = none := by
    have hlist : d.substitute? listName = none := hd.substitute?_eq_none (by decide)
    rw [listedFlaw?, hlist]
    cases d.own.get? name <;> rfl
  have hunsaid : d.unsaidFlaw? = none := by simp [unsaidFlaw?, hd.not_options]
  have hwhole : d.replaced? parent wholeName = none := hd.replaced?_eq_none hp (by decide)
  have htitler : (Options.base.value Options.titlerName).isNull = true := by decide
  rw [nameFlaw?, hunsaid, hwhole, hshadow, hlisted, htitler]
  split
  · rfl
  · refine Option.or_eq_none_iff.2 ⟨List.findSome?_eq_none_iff.2 fun v hv => ?_, by simp⟩
    obtain ⟨g, hg, rfl⟩ := List.mem_map.1 hv
    dsimp only
    split
    · next hprefix => exact hguarded g hg hprefix
    · rfl

theorem IsLawful.namesFlaw?_eq_none : d.namesFlaw? .base parent = none := by
  have hguards : Options.base.guards.sequence? = some (guardTexts.map .text) := rfl
  rw [namesFlaw?, hguards]
  refine List.findSome?_eq_none_iff.2 fun name hname => hd.nameFlaw?_eq_none hp ?_
  have hnone : ∀ {α : Type} (t : Table α), (∀ n, t.get? n = none) → t.keys = [] := fun t ht => by
    rw [Entries.keys, (Entries.toList_eq_nil_iff t).2 ht]
    rfl
  have hprivates : parent.privates.keys = [] := by
    rw [Entries.keys, List.length_eq_zero_iff.1 hp.plain.privates]
    rfl
  have hreplaced : (parent.replaced.filter fun _ s => !s.isSlot).keys = [] :=
    hnone _ fun n => by rw [Entries.get?_filter, hp.plain.replaced]; rfl
  rw [annotatedNames, hprivates, hreplaced] at hname
  simp only [List.append_nil, List.mem_append, List.mem_singleton, Entries.mem_keys_iff] at hname
  rcases hname with (hs | hf) | ho
  · exact .inr (.inr hs)
  · exact .inr (.inl hf)
  · exact .inl ho

theorem IsLawful.inheritedParameters_eq : d.inheritedParameters parent = .value (.list []) := by
  rw [inheritedParameters, hd.default?_eq_none (by decide), hp.parameters]

theorem IsLawful.parameters_eq : d.parameters parent = .value (.list []) := by
  rw [parameters, hd.replaced?_eq_none hp (by decide), hd.inheritedParameters_eq hp]
  rfl

/-- The class has a validator, and is complete with it. -/
theorem IsLawful.validatorFlaw?_eq_none : d.validatorFlaw? .base parent = none := by
  have hschema : d.schema? .base = none := by
    rw [schema?, hd.default?_eq_none (by decide)]
    rfl
  have hmaker : d.schemaMakerFlaw? parent = none := by
    rw [schemaMakerFlaw?, hd.replaced?_eq_none hp (by decide)]
  have hslot : d.schemaSlotFlaw? .base = none := by simp [schemaSlotFlaw?, hd.plain.slots_eq]
  have hmodifier : d.modifierFlaw? parent = none := by
    rw [modifierFlaw?, hd.replaced?_eq_none hp (by decide)]
    rfl
  have hcompletion : d.completionFlaw? parent = none := by
    rw [completionFlaw?, hd.replaced?_eq_none hp (by decide)]
    rfl
  have hfields : d.fieldsFlaw? .base parent = none := by
    have hkept : Options.base.undeclared ≠ .kept := by decide
    have hencoders : encodersFlaw? .base = none := by decide
    simp [fieldsFlaw?, hkept, hencoders, hmodifier, Options.misfit?_base]
  have hlate : d.lateFlaw? .base parent none = none := by
    have houter : Options.base.outerMisfit? = none := by decide
    have hwriter : Options.base.outerWriterMisfit? = none := by decide
    simp [lateFlaw?, houter, hwriter, hcompletion]
  rw [validatorFlaw?, hschema]
  simp [hmaker, hslot, fieldsValidatorFlaw?, hfields, Options.writerMisfit?_base, hlate]

/-- **Nothing is wrong with a lawful definition** but what may be wrong with its specs. -/
theorem IsLawful.flaw?_eq_none : d.flaw? .base parent = none := by
  have hignored : ignoredFlaw? .base = none := rfl
  have hroot : d.own.get? rootName = none := hd.plain.own_get?_of_isFree (by decide)
  have hslots : d.slotsFlaw? parent = none := by
    have h : d.default? slotsName = none := hd.default?_eq_none (by decide)
    simp [slotsFlaw?, h, hd.plain.slots_eq]
  have hqualified : d.qualifiedFlaw? = none := by
    rw [qualifiedFlaw?, hd.default?_eq_none (by decide)]
  have hcell : d.default? cellName = none := hd.default?_eq_none (by decide)
  have hcalled : ∀ name, parent.uncallable? name = none := fun name => by
    rw [uncallable?, hp.plain.replaced]; rfl
  have hfamily : d.familyFlaw? = none := by
    rw [familyFlaw?, hd.substitute?_eq_none (by decide)]
  have hparameters :
      parametersClash? (d.parameters parent) (d.inheritedParameters parent) = none := by
    rw [hd.parameters_eq hp, hd.inheritedParameters_eq hp]
    rfl
  have hhome : d.homeFlaw? = none := by
    rw [homeFlaw?, hd.default?_eq_none (by decide)]
  have htypes : d.typeParametersFlaw? = none := by
    rw [typeParametersFlaw?, hd.substitute?_eq_none (by decide)]
    rfl
  have hnames : d.namesFlaw? .base parent = none := hd.namesFlaw?_eq_none hp
  have hvalidator : d.validatorFlaw? .base parent = none := hd.validatorFlaw?_eq_none hp
  have hhasher : d.hasherFlaw? .base parent = none := by
    simp [hasherFlaw?, hp.plain.replaced]
  have hspecs : d.specsSlotFlaw? parent = none := by
    simp [specsSlotFlaw?, hd.plain.slots_eq]
  simp [flaw?, hignored, hroot, hslots, hd.named, hqualified, hcell, hcalled, hfamily, hparameters,
    hhome, htypes, hnames, hvalidator, hhasher, hspecs]

omit hp in
/-- Outside the names of members, a class has the fields that the definition declares, and
of the others those of its parent. -/
theorem IsLawful.get?_fields (id : Nat) (options : Options) {name : String}
    (hs : name ≠ Attribute.specsName) (hm : parent.members.lookup name = none) :
    (extend id options parent d).fields.get? name =
      (d.own.get? name).or (parent.fields.get? name) := by
  have hmember : d.memberDefault? parent name = none := by
    simp [memberDefault?, hd.plain.slots_eq, hm]
  have hwith : d.withMember parent name = fun f => f := funext fun f => by
    rw [withMember, hmember]
    rfl
  have hfield : (d.own.get? name).filter (fun _ => Attribute.isField name) = d.own.get? name := by
    cases hf : d.own.get? name with
    | none => rfl
    | some f =>
      have hlegal : IsLegal name := declared_of_get? (P := fun n _ => IsLegal n) hd.legal hf
      have hfree : Attribute.isFree name = false :=
        declared_of_get? (P := fun n _ => Attribute.isFree n = false)
          (fun f hf => (hd.plain f hf).1) hf
      simp [Attribute.isField, hfree, hlegal.1]
  change (d.allFields parent).get? name = _
  rw [get?_allFields, if_neg hs, get?_ownFields, get?_inherited, hfield]
  simp [hwith]

end

end Definition

/-- **A lawful definition keeps a class lawful.** -/
theorem Lawful.extend {parent : PropsClass} (hp : parent.Lawful) {d : Definition}
    (hd : d.IsLawful) (id : Nat) : (PropsClass.extend id .base parent d).Lawful where
  plain := hp.plain.extend hd.plain id .base
  options := rfl
  parameters := hd.parameters_eq hp
  guarded name hg hn := by
    change (d.members parent).lookup name = none
    rw [hd.plain.members_eq hp.plain.privates]
    exact hp.guarded name hg hn

theorem lawful_base : base.Lawful := ⟨plain_base, rfl, rfl, fun _ _ h => h⟩

theorem lawful_processor (p : Processor) : p.cls.Lawful where
  plain := plain_processor p
  options := rfl
  parameters := by cases p <;> rfl
  guarded name hg hn := by
    change (p.ownMembers ++ _).lookup name = none
    rw [List.lookup_append, Option.or_eq_none_iff]
    constructor
    · apply Entries.lookup_eq_none_of_not_mem
      have hown : ∀ n ∈ p.ownMembers.map Prod.fst, isGuarded n = false := by
        cases p <;> decide
      intro hm
      rw [hown name hm] at hg
      cases hg
    · change ((processorDefinition p).members base).lookup name = none
      rw [(isPlain_processorDefinition p).members_eq rfl]
      exact hn

/-- **A lawful definition is refused for the first spec that does not fit,** and for nothing
else. -/
theorem define_of_lawful {parent : PropsClass} (hp : parent.Lawful) {d : Definition}
    (hd : d.IsLawful) (id : Nat) : define id parent d =
      match (extend id .base parent d).firstViolation with
      | some v => .error (v.error d.name)
      | none => .ok (extend id .base parent d) := by
  have hlisting : (extend id .base parent d).listingFlaw? = none := by
    simp [listingFlaw?, (hp.extend hd id).plain.hasSlot]
  rw [define, hd.options_eq hp]
  simp only [hd.flaw?_eq_none hp, hlisting]
  cases (extend id .base parent d).firstViolation <;> rfl

end PropsClass
end AuditConfig
