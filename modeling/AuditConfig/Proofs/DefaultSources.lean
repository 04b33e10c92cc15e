import AuditConfig.Proofs.FieldValues
import AuditConfig.Proofs.Lawful
import AuditConfig.Proofs.PassThrough
import AuditConfig.Props.Construct

/-!
# The two defaults of a field

A field that a spec names has two defaults, that of the spec and that of the model field.  A
build gives it the first if the raw map has nothing for the spec.  The second is what a
construction gives it that has no value for it, and what a build gives it in a class that
has the field and no spec of its name.

The check of a class asks for the type of the first default only, and that the second equals
it.  Values that are equal need not be of one kind: one is equal to `true` and to a
floating-point number (`Value.IsTwin`).  So the two defaults are the same as far as the
second is of the type of the spec, which no check asks for, and otherwise it is a twin of
the first; every twin is let through (`defaults_of_accepted`).
-/

namespace AuditConfig
namespace Value

/-- A value is the twin of a truth value or of a whole number if it is the same number and of
another kind. -/
inductive IsTwin : Value → Value → Prop where
  | ofTruth (b : Bool) : IsTwin (.int (if b then 1 else 0)) (.bool b)
  | ofWhole (b : Bool) : IsTwin (.bool b) (.int (if b then 1 else 0))
  | floatOfTruth {x : Binary64} {b : Bool} (h : x.whole? = some (if b then 1 else 0)) :
      IsTwin (.float x) (.bool b)
  | floatOfWhole {x : Binary64} {n : Int} (h : x.whole? = some n) : IsTwin (.float x) (.int n)

/-- Twins are equal. -/
theorem IsTwin.equal {v w : Value} (h : v.IsTwin w) : v.equal w = true := by
  cases h with
  | ofTruth b => simp [Value.equal, scalarEqual, integer?]
  | ofWhole b => simp [Value.equal, scalarEqual, integer?]
  | floatOfTruth h => simp [Value.equal, scalarEqual, integer?, h]
  | floatOfWhole h => simp [Value.equal, scalarEqual, integer?, h]

/-- What counts as a number and equals a truth value is that truth value, or its twin. -/
theorem eq_or_isTwin_of_integer? {v w : Value} {n : Int} (hv : v.integer? = some n)
    (hw : w.integer? = some n) : v = w ∨ v.IsTwin w := by
  cases w with
  | bool b =>
    obtain rfl := Option.some.inj hw
    cases v with
    | bool a =>
      have h := Option.some.inj hv
      left
      cases a <;> cases b <;> first | rfl | cases h
    | int m =>
      obtain rfl := Option.some.inj hv
      exact .inr (.ofTruth b)
    | _ => cases hv
  | int m =>
    obtain rfl := Option.some.inj hw
    cases v with
    | bool a =>
      obtain rfl := Option.some.inj hv
      exact .inr (.ofWhole a)
    | int k =>
      obtain rfl := Option.some.inj hv
      exact .inl rfl
    | _ => cases hv
  | _ => cases hw

end Value

namespace FieldType

variable {t : FieldType} {v w : Value}

/-- **What equals a value of a field type is that value, or its twin.** -/
theorem equal_iff (hw : t.accepts w = true) : v.equal w = true ↔ v = w ∨ v.IsTwin w := by
  constructor
  · intro h
    have hnumber : ∀ n, w.integer? = some n → v = w ∨ v.IsTwin w := by
      intro n hn
      rcases Value.integer?_of_equal hn h with hv | ⟨x, rfl, hx⟩
      · exact Value.eq_or_isTwin_of_integer? hv hn
      · cases w with
        | bool b => exact .inr (.floatOfTruth (hx.trans hn.symm))
        | int m => exact .inr (.floatOfWhole (hx.trans hn.symm))
        | _ => cases hn
    rcases (accepts_iff t w).1 hw with ⟨_, s, rfl⟩ | ⟨_, n, rfl⟩ | ⟨_, b, rfl⟩
    · exact .inl (Value.eq_of_equal_text h)
    · exact hnumber n rfl
    · exact hnumber _ rfl
  · rintro (rfl | h)
    · rcases (accepts_iff t v).1 hw with ⟨_, s, rfl⟩ | ⟨_, n, rfl⟩ | ⟨_, b, rfl⟩ <;>
        simp [Value.equal, Value.scalarEqual, Value.integer?]
    · exact h.equal

/-- A twin of a value of a field type is not of that type. -/
theorem accepts_eq_false_of_isTwin (hw : t.accepts w = true) (h : v.IsTwin w) :
    t.accepts v = false := by
  rcases (accepts_iff t w).1 hw with ⟨rfl, s, rfl⟩ | ⟨rfl, n, rfl⟩ | ⟨rfl, b, rfl⟩ <;>
    cases h <;> rfl

/-- Of what equals a value of a field type, only that value is of the type. -/
theorem accepts_iff_of_equal (hw : t.accepts w = true) (h : v.equal w = true) :
    t.accepts v = true ↔ v = w := by
  rcases (equal_iff hw).1 h with rfl | htwin
  · exact iff_of_true hw rfl
  · have hv := accepts_eq_false_of_isTwin hw htwin
    refine iff_of_false (by simp [hv]) ?_
    rintro rfl
    rw [hw] at hv
    cases hv

/-- What equals a text is that text. -/
theorem eq_of_equal_of_string (hw : string.accepts w = true) (h : v.equal w = true) : v = w := by
  cases w with
  | text s => exact Value.eq_of_equal_text h
  | _ => cases hw

end FieldType

namespace PropsClass

variable {c : PropsClass} {s : FieldSpec}

/-- **A build gives a field the default of the spec** if the raw map has nothing for it. -/
theorem Accepted.holding?_of_missing (h : c.Accepted) (hs : s ∈ c.specs)
    {raw : Entries Key Value} {o : Props} (hb : c.build (.ofEntries raw) = .ok o)
    (hm : ∀ t ∈ c.specs, t.name = s.name → FieldSpec.isMissing (rawAt raw t.key) = true) :
    o.holding? s.name = some (.value s.default) := by
  obtain ⟨r, hr, rfl⟩ := (build_ofEntries_eq_ok_iff ..).1 hb
  obtain ⟨t, ht, hn, v, outcome, hv, hget⟩ := h.exists_resolved hr hs
  rw [t.resolve_of_isMissing (hm t ht hn)] at hv
  cases hv
  have hname := ((h.buildable_of_reportEntries hr).arguments s hs).1
  refine Props.holding?_of_held? ?_
  rw [Props.held?, if_neg hname, hget, Option.some_or, h.default_eq ht hs hn]

/-- A build gives a field that no spec names the value that its declaration has. -/
theorem holding?_of_unasked {raw : Value} {o : Props} (hb : c.build raw = .ok o) {name : String}
    {f : FieldDecl} {v : Value} (hf : c.fields.get? name = some f) (hd : f.default = .value v)
    (hn : name ≠ additionalName) (hs : ∀ s ∈ c.specs, s.name ≠ name) :
    o.holding? name = some (.value v) := by
  obtain ⟨entries, r, _, hr, rfl⟩ := (build_eq_ok_iff ..).1 hb
  rw [holding?_of_unnamed hr hf hn hs, hd]
  rfl

/-- So does a construction that has nothing for the field, unless the class validates
defaults or has something in place of the validation of its fields. -/
theorem holding?_of_unconstructed {occurrence : Nat} {values : Table Value} {o : Props}
    (hc : c.construct occurrence values = .ok o) (hplan : c.standIn = none)
    (hvalidates : c.options.validatesDefaults = false) {name : String} {f : FieldDecl} {v : Value}
    (hf : c.fields.get? name = some f) (hd : f.default = .value v) (hn : name ≠ additionalName)
    (hvalues : values.get? name = none) : o.holding? name = some (.value v) := by
  have htaken : (c.takenValues occurrence values).get? name = some v := by
    have hfield : c.taken occurrence values name f = .ok (some v) := by
      simp [taken, hvalues, hd, FieldDefault.value?, hvalidates]
    rw [takenValues, Entries.get?_filterMap, hf]
    exact congrArg (fun x => x.toOption.join) hfield
  have hheld : ∀ additional overflow, (c.make c.fields ((c.takenValues occurrence values).erase
      additionalName) additional overflow).held? name = some v := by
    intro additional overflow
    change (if name = additionalName then additional else _) = _
    rw [if_neg hn, Option.or_eq_some_iff]
    refine .inl ?_
    change ((c.takenValues occurrence values).erase additionalName).get? name = _
    rw [Entries.get?_erase, if_neg hn, htaken]
  unfold construct at hc
  rw [hplan] at hc
  split at hc
  · cases hc
  · next hp => cases hp
  · split at hc
    · dsimp only at hc
      split at hc
      · cases hc
      · cases hc
        exact Props.holding?_of_held? (hheld _ _)
    · cases hc

/-- A definition with one field, of which the spec has one default and the model field
another. -/
def sourced (t : FieldType) (spec field : Value) : Definition where
  name := "Sourced"
  home := "__main__"
  specs := some [⟨"x", "k", t, spec⟩]
  fields := [("x", ⟨t.annotation, .value field⟩)]

/-- Its class. -/
def sourcedClass (t : FieldType) (spec field : Value) : PropsClass :=
  extend Processor.firstFreeId .base base (sourced t spec field)

section Sourced

variable {t : FieldType} {v w : Value}

theorem isLawful_sourced (t : FieldType) (w v : Value) : (sourced t w v).IsLawful where
  named := by simp [sourced]
  plain f hf := by
    obtain rfl := List.mem_singleton.1 hf
    refine ⟨?_, nofun⟩
    change Attribute.isFree "x" = false
    decide
  legal f hf := by
    obtain rfl := List.mem_singleton.1 hf
    change IsLegal "x"
    decide
  optionless l := nofun

theorem get?_fields_sourcedClass (t : FieldType) (w v : Value) :
    (sourcedClass t w v).fields.get? "x" = some ⟨t.annotation, .value v⟩ := by
  rw [sourcedClass, (isLawful_sourced t w v).get?_fields _ _ (by decide) (by decide)]
  rfl

/-- **The check lets through every default of the field that equals that of the spec.** -/
theorem accepted_sourcedClass (hw : t.accepts w = true) (h : v.equal w = true) :
    (sourcedClass t w v).Accepted := by
  have hnone : (extend Processor.firstFreeId .base base (sourced t w v)).firstViolation = none := by
    refine (firstViolation_eq_none_iff _).2 fun s hs => ?_
    obtain rfl := List.mem_singleton.1 hs
    exact ⟨hw, _, v, get?_fields_sourcedClass t w v, rfl, rfl, h⟩
  have hdefine : define Processor.firstFreeId base (sourced t w v) = .ok (sourcedClass t w v) := by
    rw [define_of_lawful lawful_base (isLawful_sourced t w v), hnone]
    rfl
  exact .define .base hdefine

end Sourced

/-- The two defaults of the field `f` that the spec `s` of the class `c` names: that of the
spec, and `v`, that of the model field. -/
structure Sources (c : PropsClass) (s : FieldSpec) (f : FieldDecl) (v : Value) : Prop where
  /-- The class has the field. -/
  field : c.fields.get? s.name = some f
  /-- The field is of the type of the spec. -/
  annotation : f.annotation = s.type.annotation
  /-- The second default is the field's own. -/
  default : f.default = .value v
  /-- The first default is of the type. -/
  accepts : s.type.accepts s.default = true
  /-- The two are the same, or twins. -/
  same_or_twin : v = s.default ∨ v.IsTwin s.default
  /-- They are the same exactly if the second is of the type. -/
  same_iff : v = s.default ↔ s.type.accepts v = true
  /-- The defaults of a text field always are. -/
  same_of_text : s.type = .string → v = s.default
  /-- A build gives the field the first if the raw map has nothing for it. -/
  built : ∀ raw o, c.build (.ofEntries raw) = .ok o →
    (∀ t ∈ c.specs, t.name = s.name → FieldSpec.isMissing (rawAt raw t.key) = true) →
    o.holding? s.name = some (.value s.default)
  /-- A class that has the field and no spec of its name gives it the second. -/
  unasked : s.name ≠ additionalName → ∀ (d : PropsClass) raw o, d.fields.get? s.name = some f →
    (∀ t ∈ d.specs, t.name ≠ s.name) → d.build raw = .ok o → o.holding? s.name = some (.value v)
  /-- So does a construction that has nothing for it. -/
  constructed : s.name ≠ additionalName → ∀ occurrence values o,
    c.construct occurrence values = .ok o → c.standIn = none →
    c.options.validatesDefaults = false → values.get? s.name = none →
    o.holding? s.name = some (.value v)

/-- **A spec of an accepted class and the default of its field** are two such defaults. -/
theorem Accepted.sources (h : c.Accepted) (hs : s ∈ c.specs) {f : FieldDecl} {v : Value}
    (hf : c.fields.get? s.name = some f) (hd : f.default = .value v) : c.Sources s f v := by
  obtain ⟨haccepts, f', v', hf', hannotation, hd', hequal⟩ := h.exists_field hs
  obtain rfl : f' = f := Option.some.inj (hf'.symm.trans hf)
  obtain rfl : v' = v := FieldDefault.value.inj (hd'.symm.trans hd)
  exact {
    field := hf
    annotation := hannotation
    default := hd
    accepts := haccepts
    same_or_twin := (FieldType.equal_iff haccepts).1 hequal
    same_iff := (FieldType.accepts_iff_of_equal haccepts hequal).symm
    same_of_text := fun ht => FieldType.eq_of_equal_of_string (ht ▸ haccepts) hequal
    built := fun raw o hb hm => h.holding?_of_missing hs hb hm
    unasked := fun hn d raw o hdf hds hb => holding?_of_unasked hb hdf hd hn hds
    constructed := fun hn occurrence values o hc hplan hvalidates hvalues =>
      holding?_of_unconstructed hc hplan hvalidates hf hd hn hvalues }

/-- **The two defaults of a field are the same, or twins.**  For every spec of an accepted
class, the model field has a default that is that of the spec or a twin of it; it is the same
exactly if it is of the type of the spec.  A field holds the default of the spec in a build of
a raw map that has nothing for it, and that of the model field where it is filled from the
model, so that the two agree under the same condition.

No check asks for that type: every value that is the same as the default of the spec or a
twin of it is the default of the model field in some accepted class with such a spec. -/
theorem defaults_of_accepted (h : c.Accepted) (hs : s ∈ c.specs) :
    (∃ f v, c.Sources s f v) ∧ ∀ v, v = s.default ∨ v.IsTwin s.default →
      ∃ (d : PropsClass) (t : FieldSpec) (f : FieldDecl), d.Accepted ∧ t ∈ d.specs ∧
        t.type = s.type ∧ t.default = s.default ∧ d.Sources t f v := by
  obtain ⟨haccepts, f, v, hf, _, hd, _⟩ := h.exists_field hs
  refine ⟨⟨f, v, h.sources hs hf hd⟩, fun w hw => ?_⟩
  have hequal : w.equal s.default = true := (FieldType.equal_iff haccepts).2 hw
  have hsourced := accepted_sourcedClass haccepts hequal
  exact ⟨_, ⟨"x", "k", s.type, s.default⟩, _, hsourced, .head _, rfl, rfl,
    hsourced.sources (.head _) (get?_fields_sourcedClass s.type s.default w) rfl⟩

/-- The spec of a length and the field of the processor's class have the default 32. -/
theorem defaults_of_length : ∃ f, Processor.eventId.cls.Sources
    (Processor.wholeSpec "length" "audit.processor.eventId.length" 32) f (.int 32) := by
  obtain ⟨⟨f, v, hsources⟩, -⟩ := defaults_of_accepted (.processor .eventId) (.head _)
  have hfield : Processor.eventId.cls.fields.get? "length" =
      some ⟨FieldType.integer.annotation, .value (.int 32)⟩ := rfl
  obtain rfl := Option.some.inj (hsources.field.symm.trans hfield)
  obtain rfl := FieldDefault.value.inj hsources.default
  exact ⟨_, hsources⟩

/-- A definition of its own of no specs and no fields. -/
def bare : Definition where
  name := "Bare"
  home := "__main__"
  specs := some []
  fields := []

/-- **The two defaults of a field need not be of one type.**  A spec with the default one and
an integer field with the default `true` are let through; a build has one for the field, and
in a subclass without specs it has `true`. -/
theorem unlike_of_twin :
    let c := sourcedClass .integer (.int 1) (.bool true)
    let d := extend (Processor.firstFreeId + 1) .base c bare
    c.Accepted ∧ d.Accepted ∧ c.specs = [⟨"x", "k", .integer, .int 1⟩] ∧
      c.fields.get? "x" = some ⟨FieldType.integer.annotation, .value (.bool true)⟩ ∧
      FieldType.integer.accepts (.bool true) = false ∧
      (c.build (.map [])).toOption.bind (·.holding? "x") = some (.value (.int 1)) ∧
      (d.build (.map [])).toOption.bind (·.holding? "x") = some (.value (.bool true)) := by
  have hequal : (Value.bool true).equal (.int 1) = true := (Value.IsTwin.ofWhole true).equal
  have hc : (sourcedClass .integer (.int 1) (.bool true)).Accepted :=
    accepted_sourcedClass rfl hequal
  have hd : define (Processor.firstFreeId + 1) (sourcedClass .integer (.int 1) (.bool true)) bare =
      .ok (extend (Processor.firstFreeId + 1) .base
        (sourcedClass .integer (.int 1) (.bool true)) bare) := rfl
  exact ⟨hc, .define hc hd, rfl, get?_fields_sourcedClass .integer (.int 1) (.bool true), rfl,
    rfl, rfl⟩

end PropsClass
end AuditConfig
