import AuditConfig.Options.Misfit
import AuditConfig.PropsClass.Declaration

/-!
# Validating: the options that what validates objects asks for

What validates the objects of a class has one part for the model, in it one for its
fields, and in that one for every field, made of further parts for its default and
its annotation.

The first misfit counts, in the order in which the parts are put together: those
of the fields together, then field by field the inner parts before the outer ones,
then what the fields and the model ask for at last (`misfit?`).  It is told with the
parts around it, the outermost first.  What is asked for when all parts are together
is told alone (`outerMisfit?`).
-/

namespace AuditConfig
namespace Options

/-- What is wrong with the choice for undeclared names. -/
def choiceMisfit? (o : Options) : Option Misfit :=
  match o.value "extra" with
  | .null => none
  | .text w => if (Undeclared.ofWord? w).isNone then some (.noChoice w) else none
  | v => some (.otherKind v.kind .text)

/-- What is wrong with the choice of the objects that are validated again. -/
def renewalMisfit? (o : Options) : Option Misfit :=
  match o.value "revalidate_instances" with
  | .null => none
  | .text w =>
    if w ∈ ["always", "subclass-instances", "never"] then none else some (.noRenewal w)
  | v => some (.otherKind v.kind .text)

/-- What is wrong with the options that a text heeds. -/
def textMisfit? (o : Options) : Option Misfit :=
  (["str_min_length", "str_max_length"].findSome? o.countMisfit?).or
    (["str_strip_whitespace", "str_to_lower", "str_to_upper", "coerce_numbers_to_str"].findSome?
      o.flagMisfit?)

/-- The part that is made for something. -/
def partFor (name : String) : String := "Error building \"" ++ name ++ "\" validator"

/-- The part that is made for a field. -/
def fieldPart (name : String) : String := "Field \"" ++ name ++ "\""

/-- The first misfit of what is made for an annotation. -/
def annotationMisfit? (o : Options) (a : Annotation) : Option Misplaced :=
  let text := o.textMisfit?.map fun m => (⟨[partFor "str"], m⟩ : Misplaced)
  match a with
  | .text => text
  | .optionalText => text.map (·.within (partFor "nullable"))
  | .textList => text.map (·.within (partFor "list"))
  | .textMap => text.map (·.within (partFor "dict"))
  | .float => (o.flagMisfit? "allow_inf_nan").map fun m => ⟨[partFor "float"], m⟩
  | _ => none

/-- The first misfit of what is made for a field. -/
def fieldMisfit? (o : Options) (name : String) (f : FieldDecl) : Option Misplaced :=
  let inner := o.annotationMisfit? f.annotation
  let all :=
    if f.default.isRequired then inner
    else
      (inner.or ((o.flagMisfit? "validate_default").map fun m => ⟨[], m⟩)).map
        (·.within (partFor "default"))
  all.map (·.within (fieldPart name))

/-- What all fields together ask for at first. -/
def firstMisfit? (o : Options) : Option Misfit :=
  (["strict", "from_attributes"].findSome? o.flagMisfit?).or o.choiceMisfit?

/-- What all fields together ask for at last. -/
def lastMisfit? (o : Options) : Option Misfit :=
  (o.flagMisfit? "loc_by_alias").or <|
    (truthMisfit? (o.byAlias.getD .null)).or (truthMisfit? o.byName)

/-- The first misfit of the options of a class with given fields. -/
def misfit? (o : Options) (fields : Table FieldDecl) : Option Misplaced :=
  let alone (m : Misfit) : Misplaced := ⟨[], m⟩
  let ofFields := (o.firstMisfit?.map alone).or <|
    (fields.toList.findSome? fun f => o.fieldMisfit? f.1 f.2).or (o.lastMisfit?.map alone)
  ((ofFields.map (·.within (partFor "model-fields"))).or (o.renewalMisfit?.map alone)).map
    (·.within (partFor "model"))

/-- What is wrong with the choice of the texts that are kept for later. -/
def cachingMisfit? (o : Options) : Option Misfit :=
  match o.value "cache_strings" with
  | .null => none
  | .bool _ => none
  | .text w => if w ∈ ["all", "keys", "none"] then none else some .noCaching
  | _ => some .noCachingKind

/-- What is wrong with the options that are asked for when all parts are together. -/
def outerMisfit? (o : Options) : Option Misfit :=
  (["hide_input_in_errors", "validation_error_cause"].findSome? o.flagMisfit?).or o.cachingMisfit?

/-- The options that nothing was said of fit every class. -/
theorem misfit?_base (fields : Table FieldDecl) : base.misfit? fields = none := by
  have h : ∀ name f, base.fieldMisfit? name f = none := by
    intro name f
    unfold fieldMisfit? annotationMisfit?
    cases f.annotation <;> cases f.default.isRequired <;> rfl
  have hf : base.firstMisfit? = none := by decide
  have hl : base.lastMisfit? = none := by decide
  have hr : base.renewalMisfit? = none := by decide
  have hn : (fields.toList.findSome? fun f => base.fieldMisfit? f.1 f.2) = none :=
    List.findSome?_eq_none_iff.2 fun f _ => h f.1 f.2
  simp only [misfit?, hf, hl, hr, hn, Option.map_none, Option.none_or]

end Options
end AuditConfig
