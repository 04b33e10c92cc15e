import AuditConfig.Options.Misfit
import AuditConfig.PropsClass.Declaration

/-!
# Writing: the options that what writes objects asks for

What writes the objects of a class has one part for the model, in it one for its
fields, and in that one for every field.  Of the parts of a field only that for a
floating-point number asks for an option.  What is asked for when all parts are
together is told alone (`outerWriterMisfit?`).
-/

namespace AuditConfig
namespace Options

/-- What is wrong with the option for a way of writing. -/
def writingMisfit? (o : Options) (m : WritingMode) : Option Misfit :=
  match o.value m.option with
  | .null => none
  | .text w => if w ∈ m.choices then none else some (.noWriting m w)
  | v => some (.otherKind v.kind .text)

/-- The part that writes something. -/
def writerFor (name : String) : String := "Error building \x60" ++ name ++ "\x60 serializer"

/-- The part that writes a field. -/
def fieldWriter (name : String) : String := "Field \x60" ++ name ++ "\x60"

/-- The first misfit of what writes a field. -/
def fieldWriterMisfit? (o : Options) (name : String) (f : FieldDecl) : Option Misplaced :=
  if f.annotation ≠ .float then none
  else
    let defaults := if f.default.isRequired then [] else [writerFor "default"]
    (o.writingMisfit? .unbounded).map fun m =>
      ⟨fieldWriter name :: defaults ++ [writerFor "float"], m⟩

/-- The first misfit of what writes the objects of a class with given fields. -/
def writerMisfit? (o : Options) (fields : Table FieldDecl) : Option Misplaced :=
  let ofFields := ((o.flagMisfit? "serialize_by_alias").map fun m => (⟨[], m⟩ : Misplaced)).or <|
    fields.toList.findSome? fun f => o.fieldWriterMisfit? f.1 f.2
  ofFields.map fun m => (m.within (writerFor "model-fields")).within (writerFor "model")

/-- What is wrong with the options that are asked for when all parts are together. -/
def outerWriterMisfit? (o : Options) : Option Misfit :=
  let modes : List WritingMode :=
    if (o.value WritingMode.temporal.option).isNull then [.duration, .bytes, .unbounded]
    else [.temporal, .bytes, .unbounded]
  (o.flagMisfit? "polymorphic_serialization").or (modes.findSome? o.writingMisfit?)

/-- The options that nothing was said of fit what writes the objects of every class. -/
theorem writerMisfit?_base (fields : Table FieldDecl) : base.writerMisfit? fields = none := by
  have h : ∀ name f, base.fieldWriterMisfit? name f = none := by
    intro name f
    unfold fieldWriterMisfit?
    split <;> rfl
  have hn : (fields.toList.findSome? fun f => base.fieldWriterMisfit? f.1 f.2) = none :=
    List.findSome?_eq_none_iff.2 fun f _ => h f.1 f.2
  have hf : base.flagMisfit? "serialize_by_alias" = none := by decide
  simp only [writerMisfit?, hf, hn, Option.map_none, Option.none_or]

end Options
end AuditConfig
