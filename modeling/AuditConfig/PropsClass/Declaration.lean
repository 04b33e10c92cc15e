import AuditConfig.Field.Spec
import AuditConfig.Value.Equal

/-!
# Declarations: what a definition says of an attribute

An attribute is declared with an annotation and a default.  Of two declarations
of one name the later annotation stands, and the later default if there is one
(`FieldDecl.after`).

The annotation is one of seven and the default, if there is one, a plain value.  Nothing else
is declared of an attribute: no alias, no function that makes the default, no bounds on the
values and no validator.  Only the map of the base class is made anew for every object
(`FieldDefault.emptyMap`).

A default need not be a value.  It can be something that a class has beside its
fields, a `Fixture`, which an object then holds where it would hold a value.
-/

namespace AuditConfig

/-- What an attribute is annotated with. -/
inductive Annotation where
  | text
  | whole
  | truth
  | float
  | optionalText
  | textList
  | textMap
  deriving DecidableEq, Repr

namespace Annotation

/-- How messages show an annotation. -/
def shown : Annotation → String
  | .text => "<class 'str'>"
  | .whole => "<class 'int'>"
  | .truth => "<class 'bool'>"
  | .float => "<class 'float'>"
  | .optionalText => "typing.Optional[str]"
  | .textList => "typing.List[str]"
  | .textMap => "typing.Dict[str, str]"

/-- How the listing of the fields of a class shows an annotation. -/
def listed : Annotation → String
  | .text => "str"
  | .whole => "int"
  | .truth => "bool"
  | .float => "float"
  | .optionalText => "Union[str, NoneType]"
  | .textList => "List[str]"
  | .textMap => "Dict[str, str]"

end Annotation

/-- The annotation that a field of a type must have. -/
def FieldType.annotation : FieldType → Annotation
  | .string => .text
  | .integer => .whole
  | .boolean => .truth

/-- Something that a class has and that is no value. -/
structure Fixture where
  /-- The word for what it is. -/
  word : String
  /-- The name that it goes by if it is a method of the objects, which is called with
  its object. -/
  method? : Option String
  /-- Whether every new object has one of its own, which equals no other. -/
  isOwn : Bool
  deriving DecidableEq, Repr

/-- Something that is shared and is no method of the objects. -/
def Fixture.plain (word : String) : Fixture := ⟨word, none, false⟩

/-- What a field holds that is given no value. -/
inductive FieldDefault where
  /-- The field has to be given a value. -/
  | required
  | value (v : Value)
  /-- Every object gets an empty map of its own. -/
  | emptyMap
  /-- Something that the class has; messages show it so. -/
  | fixture (shown : Except DigitLimit String) (f : Fixture)
  /-- A slot that the class had for the name until it made a field of it. -/
  | lostSlot (shown : String)
  /-- The specs of the class. -/
  | specs (l : List FieldSpec)

namespace FieldDefault

/-- The value, if there is one. -/
def value? : FieldDefault → Option Value
  | .value v => some v
  | .emptyMap => some (.map [])
  | .specs [] => some (.list [])
  | _ => none

/-- What a slot is. -/
def slot : Fixture := .plain "member_descriptor"

/-- What the default is if it is no value. -/
def fixture? : FieldDefault → Option Fixture
  | .fixture _ f => some f
  | .lostSlot _ => some slot
  | .specs (_ :: _) => some (.plain FieldSpec.modelName)
  | _ => none

/-- Whether a field has to be given a value. -/
def isRequired : FieldDefault → Bool
  | .required => true
  | _ => false

/-- Whether the default is a value that equals a given one. -/
def agrees (d : FieldDefault) (w : Value) : Bool :=
  match d with
  | .value v => v.equal w
  | _ => false

/-- A default, or another one in place of none. -/
def orElse : FieldDefault → FieldDefault → FieldDefault
  | .required, e => e
  | d, _ => d

theorem orElse_eq (d e : FieldDefault) : d.orElse e = if d.isRequired then e else d := by
  cases d <;> rfl

/-- How messages show a default. -/
def quoted : FieldDefault → Except DigitLimit (List Char)
  | .value v => v.quoted
  | .fixture shown _ => shown.map String.toList
  | .lostSlot shown => .ok shown.toList
  | .specs l => FieldSpec.quotedAll l
  | _ => .ok "PydanticUndefined".toList

end FieldDefault

/-- The declaration of an attribute. -/
structure FieldDecl where
  annotation : Annotation
  default : FieldDefault

/-- A declaration behind an earlier one of the same name. -/
def FieldDecl.after (later earlier : FieldDecl) : FieldDecl :=
  ⟨later.annotation, later.default.orElse earlier.default⟩

namespace FieldDecl

/-- How the listing of the fields of a class shows a declaration. -/
def listed (f : FieldDecl) : Except DigitLimit (List Char) := do
  let default ←
    match f.default with
    | .required => .ok []
    | .emptyMap => .ok ", default_factory=dict".toList
    | d => d.quoted.map (", default=".toList ++ ·)
  return "FieldInfo(annotation=".toList ++ f.annotation.listed.toList ++ ", required=".toList ++
    (if f.default.isRequired then "True" else "False").toList ++ default ++ [')']

/-- The listing of the fields of a class. -/
def listing (fields : Table FieldDecl) : Except DigitLimit String := do
  let texts ← fields.toList.mapM fun f => do
    let text ← f.2.listed
    return Text.Quoted.encode f.1.toList ++ [':', ' '] ++ text
  return String.ofList (['\x7b'] ++ [',', ' '].intercalate texts ++ ['\x7d'])

end FieldDecl
end AuditConfig
