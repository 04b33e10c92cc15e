import AuditConfig.PropsClass
import AuditConfig.Text.Identifier

/-!
# Definitions: classes made from other classes

A definition makes a class from another one, its parent.  The class has the
fields and the private attributes of the parent, with its own put over them, and
the specs of the parent unless it brings its own.

The body of a class that is made here holds declarations and nothing else: names with an
annotation, and with a plain value for a default or with none.  It has no methods and no
validators, no function makes a default, and a field goes by its own name and has no alias.
What is said of every accepted class is said of the classes that are made of such bodies
from the base class and those of the processors.

A definition declares attributes one after the other, and the declarations of
one name count as one (`declared`).  A declaration of a private name makes a
private attribute and no field.  One of a reserved name makes neither: its
default stands in place of what the name means (`PropsClass.replaced`), and so does a
slot of such a name.

A field without a default of its own that has the name of a member of the class
has that member for a default (`memberDefault?`).  So has an inherited field that
is not declared again.  The slots that a definition declares are members too, but
the class loses those that have the name of a field, and those under whose name it keeps
something itself (`lostNames`).

A field may have the name that the specs go by (`specsField?`).  A class that
declares it takes no specs but the inherited ones, and the specs that it was to
have are the default of the field, unless its declaration gives another.  A class
that brings specs and does not declare the field has no such field, even if its
parent has.

`extend` makes the class, whatever may be wrong with the definition.
-/

namespace AuditConfig
namespace PropsClass

/-- What is said of a class to be. -/
structure Definition where
  name : String
  /-- Where it is defined. -/
  home : String
  /-- The specs that it brings. -/
  specs : Option (List FieldSpec)
  /-- The attributes that it declares. -/
  fields : List (String × FieldDecl)

/-- The name that declares slots. -/
def slotsName : String := "__slots__"

/-- The name of the place where a class is defined. -/
def homeName : String := "__module__"

/-- The name of the qualified name. -/
def qualifiedName : String := "__qualname__"

/-- The name of what holds the annotations. -/
def annotationsName : String := "__annotations__"

/-- The name of the schema of a class. -/
def schemaName : String := "__pydantic_core_schema__"

/-- The reserved name of what makes the schema of a class. -/
def schemaMakerName : String := "__get_pydantic_core_schema__"

/-- The reserved name of what is called when a class is complete. -/
def completionName : String := "__pydantic_on_complete__"

/-- The reserved name of what changes the schema of a class, which is out of use. -/
def schemaModifierName : String := "__modify_schema__"

/-- The reserved name of what describes a class, in use in its place. -/
def describerName : String := "__get_pydantic_json_schema__"

/-- The reserved name of the parameters. -/
def parametersName : String := "__parameters__"

/-- The entry of what a class counts as that tells the parameters. -/
def parametersEntryName : String := "parameters"

/-- The declarations of a list, one for each name. -/
def declared (own : List (String × FieldDecl)) : Table FieldDecl :=
  own.foldl (fun t d => t.insert d.1 (((t.get? d.1).map d.2.after).getD d.2)) .empty

/-- Puts own attributes over inherited ones. -/
def overlay {α : Type} (inherited own : Table α) : Table α :=
  own.toList.foldl (fun t d => t.insert d.1 d.2) inherited

theorem get?_overlay {α : Type} (inherited own : Table α) (name : String) :
    (overlay inherited own).get? name = (own.get? name).or (inherited.get? name) := by
  rw [overlay, Entries.get?_foldl_insert, ← Entries.get?_ofList, Entries.ofList_toList]

/-- The model fields among declarations. -/
def fieldsOf (own : Table FieldDecl) : Table FieldDecl :=
  own.filter fun name _ => Attribute.isField name

/-- The private attributes among declarations, with the values they have at
first. -/
def privatesOf (own : Table FieldDecl) : Table (Option Value) :=
  own.filterMap fun name d => if Attribute.isPrivate name then some d.default.value? else none

/-- The defaults of the declarations of reserved names. -/
def replacedOf (own : Table FieldDecl) : Table Value :=
  own.filterMap fun name d => if Attribute.isReserved name then d.default.value? else none

/-- The names under which every class keeps something itself. -/
def lostNames : List String :=
  ["__pydantic_setattr_handlers__", "__pydantic_decorators__", "__pydantic_custom_init__",
    "__pydantic_post_init__", familyName, "__pydantic_complete__", "__pydantic_parent_namespace__",
    "__pydantic_fields__", "__pydantic_computed_fields__", schemaName, "__pydantic_validator__",
    "__pydantic_serializer__", "__signature__", "__abstractmethods__", "_abc_impl"]

/-- The name that a slot has in a class: one that starts with two underscores and
does not end with them carries the name of the class. -/
def slotName (className slot : String) : String :=
  let mark := Attribute.mark
  let owner := className.toList.dropWhile (· = mark)
  if Attribute.isReserved slot && !(Attribute.isReserved (String.ofList slot.toList.reverse)) &&
      !owner.isEmpty then
    String.ofList (mark :: owner) ++ slot
  else slot

namespace Definition

/-- The declarations, one for each name. -/
def own (d : Definition) : Table FieldDecl := declared d.fields

/-- The default that an attribute is declared with. -/
def default? (d : Definition) (name : String) : Option Value :=
  (d.own.get? name).bind (·.default.value?)

/-- Where the class is defined, if messages tell that. -/
def homeOf (d : Definition) : Option String :=
  match d.default? homeName with
  | none => some d.home
  | some (.text s) => if s = "builtins" then none else some s
  | some _ => none

/-- The name of the class among what is defined there. -/
def qualifiedOf (d : Definition) : String :=
  match d.default? qualifiedName with
  | some (.text s) => s
  | _ => d.name

/-- The names of the slots that the definition declares, as the class has them. -/
def slots (d : Definition) : List String :=
  let declared : List Value :=
    match d.default? slotsName with
    | none => []
    | some (.text s) => [.text s]
    | some v => v.sequence?.getD []
  declared.filterMap fun v =>
    match v with
    | .text s => some (slotName d.name s)
    | _ => none

/-- What the definition puts in place of what a reserved name means. -/
def substitute? (d : Definition) (name : String) : Option Substitute :=
  ((d.default? name).map .value).or (if name ∈ d.slots then some (.slot d.name) else none)

/-- What stands in place of what a reserved name means, which may be inherited. -/
def replaced? (d : Definition) (parent : PropsClass) (name : String) : Option Substitute :=
  (d.substitute? name).or (parent.replaced.get? name)

/-- What the class has of its own in place of what reserved names mean. -/
def substitutes (d : Definition) : Table Substitute :=
  let kept := d.slots.filter fun name => Attribute.isReserved name && name ∉ lostNames
  overlay ((replacedOf d.own).filterMap fun _ v => some (.value v))
    (Entries.ofList (kept.map fun name => (name, .slot d.name)))

/-- The field of the name that the specs go by. -/
def specsField? (d : Definition) (parent : PropsClass) : Option FieldDecl :=
  let holding : FieldDefault := .specs (d.specs.getD parent.specs)
  match d.own.get? Attribute.specsName, parent.fields.get? Attribute.specsName with
  | some f, _ => some ⟨f.annotation, f.default.orElse holding⟩
  | none, some f => if d.specs.isSome then none else some ⟨f.annotation, holding⟩
  | none, none => none

/-- The specs of the class: those that its definition brings, or the inherited
ones. -/
def specsOf (d : Definition) (parent : PropsClass) : List FieldSpec :=
  if (d.own.get? Attribute.specsName).isSome then parent.specs else d.specs.getD parent.specs

/-- How messages show where the class is found. -/
def path (d : Definition) : String := pathOf d.name d.homeOf d.qualifiedOf

/-- The default that a member of the class is for a field of its name. -/
def memberDefault? (d : Definition) (parent : PropsClass) (name : String) : Option FieldDefault :=
  if name ∈ d.slots then some (.lostSlot (Member.slotText name d.name))
  else (parent.members.lookup name).bind (Member.default? name d.path parent.fields)

/-- A field with the member of its name as its default, if there is one. -/
def withMember (d : Definition) (parent : PropsClass) (name : String) (f : FieldDecl) : FieldDecl :=
  ⟨f.annotation, (d.memberDefault? parent name).getD f.default⟩

/-- The fields of the parent, as the class has them that does not declare them
again. -/
def inherited (d : Definition) (parent : PropsClass) : Table FieldDecl :=
  parent.fields.filterMap fun name f => some (d.withMember parent name f)

/-- The fields that the class declares. -/
def ownFields (d : Definition) (parent : PropsClass) : Table FieldDecl :=
  (fieldsOf d.own).filterMap fun name f =>
    some (if f.default.isRequired then d.withMember parent name f else f)

/-- The model fields of the class, that of the specs first. -/
def allFields (d : Definition) (parent : PropsClass) : Table FieldDecl :=
  let others := (overlay (d.inherited parent) (d.ownFields parent)).erase Attribute.specsName
  Entries.ofList (((d.specsField? parent).map (Attribute.specsName, ·)).toList ++ others.toList)

/-- The private attributes of the class. -/
def allPrivates (d : Definition) (parent : PropsClass) : Table (Option Value) :=
  overlay parent.privates (privatesOf d.own)

/-- What the class has of its own that tells objects with private attributes that they
were made.  It goes around what the definition has in its place, and otherwise by the
name of what the parent has there, if that is not the member of all models. -/
def madeMember? (d : Definition) (parent : PropsClass) : Option Member :=
  if (d.allPrivates parent).size = 0 then none
  else if (d.default? Member.madeName).isSome then some Member.madeAround
  else if parent.members.lookup Member.madeName = some Member.madeOfModel then
    some Member.madeWithPrivates
  else none

/-- The members of the class: the slots that it keeps, what tells objects with
private attributes that they were made, and the inherited ones. -/
def members (d : Definition) (parent : PropsClass) : List (String × Member) :=
  let kept := d.slots.filter fun name =>
    ((d.allFields parent).get? name).isNone && !Attribute.isReserved name && name ∉ lostNames
  kept.map (fun name => (name, .slot d.name)) ++
    (d.madeMember? parent).toList.map (Member.madeName, ·) ++ parent.members

/-- The parameters of the parent, unless the definition says others in what the class
counts as. -/
def inheritedParameters (d : Definition) (parent : PropsClass) : Substitute :=
  match d.default? familyName with
  | some v => .value ((v.entry parametersEntryName).toOption.getD (.list []))
  | none => parent.parameters

/-- The parameters of the class: those that it says, or else the inherited ones. -/
def parameters (d : Definition) (parent : PropsClass) : Substitute :=
  ((d.replaced? parent parametersName).filter (·.isTrue)).getD (d.inheritedParameters parent)

/-- Whether what holds the values of undeclared names is annotated. -/
def annotatesOverflow (d : Definition) (parent : PropsClass) : Bool :=
  parent.overflowAnnotated || (d.own.get? Attribute.Special.overflow.name).isSome

/-- What stands in place of what makes the schema of the class, which may be
nothing. -/
def schemaMakerFlaw? (d : Definition) (parent : PropsClass) : Option ValidatorError :=
  match d.replaced? parent schemaMakerName with
  | none => none
  | some s => if s.isNull then none else some (.notCallable s.word)

/-- The schema that the class brings; one whose validator is made when it is first used
brings none. -/
def schema? (d : Definition) (options : Options) : Option Value :=
  if options.deferred then none else (d.default? schemaName).filter (!·.isNull)

/-- What is wrong with a slot in place of the schema that the class brings. -/
def schemaSlotFlaw? (d : Definition) (options : Options) : Option ValidatorError :=
  if !options.deferred && schemaName ∈ d.slots then some (.notSubscriptable FieldDefault.slot.word)
  else none

/-- What is wrong with what changes the schema of the class: that it is there, unless
what is in use in its place is there too. -/
def modifierFlaw? (d : Definition) (parent : PropsClass) : Option ValidatorError :=
  if (d.replaced? parent schemaModifierName).isSome &&
      (d.replaced? parent describerName).all (·.isNull) then some (.modifier d.name)
  else none

/-- What is wrong with what says how values are written. -/
def encodersFlaw? (options : Options) : Option ValidatorError :=
  let encoders := options.value Options.encodersName
  if encoders.isTrue && encoders.kind ≠ .map then some (.encoders encoders.kind) else none

/-- Why the fields of the class make no validator. -/
def fieldsFlaw? (d : Definition) (options : Options) (parent : PropsClass) :
    Option ValidatorError :=
  let flaws : List (Option ValidatorError) := [
    if options.undeclared = .kept && d.annotatesOverflow parent then some .overflow else none,
    encodersFlaw? options,
    d.modifierFlaw? parent,
    (options.misfit? (d.allFields parent)).map .misfit]
  flaws.findSome? fun flaw => flaw

/-- The word for what describes the class, if something does. -/
def describerWord? (d : Definition) (parent : PropsClass) : Option String :=
  match d.replaced? parent describerName with
  | none => some "method"
  | some s => if s.isNull then none else some s.word

/-- Checks that something is not wrong. -/
def refuteFlaw : Option ValidatorError → Except ValidatorError Unit
  | some e => .error e
  | none => .ok ()

/-- What stands in place of a validator of the fields for a schema that the class brings,
none if it is put off. -/
def standInFor (d : Definition) (options : Options) (parent : PropsClass) (schema : Value) :
    Except ValidatorError (Option StandIn) := do
  let outline ← (SchemaOutline.ofValue schema).mapError .schema
  refuteFlaw (d.modifierFlaw? parent)
  match d.describerWord? parent with
  | some word => (outline.checkDescribed word).mapError .schema
  | none => pure ()
  if (outline.root.entry SchemaOutline.writingName).toOption.isNone then
    refuteFlaw (encodersFlaw? options)
  (StandIn.followed outline options).mapError .schema

/-- What stands in place of a validator of the fields. -/
def standIn? (d : Definition) (options : Options) (parent : PropsClass) : Option StandIn :=
  (d.schema? options).bind fun v => (d.standInFor options parent v).toOption.join

/-- Whether the class brings a schema that is put off. -/
def putsOff (d : Definition) (options : Options) (parent : PropsClass) : Bool :=
  (d.schema? options).any fun v =>
    match d.standInFor options parent v with
    | .ok none => true
    | _ => false

/-- What is called in place of telling the class that it is complete. -/
def completionFlaw? (d : Definition) (parent : PropsClass) : Option ValidatorError :=
  (d.replaced? parent completionName).map fun s => .completion s.word

/-- What is wrong with what is made when there is a validator, the error of what writes
the objects given. -/
def lateFlaw? (d : Definition) (options : Options) (parent : PropsClass)
    (writer : Option ValidatorError) : Option ValidatorError :=
  let flaws : List (Option ValidatorError) := [
    options.outerMisfit?.map .outer,
    writer,
    options.outerWriterMisfit?.map .outerWriter,
    d.completionFlaw? parent]
  flaws.findSome? fun flaw => flaw

/-- Why the class has no validator of its fields, or is not complete with it. -/
def fieldsValidatorFlaw? (d : Definition) (options : Options) (parent : PropsClass) :
    Option ValidatorError :=
  (d.schemaMakerFlaw? parent).or <| (d.fieldsFlaw? options parent).or <|
    d.lateFlaw? options parent ((options.writerMisfit? (d.allFields parent)).map .writer)

/-- Why the class has no validator by a schema that it brings, or is not complete with
it; one that is put off has nothing wrong with it yet. -/
def schemaValidatorFlaw? (d : Definition) (options : Options) (parent : PropsClass)
    (schema : Value) : Option ValidatorError :=
  (d.schemaMakerFlaw? parent).or <|
    match d.standInFor options parent schema with
    | .error e => some e
    | .ok none => none
    | .ok (some s) => d.lateFlaw? options parent (s.writing.map .schemaWriter)

/-- Why the class has no validator, or is not complete with it. -/
def validatorFlaw? (d : Definition) (options : Options) (parent : PropsClass) :
    Option ValidatorError :=
  match d.schema? options with
  | some v => d.schemaValidatorFlaw? options parent v
  | none =>
    (d.schemaMakerFlaw? parent).or <| (d.schemaSlotFlaw? options).or <|
      d.fieldsValidatorFlaw? options parent

/-- Why the class has no validator, or is not complete with it, when it is first used: a
slot may be called in place of what makes the validator then. -/
def unready? (d : Definition) (options : Options) (parent : PropsClass) : Option ValidatorError :=
  match (d.members parent).lookup Member.rebuildingName with
  | some (.slot _) => some (.notCallable FieldDefault.slot.word)
  | _ => d.fieldsValidatorFlaw? options parent

end Definition

/-- The class that a definition makes, before it is checked. -/
def extend (id : Nat) (options : Options) (parent : PropsClass) (d : Definition) : PropsClass where
  id := id
  name := d.name
  home := d.homeOf
  qualified := d.qualifiedOf
  ancestors := parent.id :: parent.ancestors
  specs := d.specsOf parent
  fields := d.allFields parent
  privates := d.allPrivates parent
  members := d.members parent
  replaced := overlay parent.replaced d.substitutes
  options := options
  overflowAnnotated := d.annotatesOverflow parent
  parameters := d.parameters parent
  unready :=
    if options.deferred || d.putsOff options parent then d.unready? options parent else none
  standIn := (d.standIn? options parent).map (·.plan)
  handled := []
  additionalOrigin :=
    if (d.own.get? additionalName).isSome || additionalName ∈ d.slots then id
    else parent.additionalOrigin

end PropsClass
end AuditConfig
