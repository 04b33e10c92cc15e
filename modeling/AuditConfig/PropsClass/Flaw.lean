import AuditConfig.PropsClass.Definition
import AuditConfig.PropsClass.Parameters

/-!
# Flaws: why a definition makes no class

A definition is looked through for flaws in a fixed order, and the first one
counts (`Definition.flaw?`): what it says of its attributes, then the class as
such, then the names of its fields one by one, then its validator.

The names of slots are looked through twice, each name by itself and then beside what
the definition gives a default.

`define` makes the class if the definition is well formed, its fields can be asked for
and no spec fails the check, and otherwise refuses it for the first flaw, for that, or
for the first failure of the first failing spec.
-/

namespace AuditConfig
namespace PropsClass

/-- Why the names of slots are refused. -/
inductive SlotsError where
  | notIterable (kind : Kind)
  | notText (kind : Kind)
  | notIdentifier
  /-- Every object has the slot already. -/
  | taken (name : String)
  /-- Every object has a place for the references to it already. -/
  | referencesTaken
  /-- The name has a default in the same definition. -/
  | clash (name : String)
  deriving DecidableEq, Repr

namespace SlotsError

/-- What is said of refused slots. -/
def message : SlotsError → String
  | .notIterable k => "'" ++ k.name ++ "' object is not iterable"
  | .notText k => "__slots__ items must be strings, not '" ++ k.name ++ "'"
  | .notIdentifier => "__slots__ must be identifiers"
  | .taken n => n ++ " slot disallowed: we already got one"
  | .referencesTaken =>
    Attribute.Special.references.name ++
      " slot disallowed: either we already got one, or __itemsize__ != 0"
  | .clash n =>
    String.ofList (Text.Quoted.encode n.toList) ++ " in __slots__ conflicts with class variable"

end SlotsError

/-- Why a class is refused. -/
inductive DefineError where
  /-- What this word is for is asked for a member that it lacks. -/
  | noMember (word member : String)
  | options (e : Options.Refused)
  /-- What declares no attributes is of this kind, and no list of such things. -/
  | ignored (kind : Kind)
  /-- A field has the name that stands for a whole model. -/
  | rootField
  | slots (e : SlotsError)
  /-- The name of the class holds a null character. -/
  | nullInName
  /-- What should be the qualified name is of this kind. -/
  | qualifiedName (kind : Kind)
  /-- The name of the cell of the class is declared with a default. -/
  | cell (kind : Kind)
  /-- What this word is for stands in place of something that is called. -/
  | notCallable (word : String)
  | parameters (e : ParametersError)
  /-- What is looked through for a name cannot be. -/
  | search (e : SearchError)
  /-- What holds a name has no entry of it. -/
  | entry (e : EntryError)
  /-- What should be gone through is what this word is for, and cannot be. -/
  | notIterable (word : String)
  /-- What is looked for is of this kind, and cannot be. -/
  | unhashable (kind : Kind)
  /-- A field has the name of a member, and one that starts with a guarded text. -/
  | guarded (field member guard : String)
  /-- Among the guarded texts is something of this kind. -/
  | guardNotText (kind : Kind)
  /-- A class that stands for a whole has a field of its own. -/
  | ofWhole (field : String)
  | validator (e : ValidatorError)
  | violation (v : Violation) (text : String)
  /-- The message would show a number of too many digits. -/
  | digits (limit : DigitLimit)

/-- The name that stands for a whole model. -/
def rootName : String := "__root__"

/-- The name of the cell of the class. -/
def cellName : String := "__classcell__"

/-- The reserved name of what says that a class stands for a whole. -/
def wholeName : String := "__pydantic_root_model__"

/-- The name of the one field that a class has which stands for a whole. -/
def wholeFieldName : String := "root"

namespace DefineError

/-- What is said of a refused class. -/
def message : DefineError → String
  | .noMember w m => "'" ++ w ++ "' object has no attribute '" ++ m ++ "'"
  | .options e => e.message
  | .ignored k => unjoined k
  | .rootField =>
    "To define root models, use \x60pydantic.RootModel\x60 rather than a field called '" ++
      rootName ++ "'"
  | .slots e => e.message
  | .nullInName => "type name must not contain null characters"
  | .qualifiedName k => "type __qualname__ must be a str, not " ++ k.name
  | .cell k => "__classcell__ must be a nonlocal cell, not <class '" ++ k.name ++ "'>"
  | .notCallable w => "'" ++ w ++ "' object is not callable"
  | .parameters e => e.message
  | .search e => e.message
  | .entry e => e.message
  | .notIterable w => "'" ++ w ++ "' object is not iterable"
  | .unhashable k => (BindingError.unhashable k).message
  | .guarded f m g =>
    "Field " ++ String.ofList (Text.Quoted.encode f.toList) ++ " conflicts with member " ++ m ++
      " of protected namespace " ++ String.ofList (Text.Quoted.encode g.toList) ++ "."
  | .guardNotText k => "startswith first arg must be str or a tuple of str, not " ++ k.name
  | .ofWhole f =>
    "Unexpected field with name " ++ String.ofList (Text.Quoted.encode f.toList) ++ "; only '" ++
      wholeFieldName ++ "' is allowed as a field of a \x60RootModel\x60"
  | .validator e => e.message
  | .violation _ text => text
  | .digits e => e.message

end DefineError

/-- How messages show a private attribute that has a value at first, or none. -/
def privateText : Option Value → Except DigitLimit (List Char)
  | none => .ok "default=PydanticUndefined".toList
  | some .null => .ok []
  | some v => v.quoted.map ("default=".toList ++ ·)

/-- How messages show what a class has under a name that is no field's. -/
def memberText? (c : PropsClass) (name : String) : Option (Except DigitLimit (List Char)) :=
  if name = Attribute.specsName then some (FieldSpec.quotedAll c.specs)
  else
    ((c.privates.get? name).map privateText).or <|
      ((c.replaced.get? name).map (Substitute.shown name)).or <|
      (c.members.lookup name).map fun m => (m.shown name c.path c.fields).map String.toList

namespace Definition

/-- The options of the class. -/
def options (d : Definition) (parent : PropsClass) : Except DefineError Options :=
  match parent.options.declared ((d.default? Attribute.optionsName).getD .null)
    ((d.default? Options.oldName).getD .null) with
  | .ok options => if options.namesNothing then .error (.options .nameless) else .ok options
  | .error e => .error (.options e)

/-- The names that have a value in every definition. -/
def takenNames : List String :=
  [homeName, annotationsName, Attribute.optionsName, "__class_vars__", "__private_attributes__"]

/-- Whether a name has a value in the definition, those of the class itself aside. -/
def hasValue (d : Definition) (parent : PropsClass) (name : String) : Bool :=
  let given := name ∈ takenNames || (name = Attribute.specsName && d.specs.isSome) ||
    (d.default? name).isSome || (name = Member.madeName && (d.allPrivates parent).size ≠ 0)
  given && name ∉ [qualifiedName, cellName]

/-- What is wrong with the name of a slot by itself. -/
def slotFlaw? (slot : Value) : Option SlotsError :=
  match slot with
  | .text s =>
    if !Text.isIdentifier s.toList then some .notIdentifier
    else if s = Attribute.Special.contents.name then some (.taken s)
    else if s = Attribute.Special.references.name then some .referencesTaken
    else none
  | v => some (.notText v.kind)

/-- That the name of a slot has a value in the definition. -/
def slotClash? (d : Definition) (parent : PropsClass) (slot : String) : Option SlotsError :=
  if d.hasValue parent slot then some (.clash slot) else none

/-- What is wrong with the names of slots. -/
def slotsFlaw? (d : Definition) (parent : PropsClass) : Option SlotsError :=
  let flaw : Option SlotsError :=
    match d.default? slotsName with
    | none => none
    | some (.text s) => slotFlaw? (.text s)
    | some v =>
      match v.sequence? with
      | none => some (.notIterable v.kind)
      | some slots => slots.findSome? slotFlaw?
  flaw.or (d.slots.findSome? (d.slotClash? parent))

/-- What is wrong with the qualified name. -/
def qualifiedFlaw? (d : Definition) : Option DefineError :=
  match d.default? qualifiedName with
  | none => none
  | some v => if v.kind = .text then none else some (.qualifiedName v.kind)

/-- What is wrong with what the class counts as. -/
def familyFlaw? (d : Definition) : Option DefineError :=
  match d.substitute? familyName with
  | none => none
  | some s => if s.value?.any (·.kind = .map) then none else some (.noMember s.word "get")

/-- The reserved name of the parameters that stand for types. -/
def typeParametersName : String := "__type_params__"

/-- What is wrong with the place where the class is defined, under which it is looked
for. -/
def homeFlaw? (d : Definition) : Option DefineError :=
  match d.default? homeName with
  | none => none
  | some v => if v.isTrue && v.key?.isNone then some (.unhashable v.kind) else none

/-- What is wrong with the parameters that stand for types, which are asked for their
names. -/
def typeParametersFlaw? (d : Definition) : Option DefineError :=
  match (d.substitute? typeParametersName).filter (·.isTrue) with
  | none => none
  | some s =>
    match s.value?.bind (·.sequence?) with
    | none => some (.notIterable s.word)
    | some ws => ws.head?.map fun w => .noMember w.kind.name "__name__"

/-- What is wrong with the slots, of which none may have the name of the specs. -/
def specsSlotFlaw? (d : Definition) (parent : PropsClass) : Option DefineError :=
  if Attribute.specsName ∈ d.slots && (d.specsField? parent).isNone then
    some (.notIterable FieldDefault.slot.word)
  else none

/-- What is wrong with a name that starts with a guarded text. -/
def guardedFlaw? (guards : List Value) (parent : PropsClass) (name guard : String) :
    Option DefineError :=
  let conflict :=
    if (parent.fields.get? name).isSome then none
    else
      (parent.memberText? name).map fun text =>
        match text with
        | .ok shown => .guarded name (String.ofList shown) guard
        | .error e => .digits e
  conflict.or ((guards.find? fun g => g.kind ≠ .text).map fun g => .guardNotText g.kind)

/-- The reserved name of what lists the fields. -/
def listName : String := "__pydantic_fields__"

/-- What is wrong with a field that the definition declares: what should list the fields
has something else under its name. -/
def listedFlaw? (d : Definition) (name : String) : Option DefineError :=
  match d.own.get? name, (d.substitute? listName).filter (·.isTrue) with
  | some _, some (.slot owner) => some (.search (.notIterable (Substitute.slot owner).word))
  | some _, some (.value v) =>
    match v.mentions name, v.entry name with
    | none, _ => some (.search (.notIterable v.kind.name))
    | some false, _ => none
    | some true, .ok w => some (.noMember w.kind.name "annotation")
    | some true, .error e => some (.entry e)
  | _, _ => none

/-- The reserved name of what lists the fields of a class that is no more than its data. -/
def dataListName : String := "__dataclass_fields__"

/-- What is wrong with a field that the definition declares and that has the name of
something that the parent has: the parent should list its fields in another way too, and
does not. -/
def shadowFlaw? (d : Definition) (parent : PropsClass) (name : String) : Option DefineError :=
  let shadows := (parent.members.lookup name).isSome || name = Attribute.specsName
  if !shadows || (d.own.get? name).isNone then none
  else
    match parent.replaced.get? dataListName with
    | none => none
    | some (.value (.map [])) => none
    | some (.value (.map ((_, v) :: _))) => some (.noMember v.kind.name "_field_type")
    | some s => some (.noMember s.word "values")

/-- That the options are annotated and have no value. -/
def unsaidFlaw? (d : Definition) : Option DefineError :=
  if (d.own.get? Attribute.optionsName).isSome && (d.default? Attribute.optionsName).all (·.isNull)
  then some (.options .missing)
  else none

/-- What is wrong with a name: that the options have it and are not given, or that it starts
with a guarded text, or that it is that of a field and the class has none of that name, or
something in place of its list of fields, or cannot give it a title. -/
def nameFlaw? (d : Definition) (options : Options) (guards : List Value) (parent : PropsClass)
    (name : String) : Option DefineError :=
  let guarded := guards.findSome? fun g =>
    match g with
    | .text guard =>
      if guard.toList.isPrefixOf name.toList then guardedFlaw? guards parent name guard else none
    | _ => none
  let ofWhole := (d.replaced? parent wholeName).any (·.isTrue) && name ≠ wholeFieldName
  let titler := options.value Options.titlerName
  if name = Attribute.optionsName then d.unsaidFlaw?
  else guarded.or <|
    if ((d.allFields parent).get? name).isNone then none
    else if ofWhole then some (.ofWhole name)
    else
      (d.shadowFlaw? parent name).or <| (d.listedFlaw? name).or <|
        if titler.isNull then none else some (.notCallable titler.kind.name)

/-- All names that are annotated, those of the parent first. -/
def annotatedNames (d : Definition) (parent : PropsClass) : List String :=
  [Attribute.specsName] ++ parent.fields.keys ++ parent.privates.keys ++
    (parent.replaced.filter fun _ s => !s.isSlot).keys ++ d.own.keys

/-- The first flaw of a name. -/
def namesFlaw? (d : Definition) (options : Options) (parent : PropsClass) : Option DefineError :=
  match options.guards.sequence? with
  | none => some (.notIterable options.guards.kind.name)
  | some guards => (d.annotatedNames parent).findSome? (d.nameFlaw? options guards parent)

/-- What is wrong with what declares no attributes. -/
def ignoredFlaw? (options : Options) : Option DefineError :=
  (options.given.get? Options.ignoredName).map fun v => .ignored v.kind

/-- The reserved name of what tells objects apart quickly. -/
def hasherName : String := "__hash__"

/-- What is wrong with what the parent has for telling objects apart quickly: a class of
frozen objects looks for it among others, and it cannot be looked for. -/
def hasherFlaw? (d : Definition) (options : Options) (parent : PropsClass) : Option DefineError :=
  match d.default? hasherName, parent.replaced.get? hasherName with
  | none, some (.value v) =>
    if options.frozen && v.key?.isNone then some (.unhashable v.kind) else none
  | _, _ => none

/-- The reserved name of what is called when a class is made from another. -/
def makingName : String := "__init_subclass__"

/-- The reserved name of what checks a class that is made from another. -/
def checkingName : String := "__pydantic_init_subclass__"

/-- The first flaw of a definition. -/
def flaw? (d : Definition) (options : Options) (parent : PropsClass) : Option DefineError :=
  let flaws : List (Option DefineError) := [
    ignoredFlaw? options,
    if (d.own.get? rootName).isSome then some .rootField else none,
    (d.slotsFlaw? parent).map .slots,
    if '\x00' ∈ d.name.toList then some .nullInName else none,
    d.qualifiedFlaw?,
    (d.default? cellName).map fun v => .cell v.kind,
    (parent.uncallable? makingName).map .notCallable,
    d.familyFlaw?,
    (parametersClash? (d.parameters parent) (d.inheritedParameters parent)).map .parameters,
    d.homeFlaw?,
    d.typeParametersFlaw?,
    d.namesFlaw? options parent,
    if options.deferred then none else (d.validatorFlaw? options parent).map .validator,
    d.hasherFlaw? options parent,
    (parent.uncallable? checkingName).map .notCallable,
    d.specsSlotFlaw? parent]
  flaws.findSome? fun flaw => flaw

end Definition

/-- What is wrong with a violation that the class of a name has. -/
def Violation.error (v : Violation) (className : String) : DefineError :=
  match v.message className with
  | .ok text => .violation v text
  | .error e => .digits e

/-- What is wrong with the listing of the fields of a class, which is asked for the field
of its first spec: a slot stands in its place. -/
def listingFlaw? (c : PropsClass) : Option DefineError :=
  if c.hasSlot Member.listingName && c.specs.head?.any (fun s => s.type.accepts s.default) then
    some (.noMember FieldDefault.slot.word "get")
  else none

/-- Defines a class from another one. -/
def define (id : Nat) (parent : PropsClass) (d : Definition) : Except DefineError PropsClass :=
  match d.options parent with
  | .error e => .error e
  | .ok options =>
    let c := extend id options parent d
    match d.flaw? options parent, c.listingFlaw?, c.firstViolation with
    | some e, _, _ => .error e
    | none, some e, _ => .error e
    | none, none, some v => .error (v.error d.name)
    | none, none, none => .ok c

/-- **A class is made exactly when its definition is well formed, its fields can be asked
for and every spec passes,** and then it is the class asked for. -/
theorem define_eq_ok_iff (id : Nat) (parent : PropsClass) (d : Definition) (c : PropsClass) :
    define id parent d = .ok c ↔
      ∃ options, d.options parent = .ok options ∧ d.flaw? options parent = none ∧
        c = extend id options parent d ∧ c.listingFlaw? = none ∧
          ∀ s ∈ c.specs, check c.fields s = none := by
  unfold define firstViolation
  constructor
  · intro h
    split at h
    · cases h
    · next options ho =>
      dsimp only at h
      split at h
      · cases h
      · cases h
      · cases h
      · next hf hl hn =>
        cases h
        exact ⟨options, ho, hf, rfl, hl, fun s hs => List.findSome?_eq_none_iff.1 hn s hs⟩
  · rintro ⟨options, ho, hf, rfl, hl, h⟩
    simp only [ho, hf, hl, List.findSome?_eq_none_iff.2 h]

end PropsClass
end AuditConfig
