import AuditConfig.PropsClass.Member
import AuditConfig.PropsClass.Substitute
import AuditConfig.PropsClass.Validator

/-!
# Properties classes: specs beside model fields

A properties class has a name, model fields, private attributes, and field
specs.  Every class but the base is defined from another one
(`PropsClass.Definition`), and its objects are objects of that one too (`isA`).

The two declarations of a field have to agree.  `check` looks at a spec beside
the model fields and finds the first condition that fails, of these four:

1. the default of the spec is of the type of the spec;
2. there is a model field of the name of the spec;
3. its annotation is the type of the spec;
4. its default equals the default of the spec.

A class is identified by its number, not by its name: a class defined again
under a name is another class, and what was defined from the old one stays
defined from the old one.
-/

namespace AuditConfig

/-- The name of the field that holds what no spec recognizes. -/
def additionalName : String := "additional_properties"

/-- A class of properties objects. -/
structure PropsClass where
  id : Nat
  name : String
  /-- Where it was defined, if messages tell that. -/
  home : Option String
  /-- Its name among what was defined there. -/
  qualified : String
  /-- The classes it was defined from, the nearest first. -/
  ancestors : List Nat
  specs : List FieldSpec
  /-- All model fields, the inherited ones in their old places. -/
  fields : Table FieldDecl
  /-- All private attributes, with the values they have at first, if any. -/
  privates : Table (Option Value)
  members : List (String × Member)
  /-- What stands in place of what reserved names mean. -/
  replaced : Table Substitute
  options : Options
  /-- Whether what holds the values of undeclared names is annotated. -/
  overflowAnnotated : Bool
  /-- What stands for its parameters. -/
  parameters : Substitute
  /-- Why there is no validator when it is first used, if it is made only then. -/
  unready : Option ValidatorError
  /-- What validates its objects in place of a validator of its fields. -/
  standIn : Option SchemaPlan
  /-- The names whose way of being assigned is known. -/
  handled : List String
  /-- The class that declares the field for what no spec recognizes. -/
  additionalOrigin : Nat

namespace PropsClass

/-- The class that all others are defined from, directly or not. -/
def base : PropsClass where
  id := 0
  name := Member.baseName
  home := some "auditkit.props.base"
  qualified := Member.baseName
  ancestors := []
  specs := []
  fields := Entries.empty.insert additionalName ⟨.textMap, .emptyMap⟩
  privates := .empty
  members := Member.ofEveryClass
  replaced := .empty
  options := .base
  overflowAnnotated := false
  parameters := .value (.list [])
  unready := none
  standIn := none
  handled := []
  additionalOrigin := 0

/-- How messages show where a class of a name is found: its qualified name behind
where it was defined, or its name alone. -/
def pathOf (name : String) (home : Option String) (qualified : String) : String :=
  match home with
  | some place => place ++ "." ++ qualified
  | none => name

/-- How messages show where a class is found. -/
def path (c : PropsClass) : String := pathOf c.name c.home c.qualified

/-- The keys that the class recognizes, in the order of its specs. -/
def keys (c : PropsClass) : List String := c.specs.map (·.key)

/-- The title under which values are refused. -/
def title (c : PropsClass) : Value := c.options.title?.getD (.text c.name)

/-- The word for what the class has in place of what a reserved name means, and
cannot be called in its place. -/
def uncallable? (c : PropsClass) (name : String) : Option String :=
  (c.replaced.get? name).map (·.word)

/-- The value that the class has in place of what a reserved name means. -/
def ownValue? (c : PropsClass) (name : String) : Option Value :=
  (c.replaced.get? name).bind (·.value?)

/-- The reserved name of what finds an attribute of an object. -/
def finderName : String := "__getattribute__"

/-- The reserved name of what the objects of a class count as. -/
def familyName : String := "__pydantic_generic_metadata__"

/-- Whether a class has a value in place of what a reserved name means. -/
def replaces (c : PropsClass) (name : String) : Bool := (c.ownValue? name).isSome

/-- Whether a class hides what its objects hold, so that it is shown but not found by
name. -/
def hidesContents (c : PropsClass) : Bool := c.replaces Attribute.Special.contents.name

/-- Whether a class has a slot of a name. -/
def hasSlot (c : PropsClass) (name : String) : Bool :=
  (match c.members.lookup name with
    | some (.slot _) => true
    | _ => false) || (c.replaced.get? name).any (·.isSlot)

/-- The private attributes of a new object, nothing if the class has none. -/
def firstHidden (c : PropsClass) : Value :=
  if c.privates.size = 0 then .null else Value.ofTable (c.privates.filterMap fun _ first => first)

/-- The values of undeclared names that a new object holds, nothing if objects
hold none. -/
def firstOverflow (c : PropsClass) : Value :=
  if c.options.undeclared = .kept then .map [] else .null

/-- Whether a class is another one or is defined from it, directly or not. -/
def isA (c d : PropsClass) : Bool := c.id = d.id || d.id ∈ c.ancestors

theorem isA_self (c : PropsClass) : c.isA c = true := by simp [isA]

/-- How a spec and the model fields disagree. -/
inductive Violation where
  | defaultRejected (s : FieldSpec)
  | fieldMissing (s : FieldSpec)
  | annotationDiffers (s : FieldSpec) (a : Annotation)
  | defaultDiffers (s : FieldSpec) (d : FieldDefault)

/-- The first condition on a spec that fails. -/
def check (fields : Table FieldDecl) (s : FieldSpec) : Option Violation :=
  if !s.type.accepts s.default then some (.defaultRejected s)
  else
    match fields.get? s.name with
    | none => some (.fieldMissing s)
    | some f =>
      if f.annotation ≠ s.type.annotation then some (.annotationDiffers s f.annotation)
      else if !f.default.agrees s.default then some (.defaultDiffers s f.default)
      else none

namespace Violation

/-- What is said of a violation in the definition of a class. -/
def message (className : String) : Violation → Except DigitLimit String
  | .defaultRejected s => do
    let d ← s.default.quoted
    return "FieldSpec '" ++ s.name ++ "' of " ++ className ++ " has default " ++ String.ofList d ++
      ", which is not a valid " ++ s.type.name ++ "."
  | .fieldMissing s =>
    .ok (className ++ " declares '" ++ s.name ++ "' in field_specs but has no such field.")
  | .annotationDiffers s a =>
    .ok (className ++ "." ++ s.name ++ " is annotated " ++ a.shown ++ ", but its FieldSpec is a " ++
      s.type.name ++ ".")
  | .defaultDiffers s d => do
    let own ← d.quoted
    let spec ← s.default.quoted
    return className ++ "." ++ s.name ++ " defaults to " ++ String.ofList own ++
      ", but its FieldSpec defaults to " ++ String.ofList spec ++ "."

end Violation

/-- The first violation of the first spec that has one. -/
def firstViolation (c : PropsClass) : Option Violation := c.specs.findSome? (check c.fields)

/-- **A spec passes the check exactly when all four conditions hold.** -/
theorem check_eq_none_iff (fields : Table FieldDecl) (s : FieldSpec) :
    check fields s = none ↔ s.type.accepts s.default = true ∧
      ∃ f, fields.get? s.name = some f ∧ f.annotation = s.type.annotation ∧
        f.default.agrees s.default = true := by
  unfold check
  cases s.type.accepts s.default with
  | false => simp
  | true =>
    cases fields.get? s.name with
    | none => simp
    | some f =>
      by_cases ha : f.annotation = s.type.annotation <;>
        cases hd : f.default.agrees s.default <;> simp [ha, hd]

end PropsClass
end AuditConfig
