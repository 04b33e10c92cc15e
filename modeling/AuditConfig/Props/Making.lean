import AuditConfig.Props.Found

/-!
# New objects

An object is made of values for its named fields and of its additional
properties; it has the private attributes that its class gives it at first.  A
field without a value that has a fixture of the class for its default holds that.

Four things can stand in the way.  The class may have a value or a slot where it should
have something to call.  A fixture may be a slot that the class has lost and has
nothing else for.  An object with private attributes may have a field of the name
under which it is told that it was made: what the field holds is then called instead.
And one private attribute, `registryName`, cannot be given a value at first.
-/

namespace AuditConfig

/-- Why an object is not made. -/
inductive MakingError where
  /-- What this word is for is called. -/
  | notCallable (word : String)
  /-- A method of this name is called without an object. -/
  | unbound (method : String)
  /-- The default of a field is a slot of this name that the class has lost. -/
  | lostSlot (name : String)
  /-- Something is not found of the new object. -/
  | lack (e : Props.LackError)
  /-- The class keeps something else under the name of a private attribute, which cannot
  be copied for an object. -/
  | registry
  deriving DecidableEq, Repr

namespace PropsClass

/-- The reserved name of what makes an object. -/
def creatorName : String := "__new__"

/-- The reserved name of what gives a new object its values. -/
def starterName : String := "__init__"

end PropsClass

namespace MakingError

/-- What is said of an object that is not made. -/
def message : MakingError → String
  | .notCallable w => "'" ++ w ++ "' object is not callable"
  | .unbound m => m ++ "() missing 1 required positional argument: 'context'"
  | .lostSlot n => n
  | .lack e => e.message
  | .registry => "cannot pickle '_abc._abc_data' object"

end MakingError

namespace PropsClass

/-- The fixtures that the fields hold which are given no value. -/
def standingFixtures (fields : Table FieldDecl) (named : Table Value)
    (additional : Option Value) : Table Fixture :=
  fields.filterMap fun name d =>
    let given := if name = additionalName then additional else named.get? name
    if given.isSome then none else d.default.fixture?

/-- Which fixtures an object holds does not depend on what its additional properties are. -/
theorem standingFixtures_some (fields : Table FieldDecl) (named : Table Value) (v w : Value) :
    standingFixtures fields named (some v) = standingFixtures fields named (some w) := by
  have htest : ∀ name : String,
      (if name = additionalName then some v else named.get? name).isSome =
        (if name = additionalName then some w else named.get? name).isSome := by
    intro name
    split <;> rfl
  simp only [standingFixtures, htest]

/-- An object with given values; the defaults of given fields say which fixtures it
holds. -/
def make (c : PropsClass) (fields : Table FieldDecl) (named : Table Value)
    (additional : Option Value) (overflow : Value) : Props where
  cls := c
  fields := named
  additional := additional
  hidden := c.firstHidden
  overflow := overflow
  loose := .empty
  record := none
  standing := standingFixtures fields named additional
  instead := none
  slots := .empty
  unset := []
  making := 0

/-- An object that was given nothing. -/
def blank (c : PropsClass) : Props where
  cls := c
  fields := .empty
  additional := none
  hidden := .null
  overflow := .null
  loose := .empty
  record := none
  standing := .empty
  instead := none
  slots := .empty
  unset := [.overflow, .record]
  making := 0

/-- What is wrong with a fixture that is called in place of telling an object that it
was made. -/
def calledFlaw (f : Fixture) : MakingError :=
  match f.method? with
  | some m => .unbound m
  | none => .notCallable f.word

/-- What an object is told by whose fields have given declarations, if it is a
fixture. -/
def tellingFixture? (fields : Table FieldDecl) : Option Fixture :=
  (fields.get? Member.madeName).bind (·.default.fixture?)

/-- What stands in the way of telling a new object that it was made, whose fields have
given declarations. -/
def tellingFlaw? (o : Props) (fields : Table FieldDecl) : Option MakingError :=
  match o.cls.ownValue? finderName, o.lastResort Member.madeName with
  | some v, _ =>
    if o.cls.hasSlot Member.madeName || o.cls.privates.size ≠ 0 then
      some (.notCallable v.kind.name)
    else none
  | none, found =>
    if o.cls.hasSlot Member.madeName then
      match found with
      | .error e => some (.lack e)
      | .ok v => some (.notCallable v.kind.name)
    else if o.cls.privates.size = 0 || o.cls.hidesContents then none
    else
      match o.fields.get? Member.madeName with
      | some v => some (.notCallable v.kind.name)
      | none => (tellingFixture? fields).map calledFlaw

/-- The private attribute under whose name classes keep something of their own. -/
def registryName : String := "_abc_impl"

/-- That a private attribute cannot be given the value that it has at first. -/
def registryFlaw? (c : PropsClass) : Option MakingError :=
  match c.privates.get? registryName with
  | some (some _) => some .registry
  | _ => none

/-- What stands in the way of a new object, whose fields have given declarations, when it
is told that it was made. -/
def finishingFlaw? (o : Props) (fields : Table FieldDecl) : Option MakingError :=
  (tellingFlaw? o fields).or o.cls.registryFlaw?

/-- The default that a field has when its class is asked again what it has under the
name: a slot that the class has lost is no longer there. -/
def defaultAnew (c : PropsClass) (name : String) : FieldDefault → FieldDefault
  | .lostSlot shown =>
    ((c.members.lookup name).map (Member.held name c.path c.fields)).getD (.lostSlot shown)
  | d => d

/-- The fields with the defaults that they have when their class is asked again. -/
def fieldsAnew (c : PropsClass) : Table FieldDecl :=
  c.fields.filterMap fun name f => some ⟨f.annotation, c.defaultAnew name f.default⟩

/-- The same but the field for what no spec recognizes. -/
def namedFieldsAnew (c : PropsClass) : Table FieldDecl := c.fieldsAnew.erase additionalName

/-- The first field without a value whose default is a slot that the class has
lost. -/
def slotFlaw? (c : PropsClass) (named : Table Value) : Option MakingError :=
  c.namedFieldsAnew.toList.findSome? fun f =>
    match f.2.default with
    | .lostSlot _ => if (named.get? f.1).isSome then none else some (.lostSlot f.1)
    | _ => none

end PropsClass
end AuditConfig
