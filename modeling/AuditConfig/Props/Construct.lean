import AuditConfig.Props.Making
import AuditConfig.Schema.Validating
import AuditConfig.Validation.Field

/-!
# Validated construction

An object is constructed from named values.  Every model field takes the value
of its name, validated; a field without one takes its default, as it is unless
the class validates defaults, and is missing if it has none.  A name that is no
field's is refused, dropped or kept, as the class says.

The issues are listed field by field, in the order of the declarations, and
after them the refused names.

A class with a schema in place of the validation of its fields makes an object that was
given nothing (`blank`) of what the schema takes.
-/

namespace AuditConfig

/-- Why an object is not constructed. -/
inductive ConstructError where
  | refused (r : Refusal)
  | making (e : MakingError)
  /-- The class has no validator. -/
  | validator (e : ValidatorError)
  /-- The schema of the class leaves out what is given. -/
  | omitted
  deriving Repr

/-- Why the class has no validator, if that is why. -/
def ConstructError.validator? : ConstructError → Option ValidatorError
  | .validator e => some e
  | _ => none

namespace PropsClass

/-- What a field takes from named values, which is nothing if its default is no
value. -/
def taken (c : PropsClass) (occurrence : Nat) (values : Table Value) (name : String)
    (d : FieldDecl) : Except (List Issue) (Option Value) :=
  let validated (v : Value) : Except (List Issue) (Option Value) :=
    (Validation.field c.options.rules occurrence [name] d.annotation v).map some
  match values.get? name, d.default.value? with
  | some v, _ => validated v
  | none, some v => if c.options.validatesDefaults then validated v else .ok (some v)
  | none, none =>
    if d.default.isRequired then .error [⟨[name], .missing⟩]
    else if c.options.validatesDefaults then
      .error (Validation.fixtureIssues c.options.rules [name] d.annotation d.default)
    else .ok none

/-- The issues of the model fields. -/
def fieldIssues (c : PropsClass) (occurrence : Nat) (values : Table Value) : List Issue :=
  c.fields.toList.flatMap fun f =>
    match c.taken occurrence values f.1 f.2 with
    | .ok _ => []
    | .error issues => issues

/-- The values of names that are no field's. -/
def undeclaredValues (c : PropsClass) (values : Table Value) : Table Value :=
  values.filter fun name _ => (c.fields.get? name).isNone

/-- The issues of the names that are no field's. -/
def undeclaredIssues (c : PropsClass) (values : Table Value) : List Issue :=
  if c.options.undeclared = .refused then
    (c.undeclaredValues values).keys.map fun name => ⟨[name], .unknownName⟩
  else []

/-- The values that the fields take. -/
def takenValues (c : PropsClass) (occurrence : Nat) (values : Table Value) : Table Value :=
  c.fields.filterMap fun name d => (c.taken occurrence values name d).toOption.join

/-- What stands in the way of every construction. -/
def constructFlaw? (c : PropsClass) : Option ConstructError :=
  let starter : Option MakingError :=
    (c.replaced.get? starterName).map fun s =>
      match s with
      | .value v => .notCallable v.kind.name
      | .slot _ => .lack (.emptySlot c.name starterName)
  let making := ((c.uncallable? creatorName).map MakingError.notCallable).or <|
    starter.or ((c.ownValue? finderName).map fun v => .notCallable v.kind.name)
  (making.map .making).or (c.unready.map .validator)

/-- Constructs an object of a class that brings a schema. -/
def constructBy (c : PropsClass) (p : SchemaPlan) (values : Table Value) :
    Except ConstructError Props :=
  match p.take (Value.ofTable values) with
  | .ok _ => .ok c.blank
  | .error (.issues l) => .error (.refused ⟨c.title, l⟩)
  | .error (.called w) => .error (.making (.notCallable w))
  | .error .omitted => .error .omitted

/-- Constructs an object from named values; `occurrence` is for a text that
denotes no number. -/
def construct (c : PropsClass) (occurrence : Nat) (values : Table Value) :
    Except ConstructError Props :=
  match c.constructFlaw?, c.standIn with
  | some e, _ => .error e
  | none, some p => c.constructBy p values
  | none, none =>
    match c.fieldIssues occurrence values ++ c.undeclaredIssues values with
    | [] =>
      let all := c.takenValues occurrence values
      let o := c.make c.fields (all.erase additionalName) (all.get? additionalName)
        (if c.options.undeclared = .kept then Value.ofTable (c.undeclaredValues values) else .null)
      match finishingFlaw? o c.fields with
      | some e => .error (.making e)
      | none => .ok o
    | issues => .error (.refused ⟨c.title, issues⟩)

end PropsClass
end AuditConfig
