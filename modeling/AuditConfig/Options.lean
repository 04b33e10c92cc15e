import AuditConfig.Attribute
import AuditConfig.Validation.Rules
import AuditConfig.Value.Bindings

/-!
# Options: how the objects of a class are made and changed

A class has options, each a value under a name.  It has those of the class that
it is defined from, and over them those that its definition says
(`Options.declared`): the default of an attribute of one name,
`Attribute.optionsName`, and if that says nothing, the map that is the default of
the field of another, `oldName`.  A definition where both say something is
refused.  A name that is no option's means nothing, and an option that has
nothing for its value is not given.
-/

namespace AuditConfig

/-- What becomes of names that a class does not declare. -/
inductive Undeclared where
  /-- Objects are refused for them. -/
  | refused
  /-- They are left out. -/
  | dropped
  /-- Objects hold their values apart from the fields. -/
  | kept
  deriving DecidableEq, Repr

/-- What a word chooses. -/
def Undeclared.ofWord? : String → Option Undeclared
  | "forbid" => some .refused
  | "ignore" => some .dropped
  | "allow" => some .kept
  | _ => none

/-- The options of a class, by name. -/
structure Options where
  given : Table Value

namespace Options

/-- The options of the class that all others are defined from. -/
def base : Options :=
  ⟨Entries.ofList [("validate_assignment", .bool false), ("extra", .text "forbid")]⟩

/-- What an option is given as, nothing if it is not given. -/
def value (o : Options) (name : String) : Value := (o.given.get? name).getD .null

/-- Whether an option counts as set. -/
def isSet (o : Options) (name : String) : Bool := (o.value name).isTrue

/-- The truth value that an option is given as, or another one if it is given as
none. -/
def flag (o : Options) (name : String) (otherwise : Bool) : Bool :=
  match o.value name with
  | .bool b => b
  | _ => otherwise

/-- The count that an option is given as. -/
def count? (o : Options) (name : String) : Option Nat :=
  match o.value name with
  | .int (.ofNat n) => some n
  | .bool b => some (if b then 1 else 0)
  | _ => none

/-- What becomes of undeclared names. -/
def undeclared (o : Options) : Undeclared :=
  match o.value "extra" with
  | .text word => (Undeclared.ofWord? word).getD .dropped
  | _ => .dropped

/-- Whether objects refuse every assignment that is checked at all. -/
def frozen (o : Options) : Bool := o.isSet "frozen"

/-- Whether assigned values are validated. -/
def validatesAssigned (o : Options) : Bool := o.isSet "validate_assignment"

/-- Whether defaults are validated. -/
def validatesDefaults (o : Options) : Bool := o.flag "validate_default" false

/-- Whether the option that values are given under the names of their fields has only
its older name. -/
def saysNameByOlder (o : Options) : Bool :=
  !(o.value "populate_by_name").isNull && (o.value "validate_by_name").isNull

/-- Whether values are given under other names of their fields. -/
def byAlias (o : Options) : Option Value :=
  if o.saysNameByOlder then some (.bool true) else o.given.get? "validate_by_alias"

/-- Whether values are given under the names of their fields. -/
def byName (o : Options) : Value :=
  if o.saysNameByOlder then o.value "populate_by_name"
  else
    match o.value "validate_by_name", o.byAlias with
    | .null, some (.bool false) => .bool true
    | v, _ => v

/-- Whether values can be given under no name at all. -/
def namesNothing (o : Options) : Bool := o.byAlias.any (!·.isTrue) && !o.byName.isTrue

/-- Whether what validates the objects of the class is made when it is first
used. -/
def deferred (o : Options) : Bool := o.isSet "defer_build"

/-- The title under which values are refused, if not the name of the class. -/
def title? (o : Options) : Option Value := some (o.value "title") |>.filter Value.isTrue

/-- What is made of texts. -/
def textRules (o : Options) : Validation.TextRules where
  stripped := o.flag "str_strip_whitespace" false
  lower := o.flag "str_to_lower" false
  upper := o.flag "str_to_upper" false
  least := o.count? "str_min_length"
  most := o.count? "str_max_length"

/-- How values are validated. -/
def rules (o : Options) : Validation.Rules where
  strict := o.flag "strict" false
  numbersAsText := o.flag "coerce_numbers_to_str" false
  unbounded := o.flag "allow_inf_nan" true
  text := o.textRules

/-- What the names of fields must not start with that are names of members. -/
def guards (o : Options) : Value :=
  (o.given.get? "protected_namespaces").getD (.list [.text "model_validate", .text "model_dump"])

/-- The option for what declares no attributes, whatever it is. -/
def ignoredName : String := "ignored_types"

/-- The option for what gives fields their titles. -/
def titlerName : String := "field_title_generator"

/-- The option for how values are written. -/
def encodersName : String := "json_encoders"

/-- Puts the options that a map names over others. -/
def update (o : Options) (e : Entries Key Value) : Options :=
  ⟨e.toList.foldl (fun t b =>
    match b.1 with
    | .text name => t.insert name b.2
    | _ => t) o.given⟩

/-- The field whose default can say options too. -/
def oldName : String := "Config"

/-- Why options are refused. -/
inductive Refused where
  /-- The attribute of the options has no default. -/
  | missing
  /-- Options are said in both places. -/
  | twice
  /-- What should be a map of options makes none. -/
  | bindings (e : BindingError)
  /-- Fields can be given values under no name. -/
  | nameless
  deriving DecidableEq, Repr

namespace Refused

/-- What is said of refused options. -/
def message : Refused → String
  | .missing =>
    let name := "\x60" ++ Attribute.optionsName ++ "\x60"
    name ++ " cannot be used as a model field name. Use " ++ name ++ " for model configuration."
  | .twice =>
    "\"" ++ oldName ++ "\" and \"" ++ Attribute.optionsName ++ "\" cannot be used together"
  | .bindings e => e.message
  | .nameless =>
    "At least one of \x60validate_by_alias\x60 or \x60validate_by_name\x60 must be set to True."

end Refused

/-- The options of a class whose definition gives two attributes these defaults,
nothing standing for none: that of the options and that of the field of the old
name. -/
def declared (o : Options) (own old : Value) : Except Refused Options :=
  if own.isTrue && old.isTrue then .error .twice
  else if own.isTrue then
    match own.bindings with
    | .ok e => .ok (o.update e)
    | .error e => .error (.bindings e)
  else
    match old with
    | .map l => .ok (o.update (Entries.ofList l))
    | _ => .ok o

end Options
end AuditConfig
