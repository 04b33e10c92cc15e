import AuditConfig.Options
import AuditConfig.Schema.Writing

/-!
# Stand-ins: schemas in place of the fields

A class can bring a schema that says what its objects are validated by, in place of the
validation of its fields.  The options of the class are the settings that the schema is
read with (`Options.settings`).

A schema that refers to what is not defined is put off: the class is validated by its
fields after all, when it is first used.
-/

namespace AuditConfig

namespace Options

/-- The options that are settings of schemas under their own names. -/
def settingNames : List String :=
  ["allow_inf_nan", "str_strip_whitespace", "str_to_lower", "str_to_upper", "strict",
    "ser_json_timedelta", "ser_json_temporal", "ser_json_bytes", "ser_json_inf_nan",
    "from_attributes", "loc_by_alias", "validate_default", "str_max_length", "str_min_length",
    "coerce_numbers_to_str", "serialize_by_alias"]

/-- The settings of the schemas that a class brings: the options that are given. -/
def settings (o : Options) : SchemaSettings :=
  let all := settingNames.map (fun name => (name, o.value name)) ++
    [("extra_fields_behavior", o.value "extra"), ("validate_by_alias", o.byAlias.getD .null),
      ("validate_by_name", o.byName)]
  Entries.ofList (all.filter fun s => !s.2.isNull)

end Options

/-- What validates the objects of a class in place of its fields. -/
structure StandIn where
  plan : SchemaPlan
  /-- What is wrong with how its values are written. -/
  writing : Option SchemaDefect

namespace StandIn

/-- What an outline of which some references were met stands for. -/
def ofOutline (o : SchemaOutline) (met : SchemaReferences) (options : Options) :
    Except SchemaDefect StandIn := do
  let plan ← o.read met options.settings
  let writing : Option SchemaDefect :=
    match o.checkWriting met options.settings with
    | .ok () => none
    | .error d => some d
  return ⟨plan, writing⟩

/-- What an outline stands for, none if it is put off. -/
def followed (o : SchemaOutline) (options : Options) : Except SchemaDefect (Option StandIn) :=
  match o.references with
  | .error .undefined => .ok none
  | .error (.defect d) => .error d
  | .ok met => (ofOutline o met options).map some

end StandIn
end AuditConfig
