import AuditConfig.PropsClass.Declaration

/-!
# Members: what every class has beside its fields

A class has members, which its objects can be asked for by name.  A field may
have the name of a member.  If it is then given no default, the member stands
for one (`Member.default?`), so that the field need not be given a value; only
of a member that is out of use nothing is left.

No member but one is a value.  The others are shown by what they are: a method
bound to the class by the class too, a function without the place where it is
kept.
-/

namespace AuditConfig

/-- What a member of a class is. -/
inductive Member where
  /-- A method of the class itself, which its owner declares. -/
  | bound (owner : String)
  /-- A method of its objects, by its qualified name. -/
  | function (qualified : String)
  /-- A property of its objects. -/
  | computed
  /-- A method of classes that is built in, which the owner of the class has. -/
  | builtin (owner : String)
  /-- The listing of its fields. -/
  | listing
  /-- The options. -/
  | options
  /-- A map without entries. -/
  | emptyMap
  /-- A method that is out of use, of the class itself or of its objects. -/
  | retired (ofClass : Bool)
  /-- A place for one value of every object, which its owner declares. -/
  | slot (owner : String)
  deriving DecidableEq, Repr

namespace Member

/-- The owner of the members that all models have. -/
def modelName : String := "BaseModel"

/-- How messages show a method of a class itself. -/
def boundText (owner name path : String) : String :=
  "<bound method " ++ owner ++ "." ++ name ++ " of <class '" ++ path ++ "'>>"

/-- How messages show a method of objects. -/
def functionText (qualified : String) : String := "<function " ++ qualified ++ ">"

/-- How messages show a slot of a class. -/
def slotText (name owner : String) : String :=
  "<member '" ++ name ++ "' of '" ++ owner ++ "' objects>"

/-- How messages show a member of a class; `path` is how they show the class, and
`fields` are those of the class that the member is found in. -/
def shown (name path : String) (fields : Table FieldDecl) : Member → Except DigitLimit String
  | .bound owner => .ok (boundText owner name path)
  | .function qualified => .ok (functionText qualified)
  | .retired true => .ok (boundText modelName name path)
  | .retired false => .ok (functionText (modelName ++ "." ++ name))
  | .computed => .ok "<property object>"
  | .builtin owner => .ok ("<built-in method " ++ name ++ " of " ++ owner ++ " object>")
  | .listing => FieldDecl.listing fields
  | .options => .ok ("<" ++ name ++ ">")
  | .emptyMap => .ok "\x7b\x7d"
  | .slot owner => .ok (slotText name owner)

/-- What a member is, if it is no value. -/
def fixture : Member → Fixture
  | .bound _ => .plain "method"
  | .retired true => .plain "method"
  | .function qualified => ⟨"function", some qualified, false⟩
  | .computed => .plain "property"
  | .builtin _ => .plain "builtin_function_or_method"
  | .listing => ⟨"FieldInfo", none, true⟩
  | .slot _ => FieldDefault.slot
  | _ => .plain "function"

/-- What a field holds that has a member for its default. -/
def held (name path : String) (fields : Table FieldDecl) (m : Member) : FieldDefault :=
  match m with
  | .emptyMap => .value (.map [])
  | m => .fixture (m.shown name path fields) m.fixture

theorem held_ne_lostSlot (name path : String) (fields : Table FieldDecl) (m : Member)
    (shown : String) : m.held name path fields ≠ .lostSlot shown := by
  cases m <;> simp [held]

/-- The default that a member stands for, unless it is out of use. -/
def default? (name path : String) (fields : Table FieldDecl) (m : Member) : Option FieldDefault :=
  match m with
  | .retired _ => none
  | m => some (m.held name path fields)

/-- The owner of the members that all properties classes have beside those. -/
def baseName : String := "BaseProperties"

/-- The owner of the members that all classes of models have. -/
def ownerName : String := "ModelMetaclass"

/-- The name under which an object is told that it was made. -/
def madeName : String := "model_post_init"

/-- The name of the listing of the fields. -/
def listingName : String := "model_fields"

/-- The name of what makes the validator of a class. -/
def rebuildingName : String := "model_rebuild"

/-- The name of what makes an object of given values. -/
def constructingName : String := "model_construct"

/-- What tells the objects of all models that they were made. -/
def madeOfModel : Member := .function (modelName ++ "." ++ madeName)

/-- What a class with private attributes tells its objects. -/
def madeWithPrivates : Member := .function "init_private_attributes"

/-- What a class with private attributes tells its objects if it has something of its own
in place of that. -/
def madeAround : Member :=
  .function (ownerName ++ ".__new__.<locals>.wrapped_" ++ madeName)

/-- The members that every class has. -/
def ofEveryClass : List (String × Member) :=
  [("model_config", .options), (listingName, .listing), ("mro", .builtin ownerName),
    ("model_computed_fields", .emptyMap), ("model_extra", .computed),
    ("model_fields_set", .computed), ("copy_of", .bound baseName),
    ("register", .bound ownerName)] ++
  ([constructingName, "model_json_schema", "model_parametrized_name", rebuildingName,
    "model_validate", "model_validate_json", "model_validate_strings"].map
      fun n => (n, .bound modelName)) ++
  (["model_copy", "model_dump", "model_dump_json", madeName].map
    fun n => (n, .function (modelName ++ "." ++ n))) ++
  (["copy", "dict", "json"].map fun n => (n, .retired false)) ++
  (["construct", "from_orm", "parse_file", "parse_obj", "parse_raw", "schema", "schema_json",
    "update_forward_refs", "validate"].map fun n => (n, .retired true))

end Member
end AuditConfig
