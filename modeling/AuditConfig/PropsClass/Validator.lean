import AuditConfig.Options.Validating
import AuditConfig.Options.Writing
import AuditConfig.PropsClass.StandIn

/-!
# Validators: what validates the objects of a class

A class has a validator, which is made with the class, or, if its options defer
that, when it is first used.  `ValidatorError` says why none is made.

When there is a validator, what writes the objects is made, and last the class is
told that it is complete.  If one of these fails the class has its validator all the
same (`ValidatorError.isLate`).
-/

namespace AuditConfig

/-- Why a class has no validator, or is not complete with it. -/
inductive ValidatorError where
  /-- What this word is for is called in place of what makes the validator. -/
  | notCallable (word : String)
  /-- What this word is for stands in place of the schema of the class. -/
  | notSubscriptable (word : String)
  /-- What should be a schema of the class is none. -/
  | schema (d : SchemaDefect)
  /-- The values of undeclared names are kept and annotated as something other than a
  map. -/
  | overflow
  /-- What says how values are written is of this kind, and no map. -/
  | encoders (kind : Kind)
  /-- The class of this name changes its schema in a way that is out of use. -/
  | modifier (className : String)
  /-- An option has a value that it cannot have. -/
  | misfit (m : Misplaced)
  /-- An option that is asked for at last has a value that it cannot have. -/
  | outer (m : Misfit)
  /-- An option that what writes the objects asks for has a value that it cannot have. -/
  | writer (m : Misplaced)
  /-- What writes the objects cannot be made of the schema of the class. -/
  | schemaWriter (d : SchemaDefect)
  /-- Such an option that is asked for at last. -/
  | outerWriter (m : Misfit)
  /-- What this word is for is called in place of telling the class that it is
  complete. -/
  | completion (word : String)
  deriving DecidableEq, Repr

namespace ValidatorError

/-- What is said of a class without validator. -/
def message : ValidatorError → String
  | .notCallable w => "'" ++ w ++ "' object is not callable"
  | .notSubscriptable w => "'" ++ w ++ "' object is not subscriptable"
  | .schema d => d.message
  | .encoders k => "'" ++ k.name ++ "' object has no attribute 'get'"
  | .overflow =>
    "The type annotation for \x60__pydantic_extra__\x60 must be \x60dict[str, ...]\x60"
  | .modifier c =>
    "The \x60__modify_schema__\x60 method is not supported in Pydantic v2. " ++
      "Use \x60__get_pydantic_json_schema__\x60 instead" ++
        (if c.isEmpty then "" else " in class \x60" ++ c ++ "\x60") ++ "."
  | .misfit m => m.message
  | .outer m => m.text
  | .writer m => m.message
  | .schemaWriter d => d.message
  | .outerWriter m => m.text
  | .completion w => "'" ++ w ++ "' object is not callable"

/-- Whether the class has its validator nevertheless. -/
def isLate : ValidatorError → Bool
  | .writer _ => true
  | .schemaWriter _ => true
  | .outerWriter _ => true
  | .completion _ => true
  | _ => false

end ValidatorError
end AuditConfig
