import AuditConfig.Schema.Reading

/-!
# Assignment by a schema

An assigned value is validated by the fields of a class.  A schema in place of the
fields validates no assignment: most say so by name, a schema of fields finds that the
object is no map of them, and one that calls something fails in the call.
-/

namespace AuditConfig

/-- Why a schema validates no assignment. -/
inductive AssigningFlaw where
  /-- The schema of this name does not validate assignments. -/
  | unsupported (name : String)
  /-- What this word is for is called. -/
  | called (word : String)
  /-- The object is no map. -/
  | noMap
  deriving DecidableEq, Repr

namespace Schema

/-- Why a schema validates no assignment, found in as many steps as are given. -/
def assigningFlaw (definitions : List (String × Schema)) : Nat → Schema → AssigningFlaw
  | 0, s => .unsupported s.name
  | fuel + 1, s =>
    match s with
    | .named (.map _) .. => .unsupported s.name
    | .named .. => .noMap
    | .calling .before w _ _ => .called w
    | .calling .around w _ _ => .called w
    | .calling .after _ _ inner => assigningFlaw definitions fuel inner
    | .reference n =>
      match definitions.lookup n with
      | some d => assigningFlaw definitions fuel d
      | none => .unsupported s.name
    | s => .unsupported s.name

end Schema

namespace SchemaPlan

/-- Why a plan validates no assignment. -/
def assigningFlaw (p : SchemaPlan) : AssigningFlaw :=
  Schema.assigningFlaw p.definitions (p.size + 1) p.root

end SchemaPlan
end AuditConfig
