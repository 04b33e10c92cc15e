import AuditConfig.Schema.KnownFault

/-!
# Custom faults: what a schema tells in place of what is found

A schema can name a fault that is told in place of those that are found.  The name of a
known fault stands for that fault (`KnownFault`).  A fault of any other name has the
message that the schema gives, in which names in braces stand for what is given under
them.
-/

namespace AuditConfig
namespace Schema

/-- What stands in a message for a value that is given. -/
def givenText (v : Value) : String :=
  match v with
  | .bool b => if b then "1" else "0"
  | v => String.ofList (v.plain.toOption.getD [])

/-- Puts what is given in place of names in braces. -/
def filled (given : List (Key × Value)) (text : String) : String :=
  given.foldl (fun s e =>
    match e.1 with
    | .text name => s.replace ("\x7b" ++ name ++ "\x7d") (givenText e.2)
    | _ => s) text

/-- The fault that a schema tells in place of others, if it names one. -/
def customFault? (schema : Value) : Except SchemaDefect (Option Fault) := do
  match ← (found? schema "custom_error_type").mapM asText with
  | none => return none
  | some code =>
    let given := (← (found? schema "custom_error_context").mapM asMap).getD []
    match KnownFault.ofCode? code with
    | some known =>
      if (found? schema "custom_error_message").isSome then refuse .messageOfKnown
      else
        let f ← known.fault given
        return some f
    | none =>
      let text ← asText (← required schema "custom_error_message")
      return some (.unlike code (filled given text))

end Schema
end AuditConfig
