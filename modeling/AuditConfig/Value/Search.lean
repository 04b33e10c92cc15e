import AuditConfig.Value.Bindings
import AuditConfig.Value.Lookup

/-!
# Looking for a value in another one

A value is found in a list that has an item equal to it, in a map that has it for a
key, and in a text that it is a part of (`Value.holds`).  A search fails in a value
of any other kind, and for a value that could not be there at all.
-/

namespace AuditConfig

/-- Why a value cannot be looked through for another one. -/
inductive SearchError where
  /-- What this word is for cannot be gone through. -/
  | notIterable (word : String)
  /-- A text is looked through for what this word is for. -/
  | notText (word : String)
  | unhashable (kind : Kind)
  deriving DecidableEq, Repr

namespace SearchError

/-- What is said of a search that fails. -/
def message : SearchError → String
  | .notIterable w => "argument of type '" ++ w ++ "' is not iterable"
  | .notText w => "'in <string>' requires string as left operand, not " ++ w
  | .unhashable k => (BindingError.unhashable k).message

end SearchError

namespace Value

/-- Whether a value is found in another one: among the items of a list, as a key of a
map, or as a part of a text. -/
def holds (v w : Value) : Except SearchError Bool :=
  match v, w with
  | .list vs, w => .ok (vs.any (·.equal w))
  | .map es, w =>
    match w.key? with
    | some k => .ok (es.any (·.1.same k))
    | none => .error (.unhashable w.kind)
  | .text s, .text part => .ok (Text.occursIn part.toList s.toList)
  | .text _, w => .error (.notText w.kind.name)
  | v, _ => .error (.notIterable v.kind.name)

/-- Whether all of some values are found in a value. -/
def holdsAll (v : Value) : List Value → Except SearchError Bool
  | [] => .ok true
  | w :: ws =>
    match v.holds w with
    | .ok true => v.holdsAll ws
    | r => r

end Value
end AuditConfig
