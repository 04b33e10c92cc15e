import AuditConfig.PropsClass.Substitute
import AuditConfig.Value.Search

/-!
# Parameters of a class

A class can have parameters.  All parameters of its parent have to be among its own
(`parametersFlaw?`).  What stands for the parameters may be any value, or even a slot
(`parametersClash?`), so that it may be no collection, and looking for one of them may
fail.
-/

namespace AuditConfig
namespace PropsClass

/-- What is said of a value of a kind that is no tuple and is to be joined to one. -/
def unjoined : Kind → String
  | .list => "can only concatenate list (not \"tuple\") to list"
  | .text => "can only concatenate str (not \"tuple\") to str"
  | k => "unsupported operand type(s) for +: '" ++ k.name ++ "' and 'tuple'"

/-- What is wrong with the parameters of a class. -/
inductive ParametersError where
  /-- Those of the parent are what this word is for, and no collection. -/
  | notIterable (word : String)
  | search (e : SearchError)
  /-- One is lacking; those of the parent are of this kind. -/
  | lacking (inherited : Kind)
  deriving DecidableEq, Repr

namespace ParametersError

/-- What is said of wrong parameters. -/
def message : ParametersError → String
  | .notIterable w => "'" ++ w ++ "' object is not iterable"
  | .search e => e.message
  | .lacking .text => "'in <string>' requires string as left operand, not TypeVar"
  | .lacking k => unjoined k

end ParametersError

/-- Why a value cannot be looked through for any of some values. -/
def searchFlaw? (v : Value) (ws : List Value) : Option SearchError :=
  ws.findSome? fun w =>
    match v.holds w with
    | .ok _ => none
    | .error e => some e

/-- What is wrong with the parameters of a class whose parent has others. -/
def parametersFlaw? (own inherited : Value) : Option ParametersError :=
  if own.isTrue && inherited.isTrue then
    match inherited.sequence? with
    | none => some (.notIterable inherited.kind.name)
    | some required =>
      match own.holdsAll required with
      | .error e => some (.search e)
      | .ok true => none
      | .ok false =>
        (((searchFlaw? inherited (own.sequence?.getD [])).map .search).or
          (some (.lacking inherited.kind)))
  else none

/-- What is wrong with what stands for the parameters of a class whose parent has
others. -/
def parametersClash? (own inherited : Substitute) : Option ParametersError :=
  match own, inherited with
  | .value v, .value w => parametersFlaw? v w
  | .slot _, .value w =>
    if !w.isTrue then none
    else if w.sequence?.isNone then some (.notIterable w.kind.name)
    else some (.search (.notIterable own.word))
  | own, .slot _ => if own.isTrue then some (.notIterable inherited.word) else none

end PropsClass
end AuditConfig
