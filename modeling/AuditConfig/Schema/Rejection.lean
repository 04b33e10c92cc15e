import AuditConfig.Schema
import AuditConfig.Value.Equal

/-!
# Rejections: why a schema does not take a value

A schema makes something of a value (`Taken`): a value, or what no value is, which
nothing is asked of but what it is not.  Otherwise it rejects the value, for issues that
are listed, because something is called that cannot be, or so that it is left out.

What is made of several values is gathered: a call that fails ends it, issues are listed
one behind the other, and what is left out is left out (`gather`).
-/

namespace AuditConfig

/-- Why a schema does not take a value. -/
inductive Rejection where
  | issues (l : List Issue)
  /-- What this word is for is called. -/
  | called (word : String)
  /-- The value is to be left out. -/
  | omitted
  deriving DecidableEq, Repr

/-- What is made of a value: a value, or none if it is of no kind that values have. -/
abbrev Taken := Except Rejection (Option Value)

namespace Rejection

/-- A rejection for one fault. -/
def single (f : Fault) : Rejection := .issues [⟨[], f⟩]

/-- A rejection for a fault that is told at a path. -/
def singleAt (path : List String) (f : Fault) : Rejection := .issues [⟨path, f⟩]

/-- A rejection in what is found at a path. -/
def under (path : List String) : Rejection → Rejection
  | .issues l => .issues (l.map fun i => ⟨path ++ i.path, i.fault⟩)
  | r => r

/-- The issues of a rejection. -/
def listed : Rejection → List Issue
  | .issues l => l
  | _ => []

end Rejection

namespace Taken

/-- A value that is taken for another one. -/
def ofFault {α : Type} (make : α → Value) : Except Fault α → Taken
  | .ok a => .ok (some (make a))
  | .error f => .error (.single f)

end Taken

namespace Rejection

/-- A result of what is found at a path. -/
def inside {α : Type} (path : List String) : Except Rejection α → Except Rejection α
  | .ok a => .ok a
  | .error r => .error (r.under path)

/-- The first call among some results. -/
def firstCall? {α : Type} (l : List (Except Rejection α)) : Option String :=
  l.findSome? fun r =>
    match r with
    | .error (.called w) => some w
    | _ => none

/-- The issues of some results. -/
def issuesOf {α : Type} (l : List (Except Rejection α)) : List Issue :=
  l.flatMap fun r =>
    match r with
    | .error e => e.listed
    | .ok _ => []

/-- What is taken of some results. -/
def takenOf {α : Type} (l : List (Except Rejection α)) : List α := l.filterMap (·.toOption)

/-- Gathers some results. -/
def gather {α : Type} (l : List (Except Rejection α)) : Except Rejection (List α) :=
  match firstCall? l, issuesOf l with
  | some w, _ => .error (.called w)
  | none, [] => .ok (takenOf l)
  | none, is => .error (.issues is)

/-- A count of items. -/
def itemsText (n : Nat) : String := toString n ++ (if n = 1 then " item" else " items")

/-- The fault of a collection that has fewer members than it has to have. -/
def tooShort (collection : String) (least count : Nat) : Fault :=
  .unlike "too_short"
    (collection ++ " should have at least " ++ itemsText least ++ " after validation, not " ++
      toString count)

/-- The fault of a collection that has more members than it can have. -/
def tooLong (collection : String) (most count : Nat) : Fault :=
  .unlike "too_long"
    (collection ++ " should have at most " ++ itemsText most ++ " after validation, not " ++
      toString count)

/-- The fault of a number of members. -/
def lengthFault? (collection : String) (l : Lengths) (count : Nat) : Option Fault :=
  match l.least.filter (count < ·) with
  | some n => some (tooShort collection n count)
  | none => (l.most.filter (· < count)).map fun n => tooLong collection n count

/-- Checks a number of members. -/
def checkLength (collection : String) (l : Lengths) (count : Nat) : Except Rejection Unit :=
  match lengthFault? collection l count with
  | some f => .error (.single f)
  | none => .ok ()

end Rejection
end AuditConfig
