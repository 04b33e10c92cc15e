import AuditConfig.Props
import AuditConfig.Processor

/-!
# The store: named raw maps, objects and classes

Maps live in cells, so that two names may be asked whether they hold the very
same map.  A name of a raw map stands for a cell, and an object has a cell for
its additional properties; every map that is put into the store gets a new cell.
A default that cannot be changed in place has one cell, which all objects share
that have it from the same class.  The values of the other fields belong to the
object itself, and a class is held with everything it needs, so neither changes
with what other names stand for.  Only what becomes known of a class when it is used
(`Learned`) is kept apart, and goes for all that are of the class.

`raw?` and `object?` are the view of the store: what a name holds, cells
forgotten.
-/

namespace AuditConfig
namespace Session

/-- An object with a cell for its additional properties, if it has any. -/
structure Stored where
  /-- The object, its additional properties those of the time it was stored. -/
  object : Props
  cell : Option Nat

/-- What became known of a class when it was used. -/
structure Learned where
  /-- Whether its validator was made. -/
  isReady : Bool
  /-- The names whose way of being assigned is known. -/
  handled : List String

namespace Learned

/-- Nothing is known. -/
def nothing : Learned := ⟨false, []⟩

/-- What is known of a class. -/
def of (l : Learned) (c : PropsClass) : PropsClass :=
  { c with
    unready := if l.isReady then none else c.unready
    handled := l.handled }

end Learned

/-- What the names of a session stand for. -/
structure Store where
  /-- What the cells hold. -/
  cells : List Value
  raws : Table Nat
  objects : Table Stored
  classes : Table PropsClass
  /-- The cells of the defaults that objects share, by the class that declares
  them. -/
  defaults : Entries Nat Nat
  /-- What became known of classes, by their numbers. -/
  learned : Entries Nat Learned
  /-- Where classes are defined. -/
  home : String
  /-- The number of the next class to be defined. -/
  nextClass : Nat
  /-- The occurrence of the next text to be read that denotes no number. -/
  nextOccurrence : Nat
  /-- The number of the next new object. -/
  nextMaking : Nat

namespace Store

/-- No name stands for anything; occurrences are counted on from a given
one. -/
def start (home : String) (occurrence : Nat) : Store :=
  ⟨[], .empty, .empty, .empty, .empty, .empty, home, Processor.firstFreeId, occurrence, 0⟩

/-- What a cell holds. -/
def cell (s : Store) (i : Nat) : Value := s.cells.getD i .null

/-- The raw map of a name. -/
def raw? (s : Store) (name : String) : Option (Entries Key Value) :=
  (s.raws.get? name).bind fun i => (s.cell i).entries?

/-- What became known of a class. -/
def learnedOf (s : Store) (c : PropsClass) : Learned := (s.learned.get? c.id).getD .nothing

/-- A class as it is now. -/
def current (s : Store) (c : PropsClass) : PropsClass := (s.learnedOf c).of c

/-- An object as it is, its cell forgotten. -/
def load (s : Store) (o : Stored) : Props :=
  { o.object with cls := s.current o.object.cls, additional := o.cell.map s.cell }

/-- The object of a name. -/
def object? (s : Store) (name : String) : Option Props := (s.objects.get? name).map s.load

/-- The name of the base class. -/
def baseName : String := "base"

/-- The class of a name: the base class, that of a processor, or a defined
one. -/
def class? (s : Store) (name : String) : Option PropsClass :=
  let found :=
    if name = baseName then some .base
    else
      match Processor.ofName? name with
      | some p => some p.cls
      | none => s.classes.get? name
  found.map s.current

/-- Puts a raw map into a new cell and gives it a name. -/
def putRaw (s : Store) (name : String) (e : Entries Key Value) : Store :=
  { s with cells := s.cells ++ [Value.ofEntries e], raws := s.raws.insert name s.cells.length }

/-- Gives an object a name, and its additional properties a new cell. -/
def putObject (s : Store) (name : String) (o : Props) : Store :=
  match o.additional with
  | some v =>
    { s with
      cells := s.cells ++ [v]
      objects := s.objects.insert name ⟨o, some s.cells.length⟩ }
  | none => { s with objects := s.objects.insert name ⟨o, none⟩ }

/-- Gives an object a name, and its additional properties the cell of the default
of a class. -/
def putDefault (s : Store) (name : String) (origin : Nat) (o : Props) : Store :=
  match s.defaults.get? origin with
  | some i => { s with objects := s.objects.insert name ⟨o, some i⟩ }
  | none => { s.putObject name o with defaults := s.defaults.insert origin s.cells.length }

/-- Notes that the validator of a class was made. -/
def noteReady (s : Store) (c : PropsClass) : Store :=
  { s with learned := s.learned.insert c.id { s.learnedOf c with isReady := true } }

/-- Notes that the way of assigning a name is known for a class. -/
def noteHandled (s : Store) (c : PropsClass) (name : String) : Store :=
  let l := s.learnedOf c
  { s with learned := s.learned.insert c.id { l with handled := name :: l.handled } }

/-- Gives a class a name, and the next class another number. -/
def putClass (s : Store) (name : String) (c : PropsClass) : Store :=
  { s with classes := s.classes.insert name c, nextClass := s.nextClass + 1 }

/-- Changes what a cell holds. -/
def setCell (s : Store) (i : Nat) (v : Value) : Store := { s with cells := s.cells.set i v }

theorem cell_append_of_lt {s : Store} {i : Nat} (h : i < s.cells.length) (v : Value) :
    (s.cells ++ [v]).getD i .null = s.cell i := by
  simp [cell, List.getD, List.getElem?_append_left h]

theorem cell_setCell (s : Store) (i j : Nat) (v : Value) (h : i < s.cells.length) :
    (s.setCell i v).cell j = if j = i then v else s.cell j := by
  unfold setCell cell
  by_cases hj : j = i
  · subst hj; simp [List.getD, h]
  · simp [List.getD, hj, List.getElem?_set_ne (fun e => hj e.symm)]

end Store
end Session
end AuditConfig
