/-!
# Patterns: whether a text is a pattern for texts

A pattern has groups in round brackets and classes of characters in square ones, each of
which has to be closed, and marks for repetition, each of which stands behind something
that is repeated.  A character behind a backslash stands for itself.

`Pattern.flaw?` goes through a text once and tells the first thing that makes it no
pattern, and where.
-/

namespace AuditConfig
namespace Pattern

/-- Where a text is when it is gone through. -/
structure State where
  /-- The number of characters before this one. -/
  place : Nat
  /-- Where the groups start that are not closed yet, the innermost first. -/
  groups : List Nat
  /-- Where the class starts that is not closed yet, and whether it can be closed here. -/
  inClass : Option (Nat × Bool)
  /-- Whether something stands here that can be repeated. -/
  repeatable : Bool

namespace State

/-- The start of a text. -/
def start : State := ⟨0, [], none, false⟩

/-- The next place, where something can be repeated or not. -/
def next (s : State) (repeatable : Bool) : State := { s with place := s.place + 1, repeatable }

end State

/-- What is wrong with a text, and where. -/
abbrev Flaw := Nat × String

/-- What is wrong with a text of which everything has been seen. -/
def endFlaw? (s : State) : Option Flaw :=
  match s.inClass, s.groups with
  | some (n, _), _ => some (n, "unclosed character class")
  | none, n :: _ => some (n, "unclosed group")
  | none, [] => none

/-- The state behind a character of a class. -/
def afterInClass (s : State) (start : Nat) (closable : Bool) (c : Char) : State :=
  if c = ']' && closable then { s.next true with inClass := none }
  else { s.next true with inClass := some (start, closable || c ≠ '^') }

/-- The state behind a character that stands in no class. -/
def afterOutside (s : State) (c : Char) : Except Flaw State :=
  match c with
  | '(' => .ok { s.next false with groups := s.place :: s.groups }
  | ')' =>
    match s.groups with
    | [] => .error (s.place, "unopened group")
    | _ :: rest => .ok { s.next true with groups := rest }
  | '[' => .ok { s.next true with inClass := some (s.place, false) }
  | '|' => .ok (s.next false)
  | c =>
    if c ∈ ['*', '+', '\x7b'] && !s.repeatable then
      .error (s.place, "repetition operator missing expression")
    else if c = '?' && !s.repeatable && s.groups.head? ≠ some (s.place - 1) then
      .error (s.place, "repetition operator missing expression")
    else .ok (s.next true)

/-- What is wrong with the rest of a text. -/
def flawFrom (s : State) : List Char → Option Flaw
  | [] => endFlaw? s
  | ['\\'] =>
    some (s.place, "incomplete escape sequence, reached end of pattern prematurely")
  | '\\' :: _ :: rest => flawFrom ((s.next true).next true) rest
  | c :: rest =>
    match s.inClass with
    | some (start, closable) => flawFrom (afterInClass s start closable c) rest
    | none =>
      match afterOutside s c with
      | .error f => some f
      | .ok t => flawFrom t rest

/-- What makes a text no pattern. -/
def flaw? (cs : List Char) : Option Flaw := flawFrom .start cs

end Pattern
end AuditConfig
