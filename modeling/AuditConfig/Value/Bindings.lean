import AuditConfig.Value.Equal

/-!
# Bindings: the map that is made from a value

A map is made from a map, of its bindings, and from a list or a text, of one
binding for each item, an item being a pair of a key and a value.  A pair is a
list of two items, a text of two characters, or a map of two keys.  The items
are taken in order; of two that have the same key, the map has the key of the
earlier and the value of the later.
-/

namespace AuditConfig

/-- Why a value makes no map. -/
inductive BindingError where
  | notIterable (kind : Kind)
  | notSequence (index : Nat)
  | notPair (index length : Nat)
  | unhashable (kind : Kind)
  deriving DecidableEq, Repr

namespace BindingError

/-- What is said of a value that makes no map. -/
def message : BindingError → String
  | .notIterable k => "'" ++ k.name ++ "' object is not iterable"
  | .notSequence i =>
    "cannot convert dictionary update sequence element #" ++ toString i ++ " to a sequence"
  | .notPair i n =>
    "dictionary update sequence element #" ++ toString i ++ " has length " ++ toString n ++
      "; 2 is required"
  | .unhashable k => "unhashable type: '" ++ k.name ++ "'"

end BindingError

namespace Value

/-- The items of a value that can be gone through. -/
def sequence? : Value → Option (List Value)
  | .text s => some (s.toList.map fun c => .text (String.ofList [c]))
  | .list vs => some vs
  | .map es => some (es.map fun e => e.1.value)
  | _ => none

/-- The key that a value is, which has to be one. -/
def asKey (v : Value) : Except BindingError Key :=
  match v.key? with
  | some k => .ok k
  | none => .error (.unhashable v.kind)

/-- The binding that the item of a list at an index stands for. -/
def pairAt (index : Nat) (item : Value) : Except BindingError (Key × Value) :=
  match item.sequence? with
  | none => .error (.notSequence index)
  | some [k, v] => k.asKey.map (·, v)
  | some vs => .error (.notPair index vs.length)

/-- The bindings that the items of a list stand for, the first at a given
index. -/
def pairsFrom : Nat → List Value → Except BindingError (List (Key × Value))
  | _, [] => .ok []
  | i, v :: vs => do
    let p ← pairAt i v
    let ps ← pairsFrom (i + 1) vs
    return p :: ps

/-- Binds a key; one that is the same as a bound key stands for that key. -/
def bind (e : Entries Key Value) (k : Key) (v : Value) : Entries Key Value :=
  e.insert ((e.keys.find? k.same).getD k) v

/-- A text stands for itself alone. -/
theorem bind_text (e : Entries Key Value) (s : String) (v : Value) :
    bind e (.text s) v = e.insert (.text s) v := by
  unfold bind
  cases h : e.keys.find? (Key.text s).same with
  | none => rfl
  | some k => rw [(Key.same_text_iff s k).1 (List.find?_some h)]; rfl

/-- Binds the pairs of a list one after the other. -/
def ofPairs (ps : List (Key × Value)) : Entries Key Value :=
  ps.foldl (fun e p => bind e p.1 p.2) .empty

/-- The bindings of a new map made from a value. -/
def bindings : Value → Except BindingError (Entries Key Value)
  | .map l => .ok (Entries.ofList l)
  | v =>
    match v.sequence? with
    | none => .error (.notIterable v.kind)
    | some vs => (pairsFrom 0 vs).map ofPairs

end Value

end AuditConfig
