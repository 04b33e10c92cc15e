import AuditConfig.Entries
import AuditConfig.Number.Binary64

/-!
# Value: what a raw map, a default or a field can hold

A value is nothing (`null`), a truth value, a whole number of any size, a
floating-point number, a text, a list of values, or a map of keys to values.
The bindings of a map are kept in order.

A key is a text or any other value that holds no values itself.  The maps that
are given have texts for keys; only a map made from pairs can have others.

`Kind` is the outermost shape of a value; `Kind.name` is the word that messages
use for it.
-/

namespace AuditConfig

/-- What the value of a map is bound to. -/
inductive Key where
  | null
  | bool (b : Bool)
  | int (n : Int)
  | float (x : Binary64)
  | text (s : String)
  deriving DecidableEq, Repr

/-- A value of any kind, nested to any depth. -/
inductive Value where
  | null
  | bool (b : Bool)
  | int (n : Int)
  | float (x : Binary64)
  | text (s : String)
  | list (items : List Value)
  | map (entries : List (Key × Value))
  deriving Inhabited, Repr

/-- The outermost shape of a value. -/
inductive Kind where
  | null
  | bool
  | int
  | float
  | text
  | list
  | map
  deriving DecidableEq, Repr

namespace Kind

/-- The word for a kind in messages. -/
def name : Kind → String
  | .null => "NoneType"
  | .bool => "bool"
  | .int => "int"
  | .float => "float"
  | .text => "str"
  | .list => "list"
  | .map => "dict"

end Kind

namespace Value

/-- The kind of a value. -/
def kind : Value → Kind
  | .null => .null
  | .bool _ => .bool
  | .int _ => .int
  | .float _ => .float
  | .text _ => .text
  | .list _ => .list
  | .map _ => .map

/-- Whether a value is nothing. -/
def isNull : Value → Bool
  | .null => true
  | _ => false

theorem isNull_iff (v : Value) : v.isNull = true ↔ v = .null := by
  cases v <;> simp [isNull]

/-- Whether a value counts as true: it is not nothing, and neither false, zero
nor empty. -/
def isTrue : Value → Bool
  | .null => false
  | .bool b => b
  | .int n => n ≠ 0
  | .float x => !x.isZero
  | .text s => s ≠ ""
  | .list vs => !vs.isEmpty
  | .map es => !es.isEmpty

/-- The bindings of a map; of two values of one key the later stands. -/
def entries? : Value → Option (Entries Key Value)
  | .map l => some (Entries.ofList l)
  | _ => none

/-- Only a map has bindings. -/
theorem entries?_eq_none_iff (v : Value) : v.entries? = none ↔ v.kind ≠ .map := by
  cases v <;> simp [entries?, kind]

/-- A map with given bindings. -/
def ofEntries (e : Entries Key Value) : Value := .map e.toList

theorem entries?_ofEntries (e : Entries Key Value) : (ofEntries e).entries? = some e :=
  congrArg some e.ofList_toList

/-- A map of names. -/
def ofTable (t : Table Value) : Value := .map (t.toList.map fun b => (.text b.1, b.2))

/-- The key that a value is. -/
def key? : Value → Option Key
  | .null => some .null
  | .bool b => some (.bool b)
  | .int n => some (.int n)
  | .float x => some (.float x)
  | .text s => some (.text s)
  | .list _ => none
  | .map _ => none

end Value

namespace Key

/-- The value that a key is. -/
def value : Key → Value
  | .null => .null
  | .bool b => .bool b
  | .int n => .int n
  | .float x => .float x
  | .text s => .text s

/-- A key is the key of its value. -/
theorem key?_value (k : Key) : k.value.key? = some k := by cases k <;> rfl

end Key

end AuditConfig
