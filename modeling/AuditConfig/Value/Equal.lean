import AuditConfig.Value

/-!
# Equality of values across kinds

Values are compared by what they denote.  Truth values and numbers are
compared as numbers, `true` being one and `false` zero, and a whole number
equals a floating-point number exactly when that one is the same whole number.
Lists are equal item by item, and maps are equal when they bind the same keys
to equal values, in whatever order.  No other two kinds meet.

Two keys are the same when their values are equal, so that `true` and `1` are
one key of a map and `1` and `"1"` are two.

What is not a number is equal to itself only where a list or a map holds it; alone
it equals nothing (`Value.meets`).
-/

namespace AuditConfig
namespace Value

/-- The whole number that a truth value or a whole number counts as. -/
def integer? : Value → Option Int
  | .bool b => some (if b then 1 else 0)
  | .int n => some n
  | _ => none

/-- Whether two values that are neither lists nor maps are equal. -/
def scalarEqual : Value → Value → Bool
  | .null, .null => true
  | .text s, .text t => s = t
  | .float x, .float y => x.equal y
  | .float x, w => w.integer?.any fun n => x.whole? = some n
  | v, .float y => v.integer?.any fun n => y.whole? = some n
  | v, w => v.integer?.any fun n => w.integer? = some n

end Value

/-- Whether two keys are the same. -/
def Key.same (k l : Key) : Bool := k.value.scalarEqual l.value

/-- A text is the same key only as itself. -/
theorem Key.same_text_iff (s : String) (k : Key) : (Key.text s).same k = true ↔ k = .text s := by
  cases k <;> simp [Key.same, Key.value, Value.scalarEqual, Value.integer?, eq_comm]

namespace Value

mutual

/-- Whether two values are equal. -/
def equal : Value → Value → Bool
  | .list vs, .list ws => equalItems vs ws
  | .map es, .map fs => es.length = fs.length && equalEntries es fs
  | v, w => scalarEqual v w

/-- Whether two lists have equal items, one by one. -/
def equalItems : List Value → List Value → Bool
  | [], [] => true
  | v :: vs, w :: ws => equal v w && equalItems vs ws
  | _, _ => false

/-- Whether every binding of the first list has an equal one in the second. -/
def equalEntries : List (Key × Value) → List (Key × Value) → Bool
  | [], _ => true
  | (k, v) :: es, fs =>
    (match fs.find? fun f => k.same f.1 with
      | some f => equal v f.2
      | none => false) && equalEntries es fs

end

/-- Whether a value is not a number, though of their kind. -/
def isNoNumber : Value → Bool
  | .float (.nan _) => true
  | _ => false

/-- Whether two values that nothing holds are equal. -/
def meets (v w : Value) : Bool := !v.isNoNumber && v.equal w

/-- Values that are numbers, or of other kinds, meet exactly when they are equal. -/
theorem meets_eq_equal {v : Value} (h : v.isNoNumber = false) (w : Value) :
    v.meets w = v.equal w := by simp [meets, h]

end Value
end AuditConfig
