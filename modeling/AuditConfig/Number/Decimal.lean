import AuditConfig.Number.Power

/-!
# Decimal: whole numbers as decimal text

A whole number is written with as many digits as it needs and a leading `-`
when it is negative; a text of ASCII digits is read back as the number it
denotes (`value_digits`), leading zeros included.

Both directions have the same bound: more than `limit` digits are neither
written nor read.  `DigitLimit` says which of the two was asked for, and
`write_eq_ok_iff` says when writing succeeds.
-/

namespace AuditConfig

/-- A number has too many digits to be written, or a text too many digits to
be read. -/
inductive DigitLimit where
  | writing
  | reading (digits : Nat)
  deriving DecidableEq, Repr

namespace Decimal

/-- The most digits a number is written or read with. -/
def limit : Nat := 4300

/-- One or more ASCII digits and nothing else. -/
def isDigits (cs : List Char) : Bool := !cs.isEmpty && cs.all Char.isDigit

/-- A text without its sign, and whether the sign is a minus. -/
def unsigned : List Char → Bool × List Char
  | '-' :: rest => (true, rest)
  | '+' :: rest => (false, rest)
  | cs => (false, cs)

/-- The number that a text of digits denotes. -/
def value (cs : List Char) : Nat := Nat.ofDigitChars 10 cs 0

/-- The digits of a number, without leading zeros. -/
def digits (n : Nat) : List Char := Nat.toDigits 10 n

/-- The digits of a whole number behind its sign. -/
def signed : Int → List Char
  | .ofNat n => digits n
  | .negSucc n => '-' :: digits (n + 1)

/-- Writes a whole number of at most `limit` digits. -/
def write (n : Int) : Except DigitLimit (List Char) :=
  if n.natAbs < tenTo limit then .ok (signed n) else .error .writing

/-- Reads a text of at most `limit` digits. -/
def read (cs : List Char) : Except DigitLimit Nat :=
  if cs.length ≤ limit then .ok (value cs) else .error (.reading cs.length)

theorem isDigits_iff (cs : List Char) :
    isDigits cs = true ↔ cs ≠ [] ∧ ∀ c ∈ cs, c.isDigit = true := by
  simp [isDigits]

theorem isDigits_digits (n : Nat) : isDigits (digits n) = true :=
  (isDigits_iff _).2
    ⟨Nat.toDigits_ne_nil, fun _ h => Nat.isDigit_of_mem_toDigits (by decide) (by decide) h⟩

/-- **Reading undoes writing.** -/
theorem value_digits (n : Nat) : value (digits n) = n := Nat.ofDigitChars_ten_toDigits

/-- A text followed by another denotes the first shifted by the length of the
second, plus the second. -/
theorem value_append (s t : List Char) : value (s ++ t) = value s * tenTo t.length + value t := by
  rw [value, Nat.ofDigitChars_append, Nat.ofDigitChars_eq_ofDigitChars_zero, Nat.mul_comm]
  rfl

/-- A number below a power of ten has at most that many digits, and no other
has. -/
theorem length_digits_le_iff (n : Nat) {k : Nat} (h : 0 < k) :
    (digits n).length ≤ k ↔ n < tenTo k :=
  Nat.length_toDigits_le_iff (by decide) h

theorem write_eq_ok_iff (n : Int) (cs : List Char) :
    write n = .ok cs ↔ n.natAbs < tenTo limit ∧ cs = signed n := by
  unfold write
  split
  · next h => simp [h, eq_comm]
  · next h => simp only [h, false_and, reduceCtorEq]

theorem read_eq_ok_iff (cs : List Char) (n : Nat) :
    read cs = .ok n ↔ cs.length ≤ limit ∧ n = value cs := by
  unfold read
  split
  · next h => simp [h, eq_comm]
  · next h => simp only [h, false_and, reduceCtorEq]

theorem value_singleton_lt {c : Char} (h : c.isDigit = true) : value [c] < 10 := by
  have hc : c.toNat ≤ 57 := by
    simp only [Char.isDigit, Bool.and_eq_true, decide_eq_true_eq] at h
    exact h.2
  have hv : value [c] = c.toNat - 48 := by
    simp [value, Nat.ofDigitChars]
  omega

/-- A text of digits denotes a number of at most that many digits. -/
theorem value_lt_tenTo {cs : List Char} (h : ∀ c ∈ cs, c.isDigit = true) :
    value cs < tenTo cs.length := by
  induction cs with
  | nil => exact tenTo_pos 0
  | cons c rest ih =>
    have hrest := ih fun d hd => h d (.tail _ hd)
    have hc := value_singleton_lt (h c (.head _))
    have hmul : value [c] * tenTo rest.length ≤ 9 * tenTo rest.length :=
      Nat.mul_le_mul_right _ (Nat.le_of_lt_succ hc)
    rw [← List.singleton_append, value_append, List.length_append, List.length_singleton,
      Nat.add_comm 1, tenTo_succ]
    omega

/-- A number that is read is short enough to be written. -/
theorem lt_of_read {cs : List Char} {n : Nat} (hd : isDigits cs = true) (h : read cs = .ok n) :
    n < tenTo limit := by
  obtain ⟨hl, rfl⟩ := (read_eq_ok_iff cs n).1 h
  exact Nat.lt_of_lt_of_le (value_lt_tenTo ((isDigits_iff cs).1 hd).2) (tenTo_mono hl)

/-- What is written of a number is read as that number. -/
theorem read_digits {n : Nat} (h : n < tenTo limit) : read (digits n) = .ok n :=
  (read_eq_ok_iff _ n).2 ⟨(length_digits_le_iff n (by decide)).2 h, (value_digits n).symm⟩

theorem signed_ne_nil (n : Int) : signed n ≠ [] := by
  cases n with
  | ofNat n => exact Nat.toDigits_ne_nil
  | negSucc n => exact List.cons_ne_nil _ _

end Decimal

namespace DigitLimit

/-- What is said when the bound is hit. -/
def message : DigitLimit → String
  | .writing =>
    "Exceeds the limit (" ++ toString Decimal.limit ++ " digits) for integer string conversion; " ++
      "use sys.set_int_max_str_digits() to increase the limit"
  | .reading n =>
    "Exceeds the limit (" ++ toString Decimal.limit ++ " digits) for integer string conversion: " ++
      "value has " ++ toString n ++ " digits; " ++
      "use sys.set_int_max_str_digits() to increase the limit"

end DigitLimit

end AuditConfig
