import AuditConfig.Number.Binary64
import AuditConfig.Number.Shortest

/-!
# Float text: how a floating-point number is written

A finite number is written with the fewest digits that read back, positionally
when the power of ten of its leading digit is from `-4` to `15`, with at least
one digit on either side of the point, and otherwise with an exponent of a sign
and at least two digits.  A zero keeps its sign.

Every number is written with a mark (`exists_mark_text`): a point, the sign of an exponent,
or the `n` of `nan` and `inf`.  So none is written with digits alone
(`exists_not_digit_text`), and its text is never taken for that of a whole number.
-/

namespace AuditConfig
namespace Binary64

/-- The least and the greatest power of ten of a leading digit that is written
positionally. -/
def positional : Int × Int := (-4, 15)

/-- The fewest digits of an exponent. -/
def exponentWidth : Nat := 2

/-- The text of `c · 10 ^ k`, where `digits` are the digits of `c`. -/
def layout (digits : List Char) (k : Int) : List Char :=
  let p := k + digits.length - 1
  if positional.1 ≤ p ∧ p ≤ positional.2 then
    if p < 0 then
      ['0', '.'] ++ List.replicate (-p - 1).toNat '0' ++ digits
    else if 0 ≤ k then
      digits ++ List.replicate k.toNat '0' ++ ['.', '0']
    else
      digits.take (p.toNat + 1) ++ ['.'] ++ digits.drop (p.toNat + 1)
  else
    digits.take 1 ++ (if digits.length ≤ 1 then [] else '.' :: digits.drop 1) ++
      ['e', if p < 0 then '-' else '+'] ++ List.leftpad exponentWidth '0' (Nat.toDigits 10 p.natAbs)

/-- The text of a floating-point number. -/
def text : Binary64 → List Char
  | .nan _ => ['n', 'a', 'n']
  | .infinite s => (if s then ['-'] else []) ++ ['i', 'n', 'f']
  | .finite s e f =>
    let m := mantissa e f
    let body :=
      if m = 0 then ['0', '.', '0']
      else
        let (c, k) := Shortest.decimal m (scale e) (f.val = 0 && 1 < e.val)
        layout (Nat.toDigits 10 c) k
    (if s then ['-'] else []) ++ body

/-- The characters of which the text of a floating-point number has at least one. -/
def marks : List Char := ['.', '+', '-', 'n']

/-- A laid out number has a point, or an exponent with a sign. -/
theorem exists_mark_layout (digits : List Char) (k : Int) : ∃ c ∈ layout digits k, c ∈ marks := by
  unfold layout
  dsimp only
  split
  · refine ⟨'.', ?_, by decide⟩
    split
    · simp
    · split <;> simp
  · exact ⟨_, List.mem_append_left _ (List.mem_append_right _ (.tail _ (.head _))),
      by split <;> decide⟩

/-- **A floating-point number is never written without a mark.** -/
theorem exists_mark_text (x : Binary64) : ∃ c ∈ x.text, c ∈ marks := by
  cases x with
  | nan _ => exact ⟨'n', by simp [text], by decide⟩
  | infinite s => exact ⟨'n', by simp [text], by decide⟩
  | finite s e f =>
    by_cases h : mantissa e f = 0
    · exact ⟨'.', by simp [text, h], by decide⟩
    · obtain ⟨c, hc, hmark⟩ := exists_mark_layout
        (Nat.toDigits 10 (Shortest.decimal (mantissa e f) (scale e) (f.val = 0 && 1 < e.val)).1)
        (Shortest.decimal (mantissa e f) (scale e) (f.val = 0 && 1 < e.val)).2
      exact ⟨c, by simp only [text, h, if_false]; exact List.mem_append_right _ hc, hmark⟩

/-- **A floating-point number is never written with digits alone.** -/
theorem exists_not_digit_text (x : Binary64) : ∃ c ∈ x.text, c.isDigit = false := by
  obtain ⟨c, hc, hmark⟩ := x.exists_mark_text
  have hall : ∀ c ∈ marks, c.isDigit = false := by simp [marks]
  exact ⟨c, hc, hall c hmark⟩

end Binary64
end AuditConfig
