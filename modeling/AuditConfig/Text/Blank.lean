import AuditConfig.Text.CodeRange

/-!
# Blank: white space, and the texts without it at either end

White space is the property of that name of the standard.  The blanks are the
white space and the four information separators, U+001C to U+001F.

`strip isBlank` drops the blanks at both ends of a text.  What is left neither
begins nor ends with one (`strip_eq_self_iff`), so stripping twice is stripping
once.
-/

namespace AuditConfig
namespace Text

/-- The ranges of white space. -/
def whiteSpaceRanges : List CodeRange := CodeRange.ofPairs [
  (0x9, 0xD), (0x20, 0x20), (0x85, 0x85), (0xA0, 0xA0), (0x1680, 0x1680), (0x2000, 0x200A),
  (0x2028, 0x2029), (0x202F, 0x202F), (0x205F, 0x205F), (0x3000, 0x3000)]

/-- The range of the information separators. -/
def separatorRange : CodeRange := ⟨0x1C, 0x1F⟩

/-- Whether a character is white space. -/
def isWhiteSpace (c : Char) : Bool := inRanges whiteSpaceRanges c

/-- Whether a character is white space or an information separator. -/
def isBlank (c : Char) : Bool := isWhiteSpace c || separatorRange.contains c

/-- A text without the characters of a class at its two ends. -/
def strip (p : Char → Bool) (cs : List Char) : List Char :=
  ((cs.dropWhile p).reverse.dropWhile p).reverse

/-- Stripping changes nothing exactly when neither end is in the class. -/
theorem strip_eq_self_iff (p : Char → Bool) (cs : List Char) :
    strip p cs = cs ↔ (∀ c ∈ cs.head?, p c = false) ∧ (∀ c ∈ cs.getLast?, p c = false) := by
  have shorter (l : List Char) : (l.dropWhile p).length ≤ l.length :=
    (List.dropWhile_sublist p).length_le
  have same (l : List Char) (h : (l.dropWhile p).length = l.length) : l.dropWhile p = l :=
    (List.dropWhile_sublist p).eq_of_length h
  have head (l : List Char) : l.dropWhile p = l ↔ ∀ c ∈ l.head?, p c = false := by
    cases l with
    | nil => simp
    | cons a r =>
      simp only [List.dropWhile_cons, List.head?_cons, Option.mem_some_iff, forall_eq']
      cases hp : p a with
      | false => simp
      | true =>
        simp only [if_true, reduceCtorEq, iff_false]
        intro h
        have := shorter r
        rw [h, List.length_cons] at this
        omega
  constructor
  · intro h
    have hlen := congrArg List.length h
    simp only [strip, List.length_reverse] at hlen
    have h1 := shorter cs
    have h2 := shorter (cs.dropWhile p).reverse
    rw [List.length_reverse] at h2
    have e1 : cs.dropWhile p = cs := same cs (by omega)
    refine ⟨(head cs).1 e1, ?_⟩
    have e2 : cs.reverse.dropWhile p = cs.reverse :=
      same _ (by rw [e1] at hlen; rw [List.length_reverse]; exact hlen)
    have := (head _).1 e2
    rwa [List.head?_reverse] at this
  · rintro ⟨h1, h2⟩
    have e1 := (head cs).2 h1
    have e2 := (head cs.reverse).2 (by rwa [List.head?_reverse])
    rw [strip, e1, e2, List.reverse_reverse]

/-- Nothing is left of a text that is all in the class. -/
theorem strip_of_forall {p : Char → Bool} {cs : List Char} (h : ∀ c ∈ cs, p c = true) :
    strip p cs = [] := by
  have hall : (cs ++ []).dropWhile p = [] := List.dropWhile_append_of_pos h
  rw [List.append_nil] at hall
  rw [strip, hall]
  rfl

/-- What is put around a text of neither end in the class is stripped again. -/
theorem strip_pad {p : Char → Bool} {l cs r : List Char} (hl : ∀ c ∈ l, p c = true)
    (hr : ∀ c ∈ r, p c = true) (hne : cs ≠ []) (h : strip p cs = cs) :
    strip p (l ++ cs ++ r) = cs := by
  obtain ⟨hhead, hlast⟩ := (strip_eq_self_iff p cs).1 h
  have keeps : ∀ xs ys : List Char, xs ≠ [] → (∀ c ∈ xs.head?, p c = false) →
      (xs ++ ys).dropWhile p = xs ++ ys := by
    intro xs ys hxs hx
    obtain ⟨x, xs, rfl⟩ := List.exists_cons_of_ne_nil hxs
    simp [hx x rfl]
  have hfront : (l ++ cs ++ r).dropWhile p = cs ++ r := by
    rw [List.append_assoc, List.dropWhile_append_of_pos hl, keeps cs r hne hhead]
  have hback : (r.reverse ++ cs.reverse).dropWhile p = cs.reverse := by
    rw [List.dropWhile_append_of_pos fun c hc => hr c (List.mem_reverse.1 hc)]
    have hkept := keeps cs.reverse [] (by simpa using hne) (by rwa [List.head?_reverse])
    rwa [List.append_nil] at hkept
  rw [strip, hfront, List.reverse_append, hback, List.reverse_reverse]

/-- What is stripped from the back of a text stands behind what is left. -/
theorem strip_append_takeWhile (p : Char → Bool) (cs : List Char) :
    strip p cs ++ ((cs.dropWhile p).reverse.takeWhile p).reverse = cs.dropWhile p := by
  rw [strip, ← List.reverse_append, List.takeWhile_append_dropWhile, List.reverse_reverse]

/-- **Stripping drops characters of the class at either end,** and nothing else. -/
theorem exists_pad_strip (p : Char → Bool) (cs : List Char) :
    ∃ l r, (∀ c ∈ l, p c = true) ∧ (∀ c ∈ r, p c = true) ∧ cs = l ++ strip p cs ++ r := by
  refine ⟨cs.takeWhile p, ((cs.dropWhile p).reverse.takeWhile p).reverse, ?_, ?_, ?_⟩
  · exact List.all_eq_true.1 List.all_takeWhile
  · exact fun c hc => List.all_eq_true.1 List.all_takeWhile c (List.mem_reverse.1 hc)
  · rw [List.append_assoc, strip_append_takeWhile, List.takeWhile_append_dropWhile]

/-- What is left by stripping is not changed by it. -/
theorem strip_strip (p : Char → Bool) (cs : List Char) : strip p (strip p cs) = strip p cs := by
  have head : ∀ l : List Char, ∀ c ∈ (l.dropWhile p).head?, p c = false := by
    intro l c hc
    have hnot := List.head?_dropWhile_not p l
    rw [Option.mem_def.1 hc] at hnot
    simpa using hnot
  rw [strip_eq_self_iff]
  refine ⟨fun c hc => ?_, fun c hc => ?_⟩
  · -- what is left begins the text whose front is stripped
    refine head cs c ?_
    rw [← strip_append_takeWhile, List.head?_append, Option.mem_def.1 hc]
    rfl
  · rw [strip, List.getLast?_reverse] at hc
    exact head _ c hc

end Text
end AuditConfig
