import AuditConfig.Text.Quoted

/-!
# Reading quoted text

A quoted text says what it was made of and where it ends, whatever is written after it.  A
character behind a backslash is told by the one that follows (`unescape`), and one that is
written as it is by itself; the quote in use stands for nothing but the end.  So the reader
of one character undoes its writing and leaves what comes after (`readOne_character`), and
two texts that are quoted the same are the same (`encode_append_inj`).
-/

namespace AuditConfig
namespace Text
namespace Quoted

/-- The number that a hexadecimal digit stands for. -/
def hexDigit (c : Char) : Nat := if c.isDigit then c.toNat - 48 else c.toNat - 87

/-- The number that hexadecimal digits stand for. -/
def hexValue (cs : List Char) : Nat := cs.foldl (fun n c => 16 * n + hexDigit c) 0

theorem hexDigit_digitChar : ∀ d < 16, hexDigit (Nat.digitChar d) = d := by decide

theorem hexValue_append_singleton (cs : List Char) (c : Char) :
    hexValue (cs ++ [c]) = 16 * hexValue cs + hexDigit c := by
  simp [hexValue]

theorem hexValue_toDigits (n : Nat) : hexValue (Nat.toDigits 16 n) = n := by
  induction n using Nat.strongRecOn with
  | ind n ih =>
    rw [Nat.toDigits_eq_if (by decide)]
    split
    · next h => simpa [hexValue] using hexDigit_digitChar n h
    · next h =>
      rw [hexValue_append_singleton, ih (n / 16) (by omega),
        hexDigit_digitChar _ (Nat.mod_lt _ (by decide))]
      omega

theorem hexValue_replicate_append (k : Nat) (cs : List Char) :
    hexValue (List.replicate k '0' ++ cs) = hexValue cs := by
  induction k with
  | zero => rfl
  | succ k ih => exact ih

/-- Digits filled up to a width stand for the same number. -/
theorem hexValue_leftpad (width n : Nat) :
    hexValue (List.leftpad width '0' (Nat.toDigits 16 n)) = n := by
  rw [List.leftpad, hexValue_replicate_append, hexValue_toDigits]

theorem length_leftpad_toDigits {width n : Nat} (hw : 0 < width) (h : n < Nat.pow 16 width) :
    (List.leftpad width '0' (Nat.toDigits 16 n)).length = width := by
  rw [List.length_leftpad]
  exact Nat.max_eq_left ((Nat.length_toDigits_le_iff (by decide) hw).2 h)

/-- The character of a code point of a width, and what comes after. -/
def unhex (width : Nat) (cs : List Char) : Char × List Char :=
  (Char.ofNat (hexValue (cs.take width)), cs.drop width)

/-- The character behind a backslash, and what comes after. -/
def unescape : List Char → Option (Char × List Char)
  | [] => none
  | k :: rest =>
    if k = 'n' then some ('\n', rest)
    else if k = 'r' then some ('\r', rest)
    else if k = 't' then some ('\t', rest)
    else if k = 'x' then some (unhex 2 rest)
    else if k = 'u' then some (unhex 4 rest)
    else if k = 'U' then some (unhex 8 rest)
    else some (k, rest)

/-- The first character of what is between quotes, and what comes after. -/
def readOne : List Char → Option (Char × List Char)
  | [] => none
  | c :: rest => if c = '\\' then unescape rest else some (c, rest)

/-- The code point of a character of a width is read as that character. -/
theorem unhex_leftpad (width : Nat) (hw : 0 < width) {c : Char} (h : c.toNat < Nat.pow 16 width)
    (rest : List Char) :
    unhex width (List.leftpad width '0' (Nat.toDigits 16 c.toNat) ++ rest) = (c, rest) := by
  have hlength := length_leftpad_toDigits hw h
  rw [unhex, List.take_left' hlength, List.drop_left' hlength, hexValue_leftpad, Char.ofNat_toNat]

theorem readOne_codePoint (c : Char) (rest : List Char) :
    readOne (codePoint c ++ rest) = some (c, rest) := by
  simp only [codePoint]
  split
  · next h => exact congrArg some (unhex_leftpad 2 (by decide) h rest)
  split
  · next h => exact congrArg some (unhex_leftpad 4 (by decide) h rest)
  · have h : c.toNat < Nat.pow 16 8 := c.val.toNat_lt
    exact congrArg some (unhex_leftpad 8 (by decide) h rest)

variable {q : Char}

/-- **Reading a character undoes writing it,** whatever comes after. -/
theorem readOne_character (hq : q = '\'' ∨ q = '"') (c : Char) (rest : List Char) :
    readOne (character q c ++ rest) = some (c, rest) := by
  unfold character
  split
  · next h =>
    rcases h with rfl | rfl
    · rcases hq with rfl | rfl <;> rfl
    · rfl
  · next h =>
    split
    · next hc => rw [hc]; rfl
    split
    · next hc => rw [hc]; rfl
    split
    · next hc => rw [hc]; rfl
    split
    · exact if_neg fun hc => h (.inr hc)
    · exact readOne_codePoint c rest

theorem quote_eq (cs : List Char) : quote cs = '\'' ∨ quote cs = '"' := by
  unfold quote
  split
  · exact .inr rfl
  · exact .inl rfl

/-- What is written of a character does not begin with the quote. -/
theorem character_append_ne (hq : q = '\'' ∨ q = '"') (c : Char) (s t : List Char) :
    character q c ++ s ≠ q :: t := by
  have hslash : q ≠ '\\' := by rcases hq with rfl | rfl <;> decide
  intro h
  -- read from either side, the character is the quote, which is written behind a backslash
  have hread := congrArg readOne h
  rw [readOne_character hq, readOne, if_neg hslash] at hread
  obtain ⟨rfl, rfl⟩ := Prod.mk.inj (Option.some.inj hread)
  rw [character, if_pos (.inl rfl)] at h
  exact hslash (List.cons.inj h).1.symm

/-- What is between two quotes is read to its end. -/
theorem flatMap_append_inj (hq : q = '\'' ∨ q = '"') {cs ds s t : List Char}
    (h : cs.flatMap (character q) ++ q :: s = ds.flatMap (character q) ++ q :: t) :
    cs = ds ∧ s = t := by
  induction cs generalizing ds with
  | nil =>
    cases ds with
    | nil => exact ⟨rfl, (List.cons.inj h).2⟩
    | cons d ds =>
      rw [List.flatMap_cons, List.append_assoc] at h
      exact absurd h.symm (character_append_ne hq d _ _)
  | cons c cs ih =>
    cases ds with
    | nil =>
      rw [List.flatMap_cons, List.append_assoc] at h
      exact absurd h (character_append_ne hq c _ _)
    | cons d ds =>
      rw [List.flatMap_cons, List.flatMap_cons, List.append_assoc, List.append_assoc] at h
      have hread := congrArg readOne h
      rw [readOne_character hq, readOne_character hq, Option.some.injEq, Prod.mk.injEq] at hread
      obtain ⟨rfl, hrest⟩ := hread
      obtain ⟨rfl, rfl⟩ := ih hrest
      exact ⟨rfl, rfl⟩

theorem encode_append (cs s : List Char) :
    encode cs ++ s = quote cs :: (cs.flatMap (character (quote cs)) ++ quote cs :: s) := by
  simp [encode]

/-- **A quoted text determines what it was made of,** and what comes after it. -/
theorem encode_append_inj {cs ds s t : List Char} (h : encode cs ++ s = encode ds ++ t) :
    cs = ds ∧ s = t := by
  rw [encode_append, encode_append] at h
  obtain ⟨hq, hrest⟩ := List.cons.inj h
  rw [← hq] at hrest
  exact flatMap_append_inj (quote_eq cs) hrest

end Quoted
end Text
end AuditConfig
