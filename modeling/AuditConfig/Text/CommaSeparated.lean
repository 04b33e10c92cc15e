import AuditConfig.Text.Blank

/-!
# Comma-separated lists of names

A text is cut at its commas, every piece is stripped of the blanks at its two
ends, and the pieces that are then empty are dropped.

`pieces` is the cutting: its results joined with the separator are the text
again (`intercalate_pieces`), none holds the separator
(`not_mem_of_mem_pieces`), and the two sides of a separator are cut
independently (`pieces_append`).

What a list has are names (`IsName`), and the names say what the list is but for its blanks:
a text has certain names exactly if it consists of them, each between blanks, and of blank
parts, with commas in between (`names_eq_iff`).
-/

namespace AuditConfig
namespace Text

/-- The pieces of a text between the occurrences of a separator. -/
def pieces (sep : Char) : List Char → List (List Char)
  | [] => [[]]
  | c :: rest =>
    if c = sep then [] :: pieces sep rest
    else
      match pieces sep rest with
      | [] => [[c]]
      | p :: ps => (c :: p) :: ps

theorem pieces_ne_nil (sep : Char) (cs : List Char) : pieces sep cs ≠ [] := by
  cases cs with
  | nil => simp [pieces]
  | cons c rest =>
    rw [pieces]
    split
    · simp
    · split <;> simp

/-- Joining the pieces gives the text back. -/
theorem intercalate_pieces (sep : Char) (cs : List Char) :
    [sep].intercalate (pieces sep cs) = cs := by
  induction cs with
  | nil => simp [pieces]
  | cons c rest ih =>
    have hne := pieces_ne_nil sep rest
    obtain ⟨p, ps, hp⟩ := List.exists_cons_of_ne_nil hne
    rw [hp] at ih
    rw [pieces]
    by_cases h : c = sep
    · rw [if_pos h, hp, List.intercalate_cons_cons, ih, h]
      rfl
    · rw [if_neg h, hp]
      cases ps with
      | nil => simpa using ih
      | cons q qs =>
        rw [List.intercalate_cons_cons] at ih ⊢
        rw [← ih]
        rfl

/-- No piece holds the separator. -/
theorem not_mem_of_mem_pieces {sep : Char} {cs p : List Char} (h : p ∈ pieces sep cs) :
    sep ∉ p := by
  induction cs generalizing p with
  | nil =>
    simp only [pieces, List.mem_singleton] at h
    simp [h]
  | cons c rest ih =>
    rw [pieces] at h
    by_cases hc : c = sep
    · rw [if_pos hc, List.mem_cons] at h
      rcases h with rfl | h
      · simp
      · exact ih h
    · rw [if_neg hc] at h
      obtain ⟨q, qs, hq⟩ := List.exists_cons_of_ne_nil (pieces_ne_nil sep rest)
      rw [hq] at h ih
      rcases List.mem_cons.1 h with rfl | h
      · rw [List.mem_cons, not_or]
        exact ⟨fun e => hc e.symm, ih (List.mem_cons_self ..)⟩
      · exact ih (List.mem_cons_of_mem _ h)

/-- The pieces on either side of a separator are cut independently. -/
theorem pieces_append (sep : Char) (a b : List Char) :
    pieces sep (a ++ sep :: b) = pieces sep a ++ pieces sep b := by
  induction a with
  | nil => simp [pieces]
  | cons c rest ih =>
    rw [List.cons_append, pieces, pieces]
    by_cases h : c = sep
    · rw [if_pos h, if_pos h, ih, List.cons_append]
    · obtain ⟨p, ps, hp⟩ := List.exists_cons_of_ne_nil (pieces_ne_nil sep rest)
      rw [if_neg h, if_neg h, ih, hp]
      rfl

/-- The names of a comma-separated list. -/
def names (cs : List Char) : List (List Char) :=
  ((pieces ',' cs).map (strip isBlank)).filter fun p => p ≠ []

/-- The names of two lists with a comma between them are those of the one and
then those of the other. -/
theorem names_append (a b : List Char) : names (a ++ ',' :: b) = names a ++ names b := by
  rw [names, pieces_append, List.map_append, List.filter_append]
  rfl

/-- A text without the separator is its only piece. -/
theorem pieces_of_not_mem {sep : Char} {cs : List Char} (h : sep ∉ cs) : pieces sep cs = [cs] := by
  induction cs with
  | nil => rfl
  | cons c rest ih =>
    rw [List.mem_cons, not_or] at h
    rw [pieces, if_neg fun e => h.1 e.symm, ih h.2]

theorem names_of_not_mem {cs : List Char} (h : ',' ∉ cs) :
    names cs = [strip isBlank cs].filter fun p => p ≠ [] := by
  rw [names, pieces_of_not_mem h]
  rfl

/-- A name is not empty, has no comma, and begins and ends with no blank. -/
structure IsName (cs : List Char) : Prop where
  nonempty : cs ≠ []
  single : ',' ∉ cs
  stripped : strip isBlank cs = cs

/-- What is left of a part without a comma is a name, unless nothing is left. -/
theorem isName_strip {part : List Char} (h : ',' ∉ part) (hne : strip isBlank part ≠ []) :
    IsName (strip isBlank part) := by
  refine ⟨hne, fun hcomma => ?_, strip_strip isBlank part⟩
  obtain ⟨l, r, _, _, hpad⟩ := exists_pad_strip isBlank part
  rw [hpad] at h
  simp [hcomma] at h

/-- **What a comma-separated list has are names.** -/
theorem isName_of_mem_names {cs name : List Char} (h : name ∈ names cs) : IsName name := by
  obtain ⟨hmem, hne⟩ := List.mem_filter.1 h
  obtain ⟨piece, hpiece, rfl⟩ := List.mem_map.1 hmem
  exact isName_strip (not_mem_of_mem_pieces hpiece) (of_decide_eq_true hne)

/-- The parts of a list are parts that are blank, and names between blanks: of which names,
in this order. -/
inductive Padded : List (List Char) → List (List Char) → Prop where
  | nil : Padded [] []
  | blank {names parts : List (List Char)} {b : List Char} (hb : ∀ c ∈ b, isBlank c = true)
      (h : Padded names parts) : Padded names (b :: parts)
  | name {names parts : List (List Char)} {l name r : List Char} (hl : ∀ c ∈ l, isBlank c = true)
      (hname : IsName name) (hr : ∀ c ∈ r, isBlank c = true) (h : Padded names parts) :
      Padded (name :: names) ((l ++ name ++ r) :: parts)

theorem not_mem_comma {b : List Char} (hb : ∀ c ∈ b, isBlank c = true) : ',' ∉ b :=
  fun h => absurd (hb ',' h) (by decide)

theorem names_of_blank {b : List Char} (hb : ∀ c ∈ b, isBlank c = true) : names b = [] := by
  rw [names_of_not_mem (not_mem_comma hb), strip_of_forall hb]
  rfl

/-- A name between blanks is a list of that name. -/
theorem names_of_pad {l name r : List Char} (hl : ∀ c ∈ l, isBlank c = true) (h : IsName name)
    (hr : ∀ c ∈ r, isBlank c = true) : names (l ++ name ++ r) = [name] := by
  have hcomma : ',' ∉ l ++ name ++ r := by
    simp [not_mem_comma hl, h.single, not_mem_comma hr]
  rw [names_of_not_mem hcomma, strip_pad hl hr h.nonempty h.stripped]
  simp [h.nonempty]

/-- The names of the first part and of the others. -/
theorem names_intercalate_cons (part : List Char) (parts : List (List Char)) :
    names ([','].intercalate (part :: parts)) = names part ++ names ([','].intercalate parts) := by
  cases parts with
  | nil =>
    have hempty : names [] = [] := names_of_blank fun c hc => absurd hc List.not_mem_nil
    simp [hempty]
  | cons next rest =>
    rw [List.intercalate_cons_cons, List.append_assoc, List.singleton_append, names_append]

/-- **The names of a list are those that its parts are made of,** however they are padded and
whatever blank parts stand between them. -/
theorem names_intercalate {parts ns : List (List Char)} (h : Padded ns parts) :
    names ([','].intercalate parts) = ns := by
  induction h with
  | nil => exact names_of_blank fun c hc => absurd hc List.not_mem_nil
  | blank hb _ ih => rw [names_intercalate_cons, names_of_blank hb, ih, List.nil_append]
  | name hl hname hr _ ih =>
    rw [names_intercalate_cons, names_of_pad hl hname hr, ih, List.singleton_append]

/-- Parts without a comma are padded names. -/
theorem padded_parts {parts : List (List Char)} (h : ∀ part ∈ parts, ',' ∉ part) :
    Padded ((parts.map (strip isBlank)).filter fun p => p ≠ []) parts := by
  induction parts with
  | nil => exact .nil
  | cons part rest ih =>
    rw [List.forall_mem_cons] at h
    obtain ⟨l, r, hl, hr, hpad⟩ := exists_pad_strip isBlank part
    by_cases hne : strip isBlank part = []
    · have hblank : ∀ c ∈ part, isBlank c = true := by
        rw [hpad, hne, List.append_nil]
        exact fun c hc => (List.mem_append.1 hc).elim (hl c) (hr c)
      simpa [hne] using (ih h.2).blank hblank
    · have hname := (ih h.2).name hl (isName_strip h.1 hne) hr
      rw [← hpad] at hname
      simpa [hne] using hname

/-- **A text has certain names exactly if they are its parts, padded.** -/
theorem names_eq_iff (cs : List Char) (ns : List (List Char)) :
    names cs = ns ↔ ∃ parts, Padded ns parts ∧ [','].intercalate parts = cs := by
  constructor
  · rintro rfl
    exact ⟨pieces ',' cs, padded_parts fun _ h => not_mem_of_mem_pieces h,
      intercalate_pieces ',' cs⟩
  · rintro ⟨parts, hparts, rfl⟩
    exact names_intercalate hparts

end Text
end AuditConfig
