import AuditConfig.Proofs.Rebuilding
import AuditConfig.Proofs.WholeNumbers
import AuditConfig.Text.LoneLetter

/-!
# What is no text, taken for a value of a type

A value that is no text is coerced by way of its text, which could make it something that it
is not.  It does not, because of how values are written (`Value.plain_cases`): a truth value as
`True` or `False`, a whole number that is not negative with its digits, and everything else
with a mark that stands neither in digits nor in any spelling of `true`.  So the text is one
of digits for the whole numbers that are not negative and for nothing else
(`Value.isDigits_plain_iff`), and spells `true` for that one truth value and for nothing else
(`Value.lower_plain_iff`).  `FieldSpec.resolve_of_kind` is what this means for a spec: the
kind of a value decides what becomes of it.
-/

namespace AuditConfig

/-- The text that truth is taken from, in small letters. -/
theorem isLone_true : ∀ d ∈ "true".toList, Text.IsLone d := by simp [Text.IsLone]

namespace Value

/-- The characters of which there is one in the text of everything that is neither a text
nor nothing, a truth value or a number of digits alone. -/
def marks : List Char := '[' :: '\x7b' :: Binary64.marks

/-- A mark is no digit, and no letter of `true`. -/
theorem marks_apart : ∀ c ∈ marks,
    c.isDigit = false ∧ ∀ d ∈ "true".toList, ¬ Text.Spells c d := by
  simp [marks, Binary64.marks, Text.Spells]

/-- **There are three ways to write what is no text and not nothing.** -/
theorem plain_cases {v : Value} (hnull : v ≠ .null) (htext : ∀ t, v ≠ .text t) {cs : List Char}
    (h : v.plain = .ok cs) :
    (∃ b, v = .bool b ∧ cs = if b then "True".toList else "False".toList) ∨
      (∃ n : Nat, v = .int n ∧ n < tenTo Decimal.limit ∧ cs = Decimal.digits n) ∨
        (∀ b, v ≠ .bool b) ∧ (∀ n : Nat, v ≠ .int n) ∧ ∃ c ∈ cs, c ∈ marks := by
  cases v with
  | null => exact absurd rfl hnull
  | text t => exact absurd rfl (htext t)
  | bool b => cases h; exact .inl ⟨b, rfl, rfl⟩
  | int n =>
    obtain ⟨hn, rfl⟩ := (Decimal.write_eq_ok_iff n cs).1 h
    cases n with
    | ofNat n => exact .inr (.inl ⟨n, rfl, hn, rfl⟩)
    | negSucc n =>
      exact .inr (.inr ⟨by simp, by simp, '-', .head _, by decide⟩)
  | float x =>
    cases h
    obtain ⟨c, hc, hmark⟩ := x.exists_mark_text
    exact .inr (.inr ⟨by simp, by simp, c, hc, .tail _ (.tail _ hmark)⟩)
  | list vs =>
    obtain ⟨ts, _, rfl⟩ := quoted_list_eq_ok h
    exact .inr (.inr ⟨by simp, by simp, '[', by simp, by decide⟩)
  | map es =>
    obtain ⟨ts, _, rfl⟩ := quoted_map_eq_ok h
    exact .inr (.inr ⟨by simp, by simp, '\x7b', by simp, by decide⟩)

/-- A text of digits comes of a whole number that is not negative. -/
theorem isDigits_plain_iff {v : Value} (hnull : v ≠ .null) (htext : ∀ t, v ≠ .text t)
    {cs : List Char} (h : v.plain = .ok cs) :
    Decimal.isDigits cs = true ↔ ∃ n : Nat, v = .int n := by
  obtain ⟨b, rfl, rfl⟩ | ⟨n, rfl, _, rfl⟩ | ⟨_, hint, c, hc, hmark⟩ := plain_cases hnull htext h
  · cases b <;> simp <;> decide
  · simp [Decimal.isDigits_digits]
  · have hdigit := (marks_apart c hmark).1
    constructor
    · intro hd
      rw [((Decimal.isDigits_iff cs).1 hd).2 c hc] at hdigit
      cases hdigit
    · rintro ⟨n, rfl⟩
      exact absurd rfl (hint n)

/-- A text that spells `true` comes of that truth value. -/
theorem lower_plain_iff {v : Value} (hnull : v ≠ .null) (htext : ∀ t, v ≠ .text t)
    {cs : List Char} (h : v.plain = .ok cs) :
    Text.lower .fourteen cs = "true".toList ↔ v = .bool true := by
  obtain ⟨b, rfl, rfl⟩ | ⟨n, rfl, _, rfl⟩ | ⟨hbool, _, c, hc, hmark⟩ := plain_cases hnull htext h
  · rw [FieldSpec.lower_bool_iff, bool.injEq]
  · refine iff_of_false (fun hlower => ?_) (by simp)
    obtain ⟨hne, hd⟩ := (Decimal.isDigits_iff _).1 (Decimal.isDigits_digits n)
    obtain ⟨c, hc⟩ := List.exists_mem_of_ne_nil _ hne
    obtain ⟨d, hmem, hspells⟩ := Text.exists_spells_of_lower isLone_true hlower hc
    have hdigit := hd c hc
    rw [hspells.isDigit_eq_false (isLone_true d hmem)] at hdigit
    cases hdigit
  · refine iff_of_false (fun hlower => ?_) (hbool true)
    obtain ⟨d, hmem, hspells⟩ := Text.exists_spells_of_lower isLone_true hlower hc
    exact (marks_apart c hmark).2 d hmem hspells

end Value

namespace FieldSpec

variable {v : Value}

/-- What is no text and can be written resolves to its text, coerced, or to the default. -/
theorem exists_resolve_plain (s : FieldSpec) (hnull : v ≠ .null) (htext : ∀ t, v ≠ .text t)
    (hshort : ¬ v.HoldsLong) : ∃ cs, v.plain = .ok cs ∧ cs ≠ [] ∧
      s.resolve v = (s.type.coerce cs).map fun
        | some w => (w, .configured)
        | none => (s.default, .malformed) := by
  have hm : isMissing v = false := by
    rw [Bool.eq_false_iff, ne_eq, isMissing_iff]
    exact fun h => h.elim hnull (htext "")
  cases hplain : v.plain with
  | error e => exact absurd ((v.writtenUnless_plain e).1 hplain).2 hshort
  | ok cs =>
    refine ⟨cs, rfl, Value.plain_ne_nil hm hplain, ?_⟩
    rw [resolve_of_not_isMissing s hm, hplain]
    rfl

/-- A spec of a whole number takes nothing else that is no text for one. -/
theorem resolve_not_natural {s : FieldSpec} (hs : s.type = .integer) (hnull : v ≠ .null)
    (htext : ∀ t, v ≠ .text t) (hshort : ¬ v.HoldsLong) (hv : ¬ ∃ n : Nat, v = .int n) :
    s.resolve v = .ok (s.default, .malformed) := by
  obtain ⟨cs, hplain, _, hresolve⟩ := s.exists_resolve_plain hnull htext hshort
  rw [← Value.isDigits_plain_iff hnull htext hplain, Bool.not_eq_true] at hv
  rw [hresolve, hs, (FieldType.coerce_eq_none_iff ..).2 ⟨rfl, hv⟩]
  rfl

/-- **The kind of a value that is no text decides what it is taken for.**  A spec of a whole
number takes the whole numbers that are not negative for themselves, and is malformed on
everything else; a spec of a truth value takes `true` for true and everything else for false;
and a spec of a text takes everything for a text that is not empty.  The value can be nested
to any depth, as long as no number in it is too long to be written. -/
theorem resolve_of_kind (s : FieldSpec) (hnull : v ≠ .null) (htext : ∀ t, v ≠ .text t)
    (hshort : ¬ v.HoldsLong) :
    (s.type = .integer →
      ((∃ w, s.resolve v = .ok (w, .configured)) ↔ ∃ n : Nat, v = .int n) ∧
      ((∃ n : Nat, v = .int n) → s.resolve v = .ok (v, .configured)) ∧
      ((¬ ∃ n : Nat, v = .int n) → s.resolve v = .ok (s.default, .malformed))) ∧
    (s.type = .boolean →
      ∃ b, s.resolve v = .ok (.bool b, .configured) ∧ (b = true ↔ v = .bool true)) ∧
    (s.type = .string →
      ∃ t, s.resolve v = .ok (.text t, .configured) ∧ t ≠ "") := by
  obtain ⟨cs, hplain, hne, hresolve⟩ := s.exists_resolve_plain hnull htext hshort
  refine ⟨fun hs => ?_, fun hs => ?_, fun hs => ?_⟩
  · have hnatural : (∃ n : Nat, v = .int n) → s.resolve v = .ok (v, .configured) := by
      rintro ⟨n, rfl⟩
      rw [Value.holdsLong_int_iff, Nat.not_lt] at hshort
      exact resolve_natural hs ((Decimal.length_digits_le_iff n (by decide)).1 hshort)
    have hother := resolve_not_natural hs hnull htext hshort
    refine ⟨⟨fun ⟨w, hw⟩ => ?_, fun h => ⟨v, hnatural h⟩⟩, hnatural, hother⟩
    refine Classical.byContradiction fun h => ?_
    rw [hother h] at hw
    cases hw
  · rw [hresolve, hs]
    exact ⟨_, rfl, by rw [decide_eq_true_iff]; exact Value.lower_plain_iff hnull htext hplain⟩
  · rw [hresolve, hs]
    exact ⟨_, rfl, fun h => hne (String.ofList_eq_empty_iff.1 h)⟩

/-- A list of things that look like what they are not. -/
def lookalikes : Value :=
  .list [.text "true", .bool true, .map [(.text "7", .int 7)], .int (-7)]

/-- It is malformed for a whole number, not true, and a text. -/
theorem resolve_of_kind_lookalikes :
    (Processor.wholeSpec "length" "length" 32).resolve lookalikes =
        .ok (.int 32, .malformed) ∧
      (∃ b, (Processor.truthSpec "flag" "flag" true).resolve lookalikes =
        .ok (.bool b, .configured) ∧ (b = true ↔ lookalikes = .bool true)) ∧
      ∃ t, (Processor.textSpec "name" "name" "none").resolve lookalikes =
        .ok (.text t, .configured) ∧ t ≠ "" := by
  have hnull : lookalikes ≠ .null := by simp [lookalikes]
  have htext : ∀ t, lookalikes ≠ .text t := by simp [lookalikes]
  have hbool : ¬ (Value.bool true).HoldsLong := Value.not_holdsLong rfl (by simp)
  have hshort : ¬ lookalikes.HoldsLong := by
    simp [lookalikes, Value.holdsLong_list_iff, Value.holdsLong_map_iff, Value.holdsLong_int_iff,
      Value.not_holdsLong_text, hbool, Key.value]
    decide
  exact ⟨((resolve_of_kind _ hnull htext hshort).1 rfl).2.2 (by simp [lookalikes]),
    (resolve_of_kind _ hnull htext hshort).2.1 rfl, (resolve_of_kind _ hnull htext hshort).2.2 rfl⟩

end FieldSpec
end AuditConfig
