import AuditConfig.Processor.Specs
import AuditConfig.Proofs.Resolving

/-!
# Whole numbers out of texts

A spec of a whole number takes a text for one exactly when every character of it is one of
the digits `0` to `9`; a sign, a blank, a line end, an underscore and a digit of another
script all make it fall back to its default.  It reads every text of digits to its end:
zeros in front change nothing (`Decimal.value_zeros_append`), so that it reads back what is
written of any number, and of two texts put together the first counts as often as the
second has places (`Decimal.value_append`).  `FieldSpec.resolve_wholeNumber` is all of it.

The texts have at most as many characters as there are digits in a number that is read;
what becomes of longer ones is told by `FieldSpec.resolve_eq_error_iff`.
-/

namespace AuditConfig
namespace Decimal

theorem value_zero_cons (cs : List Char) : value ('0' :: cs) = value cs := by
  rw [value, Nat.ofDigitChars_cons]
  rfl

/-- Zeros in front of a text do not change what it denotes. -/
theorem value_zeros_append (k : Nat) (cs : List Char) :
    value (List.replicate k '0' ++ cs) = value cs := by
  induction k with
  | zero => rfl
  | succ k ih => rw [List.replicate_succ, List.cons_append, value_zero_cons, ih]

theorem isDigits_append {cs ds : List Char} (hc : isDigits cs = true) (hd : isDigits ds = true) :
    isDigits (cs ++ ds) = true := by
  obtain ⟨hne, hc⟩ := (isDigits_iff cs).1 hc
  obtain ⟨_, hd⟩ := (isDigits_iff ds).1 hd
  exact (isDigits_iff _).2
    ⟨by simp [hne], fun c hmem => (List.mem_append.1 hmem).elim (hc c) (hd c)⟩

/-- A text of digits with zeros in front is a text of digits. -/
theorem isDigits_zeros_append (k : Nat) {cs : List Char} (h : isDigits cs = true) :
    isDigits (List.replicate k '0' ++ cs) = true := by
  induction k with
  | zero => exact h
  | succ k ih =>
    change isDigits (['0'] ++ (List.replicate k '0' ++ cs)) = true
    exact isDigits_append rfl ih

/-- What is written of a number are its digits. -/
theorem toList_toString (n : Nat) : (toString n).toList = digits n := by
  simp [digits]

end Decimal

/-- A digit lies between `0` and `9`. -/
theorem isDigit_iff_le (c : Char) : c.isDigit = true ↔ '0' ≤ c ∧ c ≤ '9' := by
  simp [Char.isDigit, Char.le_def]

namespace FieldSpec

variable {s : FieldSpec}

/-- A spec of a whole number reads every text of digits that is not too long. -/
theorem resolve_of_isDigits (hs : s.type = .integer) {t : String}
    (hd : Decimal.isDigits t.toList = true) (hl : t.toList.length ≤ Decimal.limit) :
    s.resolve (.text t) = .ok (.int (Decimal.value t.toList), .configured) := by
  have hne : t ≠ "" := by rintro rfl; cases hd
  have hread : Decimal.read t.toList = .ok (Decimal.value t.toList) := if_pos hl
  rw [resolve_text s hne, hs, FieldType.coerce, if_pos hd, hread]
  rfl

/-- It falls back to its default on every other text. -/
theorem resolve_of_not_isDigits (hs : s.type = .integer) {t : String} (hne : t ≠ "")
    (hd : Decimal.isDigits t.toList = false) :
    s.resolve (.text t) = .ok (s.default, .malformed) := by
  rw [resolve_text s hne, hs, (FieldType.coerce_eq_none_iff ..).2 ⟨rfl, hd⟩]
  rfl

/-- A text that is not empty is a text of digits when all its characters are. -/
theorem isDigits_toList_iff {t : String} (hne : t ≠ "") :
    Decimal.isDigits t.toList = true ↔ ∀ c ∈ t.toList, '0' ≤ c ∧ c ≤ '9' := by
  have hcs : t.toList ≠ [] := fun h => hne (String.toList_eq_nil_iff.1 h)
  simp only [Decimal.isDigits_iff, isDigit_iff_le, hcs, ne_eq, not_false_eq_true, true_and]

/-- A text is configured exactly when all its characters are digits. -/
theorem exists_configured_iff (hs : s.type = .integer) {t : String} (hne : t ≠ "")
    (hl : t.toList.length ≤ Decimal.limit) :
    (∃ v, s.resolve (.text t) = .ok (v, .configured)) ↔ ∀ c ∈ t.toList, '0' ≤ c ∧ c ≤ '9' := by
  rw [← isDigits_toList_iff hne]
  cases hd : Decimal.isDigits t.toList with
  | true => simp [resolve_of_isDigits hs hd hl]
  | false => simp [resolve_of_not_isDigits hs hne hd]

/-- What is written of a number is read as that number, with zeros in front of it or not. -/
theorem resolve_zeros_append (hs : s.type = .integer) {k n : Nat}
    (hl : k + (toString n).toList.length ≤ Decimal.limit) :
    s.resolve (.text (String.ofList (List.replicate k '0') ++ toString n)) =
      .ok (.int n, .configured) := by
  have htext : (String.ofList (List.replicate k '0') ++ toString n).toList =
      List.replicate k '0' ++ Decimal.digits n := by
    rw [String.toList_append, String.toList_ofList, Decimal.toList_toString]
  have hd := Decimal.isDigits_zeros_append k (Decimal.isDigits_digits n)
  have hlen : (List.replicate k '0' ++ Decimal.digits n).length ≤ Decimal.limit := by
    rwa [List.length_append, List.length_replicate, ← Decimal.toList_toString]
  rw [← htext] at hd hlen
  rw [resolve_of_isDigits hs hd hlen, htext, Decimal.value_zeros_append, Decimal.value_digits]

/-- Two texts of digits put together are read as the first, shifted by the length of the
second, plus the second. -/
theorem resolve_append (hs : s.type = .integer) {t u : String}
    (ht : Decimal.isDigits t.toList = true) (hu : Decimal.isDigits u.toList = true)
    (hl : t.toList.length + u.toList.length ≤ Decimal.limit) :
    s.resolve (.text (t ++ u)) = .ok (.int (Decimal.value t.toList * tenTo u.toList.length +
      Decimal.value u.toList), .configured) := by
  have hd : Decimal.isDigits (t ++ u).toList = true := by
    rw [String.toList_append]
    exact Decimal.isDigits_append ht hu
  rw [resolve_of_isDigits hs hd (by rwa [String.toList_append, List.length_append]),
    String.toList_append, Decimal.value_append]
  rfl

/-- **A spec of a whole number takes the texts of digits for what they denote, and no
others.**  A text is configured exactly when all its characters are digits, and malformed
otherwise; what is written of a number is read as that number, whatever zeros stand in
front; and a text followed by another denotes the first, shifted by the length of the
second, plus the second. -/
theorem resolve_wholeNumber (hs : s.type = .integer) :
    (∀ t : String, t ≠ "" → t.toList.length ≤ Decimal.limit →
      ((∃ v, s.resolve (.text t) = .ok (v, .configured)) ↔
          ∀ c ∈ t.toList, '0' ≤ c ∧ c ≤ '9') ∧
        ((¬ ∀ c ∈ t.toList, '0' ≤ c ∧ c ≤ '9') →
          s.resolve (.text t) = .ok (s.default, .malformed))) ∧
    (∀ k n : Nat, k + (toString n).toList.length ≤ Decimal.limit →
      s.resolve (.text (String.ofList (List.replicate k '0') ++ toString n)) =
        .ok (.int n, .configured)) ∧
    ∀ t u : String, t ≠ "" → u ≠ "" → (∀ c ∈ t.toList, '0' ≤ c ∧ c ≤ '9') →
      (∀ c ∈ u.toList, '0' ≤ c ∧ c ≤ '9') →
      t.toList.length + u.toList.length ≤ Decimal.limit →
      ∃ m n : Nat, s.resolve (.text t) = .ok (.int m, .configured) ∧
        s.resolve (.text u) = .ok (.int n, .configured) ∧
        s.resolve (.text (t ++ u)) = .ok (.int (m * tenTo u.toList.length + n), .configured) := by
  refine ⟨fun t hne hl => ⟨exists_configured_iff hs hne hl, fun h => ?_⟩,
    fun k n hl => resolve_zeros_append hs hl, fun t u ht hu hdt hdu hl => ?_⟩
  · rw [← isDigits_toList_iff hne, Bool.not_eq_true] at h
    exact resolve_of_not_isDigits hs hne h
  · rw [← isDigits_toList_iff ht] at hdt
    rw [← isDigits_toList_iff hu] at hdu
    exact ⟨_, _, resolve_of_isDigits hs hdt (by omega), resolve_of_isDigits hs hdu (by omega),
      resolve_append hs hdt hdu hl⟩

/-- A length is not read with a blank inside, is read with zeros in front, and out of two
parts. -/
theorem resolve_wholeNumber_length :
    let s := Processor.wholeSpec "length" "audit.processor.eventid.length" 32
    s.resolve (.text "1 0") = .ok (.int 32, .malformed) ∧
      s.resolve (.text "0042") = .ok (.int 42, .configured) ∧
      ∃ m n : Nat, s.resolve (.text "12") = .ok (.int m, .configured) ∧
        s.resolve (.text "034") = .ok (.int n, .configured) ∧
        s.resolve (.text "12034") = .ok (.int (m * 1000 + n), .configured) := by
  obtain ⟨hread, hzeros, happend⟩ := resolve_wholeNumber
    (s := Processor.wholeSpec "length" "audit.processor.eventid.length" 32) rfl
  exact ⟨(hread "1 0" (by decide) (by decide)).2 (by simp), hzeros 2 42 (by decide),
    happend "12" "034" (by decide) (by decide) (by simp) (by simp) (by decide)⟩

end FieldSpec
end AuditConfig
