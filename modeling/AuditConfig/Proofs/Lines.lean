import AuditConfig.Log.Line
import AuditConfig.Text.Unquoted

/-!
# What a line says of its event

A line of the log says all of the event that it shows (`Line.Shows.unique`).  An event
written as JSON is the line itself.  The two texts on a console differ in the level, and each
of them is read from the left: the name of the processor holds no closing bracket, a count
ends at the blank after it, and names between brackets say where they end
(`quotedNames_append_inj`).
-/

namespace AuditConfig
namespace Text

/-- A character that two texts do not hold ends both of them. -/
theorem append_cons_inj {x : Char} {cs ds s t : List Char} (hc : x ∉ cs) (hd : x ∉ ds)
    (h : cs ++ x :: s = ds ++ x :: t) : cs = ds ∧ s = t := by
  induction cs generalizing ds with
  | nil =>
    cases ds with
    | nil => exact ⟨rfl, (List.cons.inj h).2⟩
    | cons d ds => exact absurd ((List.cons.inj h).1 ▸ List.mem_cons_self) hd
  | cons c cs ih =>
    cases ds with
    | nil => exact absurd ((List.cons.inj h).1 ▸ List.mem_cons_self) hc
    | cons d ds =>
      obtain ⟨rfl, hrest⟩ := List.cons.inj h
      obtain ⟨rfl, rfl⟩ := ih (fun hx => hc (.tail _ hx)) (fun hx => hd (.tail _ hx)) hrest
      exact ⟨rfl, rfl⟩

end Text

namespace Line

open Text.Quoted (encode encode_append encode_append_inj quote_eq)

/-- The texts of names behind commas. -/
def furtherNames (names : List String) : List Char :=
  names.flatMap fun n => ',' :: ' ' :: encode n.toList

theorem intercalate_encode (name : String) (names : List String) :
    [',', ' '].intercalate (encode name.toList :: names.map fun n => encode n.toList) =
      encode name.toList ++ furtherNames names := by
  induction names generalizing name with
  | nil => simp [furtherNames]
  | cons n names ih =>
    rw [List.map_cons, List.intercalate_cons_cons, ih]
    simp [furtherNames]

theorem quotedNames_nil_append (s : List Char) : (quotedNames []).toList ++ s = '[' :: ']' :: s :=
  rfl

theorem quotedNames_cons_append (name : String) (names : List String) (s : List Char) :
    (quotedNames (name :: names)).toList ++ s =
      '[' :: (encode name.toList ++ (furtherNames names ++ ']' :: s)) := by
  have h : (quotedNames (name :: names)).toList =
      '[' :: (encode name.toList ++ furtherNames names ++ [']']) := by
    rw [← intercalate_encode]
    simp [quotedNames, Function.comp_def]
  simp [h]

theorem furtherNames_append_inj {xs ys : List String} {s t : List Char}
    (h : furtherNames xs ++ ']' :: s = furtherNames ys ++ ']' :: t) : xs = ys ∧ s = t := by
  induction xs generalizing ys with
  | nil =>
    cases ys with
    | nil => exact ⟨rfl, (List.cons.inj h).2⟩
    | cons y ys => exact absurd (List.cons.inj h).1 (by decide)
  | cons x xs ih =>
    cases ys with
    | nil => exact absurd (List.cons.inj h).1 (by decide)
    | cons y ys =>
      simp only [furtherNames, List.flatMap_cons, List.cons_append, List.cons.injEq, true_and,
        List.append_assoc] at h
      obtain ⟨hname, hrest⟩ := encode_append_inj h
      obtain ⟨rfl, rfl⟩ := ih hrest
      exact ⟨by rw [String.toList_inj.1 hname], rfl⟩

/-- **Names between brackets say where they end.** -/
theorem quotedNames_append_inj {xs ys : List String} {s t : List Char}
    (h : (quotedNames xs).toList ++ s = (quotedNames ys).toList ++ t) : xs = ys ∧ s = t := by
  -- the first name of a list begins with a quote, where an empty list has a bracket
  have hquote : ∀ (n : String) (u v : List Char), encode n.toList ++ u ≠ ']' :: v := by
    intro n u v hn
    rw [encode_append] at hn
    rcases quote_eq n.toList with hq | hq <;> rw [hq] at hn <;>
      exact absurd (List.cons.inj hn).1 (by decide)
  cases xs with
  | nil =>
    cases ys with
    | nil => exact ⟨rfl, List.append_cancel_left h⟩
    | cons y ys =>
      rw [quotedNames_nil_append, quotedNames_cons_append] at h
      exact absurd (List.cons.inj h).2.symm (hquote _ _ _)
  | cons x xs =>
    cases ys with
    | nil =>
      rw [quotedNames_cons_append, quotedNames_nil_append] at h
      exact absurd (List.cons.inj h).2 (hquote _ _ _)
    | cons y ys =>
      rw [quotedNames_cons_append, quotedNames_cons_append] at h
      obtain ⟨hname, hrest⟩ := encode_append_inj (List.cons.inj h).2
      obtain ⟨rfl, rfl⟩ := furtherNames_append_inj hrest
      exact ⟨by rw [String.toList_inj.1 hname], rfl⟩

theorem toList_toString_nat (n : Nat) : (toString n).toList = Decimal.digits n := by
  rw [Nat.toString_eq_ofList_toDigits, String.toList_ofList]
  rfl

theorem digits_inj {a b : Nat} (h : Decimal.digits a = Decimal.digits b) : a = b := by
  rw [← Decimal.value_digits a, h, Decimal.value_digits]

theorem blank_not_mem_digits (n : Nat) : ' ' ∉ Decimal.digits n := fun h =>
  absurd (((Decimal.isDigits_iff _).1 (Decimal.isDigits_digits n)).2 _ h) (by decide)

theorem bracket_not_mem_name (p : Processor) : ']' ∉ p.name.toList := by cases p <;> decide

theorem name_inj {p q : Processor} (h : p.name.toList = q.name.toList) : p = q := by
  have hname := congrArg Processor.ofName? (String.toList_inj.1 h)
  rw [Processor.ofName?_name, Processor.ofName?_name] at hname
  exact Option.some.inj hname

theorem toList_builtText (p : Processor) (a d : Nat) : (builtText p a d).toList =
    "[info     ] props.built                    [props.".toList ++ (p.name.toList ++ ']' ::
      (" additional_properties=".toList ++ (Decimal.digits a ++ ' ' ::
        ("defaulted_count=".toList ++ Decimal.digits d)))) := by
  unfold builtText
  simp only [String.toList_append, toList_toString_nat, List.append_assoc]
  rfl

theorem toList_defaultedText (p : Processor) (fs ms : List String) :
    (defaultedText p fs ms).toList =
      "[debug    ] props.defaulted                [props.".toList ++ (p.name.toList ++ ']' ::
        (" fields=".toList ++ ((quotedNames fs).toList ++
          (" malformed=".toList ++ ((quotedNames ms).toList ++ []))))) := by
  unfold defaultedText
  simp only [String.toList_append, List.append_assoc, List.append_nil]
  rfl

/-- **The text of a built object says the processor and both counts.** -/
theorem builtText_inj {p q : Processor} {a b d e : Nat} (h : builtText p a d = builtText q b e) :
    p = q ∧ a = b ∧ d = e := by
  have hlist := congrArg String.toList h
  rw [toList_builtText, toList_builtText] at hlist
  obtain ⟨hname, hcounts⟩ := Text.append_cons_inj (bracket_not_mem_name p)
    (bracket_not_mem_name q) (List.append_cancel_left hlist)
  obtain ⟨ha, hd⟩ := Text.append_cons_inj (blank_not_mem_digits a) (blank_not_mem_digits b)
    (List.append_cancel_left hcounts)
  exact ⟨name_inj hname, digits_inj ha, digits_inj (List.append_cancel_left hd)⟩

/-- **The text of the fields at their defaults says the processor and both lists.** -/
theorem defaultedText_inj {p q : Processor} {fs gs ms ns : List String}
    (h : defaultedText p fs ms = defaultedText q gs ns) : p = q ∧ fs = gs ∧ ms = ns := by
  have hlist := congrArg String.toList h
  rw [toList_defaultedText, toList_defaultedText] at hlist
  obtain ⟨hname, hlists⟩ := Text.append_cons_inj (bracket_not_mem_name p)
    (bracket_not_mem_name q) (List.append_cancel_left hlist)
  obtain ⟨hfields, hrest⟩ := quotedNames_append_inj (List.append_cancel_left hlists)
  obtain ⟨hmalformed, _⟩ := quotedNames_append_inj (List.append_cancel_left hrest)
  exact ⟨name_inj hname, hfields, hmalformed⟩

/-- The two texts differ in the level. -/
theorem builtText_ne_defaultedText (p q : Processor) (a d : Nat) (fs ms : List String) :
    builtText p a d ≠ defaultedText q fs ms := by
  intro h
  have hlist := congrArg String.toList h
  rw [toList_builtText, toList_defaultedText] at hlist
  have hlevel := congrArg (fun cs => cs[1]?) hlist
  exact absurd hlevel (by simp)

/-- **A line shows one event.** -/
theorem Shows.unique {l : Line} {e e' : Event} (h : l.Shows e) (h' : l.Shows e') : e = e' := by
  generalize hl : l = l' at h'
  cases h with
  | json => cases h' with
    | json => exact Line.json.inj hl
    | built => cases hl
    | defaulted => cases hl
  | built => cases h' with
    | json => cases hl
    | built =>
      obtain ⟨rfl, rfl, rfl⟩ := builtText_inj (Line.console.inj hl)
      rfl
    | defaulted => exact absurd (Line.console.inj hl) (builtText_ne_defaultedText _ _ _ _ _ _)
  | defaulted => cases h' with
    | json => cases hl
    | built => exact absurd (Line.console.inj hl).symm (builtText_ne_defaultedText _ _ _ _ _ _)
    | defaulted =>
      obtain ⟨rfl, rfl, rfl⟩ := defaultedText_inj (Line.console.inj hl)
      rfl

end Line
end AuditConfig
