import AuditConfig.Props.Report
import AuditConfig.Value.Long

/-!
# Resolving all specs of a class

Specs are resolved one after the other, each from what the raw map holds under its
own key, so that the result for all of them is read off the results for each
(`resolveAll_eq_error_iff`, `exists_resolveAll_iff`), and two raw maps give the same result
if each spec resolves to the same in both (`resolveAll_congr`).

A spec fails on what has no text, and a spec of a whole number also on a text of more digits
than are read; it resolves everything else (`FieldSpec.resolve_eq_error_iff`).

A raw configuration (`RawConfig`) is a raw map whose values are texts or nothing, so that
there is one thing that a spec cannot resolve in it: more digits than are read, given
to a spec of a whole number (`RawConfig.Overlong`).  A raw configuration of texts that
are no longer than that is overlong for no spec (`RawConfig.IsShort.not_overlong`).
-/

namespace AuditConfig

theorem resolveAll_cons (raw : Entries Key Value) (s : FieldSpec) (rest : List FieldSpec) :
    resolveAll raw (s :: rest) = (s.resolve (rawAt raw s.key)).bind fun r =>
      (resolveAll raw rest).map (⟨s, r.1, r.2⟩ :: ·) := by
  rw [resolveAll]
  cases s.resolve (rawAt raw s.key) with
  | error e => rfl
  | ok r => cases resolveAll raw rest <;> rfl

/-- **Resolving fails with the failure of the first spec that does not resolve.** -/
theorem resolveAll_eq_error_iff (raw : Entries Key Value) (specs : List FieldSpec)
    (e : DigitLimit) : resolveAll raw specs = .error e ↔
      ∃ before s after, specs = before ++ s :: after ∧
        (∀ t ∈ before, ∃ r, t.resolve (rawAt raw t.key) = .ok r) ∧
        s.resolve (rawAt raw s.key) = .error e := by
  induction specs with
  | nil => simp [resolveAll]
  | cons t rest ih =>
    rw [resolveAll_cons]
    cases ht : t.resolve (rawAt raw t.key) with
    | error f =>
      constructor
      · intro h
        cases h
        exact ⟨[], t, rest, rfl, by simp, ht⟩
      · rintro ⟨before, s, after, hs, hb, he⟩
        cases before with
        | nil =>
          obtain ⟨rfl, rfl⟩ := List.cons.inj hs
          rw [ht] at he
          cases he
          rfl
        | cons u before =>
          obtain ⟨rfl, rfl⟩ := List.cons.inj hs
          obtain ⟨r, hr⟩ := hb t (.head _)
          rw [ht] at hr
          cases hr
    | ok r =>
      change (resolveAll raw rest).map _ = _ ↔ _
      rw [map_eq_error_iff, ih]
      constructor
      · rintro ⟨before, s, after, rfl, hb, he⟩
        refine ⟨t :: before, s, after, rfl, fun u hu => ?_, he⟩
        rcases List.mem_cons.1 hu with rfl | hu
        · exact ⟨r, ht⟩
        · exact hb u hu
      · rintro ⟨before, s, after, hs, hb, he⟩
        cases before with
        | nil =>
          obtain ⟨rfl, rfl⟩ := List.cons.inj hs
          rw [ht] at he
          cases he
        | cons u before =>
          obtain ⟨rfl, rfl⟩ := List.cons.inj hs
          exact ⟨before, s, after, rfl, fun v hv => hb v (.tail _ hv), he⟩

/-- **All specs resolve exactly when each of them does.** -/
theorem exists_resolveAll_iff (raw : Entries Key Value) (specs : List FieldSpec) :
    (∃ rs, resolveAll raw specs = .ok rs) ↔
      ∀ s ∈ specs, ∃ r, s.resolve (rawAt raw s.key) = .ok r := by
  constructor
  · rintro ⟨rs, h⟩ s hs
    rw [← map_spec_of_resolveAll h] at hs
    obtain ⟨r, hr, rfl⟩ := List.mem_map.1 hs
    exact ⟨_, resolve_of_mem_resolveAll h r hr⟩
  · intro h
    cases hr : resolveAll raw specs with
    | ok rs => exact ⟨rs, rfl⟩
    | error e =>
      obtain ⟨before, s, after, rfl, _, he⟩ := (resolveAll_eq_error_iff ..).1 hr
      obtain ⟨r, hr⟩ := h s (by simp)
      rw [he] at hr
      cases hr

/-- **Resolving asks a raw map for the keys of the specs and for nothing else.** -/
theorem resolveAll_congr {raw raw' : Entries Key Value} {specs : List FieldSpec}
    (h : ∀ s ∈ specs, s.resolve (rawAt raw s.key) = s.resolve (rawAt raw' s.key)) :
    resolveAll raw specs = resolveAll raw' specs := by
  induction specs with
  | nil => rfl
  | cons s rest ih =>
    rw [resolveAll_cons, resolveAll_cons, h s (.head _), ih fun t ht => h t (.tail _ ht)]

/-- **A text is not taken for a value of a type only if it is a whole number of more
digits than are read.** -/
theorem FieldType.coerce_eq_error_iff (t : FieldType) (cs : List Char) (e : DigitLimit) :
    t.coerce cs = .error e ↔ t = .integer ∧ Decimal.isDigits cs = true ∧
      Decimal.limit < cs.length ∧ e = .reading cs.length := by
  cases t with
  | string => simp [coerce]
  | boolean => simp [coerce]
  | integer =>
    cases hd : Decimal.isDigits cs with
    | false => simp [coerce, hd]
    | true =>
      rw [coerce, if_pos hd]
      by_cases hl : cs.length ≤ Decimal.limit
      · rw [show Decimal.read cs = .ok (Decimal.value cs) from if_pos hl]
        simp [Functor.map, Except.map, Nat.not_lt.2 hl]
      · rw [show Decimal.read cs = .error (.reading cs.length) from if_neg hl]
        simp [Functor.map, Except.map, Nat.lt_of_not_le hl, eq_comm]

namespace FieldSpec

/-- **What a spec fails on,** and why: a value that is given and has no text, or one for a
whole number whose text is of digits only, but of more than are read. -/
def FailsOn (s : FieldSpec) (raw : Value) (d : DigitLimit) : Prop :=
  raw ≠ .null ∧ raw ≠ .text "" ∧
    (raw.HoldsLong ∧ d = .writing ∨
      s.type = .integer ∧ ∃ cs, raw.plain = .ok cs ∧ (∀ c ∈ cs, c.isDigit = true) ∧
        Decimal.limit < cs.length ∧ d = .reading cs.length)

/-- Every spec fails on what is not written. -/
theorem failsOn_of_holdsLong (s : FieldSpec) {raw : Value} (h : raw.HoldsLong) :
    s.FailsOn raw .writing := by
  refine ⟨?_, ?_, .inl ⟨h, rfl⟩⟩
  · rintro rfl
    exact Value.not_holdsLong_null h
  · rintro rfl
    exact Value.not_holdsLong_text "" h

/-- A spec resolves unless it fails. -/
theorem resolve_eq_error_iff (s : FieldSpec) (raw : Value) (d : DigitLimit) :
    s.resolve raw = .error d ↔ s.FailsOn raw d := by
  rw [FailsOn, ← and_assoc, ← not_or, ← isMissing_iff, Bool.not_eq_true]
  cases hm : isMissing raw with
  | true => simp [resolve_of_isMissing s hm]
  | false =>
    rw [resolve_of_not_isMissing s hm, eq_self, true_and]
    have hplain := raw.writtenUnless_plain
    cases hp : raw.plain with
    | error e =>
      obtain ⟨rfl, hlong⟩ := (hplain e).1 hp
      change Except.error .writing = .error d ↔ _
      constructor
      · rintro ⟨⟩
        exact .inl ⟨hlong, rfl⟩
      · rintro (⟨_, rfl⟩ | ⟨_, _, hcs, _⟩)
        · rfl
        · cases hcs
    | ok cs =>
      have hlong := hplain.not_of_ok hp
      change (s.type.coerce cs).map _ = _ ↔ _
      rw [map_eq_error_iff, FieldType.coerce_eq_error_iff, Decimal.isDigits_iff]
      have hne : Decimal.limit < cs.length → cs ≠ [] := by rintro h rfl; cases h
      simp only [hlong, false_and, false_or, Except.ok.injEq, exists_eq_left']
      constructor
      · rintro ⟨ht, ⟨_, hd⟩, hl, he⟩
        exact ⟨ht, hd, hl, he⟩
      · rintro ⟨ht, hd, hl, he⟩
        exact ⟨ht, ⟨hne hl, hd⟩, hl, he⟩

theorem exists_resolve_iff (s : FieldSpec) (raw : Value) :
    (∃ r, s.resolve raw = .ok r) ↔ ∀ d, ¬ s.FailsOn raw d := by
  simp only [exists_eq_ok_iff, ne_eq, resolve_eq_error_iff]

/-- A text that is not empty resolves to what it is coerced to, or to the default. -/
theorem resolve_text (s : FieldSpec) {t : String} (h : t ≠ "") :
    s.resolve (.text t) = (s.type.coerce t.toList).map fun
      | some v => (v, .configured)
      | none => (s.default, .malformed) := by
  have hm : isMissing (.text t) = false := by simp [isMissing, h]
  rw [resolve_of_not_isMissing s hm, Value.plain_text]
  rfl

end FieldSpec

/-- A raw map of texts, in which a key can hold nothing. -/
abbrev RawConfig : Type := Table (Option String)

namespace RawConfig

/-- A text or nothing as a value. -/
def valueOf (o : Option String) : Value := (o.map Value.text).getD .null

/-- A raw configuration as a raw map. -/
def entries (raw : RawConfig) : Entries Key Value where
  toList := raw.toList.map fun b => (.text b.1, valueOf b.2)
  nodup := by
    rw [List.map_map, show Prod.fst ∘ (fun b : String × Option String =>
      (Key.text b.1, valueOf b.2)) = Key.text ∘ Prod.fst from rfl, ← List.map_map]
    exact List.Pairwise.map Key.text (fun _ _ hne h => hne (Key.text.inj h)) raw.nodup

/-- A raw configuration as a raw value. -/
def value (raw : RawConfig) : Value := .ofEntries raw.entries

theorem get?_entries (raw : RawConfig) (key : String) :
    raw.entries.get? (.text key) = (raw.get? key).map valueOf := by
  obtain ⟨l, hl⟩ := raw
  simp only [entries, Entries.get?]
  clear hl
  induction l with
  | nil => rfl
  | cons b rest ih =>
    rw [List.map_cons, Entries.lookup_cons_eq, Entries.lookup_cons_eq, ih]
    by_cases h : key = b.1
    · simp [h]
    · simp [h]

theorem rawAt_entries (raw : RawConfig) (key : String) :
    rawAt raw.entries key = valueOf (raw.get? key).join := by
  rw [rawAt, get?_entries]
  cases raw.get? key with
  | none => rfl
  | some o => cases o <;> rfl

/-- A raw configuration gives a spec of a whole number a text of more digits than are
read. -/
def Overlong (raw : RawConfig) (s : FieldSpec) (t : String) : Prop :=
  s.type = .integer ∧ raw.get? s.key = some (some t) ∧ Decimal.isDigits t.toList = true ∧
    Decimal.limit < t.toList.length

/-- What is given to a spec of a raw configuration resolves, unless it is overlong. -/
theorem resolve_valueOf_eq_error_iff (s : FieldSpec) (o : Option String) (e : DigitLimit) :
    s.resolve (valueOf o) = .error e ↔ ∃ t : String, s.type = .integer ∧ o = some t ∧
      Decimal.isDigits t.toList = true ∧ Decimal.limit < t.toList.length ∧
        e = .reading t.toList.length := by
  rw [FieldSpec.resolve_eq_error_iff]
  cases o with
  | none => simp [FieldSpec.FailsOn, valueOf]
  | some t =>
    have hlong := Value.not_holdsLong_text t
    change s.FailsOn (.text t) e ↔ _
    by_cases ht : t = ""
    · simp [FieldSpec.FailsOn, ht, Decimal.isDigits]
    · simp [FieldSpec.FailsOn, hlong, ht, Value.plain_text, Decimal.isDigits_iff]

/-- What a spec resolves to is its default or what is given to it, coerced. -/
theorem value_of_resolve {s : FieldSpec} {o : Option String} {v : Value} {outcome : Outcome}
    (h : s.resolve (valueOf o) = .ok (v, outcome)) :
    v = s.default ∨ ∃ t : String, o = some t ∧ s.type.coerce t.toList = .ok (some v) := by
  rcases FieldSpec.default_or_coerced h with hd | ⟨cs, hm, hplain, hc⟩
  · exact .inl hd
  · cases o with
    | none => cases hm
    | some t => cases hplain; exact .inr ⟨t, rfl, hc⟩

/-- **In a raw configuration only overlong texts do not resolve.** -/
theorem resolve_eq_error_iff (raw : RawConfig) (s : FieldSpec) (e : DigitLimit) :
    s.resolve (rawAt raw.entries s.key) = .error e ↔
      ∃ t, raw.Overlong s t ∧ e = .reading t.toList.length := by
  simp only [rawAt_entries, resolve_valueOf_eq_error_iff, Overlong, Option.join_eq_some_iff,
    and_assoc]

theorem exists_resolve_iff (raw : RawConfig) (s : FieldSpec) :
    (∃ r, s.resolve (rawAt raw.entries s.key) = .ok r) ↔ ∀ t, ¬ raw.Overlong s t := by
  simp only [exists_eq_ok_iff, ne_eq, resolve_eq_error_iff]
  exact ⟨fun h t ht => h _ ⟨t, ht, rfl⟩, fun h _ ⟨t, ht, _⟩ => h t ht⟩

/-- No text is longer than a number that is read. -/
def IsShort (raw : RawConfig) : Prop :=
  ∀ b ∈ raw.toList, ∀ t ∈ b.2, t.toList.length ≤ Decimal.limit

instance (raw : RawConfig) : Decidable raw.IsShort :=
  inferInstanceAs (Decidable (∀ b ∈ raw.toList, ∀ t ∈ b.2, t.toList.length ≤ Decimal.limit))

/-- A short raw configuration is overlong for no spec. -/
theorem IsShort.not_overlong {raw : RawConfig} (h : raw.IsShort) (s : FieldSpec) (t : String) :
    ¬ raw.Overlong s t := by
  rintro ⟨_, hget, _, hlong⟩
  have hmem := (raw.mem_toList_iff s.key (some t)).2 hget
  exact absurd (h _ hmem t rfl) (Nat.not_le.2 hlong)

/-- One text under one key. -/
def single (key text : String) : RawConfig := Entries.empty.insert key (some text)

theorem get?_single (key text k : String) :
    (single key text).get? k = if k = key then some (some text) else none := by
  rw [single, Entries.get?_insert, Entries.get?_empty]

theorem isShort_single_iff (key text : String) :
    (single key text).IsShort ↔ text.toList.length ≤ Decimal.limit := by
  have hlist : (single key text).toList = [(key, some text)] := rfl
  simp [IsShort, hlist]

end RawConfig
end AuditConfig
