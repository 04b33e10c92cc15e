import AuditConfig.Value.Text

/-!
# Which values have a text

A value stands in another one if it is that value or stands somewhere in a list or a map that
the other is, be it as the key of a map (`Value.Within`).  A value has no text exactly if a whole
number of more digits than are written stands in it (`Value.writtenUnless_plain`), however deep.

What is put together from texts is written unless one of them is not; `WrittenUnless.bind` and
`WrittenUnless.map` say so once for lists and maps.
-/

namespace AuditConfig

/-- Something is written unless `p` holds: then a number in it has too many digits. -/
def WrittenUnless {α : Type} (x : Except DigitLimit α) (p : Prop) : Prop :=
  ∀ e, x = .error e ↔ e = .writing ∧ p

namespace WrittenUnless

variable {α β : Type} {x : Except DigitLimit α} {f : α → Except DigitLimit β} {p q : Prop}

theorem ok (a : α) (hp : ¬ p) : WrittenUnless (.ok a) p := fun e => by simp [hp]

theorem not_of_ok (hx : WrittenUnless x p) {a : α} (ha : x = .ok a) : ¬ p := by
  intro hp
  cases ha.symm.trans ((hx .writing).2 ⟨rfl, hp⟩)

theorem bind (hx : WrittenUnless x p) (hf : ∀ a, WrittenUnless (f a) q) :
    WrittenUnless (x >>= f) (p ∨ q) := by
  intro e
  cases hcases : x with
  | error e' =>
    obtain ⟨rfl, hp⟩ := (hx e').1 hcases
    change Except.error .writing = .error e ↔ _
    simp [hp, eq_comm]
  | ok a =>
    rw [or_iff_right (hx.not_of_ok hcases)]
    exact hf a e

/-- What is made of something that is written fails as that does. -/
theorem map (hx : WrittenUnless x p) (g : α → β) :
    WrittenUnless (x >>= fun a => .ok (g a)) p := by
  have h := hx.bind fun a => ok (g a) not_false
  rwa [or_false] at h

end WrittenUnless

theorem Decimal.writtenUnless (n : Int) :
    WrittenUnless (write n) (limit < (digits n.natAbs).length) := by
  intro e
  have hshort := length_digits_le_iff n.natAbs (k := limit) (by decide)
  unfold write
  split
  · next h => simp [Nat.not_lt.2 (hshort.2 h)]
  · next h => simp [Nat.lt_of_not_le (mt hshort.1 h), eq_comm]

namespace Value

/-- **A value stands in another one:** it is that value, an item of a list, a value or a key
of a map, or stands in one of these. -/
inductive Within (w : Value) : Value → Prop where
  | self : Within w w
  | item {v : Value} {vs : List Value} (hv : v ∈ vs) (h : Within w v) : Within w (.list vs)
  | key {k : Key} {v : Value} {es : List (Key × Value)} (hb : (k, v) ∈ es)
      (h : Within w k.value) : Within w (.map es)
  | bound {k : Key} {v : Value} {es : List (Key × Value)} (hb : (k, v) ∈ es)
      (h : Within w v) : Within w (.map es)

/-- A whole number of more digits than are written stands in a value. -/
def HoldsLong (v : Value) : Prop :=
  ∃ n : Int, Within (.int n) v ∧ Decimal.limit < (Decimal.digits n.natAbs).length

theorem holdsLong_int_iff (n : Int) :
    (int n).HoldsLong ↔ Decimal.limit < (Decimal.digits n.natAbs).length := by
  constructor
  · rintro ⟨_, hw, hn⟩
    cases hw
    exact hn
  · exact fun hn => ⟨n, .self, hn⟩

theorem holdsLong_list_iff (vs : List Value) :
    (list vs).HoldsLong ↔ ∃ v ∈ vs, v.HoldsLong := by
  constructor
  · rintro ⟨n, hw, hn⟩
    cases hw with
    | item hv hw => exact ⟨_, hv, n, hw, hn⟩
  · rintro ⟨v, hv, n, hw, hn⟩
    exact ⟨n, .item hv hw, hn⟩

theorem holdsLong_map_iff (es : List (Key × Value)) :
    (map es).HoldsLong ↔ ∃ b ∈ es, b.1.value.HoldsLong ∨ b.2.HoldsLong := by
  constructor
  · rintro ⟨n, hw, hn⟩
    cases hw with
    | key hb hw => exact ⟨_, hb, .inl ⟨n, hw, hn⟩⟩
    | bound hb hw => exact ⟨_, hb, .inr ⟨n, hw, hn⟩⟩
  · rintro ⟨b, hb, ⟨n, hw, hn⟩ | ⟨n, hw, hn⟩⟩
    · exact ⟨n, .key hb hw, hn⟩
    · exact ⟨n, .bound hb hw, hn⟩

/-- In what holds no values only a whole number can be long. -/
theorem not_holdsLong {v : Value} (hk : v.key?.isSome) (hn : ∀ n, v ≠ .int n) :
    ¬ v.HoldsLong := by
  rintro ⟨n, hw, _⟩
  cases hw with
  | self => exact hn n rfl
  | item => cases hk
  | key => cases hk
  | bound => cases hk

theorem not_holdsLong_null : ¬ null.HoldsLong := not_holdsLong rfl (by simp)

theorem not_holdsLong_text (s : String) : ¬ (text s).HoldsLong := not_holdsLong rfl (by simp)

end Value

/-- A key has no quoted form exactly if it is a whole number that is too long. -/
theorem Key.writtenUnless (k : Key) : WrittenUnless k.quoted k.value.HoldsLong := by
  cases k with
  | int n => simpa only [quoted, value, Value.holdsLong_int_iff] using Decimal.writtenUnless n
  | null => exact .ok _ Value.not_holdsLong_null
  | bool b => exact .ok _ (Value.not_holdsLong rfl (by simp [value]))
  | float x => exact .ok _ (Value.not_holdsLong rfl (by simp [value]))
  | text s => exact .ok _ (Value.not_holdsLong_text s)

namespace Value

mutual

/-- A value has no quoted form exactly if a whole number stands in it that is too long. -/
theorem writtenUnless (v : Value) : WrittenUnless v.quoted v.HoldsLong := by
  cases v with
  | null => exact Key.null.writtenUnless
  | bool b => exact (Key.bool b).writtenUnless
  | int n => exact (Key.int n).writtenUnless
  | float x => exact (Key.float x).writtenUnless
  | text s => exact (Key.text s).writtenUnless
  | list vs =>
    rw [holdsLong_list_iff, quoted]
    exact (writtenUnless_items vs).map _
  | map es =>
    rw [holdsLong_map_iff, quoted]
    exact (writtenUnless_entries es).map _

theorem writtenUnless_items (vs : List Value) :
    WrittenUnless (quotedItems vs) (∃ v ∈ vs, v.HoldsLong) := by
  cases vs with
  | nil => exact .ok _ (by simp)
  | cons v vs =>
    have hv := writtenUnless v
    have hvs := writtenUnless_items vs
    simp only [quotedItems, List.mem_cons, exists_eq_or_imp]
    exact hv.bind fun t => hvs.map _

theorem writtenUnless_entries (es : List (Key × Value)) :
    WrittenUnless (quotedEntries es) (∃ b ∈ es, b.1.value.HoldsLong ∨ b.2.HoldsLong) := by
  cases es with
  | nil => exact .ok _ (by simp)
  | cons b es =>
    obtain ⟨k, v⟩ := b
    have hv := writtenUnless v
    have hes := writtenUnless_entries es
    simp only [quotedEntries, List.mem_cons, exists_eq_or_imp, or_assoc]
    exact k.writtenUnless.bind fun n => hv.bind fun t => hes.map _

end

/-- **A value has no text exactly if a whole number stands in it that is too long.** -/
theorem writtenUnless_plain (v : Value) : WrittenUnless v.plain v.HoldsLong := by
  cases v with
  | text s => exact .ok _ (not_holdsLong_text s)
  | null => exact writtenUnless .null
  | bool b => exact writtenUnless (.bool b)
  | int n => exact writtenUnless (.int n)
  | float x => exact writtenUnless (.float x)
  | list vs => exact writtenUnless (.list vs)
  | map es => exact writtenUnless (.map es)

end Value
end AuditConfig
