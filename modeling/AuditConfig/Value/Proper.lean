import AuditConfig.Value.Equal
import AuditConfig.Value.Long

/-!
# Proper values

A value is proper if the maps in it are maps: no key is the same as another one of the map,
however deep the map stands (`Value.Proper`).  A proper value is equal to itself
(`Value.equal_self`), what is not a number in it included, since a list or a map compares
what it holds as it is.
-/

namespace AuditConfig

namespace Value

theorem scalarEqual_self {v : Value} (h : v.key?.isSome) : v.scalarEqual v = true := by
  cases v with
  | float x => exact x.equal_self
  | bool b => cases b <;> rfl
  | list vs => cases h
  | map es => cases h
  | _ => simp [scalarEqual, integer?]

end Value

/-- A key is the same as itself. -/
theorem Key.same_self (k : Key) : k.same k = true :=
  Value.scalarEqual_self (Option.isSome_of_eq_some k.key?_value)

namespace Value

/-- In every map that stands in the value no key is the same as one before it. -/
def Proper (v : Value) : Prop :=
  ∀ es, Within (.map es) v → (es.map (·.1)).Pairwise fun k l => l.same k = false

/-- What holds no values is proper. -/
theorem proper_of_key {v : Value} (h : v.key?.isSome) : v.Proper := by
  intro es hw
  cases hw with
  | self => cases h
  | item => cases h
  | key => cases h
  | bound => cases h

theorem Proper.item {vs : List Value} (h : (list vs).Proper) {v : Value} (hv : v ∈ vs) :
    v.Proper := fun es hw => h es (.item hv hw)

theorem Proper.bound {es : List (Key × Value)} (h : (map es).Proper) {b : Key × Value}
    (hb : b ∈ es) : b.2.Proper := fun fs hw => h fs (.bound hb hw)

/-- A map of proper values under keys that are not the same is proper. -/
theorem proper_map {es : List (Key × Value)}
    (hkeys : (es.map (·.1)).Pairwise fun k l => l.same k = false)
    (hvalues : ∀ b ∈ es, b.2.Proper) : (map es).Proper := by
  intro fs hw
  cases hw with
  | self => exact hkeys
  | @key k v _ hb hw => exact proper_of_key (Option.isSome_of_eq_some k.key?_value) fs hw
  | bound hb hw => exact hvalues _ hb fs hw

/-- Of the bindings of a map the first that has the same key as one of them is that one. -/
theorem find?_same {es : List (Key × Value)}
    (hkeys : (es.map (·.1)).Pairwise fun k l => l.same k = false) {b : Key × Value}
    (hb : b ∈ es) : es.find? (fun f => b.1.same f.1) = some b := by
  induction es with
  | nil => cases hb
  | cons f es ih =>
    rw [List.map_cons, List.pairwise_cons] at hkeys
    rcases List.mem_cons.1 hb with rfl | hb
    · simp [Key.same_self]
    · have hapart : b.1.same f.1 = false := hkeys.1 b.1 (List.mem_map_of_mem hb)
      rw [List.find?_cons_of_neg (by simp [hapart]), ih hkeys.2 hb]

mutual

/-- **A proper value is equal to itself.** -/
theorem equal_self (v : Value) (h : v.Proper) : v.equal v = true := by
  cases v with
  | list vs => exact equalItems_self vs fun v hv => h.item hv
  | map es =>
    rw [equal, decide_eq_true rfl, Bool.true_and]
    exact equalEntries_self es es (fun b hb => hb) (h es .self) fun b hb => h.bound hb
  | null => exact scalarEqual_self (v := .null) rfl
  | bool b => exact scalarEqual_self (v := .bool b) rfl
  | int n => exact scalarEqual_self (v := .int n) rfl
  | float x => exact scalarEqual_self (v := .float x) rfl
  | text s => exact scalarEqual_self (v := .text s) rfl

theorem equalItems_self (vs : List Value) (h : ∀ v ∈ vs, v.Proper) : equalItems vs vs = true := by
  cases vs with
  | nil => rfl
  | cons v vs =>
    rw [equalItems, equal_self v (h v (.head _)), equalItems_self vs fun w hw => h w (.tail _ hw)]
    rfl

/-- Bindings of a map are bound to equal values in it. -/
theorem equalEntries_self (es fs : List (Key × Value)) (hsub : ∀ b ∈ es, b ∈ fs)
    (hkeys : (fs.map (·.1)).Pairwise fun k l => l.same k = false)
    (hvalues : ∀ b ∈ es, b.2.Proper) : equalEntries es fs = true := by
  cases es with
  | nil => rfl
  | cons b es =>
    obtain ⟨k, v⟩ := b
    have hfind : fs.find? (fun f => k.same f.1) = some (k, v) := find?_same hkeys (hsub _ (.head _))
    have hv : v.equal v = true := equal_self v (hvalues _ (.head _))
    have hrest : equalEntries es fs = true := equalEntries_self es fs
      (fun b hb => hsub b (.tail _ hb)) hkeys fun b hb => hvalues b (.tail _ hb)
    simp [equalEntries, hfind, hv, hrest]

end

/-- A map of names is proper if the values in it are. -/
theorem proper_ofTable {t : Table Value}
    (h : ∀ name v, t.get? name = some v → v.Proper) : (ofTable t).Proper := by
  refine proper_map ?_ fun b hb => ?_
  · have hkeys : ((t.toList.map fun b => (Key.text b.1, b.2)).map (·.1)) =
        (t.toList.map (·.1)).map Key.text := by
      simp
    have hsame : ∀ a b : String, a ≠ b → (Key.text b).same (.text a) = false := by
      intro a b hne
      simp [Key.same, Key.value, scalarEqual, Ne.symm hne]
    rw [hkeys]
    exact List.Pairwise.map Key.text hsame t.nodup
  · obtain ⟨f, hf, rfl⟩ := List.mem_map.1 hb
    exact h f.1 f.2 ((t.mem_toList_iff f.1 f.2).1 hf)

end Value
end AuditConfig
