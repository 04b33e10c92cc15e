import AuditConfig.Proofs.Buildable
import AuditConfig.Proofs.Reading

/-!
# What becomes of what no spec asks for

A raw map can hold more than the specs of a class ask for, and a class can have fields
that no spec names.

The entries of a raw map fall into three parts (`size_passThrough`): those under the key
of a spec, those under any other key that hold nothing, and the rest, which is what is
passed through.  Whether a key is recognized is asked of the keys of the specs alone, so
that an entry under the name of a field is passed through as well.

A field that no spec names is given no value by the raw map.  A new object holds there
what the declaration has for it, which is nothing if the field has to be given a value
(`holding?_of_unnamed`).
-/

namespace AuditConfig

namespace Entries

variable {κ α : Type}

/-- A test divides the bindings in two. -/
theorem size_filter_add (p : κ → α → Bool) (e : Entries κ α) :
    (e.filter p).size + (e.filter fun k v => !p k v).size = e.size := by
  simp only [size, filter, ← List.countP_eq_length_filter]
  rw [List.length_eq_countP_add_countP fun b => p b.1 b.2]
  simp

theorem filter_filter (p q : κ → α → Bool) (e : Entries κ α) :
    (e.filter p).filter q = e.filter fun k v => p k v && q k v := by
  apply ext_toList
  simp only [filter, List.filter_filter, Bool.and_comm]

end Entries

namespace FieldDefault

/-- What a field with the default holds that is given no value. -/
def holding? (d : FieldDefault) : Option Holding :=
  (d.value?.map .value).or (d.fixture?.map .fixture)

/-- A field is left with nothing exactly if it has to be given a value. -/
theorem holding?_eq_none_iff (d : FieldDefault) : d.holding? = none ↔ d.isRequired = true := by
  cases hd : d.isRequired with
  | false =>
    rcases holds_of_not_isRequired hd with h | h <;>
      obtain ⟨x, hx⟩ := Option.isSome_iff_exists.1 h <;> simp [holding?, hx]
  | true =>
    cases d with
    | required => simp [holding?, value?, fixture?]
    | _ => cases hd

end FieldDefault

namespace PropsClass

variable {c : PropsClass}

theorem recognizes_eq_true_iff (c : PropsClass) (k : Key) :
    c.recognizes k = true ↔ ∃ s ∈ c.specs, k = .text s.key := by
  cases k <;> simp [recognizes, keys, eq_comm]

theorem recognizes_eq_false_iff (c : PropsClass) (k : Key) :
    c.recognizes k = false ↔ ∀ s ∈ c.specs, k ≠ .text s.key := by
  rw [← Bool.not_eq_true, recognizes_eq_true_iff]
  simp

/-- **Every entry of a raw map is recognized, passed through or holds nothing,** and no
entry is two of these. -/
theorem size_passThrough (c : PropsClass) (raw : Entries Key Value) :
    raw.size = (c.passThrough raw).size + (raw.filter fun k _ => c.recognizes k).size +
      (raw.filter fun k v => !c.recognizes k && v.isNull).size := by
  -- first by the keys, and what is not recognized then by what it holds
  have hkeys := raw.size_filter_add fun k _ => c.recognizes k
  have hnulls := (raw.filter fun k _ => !c.recognizes k).size_filter_add fun _ v => v.isNull
  rw [Entries.filter_filter, Entries.filter_filter] at hnulls
  rw [passThrough]
  omega

theorem get?_standingFixtures (fields : Table FieldDecl) (named : Table Value)
    (additional : Option Value) {name : String} (hn : name ≠ additionalName) :
    (standingFixtures fields named additional).get? name =
      (fields.get? name).bind fun f =>
        if (named.get? name).isSome then none else f.default.fixture? := by
  rw [standingFixtures, Entries.get?_filterMap]
  simp only [if_neg hn]

theorem defaultAnew_of_ne_lostSlot (c : PropsClass) (name : String) {d : FieldDefault}
    (hd : ∀ shown, d ≠ .lostSlot shown) : c.defaultAnew name d = d := by
  cases d with
  | lostSlot shown => exact absurd rfl (hd shown)
  | _ => rfl

/-- **A field that no spec names holds what its declaration has for it,** whatever the raw
map holds. -/
theorem holding?_of_unnamed {raw : Entries Key Value} {r : Report}
    (hr : c.reportEntries raw = .ok r) {name : String} {f : FieldDecl}
    (hf : c.fields.get? name = some f) (hn : name ≠ additionalName)
    (hs : ∀ s ∈ c.specs, s.name ≠ name) :
    r.props.holding? name = (c.defaultAnew name f.default).holding? := by
  obtain ⟨rs, hrs, hprops⟩ := exists_make_of_reportEntries hr
  have hanew : c.fieldsAnew.get? name = some ⟨f.annotation, c.defaultAnew name f.default⟩ := by
    rw [get?_fieldsAnew, hf]
    rfl
  have hvalue : (c.namedValues rs).get? name = (c.defaultAnew name f.default).value? := by
    rw [get?_namedValues, get?_namedFieldsAnew c hn, hanew, Option.bind_some,
      not_given_of_unnamed (map_spec_of_resolveAll hrs) hs, Option.none_or]
  have hheld : r.props.held? name = (c.defaultAnew name f.default).value? := by
    rw [hprops, Props.held?, if_neg hn, ← hvalue]
    exact Option.or_none
  have hstanding : r.props.standing.get? name =
      if (c.defaultAnew name f.default).value?.isSome then none
      else (c.defaultAnew name f.default).fixture? := by
    rw [hprops]
    refine (get?_standingFixtures _ _ _ hn).trans ?_
    rw [hanew, Option.bind_some, hvalue]
  rw [Props.holding?, FieldDefault.holding?, hheld, hstanding]
  -- a fixture stands where there is no value, so that the first of the two decides
  cases (c.defaultAnew name f.default).value? <;> rfl

/-- **Pass-through is exact.**  The additional properties of an object that is built are
the entries of the raw map that hold something and are under no key of a spec, with the
values that they have there, and no others; every entry of the raw map is one of them, is
under the key of a spec, or holds nothing.

Of the fields, one that no spec names holds what its declaration has for it: the default,
or nothing exactly if there is none.  A slot that the class lost to the field is the one
default that is looked up again under the name (`defaultAnew`). -/
theorem passThrough_exact {raw : Value} {o : Props} (hb : c.build raw = .ok o) :
    (∃ entries e, raw.entries? = some entries ∧ o.additional = some (.ofEntries e) ∧
      (∀ k v, e.get? k = some v ↔
        entries.get? k = some v ∧ v ≠ .null ∧ ∀ s ∈ c.specs, k ≠ .text s.key) ∧
      entries.size = e.size + (entries.filter fun k _ => c.recognizes k).size +
        (entries.filter fun k v => !c.recognizes k && v.isNull).size ∧
      ∀ found, o.found additionalName = .ok found ↔
        c.Reads additionalName ∧ found = .value (.ofEntries e)) ∧
    ∀ name f, c.fields.get? name = some f → name ≠ additionalName →
      (∀ s ∈ c.specs, s.name ≠ name) →
      o.holding? name = (c.defaultAnew name f.default).holding? ∧
      ((∀ shown, f.default ≠ .lostSlot shown) → o.holding? name = f.default.holding?) ∧
      (o.holding? name = none ↔ f.default.isRequired = true) ∧
      ∀ held, o.holding? name = some held → ∀ found,
        o.found name = .ok found ↔ c.Reads name ∧ found = held := by
  obtain ⟨entries, r, hraw, hr, rfl⟩ := (build_eq_ok_iff ..).1 hb
  constructor
  · have hheld := held?_additional_of_reportEntries hr
    refine ⟨entries, c.passThrough entries, hraw, hheld, fun k v => ?_, c.size_passThrough entries,
      found_of_reportEntries hr hheld⟩
    rw [get?_passThrough, recognizes_eq_false_iff]
    exact and_congr_right fun _ => and_comm
  · intro name f hf hn hs
    have hholding := holding?_of_unnamed hr hf hn hs
    refine ⟨hholding, fun hd => ?_, ?_, fun held hh found => found_of_holding hr hh found⟩
    · rw [hholding, c.defaultAnew_of_ne_lostSlot name hd]
    · rw [hholding, FieldDefault.holding?_eq_none_iff, isRequired_defaultAnew]

/-- A definition with two fields that no spec names, of which one has no default. -/
def noted : Definition where
  name := "Noted"
  home := "__main__"
  specs := some [⟨"x", "a", .string, .text "d"⟩]
  fields := [("x", ⟨.text, .value (.text "d")⟩), ("note", ⟨.text, .value (.text "kept")⟩),
    ("bare", ⟨.text, .required⟩)]

/-- A raw map with an entry under the name of each of them. -/
def notedRaw : Value :=
  .map [(.text "a", .text "one"), (.text "note", .text "given"), (.text "bare", .text ""),
    (.text "none", .null)]

/-- What stands under the names of these fields is passed through, the empty text as
well, and the fields are left as they were declared. -/
theorem passThrough_of_noted : ∃ c o e, define Processor.firstFreeId base noted = .ok c ∧
    c.Accepted ∧ c.build notedRaw = .ok o ∧ o.additional = some (.ofEntries e) ∧ e.size = 2 ∧
    e.get? (.text "note") = some (.text "given") ∧ e.get? (.text "bare") = some (.text "") ∧
    o.holding? "note" = some (.value (.text "kept")) ∧ o.holding? "bare" = none := by
  have hdefine : define Processor.firstFreeId base noted =
    .ok (extend Processor.firstFreeId base.options base noted) := rfl
  obtain ⟨o, hbuild⟩ :
      ∃ o, (extend Processor.firstFreeId base.options base noted).build notedRaw = .ok o :=
    ⟨_, rfl⟩
  obtain ⟨⟨entries, e, hraw, hadditional, hget, hsize, -⟩, hfields⟩ := passThrough_exact hbuild
  obtain rfl := Option.some.inj hraw
  have hnote := (hfields "note" ⟨.text, .value (.text "kept")⟩ rfl (by decide) (by decide)).2.1
  have hbare := (hfields "bare" ⟨.text, .required⟩ rfl (by decide) (by decide)).2.2.1
  refine ⟨_, o, e, hdefine, .define .base hdefine, hbuild, hadditional, ?_,
    (hget _ _).2 ⟨rfl, by simp, by decide⟩, (hget _ _).2 ⟨rfl, by simp, by decide⟩,
    hnote (by simp), hbare.2 rfl⟩
  have htotal : 4 = e.size + 1 + 1 := hsize
  omega

end PropsClass
end AuditConfig
