import AuditConfig.Proofs.FieldValues
import AuditConfig.Proofs.PassThrough

/-!
# Building an object again from what it holds

An object can be written back as a raw map: what its fields hold, each under the key of the
spec of its name, and its additional properties beside them (`PropsClass.restated`).  The
values stand there as they are, not as texts.

A spec keeps a value that it resolves to itself (`FieldSpec.Keeps`).  It keeps what it
resolves anything to (`Restatable.keeps_of_resolve`).  For most values that is because their
text is read as the same value.  A default that is the empty text or a negative number has no
such text, but what cannot be read comes out as the default again.  What is left are whole
numbers too long to be written, which only a default can be.

So an object that is built from what another holds is that other object
(`rebuild_of_build`), as long as no two specs have one name or one key.
-/

namespace AuditConfig

/-- A list is written between brackets. -/
theorem Value.quoted_list_eq_ok {vs : List Value} {cs : List Char}
    (h : (Value.list vs).quoted = .ok cs) :
    ∃ ts, quotedItems vs = .ok ts ∧ cs = ['['] ++ [',', ' '].intercalate ts ++ [']'] := by
  rw [quoted] at h
  cases hts : quotedItems vs with
  | error e => rw [hts] at h; cases h
  | ok ts => rw [hts] at h; cases h; exact ⟨ts, rfl, rfl⟩

/-- A map is written between braces. -/
theorem Value.quoted_map_eq_ok {es : List (Key × Value)} {cs : List Char}
    (h : (Value.map es).quoted = .ok cs) :
    ∃ ts, quotedEntries es = .ok ts ∧
      cs = ['\x7b'] ++ [',', ' '].intercalate ts ++ ['\x7d'] := by
  rw [quoted] at h
  cases hts : quotedEntries es with
  | error e => rw [hts] at h; cases h
  | ok ts => rw [hts] at h; cases h; exact ⟨ts, rfl, rfl⟩

/-- A value that is given has some text. -/
theorem Value.plain_ne_nil {v : Value} {cs : List Char} (hm : FieldSpec.isMissing v = false)
    (h : v.plain = .ok cs) : cs ≠ [] := by
  cases v with
  | null => cases hm
  | bool b => cases b <;> cases h <;> simp
  | int n =>
    rw [((Decimal.write_eq_ok_iff n cs).1 h).2]
    exact Decimal.signed_ne_nil n
  | float x =>
    obtain ⟨c, hc, _⟩ := x.exists_not_digit_text
    cases h
    exact List.ne_nil_of_mem hc
  | text s =>
    cases h
    simpa [FieldSpec.isMissing] using hm
  | list vs =>
    obtain ⟨ts, _, rfl⟩ := quoted_list_eq_ok h
    simp
  | map es =>
    obtain ⟨ts, _, rfl⟩ := quoted_map_eq_ok h
    simp

namespace FieldSpec

/-- A spec takes a value as it is. -/
def Keeps (s : FieldSpec) (v : Value) : Prop := ∃ outcome, s.resolve v = .ok (v, outcome)

/-- A text is kept, unless it is empty and the default is another. -/
theorem keeps_text {s : FieldSpec} (hs : s.type = .string) {t : String}
    (h : t = "" → s.default = .text "") : s.Keeps (.text t) := by
  by_cases ht : t = ""
  · have hm : isMissing (.text t) = true := by simp [isMissing, ht]
    refine ⟨.defaulted, ?_⟩
    rw [resolve_of_isMissing s hm, h ht, ht]
  · refine ⟨.configured, ?_⟩
    rw [s.resolve_text ht, hs]
    simp [FieldType.coerce, Except.map]

/-- A whole number that is not negative and is written is taken for itself. -/
theorem resolve_natural {s : FieldSpec} (hs : s.type = .integer) {n : Nat}
    (hn : n < tenTo Decimal.limit) : s.resolve (.int n) = .ok (.int n, .configured) := by
  have hplain : (Value.int n).plain = .ok (Decimal.digits n) :=
    (Decimal.write_eq_ok_iff n _).2 ⟨hn, rfl⟩
  have hread : Decimal.read (Decimal.digits n) = .ok n := Decimal.read_digits hn
  rw [resolve_of_not_isMissing s rfl, hplain, hs]
  simp only [Except.bind]
  rw [FieldType.coerce, if_pos (Decimal.isDigits_digits n), hread]
  rfl

/-- A whole number that is written is kept, unless it is negative and the default is
another: its text is then no whole number. -/
theorem keeps_int {s : FieldSpec} (hs : s.type = .integer) {n : Int}
    (hn : n.natAbs < tenTo Decimal.limit) (h : n < 0 → s.default = .int n) :
    s.Keeps (.int n) := by
  cases n with
  | ofNat n => exact ⟨.configured, resolve_natural hs hn⟩
  | negSucc n =>
    have hplain : (Value.int (.negSucc n)).plain = .ok (Decimal.signed (.negSucc n)) :=
      (Decimal.write_eq_ok_iff (.negSucc n) _).2 ⟨hn, rfl⟩
    refine ⟨.malformed, ?_⟩
    rw [resolve_of_not_isMissing s rfl, hplain, hs, h (Int.negSucc_lt_zero n)]
    rfl

/-- Of the two truth values one is written as `true`, but for letter case. -/
theorem lower_bool_iff (b : Bool) :
    Text.lower .fourteen (if b then "True".toList else "False".toList) = "true".toList ↔
      b = true := by
  cases b <;> decide +kernel

/-- A truth value is kept. -/
theorem keeps_bool {s : FieldSpec} (hs : s.type = .boolean) (b : Bool) : s.Keeps (.bool b) := by
  have hlower : decide (Text.lower .fourteen (if b then "True".toList else "False".toList) =
      "true".toList) = b := by
    simp only [lower_bool_iff, Bool.decide_eq_true]
  refine ⟨.configured, ?_⟩
  rw [resolve_of_not_isMissing s rfl, hs]
  exact congrArg (fun b => Except.ok (Value.bool b, Outcome.configured)) hlower

/-- The default of a spec is of its type, and short enough to be written if it is a whole
number. -/
structure Restatable (s : FieldSpec) : Prop where
  accepted : s.type.accepts s.default = true
  short : ∀ n, s.default = .int n → n.natAbs < tenTo Decimal.limit

/-- A spec keeps its default. -/
theorem Restatable.keeps_default {s : FieldSpec} (h : s.Restatable) : s.Keeps s.default := by
  rcases (FieldType.accepts_iff _ _).1 h.accepted with ⟨hs, t, hd⟩ | ⟨hs, n, hd⟩ | ⟨hs, b, hd⟩
  · rw [hd]
    exact keeps_text hs fun ht => ht ▸ hd
  · rw [hd]
    exact keeps_int hs (h.short n hd) fun _ => hd
  · rw [hd]
    exact keeps_bool hs b

/-- **What a spec resolves to it keeps:** the default, also where its text counts as missing
or malformed, and every other value because it came of a text. -/
theorem Restatable.keeps_of_resolve {s : FieldSpec} (h : s.Restatable) {raw v : Value}
    {outcome : Outcome} (hv : s.resolve raw = .ok (v, outcome)) : s.Keeps v := by
  rcases default_or_coerced hv with rfl | ⟨cs, hm, hplain, hcoerce⟩
  · exact h.keeps_default
  · cases hs : s.type with
    | string =>
      rw [hs] at hcoerce
      cases hcoerce
      exact keeps_text hs fun hempty => absurd (String.ofList_eq_empty_iff.1 hempty)
        (Value.plain_ne_nil hm hplain)
    | integer =>
      rw [hs, FieldType.coerce] at hcoerce
      split at hcoerce
      · next hdigits =>
        cases hread : Decimal.read cs with
        | error e => rw [hread] at hcoerce; cases hcoerce
        | ok n =>
          rw [hread] at hcoerce
          cases hcoerce
          exact keeps_int hs (Decimal.lt_of_read hdigits hread) fun hneg => absurd hneg (by simp)
      · cases hcoerce
    | boolean =>
      rw [hs] at hcoerce
      cases hcoerce
      exact keeps_bool hs _

end FieldSpec

namespace PropsClass

variable {c : PropsClass}

/-- What can be resolved again, value by value, is resolved to the same values. -/
theorem exists_resolveAll_of_keeps {raw again : Entries Key Value} {specs : List FieldSpec}
    {rs : List Resolved} (h : resolveAll raw specs = .ok rs)
    (hagain : ∀ r ∈ rs, rawAt again r.spec.key = r.value ∧ r.spec.Keeps r.value) :
    ∃ qs, resolveAll again specs = .ok qs ∧
      qs.map (fun q => (q.spec.name, q.value)) = rs.map fun r => (r.spec.name, r.value) := by
  induction specs generalizing rs with
  | nil => cases h; exact ⟨[], rfl, rfl⟩
  | cons s rest ih =>
    rw [resolveAll_cons] at h
    cases hs : s.resolve (rawAt raw s.key) with
    | error e => rw [hs] at h; cases h
    | ok r =>
      rw [hs] at h
      cases hrest : resolveAll raw rest with
      | error e => simp only [hrest] at h; cases h
      | ok ps =>
        simp only [hrest] at h
        cases h
        obtain ⟨hraw, outcome, hkeeps⟩ := hagain _ (.head _)
        obtain ⟨qs, hqs, hmap⟩ := ih hrest fun r hr => hagain r (.tail _ hr)
        refine ⟨⟨s, r.1, outcome⟩ :: qs, ?_, by simp [hmap]⟩
        rw [resolveAll_cons, hraw, hkeeps, hqs]
        rfl

/-- **A raw map that holds what the fields hold makes the same object,** but for the additional
properties, which are its own. -/
theorem Accepted.build_of_restating (h : c.Accepted) (hnames : (c.specs.map (·.name)).Nodup)
    (hrestatable : ∀ s ∈ c.specs, s.Restatable) {raw again : Entries Key Value} {r : Report}
    (hr : c.reportEntries raw = .ok r)
    (hagain : ∀ s ∈ c.specs, again.get? (.text s.key) = r.props.fields.get? s.name) :
    c.build (.ofEntries again) =
      .ok { r.props with additional := some (.ofEntries (c.passThrough again)) } := by
  obtain ⟨rs, hrs, hprops⟩ := exists_make_of_reportEntries hr
  have hspecs := map_spec_of_resolveAll hrs
  obtain ⟨qs, hqs, hmap⟩ : ∃ qs, resolveAll again c.specs = .ok qs ∧
      qs.map (fun q => (q.spec.name, q.value)) = rs.map fun r => (r.spec.name, r.value) := by
    refine exists_resolveAll_of_keeps hrs fun p hp => ?_
    have hs : p.spec ∈ c.specs := hspecs ▸ List.mem_map_of_mem hp
    have hv := resolve_of_mem_resolveAll hrs p hp
    refine ⟨?_, (hrestatable _ hs).keeps_of_resolve hv⟩
    rw [rawAt, hagain _ hs, h.get?_fields_of_resolved hnames hr hs hv]
    rfl
  have hnamed : c.namedValues qs = c.namedValues rs := by rw [namedValues, hmap, namedValues]
  refine (build_ofEntries_eq_ok_iff ..).2 ⟨_, (reportEntries_eq_ok_iff ..).2 ⟨qs, hqs, rfl,
    (h.obstacle?_eq_none_iff (map_spec_of_resolveAll hqs) _).2
      (h.buildable_of_reportEntries hr)⟩, ?_⟩
  simp only [hprops, reportOf, hnamed, make,
    standingFixtures_some _ _ (.ofEntries (c.passThrough raw))
      (.ofEntries (c.passThrough again))]

/-- What the fields of an object hold, under the keys of the specs. -/
def restatedFields (c : PropsClass) (o : Props) : List (Key × Value) :=
  c.specs.map fun s => (.text s.key, (o.fields.get? s.name).getD .null)

/-- The raw map that an object with given additional properties is written back as. -/
def restated (c : PropsClass) (o : Props) : Entries Key Value :=
  .ofList (c.restatedFields o ++ ((o.additional.bind Value.entries?).getD .empty).toList)

section Restated

variable {o : Props} {e : Entries Key Value} (hkeys : c.keys.Nodup)
  (ho : o.additional = some (.ofEntries e)) (he : ∀ k v, e.get? k = some v → c.recognizes k = false)
include hkeys ho he

/-- With distinct keys nothing is written back twice. -/
theorem toList_restated : (c.restated o).toList = c.restatedFields o ++ e.toList := by
  have hfields : (c.restatedFields o).map Prod.fst = c.keys.map Key.text := by
    simp [restatedFields, keys]
  rw [restated, ho, Option.bind_some, Value.entries?_ofEntries, Option.getD_some]
  apply Entries.toList_ofList
  rw [List.map_append, hfields, List.nodup_append]
  have htexts : (c.keys.map Key.text).Nodup :=
    List.Pairwise.map Key.text (fun _ _ hne heq => hne (Key.text.inj heq)) hkeys
  refine ⟨htexts, e.nodup, fun k hk k' hk' => ?_⟩
  obtain ⟨s, hs, rfl⟩ := List.mem_map.1 hk
  obtain ⟨⟨_, v⟩, hv, rfl⟩ := List.mem_map.1 hk'
  rintro rfl
  have hnot := he _ v ((e.mem_toList_iff ..).1 hv)
  rw [(c.recognizes_text s).2 hs] at hnot
  cases hnot

theorem get?_restated_key {s : FieldSpec} (hs : s ∈ c.specs) :
    (c.restated o).get? (.text s.key) = some ((o.fields.get? s.name).getD .null) := by
  rw [← Entries.mem_toList_iff, toList_restated hkeys ho he]
  exact List.mem_append_left _ (List.mem_map.2 ⟨s, hs, rfl⟩)

theorem get?_restated_of_not_recognizes {k : Key} (hk : c.recognizes k = false) :
    (c.restated o).get? k = e.get? k := by
  apply Option.ext
  intro v
  rw [← Entries.mem_toList_iff, toList_restated hkeys ho he, List.mem_append,
    Entries.mem_toList_iff, or_iff_right]
  intro hm
  obtain ⟨s, hs, heq⟩ := List.mem_map.1 hm
  obtain ⟨rfl, _⟩ := Prod.mk.inj heq
  rw [(recognizes_eq_false_iff ..)] at hk
  exact hk s hs rfl

/-- What is written back of an object is passed through as its additional properties. -/
theorem passThrough_restated (hnull : ∀ k v, e.get? k = some v → v ≠ .null) :
    c.passThrough (c.restated o) = e := by
  apply Entries.ext_toList
  change (c.restated o).toList.filter (fun b => !c.recognizes b.1 && !b.2.isNull) = _
  rw [toList_restated hkeys ho he, List.filter_append]
  have hfields : (c.restatedFields o).filter
      (fun b => !c.recognizes b.1 && !b.2.isNull) = [] := by
    rw [List.filter_eq_nil_iff]
    intro b hb
    obtain ⟨s, hs, rfl⟩ := List.mem_map.1 hb
    simp [(c.recognizes_text s.key).2 (List.mem_map_of_mem hs)]
  have hextra : e.toList.filter (fun b => !c.recognizes b.1 && !b.2.isNull) = e.toList := by
    rw [List.filter_eq_self]
    rintro ⟨k, v⟩ hb
    have hget := (e.mem_toList_iff k v).1 hb
    have hv : v.isNull = false := by
      rw [← Bool.not_eq_true, Value.isNull_iff]
      exact hnull k v hget
    simp [he k v hget, hv]
  rw [hfields, hextra, List.nil_append]

end Restated

/-- **Rebuilding is a fixed point.**  If the specs of a class have names and keys of their own
and no default is too long to be written, an object that is built is built again from what it
is written back as: of the same class, with the same values in all its fields and with the same
additional properties.

What it is written back as holds the value of each field under the key of its spec, and the
additional properties under all other keys.  Any other raw map that holds the same, in whatever
order, makes the same object with the same additional properties, in the order in which the
raw map has them. -/
theorem rebuild_of_build (h : c.Accepted) (hnames : (c.specs.map (·.name)).Nodup)
    (hkeys : c.keys.Nodup)
    (hshort : ∀ s ∈ c.specs, ∀ n, s.default = .int n →
      (Decimal.digits n.natAbs).length ≤ Decimal.limit)
    {raw : Value} {o : Props} (hb : c.build raw = .ok o) :
    c.build (.ofEntries (c.restated o)) = .ok o ∧
    ∃ e, o.additional = some (.ofEntries e) ∧
      (∀ s ∈ c.specs, ∃ v, o.fields.get? s.name = some v ∧
        (c.restated o).get? (.text s.key) = some v) ∧
      (∀ k, (∀ s ∈ c.specs, k ≠ .text s.key) → (c.restated o).get? k = e.get? k) ∧
      ∀ again : Entries Key Value, (∀ k, again.get? k = (c.restated o).get? k) →
        ∃ e', c.build (.ofEntries again) = .ok { o with additional := some (.ofEntries e') } ∧
          ∀ k, e'.get? k = e.get? k := by
  obtain ⟨entries, r, _, hr, rfl⟩ := (build_eq_ok_iff ..).1 hb
  have hrestatable : ∀ s ∈ c.specs, s.Restatable := fun s hs =>
    ⟨(h.exists_field hs).1, fun n hn =>
      (Decimal.length_digits_le_iff _ (by decide)).1 (hshort s hs n hn)⟩
  have hadditional := held?_additional_of_reportEntries hr
  have hrecognized : ∀ k v, (c.passThrough entries).get? k = some v → c.recognizes k = false :=
    fun k v hk => ((get?_passThrough ..).1 hk).2.1
  have hnull : ∀ k v, (c.passThrough entries).get? k = some v → v ≠ .null :=
    fun k v hk => ((get?_passThrough ..).1 hk).2.2
  have hfields : ∀ s ∈ c.specs, ∃ v, r.props.fields.get? s.name = some v ∧
      (c.restated r.props).get? (.text s.key) = some v := by
    intro s hs
    obtain ⟨_, _, _, v, _, _, hget⟩ := h.exists_resolved hr hs
    refine ⟨v, hget, ?_⟩
    rw [get?_restated_key hkeys hadditional hrecognized hs, hget]
    rfl
  have hagain : ∀ again : Entries Key Value, (∀ k, again.get? k = (c.restated r.props).get? k) →
      c.build (.ofEntries again) =
        .ok { r.props with additional := some (.ofEntries (c.passThrough again)) } := by
    refine fun again hsame => h.build_of_restating hnames hrestatable hr fun s hs => ?_
    obtain ⟨v, hv, hkey⟩ := hfields s hs
    rw [hsame, hkey, hv]
  have hpass := passThrough_restated hkeys hadditional hrecognized hnull
  refine ⟨?_, c.passThrough entries, hadditional, hfields, fun k hk => ?_, fun again hsame =>
    ⟨_, hagain again hsame, fun k => ?_⟩⟩
  · rw [hagain _ fun _ => rfl, hpass, ← hadditional]
    rfl
  · exact get?_restated_of_not_recognizes hkeys hadditional hrecognized
      ((c.recognizes_eq_false_iff k).2 hk)
  · rw [← hpass, passThrough, passThrough, Entries.get?_filter, Entries.get?_filter, hsame]

/-- A definition with defaults whose texts are not read as what they are. -/
def unreadable : Definition where
  name := "Unreadable"
  home := "__main__"
  specs := some [⟨"x", "a", .string, .text ""⟩, ⟨"n", "b", .integer, .int (-1)⟩,
    ⟨"f", "c", .boolean, .bool true⟩]
  fields := [("x", ⟨.text, .value (.text "")⟩), ("n", ⟨.whole, .value (.int (-1))⟩),
    ("f", ⟨.truth, .value (.bool true)⟩)]

/-- A raw map with a text that is malformed, one that is not and one that is not recognized. -/
def unreadableRaw : Value :=
  .map [(.text "b", .text "-7"), (.text "c", .text "no"), (.text "d", .text "kept")]

/-- Such defaults are kept all the same. -/
theorem rebuild_of_unreadable : ∃ c o, define Processor.firstFreeId base unreadable = .ok c ∧
    c.Accepted ∧ c.build unreadableRaw = .ok o ∧ c.build (.ofEntries (c.restated o)) = .ok o ∧
    o.fields.get? "x" = some (.text "") ∧ o.fields.get? "n" = some (.int (-1)) ∧
    o.fields.get? "f" = some (.bool false) ∧
    (c.restated o).get? (.text "d") = some (.text "kept") := by
  have hdefine : define Processor.firstFreeId base unreadable =
    .ok (extend Processor.firstFreeId base.options base unreadable) := rfl
  obtain ⟨o, hbuild, hx, hn, hf, hd⟩ : ∃ o,
      (extend Processor.firstFreeId base.options base unreadable).build unreadableRaw = .ok o ∧
      o.fields.get? "x" = some (.text "") ∧ o.fields.get? "n" = some (.int (-1)) ∧
      o.fields.get? "f" = some (.bool false) ∧
      ((extend Processor.firstFreeId base.options base unreadable).restated o).get? (.text "d") =
        some (.text "kept") := ⟨_, rfl, rfl, rfl, rfl, rfl⟩
  have haccepted := Accepted.define .base hdefine
  have hdigits : (Decimal.digits 1).length ≤ Decimal.limit := by decide
  have hshort : ∀ s ∈ (extend Processor.firstFreeId base.options base unreadable).specs, ∀ n,
      s.default = .int n → (Decimal.digits n.natAbs).length ≤ Decimal.limit := by
    intro s hs n hn
    rcases List.mem_cons.1 hs with rfl | hs
    · cases hn
    rcases List.mem_cons.1 hs with rfl | hs
    · cases hn
      exact hdigits
    · rw [List.mem_singleton.1 hs] at hn
      cases hn
  have hrebuild := rebuild_of_build haccepted (by decide) (by decide) hshort hbuild
  exact ⟨_, o, hdefine, haccepted, hbuild, hrebuild.1, hx, hn, hf, hd⟩

end PropsClass
end AuditConfig
