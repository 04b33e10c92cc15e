import AuditConfig.Proofs.Failing
import AuditConfig.Proofs.PassThrough
import AuditConfig.Proofs.Reporting
import Mathlib.Data.List.Perm.Subperm

/-!
# Classes that ask for more

A class can ask for all that another one asks for, in the same order, and for more in between.
Built from one raw map, the object of the wider class then agrees with that of the narrower one
wherever that looks: in the fields of the narrower class, in what its report lists of them, and
in what is passed through, of which the wider class takes its own keys out
(`narrow_of_wide`).

This rests on the specs of the narrower class being those of the wider one that have its names
(`filter_name_of_sublist`), so that what a report lists of the narrower class is what a report
lists of the wider one, less the other names (`filter_map_name_of_sublist`).

The narrower class may still have a fault that the wider one has not, since no check of a class
asks whether objects of it can be made (`unbuilt_of_narrow`).
-/

namespace AuditConfig

section Specs

variable {narrow wide : List FieldSpec} (hnames : (wide.map (·.name)).Nodup)
  (hsub : narrow.Sublist wide)
include hnames hsub

/-- With distinct names, the specs of a part of a list are those that have its names. -/
theorem filter_name_of_sublist :
    wide.filter (fun s => s.name ∈ narrow.map (·.name)) = narrow := by
  have hkept : narrow.filter (fun s => s.name ∈ narrow.map (·.name)) = narrow :=
    List.filter_eq_self.2 fun s hs => decide_eq_true (List.mem_map_of_mem hs)
  have hpart := hsub.filter fun s => decide (s.name ∈ narrow.map (·.name))
  rw [hkept] at hpart
  have hsubset : wide.filter (fun s => s.name ∈ narrow.map (·.name)) ⊆ narrow := by
    intro s hs
    obtain ⟨hs, hname⟩ := List.mem_filter.1 hs
    obtain ⟨t, ht, hn⟩ := List.mem_map.1 (of_decide_eq_true hname)
    rwa [← List.inj_on_of_nodup_map hnames (hsub.subset ht) hs hn]
  have hlength := ((hnames.of_map _).filter _).subperm hsubset
  exact (hpart.eq_of_length_le hlength.length_le).symm

/-- So what passes a test in the part is what passes it in the list, less the other names. -/
theorem filter_map_name_of_sublist (p : FieldSpec → Bool) :
    (narrow.filter p).map (·.name) =
      ((wide.filter p).map (·.name)).filter (· ∈ narrow.map (·.name)) := by
  calc (narrow.filter p).map (·.name)
      = ((wide.filter fun s => s.name ∈ narrow.map (·.name)).filter p).map (·.name) := by
        rw [filter_name_of_sublist hnames hsub]
    _ = ((wide.filter p).filter fun s => s.name ∈ narrow.map (·.name)).map (·.name) := by
        rw [List.filter_filter, List.filter_filter]
        simp only [Bool.and_comm]
    _ = ((wide.filter p).map (·.name)).filter (· ∈ narrow.map (·.name)) := by
        rw [List.filter_map]
        rfl

end Specs

namespace PropsClass

variable {c d : PropsClass} {raw : Entries Key Value} {narrow wide : Report}

/-- A class that asks for more passes through what is left of what the other one does. -/
theorem passThrough_of_sublist (hsub : c.specs.Sublist d.specs) (raw : Entries Key Value) :
    d.passThrough raw = (c.passThrough raw).filter fun k _ => !d.recognizes k := by
  rw [passThrough, passThrough, Entries.filter_filter]
  congr 1
  funext k v
  cases hk : c.recognizes k with
  | false => simp [Bool.and_comm]
  | true =>
    obtain ⟨s, hs, hkey⟩ := (c.recognizes_eq_true_iff k).1 hk
    have hwide : d.recognizes k = true := (d.recognizes_eq_true_iff k).2 ⟨s, hsub.subset hs, hkey⟩
    simp [hwide]

/-- **A narrower class agrees with a wider one.**  Take a class whose specs have names of their
own, and one that has some of these specs in the same order.  If an object of the first is built
of a raw map, one of the second is too, unless no object of that can be; of an ordinary class
it always can.

The fields of the specs that both have then hold the same, the report of the narrower class lists
what that of the wider one lists, less the names of other specs, and what the wider class passes
through is what the narrower one does, less what the wider one recognizes. -/
theorem narrow_of_wide (hc : c.Accepted) (hd : d.Accepted)
    (hnames : (d.specs.map (·.name)).Nodup) (hsub : c.specs.Sublist d.specs)
    (hwide : d.report (.ofEntries raw) = .ok wide) :
    ((∃ r, c.report (.ofEntries raw) = .ok r) ↔ c.Buildable) ∧ (c.Ordinary → c.Buildable) ∧
    ∀ narrow, c.report (.ofEntries raw) = .ok narrow →
      (∀ s ∈ c.specs, ∃ v, narrow.props.fields.get? s.name = some v ∧
        wide.props.fields.get? s.name = some v) ∧
      narrow.defaulted = wide.defaulted.filter (· ∈ c.specs.map (·.name)) ∧
      narrow.malformed = wide.malformed.filter (· ∈ c.specs.map (·.name)) ∧
      ∃ e, narrow.props.additional = some (.ofEntries e) ∧
        wide.props.additional = some (.ofEntries (e.filter fun k _ => !d.recognizes k)) := by
  rw [report_ofEntries] at hwide
  obtain ⟨hbuildable, hresolves⟩ := (hd.exists_reportEntries_iff raw).1 ⟨wide, hwide⟩
  refine ⟨?_, fun ho => ?_, fun narrow hnarrow => ?_⟩
  · rw [report_ofEntries, hc.exists_reportEntries_iff]
    exact and_iff_left fun s hs => hresolves s (hsub.subset hs)
  · exact ho.plain.buildable_iff.2 fun s hs => hbuildable.arguments s (hsub.subset hs)
  · rw [report_ofEntries] at hnarrow
    refine ⟨fun s hs => ?_, ?_, ?_, c.passThrough raw, ?_, ?_⟩
    · obtain ⟨⟨v, outcome⟩, hv⟩ := hresolves s (hsub.subset hs)
      exact ⟨v, hc.get?_fields_of_resolved (hnames.sublist (hsub.map _)) hnarrow hs hv,
        hd.get?_fields_of_resolved hnames hwide (hsub.subset hs) hv⟩
    · rw [defaulted_of_reportEntries hnarrow, defaulted_of_reportEntries hwide,
        filter_map_name_of_sublist hnames hsub]
    · rw [malformed_of_reportEntries hnarrow, malformed_of_reportEntries hwide,
        filter_map_name_of_sublist hnames hsub]
    · exact held?_additional_of_reportEntries hnarrow
    · rw [← passThrough_of_sublist hsub]
      exact held?_additional_of_reportEntries hwide

/-- A definition with a text and a whole number. -/
def narrowed : Definition where
  name := "Narrowed"
  home := "__main__"
  specs := some [⟨"x", "a", .string, .text "d"⟩, ⟨"n", "c", .integer, .int 7⟩]
  fields := [("x", ⟨.text, .value (.text "d")⟩), ("n", ⟨.whole, .value (.int 7)⟩)]

/-- A definition from it that asks for a truth value in between. -/
def widened : Definition where
  name := "Widened"
  home := "__main__"
  specs := some [⟨"x", "a", .string, .text "d"⟩, ⟨"f", "b", .boolean, .bool false⟩,
    ⟨"n", "c", .integer, .int 7⟩]
  fields := [("f", ⟨.truth, .value (.bool false)⟩)]

/-- The class of the first. -/
def narrowedClass : PropsClass := extend Processor.firstFreeId base.options base narrowed

/-- The class of the second. -/
def widenedClass : PropsClass :=
  extend (Processor.firstFreeId + 1) base.options narrowedClass widened

/-- A raw map with no text, no truth value, a malformed number and something else. -/
def widenedRaw : Entries Key Value :=
  .ofList [(.text "a", .text ""), (.text "b", .text ""), (.text "c", .text "7.0"),
    (.text "e", .text "kept")]

/-- Both classes list the text and the number, and the wider one the truth value in between. -/
theorem narrow_of_widened : ∃ narrow wide e,
    define Processor.firstFreeId base narrowed = .ok narrowedClass ∧
    define (Processor.firstFreeId + 1) narrowedClass widened = .ok widenedClass ∧
    narrowedClass.report (.ofEntries widenedRaw) = .ok narrow ∧
    widenedClass.report (.ofEntries widenedRaw) = .ok wide ∧
    wide.defaulted = ["x", "f", "n"] ∧ narrow.defaulted = ["x", "n"] ∧ narrow.malformed = ["n"] ∧
    (∃ v, narrow.props.fields.get? "n" = some v ∧ wide.props.fields.get? "n" = some v) ∧
    narrow.props.additional = some (.ofEntries e) ∧
    wide.props.additional =
      some (.ofEntries (e.filter fun k _ => !widenedClass.recognizes k)) := by
  have hnarrowed : define Processor.firstFreeId base narrowed = .ok narrowedClass := rfl
  have hwidened : define (Processor.firstFreeId + 1) narrowedClass widened = .ok widenedClass := rfl
  have hc := Accepted.define .base hnarrowed
  have hsub : narrowedClass.specs.Sublist widenedClass.specs :=
    ((List.Sublist.refl _).cons _).cons_cons _
  obtain ⟨narrow, hnarrow⟩ : ∃ r, narrowedClass.report (.ofEntries widenedRaw) = .ok r := ⟨_, rfl⟩
  obtain ⟨wide, hwide, hdefaulted, hmalformed⟩ : ∃ r,
    widenedClass.report (.ofEntries widenedRaw) = .ok r ∧ r.defaulted = ["x", "f", "n"] ∧
      r.malformed = ["n"] := ⟨_, rfl, rfl, rfl⟩
  obtain ⟨hfields, hdefaulted', hmalformed', e, he, he'⟩ :=
    (narrow_of_wide hc (hc.define hwidened) (by decide) hsub hwide).2.2 narrow hnarrow
  rw [hdefaulted] at hdefaulted'
  rw [hmalformed] at hmalformed'
  have hn := hfields ⟨"n", "c", .integer, .int 7⟩ (.tail _ (.head _))
  exact ⟨narrow, wide, e, hnarrowed, hwidened, hnarrow, hwide, hdefaulted, hdefaulted',
    hmalformed', hn, he, he'⟩

/-- A definition with the text of `told` and a whole number. -/
def untold : Definition where
  name := "Untold"
  home := "__main__"
  specs := some [⟨"x", "a", .string, .text "d"⟩, ⟨"y", "b", .integer, .int 3⟩]
  fields := [("x", ⟨.text, .value (.text "d")⟩), ("y", ⟨.whole, .value (.int 3)⟩)]

/-- An object of it is built of a raw map, of which none of `told` is. -/
theorem unbuilt_of_narrow : ∃ c d wide, define Processor.firstFreeId base told = .ok c ∧
    define (Processor.firstFreeId + 1) base untold = .ok d ∧ c.Accepted ∧ d.Accepted ∧
    (d.specs.map (·.name)).Nodup ∧ c.specs.Sublist d.specs ∧
    d.report (.map [(.text "a", .text "one")]) = .ok wide ∧
    c.report (.map [(.text "a", .text "one")]) = .error (.making (.notCallable "str")) := by
  have htold : define Processor.firstFreeId base told =
    .ok (extend Processor.firstFreeId base.options base told) := rfl
  have huntold : define (Processor.firstFreeId + 1) base untold =
    .ok (extend (Processor.firstFreeId + 1) base.options base untold) := rfl
  exact ⟨_, _, _, htold, huntold, .define .base htold, .define .base huntold, by decide,
    .cons_cons _ (.cons _ .slnil), rfl, rfl⟩

end PropsClass
end AuditConfig
