import AuditConfig.Proofs.ClassTable
import AuditConfig.Proofs.Places
import AuditConfig.Proofs.Unadorned

/-!
# Isolation: what a step leaves as it was

Everything that is built, copied or assigned gets a cell of its own, so that places stay apart
in the course of a run (`Store.isolated_of_run`), and a step changes nothing but the place that
it writes to (`Store.Confined`).

This takes objects whose additional properties cannot be among something else that they
hold, and that an assignment changes in one field.  What builds and copies make is such
(`Props.Unadorned`), and stays so as long as fields alone are assigned (`Store.Admits`).

One failure leaves something behind: a class that puts off its validator has it from then on,
though it is not complete with it (`Store.CompletesLate`).
-/

namespace AuditConfig
namespace Session

open PropsClass

namespace Store

/-- Places are apart, and the objects and the classes are such that steps keep them so. -/
structure Isolated (s : Store) : Prop where
  apart : s.Apart
  unadorned : ∀ name stored, s.objects.get? name = some stored → stored.object.Unadorned
  classes : s.AllDefined NamesFields

theorem isolated_start (home : String) (occurrence : Nat) :
    (Store.start home occurrence).Isolated where
  apart := apart_start home occurrence
  unadorned _ _ h := by cases h
  classes _ _ h := by cases h

/-- A step makes no object of values that are given to it, and assigns to a declared field if
it assigns. -/
def Admits (s : Store) : Step → Prop
  | .construct _ _ _ => False
  | .assign object field _ => ∀ o, s.object? object = some o → (o.cls.fields.get? field).isSome
  | _ => True

/-- An assignment fails since the class of the object puts off its validator, and is not
complete with it.  The class has its validator from then on, and nothing else is changed. -/
def CompletesLate (s : Store) (t : Step) (taken : Store × Except Failure Answer) : Prop :=
  ∃ name field v o e, t = .assign name field v ∧ s.object? name = some o ∧
    o.cls.options.validatesAssigned = true ∧ o.cls.unready = some e ∧ e.isLate = true ∧
    taken = (s.noteReady o.cls, .ok (.incomplete e))

/-- What a step that is answered leaves as it was. -/
structure Confined (s : Store) (t : Step) (s' : Store) (a : Answer) : Prop where
  told : a.isFailure = false
  isolated : s'.Isolated
  others : s.SameElsewhere t.place? s'
  /-- Of an object whose field it changes the rest is as it was. -/
  rest : ∀ name field o, t.field? = some (name, field) → s.object? name = some o →
    ∃ o', s'.object? name = some o' ∧ o.seen.SameBut field o'.seen

namespace Isolated

variable {s : Store} (hs : s.Isolated)
include hs

theorem unadorned_load {name : String} {stored : Stored} (h : s.objects.get? name = some stored) :
    (s.load stored).Unadorned :=
  have ho := hs.unadorned name stored h
  ⟨ho.named, ho.fields, ho.standing, ho.overflow, ho.loose, ho.record, ho.unset⟩

/-- A class that objects are built for keeps its fields from free names. -/
theorem namesFields {c : PropsClass}
    (hc : (∃ builder, s.class? builder = some c) ∨ ∃ p : Processor, c = p.cls) : c.NamesFields := by
  rcases hc with ⟨builder, hc⟩ | ⟨p, rfl⟩
  · exact hs.classes.of_class? namesFields_base namesFields_processor (fun _ _ h => h) hc
  · exact namesFields_processor p

/-- What is written to one place, and is such as what is there, is confined to it. -/
theorem confined {t : Step} {s' : Store} {a : Answer} {p : Place} (hp : t.place? = some p)
    (hw : s.WritesOnly s' p) (ha : a.isFailure = false)
    (hobject : ∀ name stored, p = .object name → s'.objects.get? name = some stored →
      stored.object.Unadorned)
    (hclass : ∀ name c, p = .cls name → s'.classes.get? name = some c → c.NamesFields)
    (hrest : ∀ name field o, t.field? = some (name, field) → s.object? name = some o →
      ∃ o', s'.object? name = some o' ∧ o.seen.SameBut field o'.seen) :
    s.Confined t s' a where
  told := ha
  isolated := {
    apart := hw.apart hs.apart
    unadorned := fun name stored h => by
      by_cases hn : p = .object name
      · exact hobject name stored hn h
      · rw [hw.objects name hn] at h
        exact hs.unadorned name stored h
    classes := fun name c h => by
      by_cases hn : p = .cls name
      · exact hclass name c hn h
      · rw [hw.classes name hn] at h
        exact hs.classes name c h }
  others := hp ▸ hw.sameElsewhere hs.apart
  rest := hrest

theorem confined_raw {t : Step} {name : String} {s' : Store} {a : Answer}
    (hp : t.place? = some (.raw name)) (hw : s.WritesOnly s' (.raw name))
    (ha : a.isFailure = false) : s.Confined t s' a := by
  refine hs.confined hp hw ha (fun _ _ hn => by cases hn) (fun _ _ hn => by cases hn)
    fun n field o hfield => ?_
  rw [Step.place?_of_field? hfield] at hp
  cases hp

theorem confined_object {t : Step} {name : String} {s' : Store} {a : Answer}
    (hp : t.place? = some (.object name)) (hw : s.WritesOnly s' (.object name))
    (ha : a.isFailure = false)
    (hobject : ∀ stored, s'.objects.get? name = some stored → stored.object.Unadorned)
    (hrest : ∀ field o, t.field? = some (name, field) → s.object? name = some o →
      ∃ o', s'.object? name = some o' ∧ o.seen.SameBut field o'.seen) : s.Confined t s' a := by
  refine hs.confined hp hw ha (fun n stored hn => ?_) (fun _ _ hn => by cases hn)
    fun n field o hfield => ?_
  · cases hn
    exact hobject stored
  · have hn := Step.place?_of_field? hfield
    rw [hp] at hn
    cases hn
    exact hrest field o hfield

/-- An object that a step makes gets a cell of its own. -/
theorem confined_putObject {t : Step} {name : String} {o : Props} {s' : Store} {a : Answer}
    (hp : t.place? = some (.object name)) (hf : t.field? = none) (ho : o.Unadorned)
    (hsame : (s.putObject name o).HoldsSame s') (ha : a.isFailure = false) : s.Confined t s' a := by
  have hw := (s.writesOnly_putObject name o).holdsSame hsame
  refine hs.confined_object hp hw ha (fun stored h => ?_) fun field _ hfield => ?_
  · obtain ⟨cell, hobjects⟩ := s.objects_putObject name o
    rw [hsame.objects, hobjects, Entries.get?_insert, if_pos rfl] at h
    cases h
    exact ho
  · rw [hf] at hfield
    cases hfield

end Isolated

/-- Where an object is stored that a field of another was assigned in. -/
theorem stored_withAssigned {s : Store} {field : String} {stored : Stored}
    (h : (s.load stored).replacesAdditional field = decide (field = additionalName))
    (name : String) (w : Value) :
    let p := (s.load stored).setField field w
    ∃ cell, (s.withAssigned name field stored p).objects.get? name = some ⟨p, cell⟩ ∧
      cell.map (s.withAssigned name field stored p).cell = p.additional := by
  intro p
  unfold withAssigned
  rw [h]
  by_cases hf : field = additionalName
  · have hadditional : p.additional = some w := by
      change ((s.load stored).setField field w).additional = some w
      rw [Props.setField, if_pos hf]
    refine ⟨some s.cells.length, ?_, ?_⟩
    · simp [hf, putObject, hadditional, Entries.get?_insert]
    · simp [hf, putObject, hadditional, cell]
  · have hadditional : p.additional = stored.cell.map s.cell := by
      change ((s.load stored).setField field w).additional = _
      rw [Props.setField, if_neg hf]
      rfl
    refine ⟨stored.cell, ?_, ?_⟩
    · simp [hf, Entries.get?_insert]
    · simp only [hf, decide_false, Bool.false_eq_true, if_false, hadditional]
      rfl

/-- An object whose field was assigned is seen as that. -/
theorem seen_load_setField {s s' : Store} {stored : Stored} {field : String} {w : Value}
    {cell : Option Nat} (hready : ∀ c, (s'.learnedOf c).isReady = (s.learnedOf c).isReady)
    (hcell : cell.map s'.cell = ((s.load stored).setField field w).additional) :
    (s'.load ⟨(s.load stored).setField field w, cell⟩).seen =
      (s.load stored).seen.setField field w := by
  have hcls : ((s.load stored).setField field w).cls = s.current stored.object.cls := by
    unfold Props.setField
    split <;> rfl
  have hseen : (s.load stored).seen.setField field w =
      { (s.load stored).setField field w with cls := (s.current stored.object.cls).seen } := by
    unfold Props.setField
    split <;> rfl
  simp only [load] at hcls hcell hseen ⊢
  rw [hseen, Props.seen, hcls, hcell, seen_current_current (hready _)]

namespace Isolated

variable {s : Store} (hs : s.Isolated)
include hs

/-- **An assignment to a field is confined to it.** -/
theorem confined_assign {name field : String} {v : Value} {stored : Stored} {p : Props}
    {s' : Store} {a : Answer} (hstored : s.objects.get? name = some stored)
    (hdeclared : ((s.load stored).cls.fields.get? field).isSome)
    (hp : (s.load stored).assign s.nextOccurrence field v = .ok p)
    (hsame : (s.withAssigned name field stored p).HoldsSame s') (ha : a.isFailure = false) :
    s.Confined (.assign name field v) s' a := by
  have ho := hs.unadorned_load hstored
  obtain ⟨w, rfl⟩ := ho.assign_eq_ok hdeclared hp
  have hw :=
    (writesOnly_withAssigned hstored field ((s.load stored).setField field w)).holdsSame hsame
  obtain ⟨cell, hget, hcell⟩ := stored_withAssigned (ho.replacesAdditional_eq hdeclared) name w
  rw [← hsame.objects] at hget
  refine hs.confined_object rfl hw ha (fun stored' h => ?_) fun field' o hfield hobject => ?_
  · rw [hget] at h
    cases h
    exact ho.setField hdeclared w
  · cases hfield
    have hcell' : cell.map s'.cell = ((s.load stored).setField field w).additional := by
      have hsameCell : s'.cell = (s.withAssigned name field stored
          ((s.load stored).setField field w)).cell := by
        funext i
        rw [Store.cell, hsame.cells]
        rfl
      rw [hsameCell, hcell]
    rw [object?, hstored] at hobject
    cases hobject
    refine ⟨_, by rw [object?, hget]; rfl, ?_⟩
    rw [seen_load_setField hw.ready hcell']
    exact Props.sameBut_setField _ field w

/-- **An edit of additional properties is confined to them.** -/
theorem confined_editAdditional {t : Step} {name : String} {stored : Stored} {i : Nat} {a : Answer}
    (ht : t.field? = some (name, additionalName)) (hstored : s.objects.get? name = some stored)
    (hi : stored.cell = some i) (v : Value) (ha : a.isFailure = false) :
    s.Confined t (s.setCell i v) a := by
  have hplace : s.cellOf? (.object name) = some i := by rw [cellOf?, hstored]; exact hi
  have hlt := hs.apart.bounded _ i hplace
  refine hs.confined_object (Step.place?_of_field? ht) (writesOnly_setCell hplace hlt v) ha
    (fun stored' h => hs.unadorned name stored' h) fun field o hfield hobject => ?_
  rw [ht] at hfield
  cases hfield
  rw [object?, hstored] at hobject
  cases hobject
  have hload : (s.setCell i v).load stored = { s.load stored with additional := some v } := by
    have hcell : (s.setCell i v).cell i = v := by rw [cell_setCell s i i v hlt, if_pos rfl]
    simp only [load, hi, Option.map_some, hcell]
    rfl
  refine ⟨_, by rw [object?]; exact congrArg _ hstored, ?_⟩
  rw [hload]
  exact Props.sameBut_additional (s.load stored).seen (some v)

/-- **A step that is answered is confined to what it writes to,** unless a class turns out not
to be complete with its validator. -/
theorem confined_of_took {t : Step} (ht : s.Admits t) {s' : Store} {a : Answer}
    (h : Took s t s' a) : s.CompletesLate t (s', .ok a) ∨ s.Confined t s' a := by
  cases h with
  | looked hplace ha =>
    -- what is changed in a field is a place that is written to
    refine .inr ⟨ha, hs, .refl _ s, fun name field o hfield => ?_⟩
    rw [Step.place?_of_field? hfield] at hplace
    cases hplace
  | putRaw name e =>
    exact .inr (hs.confined_raw rfl (s.writesOnly_putRaw name e) rfl)
  | @editRaw _ name i hplace hi e =>
    have hlt := hs.apart.bounded (.raw name) i hi
    have hw := writesOnly_setCell (p := .raw name) hi hlt (.ofEntries e)
    exact .inr (hs.confined_raw hplace hw rfl)
  | @define name _ _ _ base c _ hbase _ hc =>
    have hnamed : c.NamesFields := by
      obtain ⟨options, _, _, rfl, _⟩ := (define_eq_ok_iff ..).1 hc
      exact (hs.namesFields (.inl ⟨_, hbase⟩)).extend _ _ _
    refine .inr (hs.confined rfl (s.writesOnly_putClass name c) rfl (fun _ _ hn => by cases hn)
      (fun n d hn hd => ?_) fun _ _ _ hfield => by cases hfield)
    cases hn
    have hsame : d = c := by
      change (s.classes.insert name c).get? name = some d at hd
      rw [Entries.get?_insert, if_pos rfl] at hd
      exact (Option.some.inj hd).symm
    exact hsame ▸ hnamed
  | @build _ _ c _ r making _ _ hplace hfield hc hr hsame ha =>
    have hbuilt := Props.unadorned_of_reportEntries (hs.namesFields hc) hr
    exact .inr (hs.confined_putObject hplace hfield
      (hbuilt.with_additional r.props.additional r.props.slots making) hsame ha)
  | construct _ _ => cases ht
  | @copy cls object name c stored o hstored hcopy =>
    have ho := hs.unadorned_load hstored
    -- nothing that the object holds sends its additional properties elsewhere
    obtain ⟨haside, v, hcopied⟩ := ho.copyAs_eq_ok hcopy
    have hunadorned : o.Unadorned := by
      rw [hcopied]
      exact ho.with_additional (some v) .empty stored.object.making
    have hkept : s.keepCopy name stored o = (s.putObject name o, .object o) := by
      rw [keepCopy, haside]
      rfl
    rw [hkept]
    exact .inr (hs.confined_putObject rfl rfl hunadorned (.refl _) rfl)
  | @assign name field v stored p _ hstored hp hsame =>
    have ho := hs.unadorned_load hstored
    have hdeclared := ht (s.load stored) (by rw [object?, hstored]; rfl)
    -- an assignment to a field is noted, so that the answer is the object
    have hassigned : p.Unadorned := by
      obtain ⟨w, rfl⟩ := ho.assign_eq_ok hdeclared hp
      exact ho.setField hdeclared w
    rw [hassigned.unnoted?_eq_none (s.load stored)]
    exact .inr (hs.confined_assign hstored hdeclared hp hsame rfl)
  | editAdditional hfield hstored hi e ha =>
    exact .inr (hs.confined_editAdditional hfield hstored hi _ ha)
  | constructLate _ _ => cases ht
  | @assignLate name field v stored e hstored hp he =>
    have hobject : s.object? name = some (s.load stored) := by rw [object?, hstored]; rfl
    have hdeclared := ht _ hobject
    obtain ⟨hvalidates, hunready⟩ :=
      (hs.unadorned_load hstored).assign_eq_validator hdeclared hp
    exact .inl ⟨name, field, v, _, e, rfl, hobject, hvalidates, hunready, he, rfl⟩

/-- A step keeps a store isolated. -/
theorem of_took {t : Step} (ht : s.Admits t) {s' : Store} {a : Answer} (h : Took s t s' a) :
    s'.Isolated := by
  rcases hs.confined_of_took ht h with ⟨_, _, _, _, _, _, _, _, _, _, hlate⟩ | hconfined
  · cases hlate
    exact ⟨⟨hs.apart.bounded, hs.apart.distinct⟩, hs.unadorned, hs.classes⟩
  · exact hconfined.isolated

end Isolated

/-- A run keeps a store isolated. -/
theorem isolated_of_run (home : String) (occurrence : Nat) {steps : List Step}
    (hsteps : Along Admits (Store.start home occurrence) steps) :
    ((Store.start home occurrence).run steps).1.Isolated :=
  run_keeps (fun _ _ _ _ hs ht htook => hs.of_took ht htook) (isolated_start home occurrence) hsteps

/-- Whether what a step came to tells that it failed. -/
def failed : Except Failure Answer → Bool
  | .error _ => true
  | .ok a => a.isFailure

/-- **Isolation.**  After any run of admitted steps no two places have the same cell, and the
next admitted step is isolated from everything but the place that it writes to: all other raw
maps, objects and classes look as before, and keep their cells.  An object that is changed in a
field stays as it was in the rest.  A step that fails changes nothing at all.

There is one exception, an assignment that asks a class for the validator which it put off.  If
the class is not complete with it the step fails, but the class has its validator from then on;
no raw map, object or class changes otherwise. -/
theorem isolation {home : String} {occurrence : Nat} {steps : List Step}
    (hsteps : Along Admits (Store.start home occurrence) steps) :
    let s := ((Store.start home occurrence).run steps).1
    (∀ p q i, s.cellOf? p = some i → s.cellOf? q = some i → p = q) ∧
    ∀ t, s.Admits t → s.CompletesLate t (s.take t) ∨
      s.SameElsewhere t.place? (s.take t).1 ∧
      (∀ name field o, t.field? = some (name, field) → s.object? name = some o →
        ∃ o', (s.take t).1.object? name = some o' ∧ o.seen.SameBut field o'.seen) ∧
      (failed (s.take t).2 = true → (s.take t).1 = s) := by
  intro s
  have hs : s.Isolated := isolated_of_run home occurrence hsteps
  refine ⟨hs.apart.distinct, fun t ht => ?_⟩
  rcases s.take_cases t with ⟨e, he⟩ | ⟨s', a, ha, htook⟩
  · rw [he]
    exact .inr ⟨.refl _ s, fun _ field o _ ho => ⟨o, ho, .refl field o.seen⟩, fun _ => rfl⟩
  · rw [ha]
    rcases hs.confined_of_took ht htook with hlate | hconfined
    · exact .inl hlate
    · refine .inr ⟨hconfined.others, hconfined.rest, fun hfailed => ?_⟩
      have hnot : a.isFailure = false := hconfined.told
      rw [failed, hnot] at hfailed
      cases hfailed

/-- Builds from a raw map, and from the additional properties of what was built, and copies it. -/
def sharing : List Step := [
  .putRaw "raw" (Entries.empty.insert (.text "a") (.text "1")),
  .build baseName (.raw "raw") "o",
  .build baseName (.additional "o") "p",
  .copy baseName "o" "q"]

/-- An edit of the additional properties of an object is seen in no map that they were copied
from or to. -/
theorem isolation_of_sharing :
    let s := ((Store.start "__main__" 0).run sharing).1
    let s' := (s.take (.setAdditional "o" "a" (.text "2"))).1
    (∃ o, s'.object? "o" = some o ∧ o.additional = some (.map [(.text "a", .text "2")])) ∧
    s'.raw? "raw" = s.raw? "raw" ∧
    (s'.object? "p").map Props.seen = (s.object? "p").map Props.seen ∧
    (s'.object? "q").map Props.seen = (s.object? "q").map Props.seen := by
  intro s s'
  have hsteps : Along Admits (Store.start "__main__" 0) sharing :=
    ⟨trivial, trivial, trivial, trivial, trivial⟩
  rcases (isolation hsteps).2 (.setAdditional "o" "a" (.text "2")) trivial with hlate | ⟨hsame, _⟩
  · obtain ⟨_, _, _, _, _, hassign, _⟩ := hlate
    cases hassign
  · have hraw : s'.raw? "raw" = s.raw? "raw" := hsame.raws "raw" nofun
    exact ⟨⟨_, rfl, rfl⟩, hraw, hsame.objects "p" (by decide), hsame.objects "q" (by decide)⟩

/-- A class that puts off its validator, and is not complete with it for an option that says how
bytes are written. -/
def deferring : Step :=
  .define "Deferring" baseName none [
    (Attribute.optionsName, ⟨.text, .value (.map [(.text "defer_build", .bool true),
      (.text "validate_assignment", .bool true), (.text "ser_json_bytes", .text "y")])⟩),
    ("v", ⟨.whole, .value (.int 1)⟩)]

/-- An assignment to an object of that class fails, and does not fail when it is made again. -/
theorem changed_of_deferring :
    let s := ((Store.start "__main__" 0).run
      [deferring, .build "Deferring" (.given (.map [])) "o"]).1
    let t := Step.assign "o" "v" (.int 2)
    s.Admits t ∧ failed (s.take t).2 = true ∧ failed ((s.take t).1.take t).2 = false := by
  intro s t
  refine ⟨fun o ho => ?_, ?_, ?_⟩
  · cases ho
    decide +kernel
  · decide +kernel
  · decide +kernel

end Store
end Session
end AuditConfig
