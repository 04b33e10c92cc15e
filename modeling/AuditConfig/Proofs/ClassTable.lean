import AuditConfig.Proofs.Lawful
import AuditConfig.Proofs.Taking

/-!
# The table of classes in a session

Classes are made by definitions and by nothing else, so that what holds of the base class and
of those of the processors, and is kept by every definition of a session, holds of every class
that a name stands for (`Store.forall_class_of_run`).  In this way every spec of every class
fits the fields of the class, whatever the session does (`fits_of_run`).

A lawful definition is refused exactly if some spec of the class to be does not fit, and then
for the first condition that does not hold of the first such spec.  It is told so, unless
what it would be told shows a number of too many digits (`Violation.exists_message_iff`).
-/

namespace AuditConfig

namespace PropsClass

/-- The defaults that are shown when a violation is told. -/
def Violation.shown : Violation → List FieldDefault
  | .defaultRejected s => [.value s.default]
  | .fieldMissing _ => []
  | .annotationDiffers _ _ => []
  | .defaultDiffers s d => [d, .value s.default]

/-- **A violation can be told if the defaults that are shown have a text.** -/
theorem Violation.exists_message_iff (v : Violation) (className : String) :
    (∃ text, v.message className = .ok text) ↔ ∀ d ∈ v.shown, ∃ cs, d.quoted = .ok cs := by
  cases v with
  | defaultRejected s =>
    simp only [message, Session.bind_eq_ok_iff, shown, List.mem_singleton, forall_eq,
      FieldDefault.quoted]
    constructor
    · rintro ⟨_, cs, hcs, _⟩
      exact ⟨cs, hcs⟩
    · rintro ⟨cs, hcs⟩
      exact ⟨_, cs, hcs, rfl⟩
  | fieldMissing s => simp [message, shown]
  | annotationDiffers s a => simp [message, shown]
  | defaultDiffers s d =>
    simp only [message, Session.bind_eq_ok_iff, shown, List.forall_mem_cons, List.not_mem_nil,
      FieldDefault.quoted, false_implies, implies_true, and_true]
    constructor
    · rintro ⟨_, ds, hds, cs, hcs, _⟩
      exact ⟨⟨ds, hds⟩, cs, hcs⟩
    · rintro ⟨⟨ds, hds⟩, cs, hcs⟩
      exact ⟨_, ds, hds, cs, hcs, rfl⟩

end PropsClass

namespace Session

open PropsClass

/-- A step that is lawful if it is a definition. -/
def Step.IsLawful : Step → Prop
  | .define name _ _ fields => ∀ home specs, Definition.IsLawful ⟨name, home, specs, fields⟩
  | _ => True

namespace Store

/-- Every defined class has a property. -/
def AllDefined (P : PropsClass → Prop) (s : Store) : Prop :=
  ∀ name c, s.classes.get? name = some c → P c

section

variable {P : PropsClass → Prop} (hbase : P .base) (hprocessor : ∀ p : Processor, P p.cls)
  (hlearned : ∀ (l : Learned) c, P c → P (l.of c))
include hbase hprocessor hlearned

/-- Then every class that a name stands for has it. -/
theorem AllDefined.of_class? {s : Store} (h : s.AllDefined P) {name : String} {c : PropsClass}
    (hc : s.class? name = some c) : P c := by
  unfold class? at hc
  obtain ⟨d, hd, rfl⟩ := Option.map_eq_some_iff.1 hc
  refine hlearned _ d ?_
  split at hd
  · cases hd; exact hbase
  · split at hd
    · cases hd; exact hprocessor _
    · exact h name d hd

end

theorem classes_putObject (s : Store) (name : String) (o : Props) :
    (s.putObject name o).classes = s.classes := by
  unfold putObject
  split <;> rfl

theorem classes_keepCopy (s : Store) (name : String) (stored : Stored) (o : Props) :
    (s.keepCopy name stored o).1.classes = s.classes := by
  unfold keepCopy
  split
  · rfl
  · exact s.classes_putObject name o

theorem classes_keepConstructed (s : Store) (name : String) (values : Table Value) (o : Props) :
    (s.keepConstructed name values o).1.classes = s.classes := by
  have hdefault : ∀ (s : Store) (origin : Nat) (o : Props),
      (s.putDefault name origin o).classes = s.classes := by
    intro s origin o
    unfold putDefault
    split
    · rfl
    · exact s.classes_putObject name o
  unfold keepConstructed
  dsimp only
  split
  · rw [hdefault]
    rfl
  · exact classes_putObject _ name _

theorem classes_withAssigned (s : Store) (name field : String) (stored : Stored) (p : Props) :
    (s.withAssigned name field stored p).classes = s.classes := by
  unfold withAssigned
  split
  · exact s.classes_putObject name p
  · rfl

/-- **Only a definition defines a class.** -/
theorem classes_of_took {s s' : Store} {t : Step} {a : Answer} (ht : Took s t s' a) :
    s'.classes = s.classes ∨ ∃ name parent drafts fields base specs c,
      t = .define name parent drafts fields ∧ s.class? parent = some base ∧
      PropsClass.define s.nextClass base ⟨name, s.home, specs, fields⟩ = .ok c ∧
      s'.classes = s.classes.insert name c := by
  cases ht with
  | define hbase _ hc => exact .inr ⟨_, _, _, _, _, _, _, rfl, hbase, hc, rfl⟩
  | build _ _ _ _ hs _ => exact .inl (hs.classes.trans (s.classes_putObject ..))
  | construct _ _ => exact .inl (s.classes_keepConstructed ..)
  | copy _ _ => exact .inl (s.classes_keepCopy ..)
  | assign _ _ hs => exact .inl (hs.classes.trans (s.classes_withAssigned ..))
  | _ => exact .inl rfl

/-- **What every definition of a session keeps holds of every class that a name stands
for,** if it holds of the classes that there are at first. -/
theorem forall_class_of_run {P : PropsClass → Prop} (hbase : P .base)
    (hprocessor : ∀ p : Processor, P p.cls) (hlearned : ∀ (l : Learned) c, P c → P (l.of c))
    {Q : Step → Prop}
    (hdefine : ∀ name parent drafts fields, Q (.define name parent drafts fields) →
      ∀ id home base specs c, P base →
        PropsClass.define id base ⟨name, home, specs, fields⟩ = .ok c → P c)
    (home : String) (occurrence : Nat) {steps : List Step} (hsteps : ∀ t ∈ steps, Q t)
    {name : String} {c : PropsClass}
    (hc : ((Store.start home occurrence).run steps).1.class? name = some c) : P c := by
  have hrun : ((Store.start home occurrence).run steps).1.AllDefined P := by
    refine run_keeps (Q := fun _ => Q) ?_ (fun _ _ hc => by cases hc) (along_of_forall hsteps _)
    intro s t s' a hs ht htook
    rcases classes_of_took htook with hsame |
      ⟨n, parent, drafts, fields, base, specs, d, rfl, hb, hd, hs'⟩
    · intro n d hd
      rw [hsame] at hd
      exact hs n d hd
    · have hP : P d := hdefine _ _ _ _ ht _ _ _ _ _ (hs.of_class? hbase hprocessor hlearned hb) hd
      intro m e he
      rw [hs', Entries.get?_insert] at he
      split at he
      · cases he; exact hP
      · exact hs m e he
  exact hrun.of_class? hbase hprocessor hlearned hc

/-- **Every spec of every class fits the fields of the class,** whatever a session does. -/
theorem fits_of_run (home : String) (occurrence : Nat) (steps : List Step) {name : String}
    {c : PropsClass} (hc : ((Store.start home occurrence).run steps).1.class? name = some c) :
    ∀ s ∈ c.specs, Fits c.fields s := by
  refine forall_class_of_run (P := fun c => ∀ s ∈ c.specs, Fits c.fields s) (Q := fun _ => True)
    ?_ ?_ (fun _ _ h => h) ?_ home occurrence (fun _ _ => trivial) hc
  · intro s hs
    cases hs
  · exact fun p s hs => (fits_iff ..).2 (check_processor p s hs)
  · intro _ _ _ _ _ _ _ _ _ _ _ hd s hs
    obtain ⟨_, _, _, _, _, hcheck⟩ := (define_eq_ok_iff ..).1 hd
    exact (fits_iff ..).2 (hcheck s hs)

/-- **Lawful definitions make lawful classes.** -/
theorem lawful_of_run (home : String) (occurrence : Nat) {steps : List Step}
    (hsteps : ∀ t ∈ steps, t.IsLawful) {name : String} {c : PropsClass}
    (hc : ((Store.start home occurrence).run steps).1.class? name = some c) : c.Lawful := by
  refine forall_class_of_run (P := Lawful) lawful_base lawful_processor ?_ ?_ home occurrence
    hsteps hc
  · exact fun l c h => ⟨⟨h.plain.replaced, h.plain.privates, h.plain.slotless, h.plain.unlost⟩,
      h.options, h.parameters, h.guarded⟩
  · intro _ _ _ _ ht id home base specs c hbase hd
    have hlawful := ht home specs
    rw [define_of_lawful hbase hlawful] at hd
    split at hd
    · cases hd
    · cases hd
      exact hbase.extend hlawful id

/-- What a lawful definition answers, and what it leaves. -/
theorem take_of_lawful {s : Store} {name parent : String}
    {drafts : Option (List FieldSpec.Draft)} {fields : List (String × FieldDecl)}
    {base : PropsClass} {specs : Option (List FieldSpec)}
    (ht : (Step.define name parent drafts fields).IsLawful) (hparent : s.class? parent = some base)
    (hbase : base.Lawful) (hspecs : drafts.mapM specsOf = .ok specs) :
    let c := extend s.nextClass .base base ⟨name, s.home, specs, fields⟩
    s.take (.define name parent drafts fields) =
      match c.firstViolation with
      | some v => (s, .error (.define (v.error name)))
      | none => (s.putClass name c, .ok (.cls c)) := by
  intro c
  have hdefine := define_of_lawful hbase (ht s.home specs) s.nextClass
  have hstep : s.step (.define name parent drafts fields) =
      (failing .define (PropsClass.define s.nextClass base ⟨name, s.home, specs, fields⟩)).map
        fun c => (s.putClass name c, .cls c) := by
    simp only [step, hparent, named, hspecs, failing, bind, Except.bind]
    cases PropsClass.define s.nextClass base ⟨name, s.home, specs, fields⟩ <;> rfl
  rw [take, hstep, hdefine]
  change _ = match (extend s.nextClass .base base ⟨name, s.home, specs, fields⟩).firstViolation with
    | some v => _
    | none => _
  cases (extend s.nextClass .base base ⟨name, s.home, specs, fields⟩).firstViolation <;> rfl

/-- **The table of classes.**  Whatever a session does, every spec of every class that a name
stands for fits the fields of the class.

In a session of lawful definitions, the next lawful definition is answered as follows.  The
class to be has the specs of the definition, or else those of its parent, and the fields of the
definition, and of the others those of its parent; a member of the parent can stand in for a
default under its own name.  If all specs fit these fields, there is such a class from then on.
If one does not, the definition is refused and the store stays as it was.  The refusal is for
the first condition that does not hold of the first such spec, and it says so, as long as the
defaults that are shown have a text; if one has not, for too many digits, the refusal says only
that. -/
theorem class_table (home : String) (occurrence : Nat) (steps : List Step) :
    let s := ((Store.start home occurrence).run steps).1
    (∀ name c, s.class? name = some c → ∀ spec ∈ c.specs, Fits c.fields spec) ∧
    ((∀ t ∈ steps, t.IsLawful) → ∀ name parent drafts fields base specs,
      (Step.define name parent drafts fields).IsLawful → s.class? parent = some base →
      drafts.mapM specsOf = .ok specs →
      let t := Step.define name parent drafts fields
      let d : Definition := ⟨name, s.home, specs, fields⟩
      let c := extend s.nextClass .base base d
      (d.own.get? Attribute.specsName = none → c.specs = specs.getD base.specs) ∧
      (∀ field, field ≠ Attribute.specsName → base.members.lookup field = none →
        c.fields.get? field = (d.own.get? field).or (base.fields.get? field)) ∧
      ((∃ e, (s.take t).2 = .error e) ↔ ∃ spec ∈ c.specs, ¬ Fits c.fields spec) ∧
      ((∀ spec ∈ c.specs, Fits c.fields spec) → s.take t = (s.putClass name c, .ok (.cls c))) ∧
      ∀ before spec after v, c.specs = before ++ spec :: after →
        (∀ other ∈ before, Fits c.fields other) → Fails c.fields spec v →
        ∃ e, s.take t = (s, .error (.define e)) ∧
          ((∀ shown ∈ v.shown, ∃ text, shown.quoted = .ok text) →
            ∃ text, v.message name = .ok text ∧ e = .violation v text) ∧
          ((¬ ∀ shown ∈ v.shown, ∃ text, shown.quoted = .ok text) →
            ∃ limit, e = .digits limit)) := by
  intro s
  refine ⟨fun name c hc => fits_of_run home occurrence steps hc, ?_⟩
  intro hsteps name parent drafts fields base specs ht hparent hspecs t d c
  have hbase : base.Lawful := lawful_of_run home occurrence hsteps hparent
  have htake : s.take t = match c.firstViolation with
      | some v => (s, .error (.define (v.error name)))
      | none => (s.putClass name c, .ok (.cls c)) := take_of_lawful ht hparent hbase hspecs
  refine ⟨fun hown => ?_, fun field hf hm => ?_, ?_, fun hfit => ?_, ?_⟩
  · change d.specsOf base = _
    rw [Definition.specsOf, hown]
    rfl
  · exact (ht s.home specs).get?_fields s.nextClass .base hf hm
  · rw [htake]
    cases hv : c.firstViolation with
    | some v =>
      obtain ⟨before, spec, after, hsplit, _, hfails⟩ := (firstViolation_eq_some_iff c v).1 hv
      refine ⟨fun _ => ⟨spec, by rw [hsplit]; simp, fun hfit => ?_⟩, fun _ => ⟨_, rfl⟩⟩
      rw [fits_iff, (fails_iff ..).1 hfails] at hfit
      cases hfit
    | none =>
      have hfit := (firstViolation_eq_none_iff c).1 hv
      constructor
      · rintro ⟨e, he⟩
        cases he
      · rintro ⟨spec, hspec, hnot⟩
        exact absurd (hfit spec hspec) hnot
  · rw [htake, (firstViolation_eq_none_iff c).2 hfit]
  · intro before spec after v hsplit hbefore hfails
    have hv := (firstViolation_eq_some_iff c v).2 ⟨before, spec, after, hsplit, hbefore, hfails⟩
    refine ⟨v.error name, by rw [htake, hv], fun hshown => ?_, fun hshown => ?_⟩
    · obtain ⟨text, htext⟩ := (v.exists_message_iff name).2 hshown
      exact ⟨text, htext, by rw [Violation.error, htext]⟩
    · rw [← v.exists_message_iff name] at hshown
      cases hm : v.message name with
      | ok text => exact absurd ⟨text, hm⟩ hshown
      | error limit => exact ⟨limit, by rw [Violation.error, hm]⟩

/-- A definition with one field is lawful if the names are. -/
theorem isLawful_of_field {name parent field : String} {drafts : Option (List FieldSpec.Draft)}
    {f : FieldDecl} (hname : '\x00' ∉ name.toList) (hfree : Attribute.isFree field = false)
    (hlegal : IsLegal field) (hold : Options.oldName ≠ field)
    (hdefault : ∀ shown, f.default ≠ .lostSlot shown) :
    (Step.define name parent drafts [(field, f)]).IsLawful := by
  intro home specs
  refine ⟨hname, fun g hg => ?_, fun g hg => ?_, fun l => ?_⟩
  · rw [List.mem_singleton.1 hg]
    exact ⟨hfree, hdefault⟩
  · rw [List.mem_singleton.1 hg]
    exact hlegal
  · have hown : Definition.default? ⟨name, home, specs, [(field, f)]⟩ Options.oldName = none := by
      change ((Entries.empty.insert field f).get? Options.oldName).bind _ = none
      rw [Entries.get?_insert, if_neg hold]
      rfl
    rw [hown]
    exact nofun

/-- A class with one field, of a whole number. -/
def sized : Step :=
  .define "Sized" baseName
    (some [⟨some (.text "size"), some (.text "test.size"), some (.text "integer"), some (.int 1)⟩])
    [("size", ⟨.whole, .value (.int 1)⟩)]

/-- A class defined from it that declares the field again. -/
def resized (name : String) (size : FieldDecl) : Step := .define name "Sized" none [("size", size)]

/-- A truth value for the default of a whole number is accepted if it equals it, while the same
number as a text is refused for the annotation. -/
theorem class_table_of_sized :
    let s := ((Store.start "__main__" 0).run [sized]).1
    (∃ c, s.take (resized "Truthy" ⟨.whole, .value (.bool true)⟩) =
      (s.putClass "Truthy" c, .ok (.cls c))) ∧
    ∃ v, s.take (resized "Worded" ⟨.text, .value (.text "1")⟩) = (s, .error (.define (.violation v
      "Worded.size is annotated <class 'str'>, but its FieldSpec is a integer."))) := by
  intro s
  have hsteps : ∀ t ∈ [sized], t.IsLawful := by
    intro t ht
    rw [List.mem_singleton.1 ht]
    exact isLawful_of_field (by decide) (by decide) (by decide) (by decide) nofun
  obtain ⟨base, hbase, hspecs, hmember⟩ : ∃ base, s.class? "Sized" = some base ∧
      base.specs = [⟨"size", "test.size", .integer, .int 1⟩] ∧
      base.members.lookup "size" = none := ⟨_, rfl, rfl, rfl⟩
  have hnext := (class_table "__main__" 0 [sized]).2 hsteps
  constructor
  · have htruthy : (resized "Truthy" ⟨.whole, .value (.bool true)⟩).IsLawful :=
      isLawful_of_field (by decide) (by decide) (by decide) (by decide) nofun
    obtain ⟨hown, hfields, _, haccepted, _⟩ := hnext _ _ _ _ _ none htruthy hbase rfl
    refine ⟨_, haccepted fun spec hspec => ?_⟩
    rw [(hown rfl).trans hspecs] at hspec
    obtain rfl := List.mem_singleton.1 hspec
    exact ⟨rfl, _, _, hfields "size" (by decide) hmember, rfl, rfl, rfl⟩
  · have hworded : (resized "Worded" ⟨.text, .value (.text "1")⟩).IsLawful :=
      isLawful_of_field (by decide) (by decide) (by decide) (by decide) nofun
    obtain ⟨hown, hfields, _, _, hrefused⟩ := hnext _ _ _ _ _ none hworded hbase rfl
    have hsplit := (hown rfl).trans hspecs
    obtain ⟨e, he, htold, _⟩ := hrefused [] _ [] _ hsplit nofun
      (.annotated rfl (hfields "size" (by decide) hmember) (by decide))
    obtain ⟨text, htext, rfl⟩ := htold nofun
    cases htext
    exact ⟨_, he⟩

/-- A spec of a text that has a number for its default. -/
def numbered (n : Int) : FieldSpec := ⟨"x", "k", .string, .int n⟩

/-- The definition of a class with this spec. -/
def numberedStep (n : Int) : Step :=
  .define "Numbered" baseName
    (some [⟨some (.text "x"), some (.text "k"), some (.text "string"), some (.int n)⟩])
    [("x", ⟨.text, .value (.text "d")⟩)]

/-- It is refused, since a number is no text, and says so if the number can be written. -/
theorem take_numberedStep (home : String) (occurrence : Nat) (n : Int) :
    (Store.start home occurrence).take (numberedStep n) = (Store.start home occurrence,
      .error (.define ((Violation.defaultRejected (numbered n)).error "Numbered"))) := by
  have hlawful : (numberedStep n).IsLawful :=
    isLawful_of_field (by decide) (by decide) (by decide) (by decide) nofun
  have htake := take_of_lawful (s := Store.start home occurrence) hlawful rfl lawful_base rfl
  refine htake.trans ?_
  rw [(firstViolation_eq_some_iff ..).2 ⟨[], numbered n, [], rfl, nofun, .accepted rfl⟩]

/-- Of a number that is too long to be written the refusal does not say what is wrong. -/
theorem error_numbered {n : Int} (h : ¬ n.natAbs < tenTo Decimal.limit) :
    (Violation.defaultRejected (numbered n)).error "Numbered" = .digits .writing := by
  have hquoted : (Value.int n).quoted = .error .writing := by
    rw [Value.quoted, Key.quoted, Decimal.write, if_neg h]
  rw [Violation.error, Violation.message, numbered, hquoted]
  rfl

/-- The least number that is too long to be written fails the first condition, and the refusal
does not say so. -/
theorem untold_of_longest :
    (∀ fields, Fails fields (numbered (tenTo Decimal.limit))
      (.defaultRejected (numbered (tenTo Decimal.limit)))) ∧
    (Store.start "__main__" 0).take (numberedStep (tenTo Decimal.limit)) =
      (Store.start "__main__" 0, .error (.define (.digits .writing))) := by
  have hlong : ¬ (tenTo Decimal.limit : Int).natAbs < tenTo Decimal.limit := by
    rw [Int.natAbs_natCast]
    exact Nat.lt_irrefl _
  refine ⟨fun _ => .accepted rfl, ?_⟩
  rw [take_numberedStep, error_numbered hlong]

end Store
end Session
end AuditConfig
