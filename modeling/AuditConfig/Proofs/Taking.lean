import AuditConfig.Proofs.Buildable
import AuditConfig.Session.Step

/-!
# What a step does

A step that is answered writes to one place at most (`Step.place?`): to a raw map, an object
or a class, by its name.  `Took` says in which ways, and `took_of_step` that there are no
others; what else is to be known of steps is read off from that.

Beside what names stand for, a store counts on, and remembers what becomes known of classes.
Of that only which classes have their validator matters (`HoldsSame`).  A step changes this
in one case: a class may turn out not to be complete with its validator, which it has from
then on (`Took.constructLate`, `Took.assignLate`).
-/

namespace AuditConfig
namespace Session

open PropsClass

/-- What a step can write to. -/
inductive Place where
  | raw (name : String)
  | object (name : String)
  | cls (name : String)
  deriving DecidableEq

/-- The place that a step writes to, if it writes at all. -/
def Step.place? : Step → Option Place
  | .putRaw name _ => some (.raw name)
  | .setRaw name _ _ => some (.raw name)
  | .eraseRaw name _ => some (.raw name)
  | .define name _ _ _ => some (.cls name)
  | .build _ _ name => some (.object name)
  | .buildDefault _ name => some (.object name)
  | .report _ _ name => some (.object name)
  | .buildFor _ _ name => some (.object name)
  | .construct _ _ name => some (.object name)
  | .copy _ _ name => some (.object name)
  | .assign object _ _ => some (.object object)
  | .setAdditional object _ _ => some (.object object)
  | .eraseAdditional object _ => some (.object object)
  | _ => none

/-- The object and the field of it that a step changes, if it changes an object and does not
make one. -/
def Step.field? : Step → Option (String × String)
  | .assign object field _ => some (object, field)
  | .setAdditional object _ _ => some (object, additionalName)
  | .eraseAdditional object _ => some (object, additionalName)
  | _ => none

theorem Step.place?_of_field? {t : Step} {name field : String}
    (h : t.field? = some (name, field)) : t.place? = some (.object name) := by
  cases t <;> cases h <;> rfl

/-- Whether an answer tells that the step failed. -/
def Answer.isFailure : Answer → Bool
  | .unnoted _ => true
  | .incomplete _ => true
  | _ => false

namespace Store

/-- Two stores hold the same under all names, and the same classes have their validators. -/
structure HoldsSame (s s' : Store) : Prop where
  cells : s'.cells = s.cells
  raws : s'.raws = s.raws
  objects : s'.objects = s.objects
  classes : s'.classes = s.classes
  ready : ∀ c, (s'.learnedOf c).isReady = (s.learnedOf c).isReady

theorem HoldsSame.refl (s : Store) : s.HoldsSame s := ⟨rfl, rfl, rfl, rfl, fun _ => rfl⟩

theorem HoldsSame.trans {s s' s'' : Store} (h : s.HoldsSame s') (h' : s'.HoldsSame s'') :
    s.HoldsSame s'' where
  cells := h'.cells.trans h.cells
  raws := h'.raws.trans h.raws
  objects := h'.objects.trans h.objects
  classes := h'.classes.trans h.classes
  ready c := (h'.ready c).trans (h.ready c)

/-- Where an object is put does not depend on what the store counts. -/
theorem holdsSame_putObject {s s' : Store} (h : s.HoldsSame s') (name : String) (o : Props) :
    (s.putObject name o).HoldsSame (s'.putObject name o) := by
  unfold putObject
  cases o.additional with
  | none => exact ⟨h.cells, h.raws, by rw [h.objects], h.classes, h.ready⟩
  | some v => exact ⟨by rw [h.cells], h.raws, by rw [h.objects, h.cells], h.classes, h.ready⟩

/-- To know how a name is assigned is not to have a validator. -/
theorem holdsSame_noteHandled (s : Store) (c : PropsClass) (name : String) :
    s.HoldsSame (s.noteHandled c name) where
  cells := rfl
  raws := rfl
  objects := rfl
  classes := rfl
  ready d := by
    rw [noteHandled, learnedOf, Entries.get?_insert]
    split
    · next h => simp [learnedOf, h]
    · rfl

/-- The store after an assignment that made an object of one that is stored. -/
def withAssigned (s : Store) (name field : String) (stored : Stored) (p : Props) : Store :=
  if (s.load stored).replacesAdditional field then s.putObject name p
  else { s with objects := s.objects.insert name ⟨p, stored.cell⟩ }

/-- What a step that is answered does to a store, and what it answers. -/
inductive Took (s : Store) : Step → Store → Answer → Prop where
  /-- It only looks. -/
  | looked {t : Step} {a : Answer} (ht : t.place? = none) (ha : a.isFailure = false) : Took s t s a
  | putRaw (name : String) (e : Entries Key Value) :
      Took s (.putRaw name e) (s.putRaw name e) (.raw e)
  /-- It changes a raw map in its cell. -/
  | editRaw {t : Step} {name : String} {i : Nat} (ht : t.place? = some (.raw name))
      (hi : s.raws.get? name = some i) (e : Entries Key Value) :
      Took s t (s.setCell i (.ofEntries e)) (.raw e)
  | define {name parent : String} {drafts : Option (List FieldSpec.Draft)}
      {fields : List (String × FieldDecl)} {base c : PropsClass} {specs : Option (List FieldSpec)}
      (hbase : s.class? parent = some base) (hspecs : drafts.mapM specsOf = .ok specs)
      (hc : PropsClass.define s.nextClass base ⟨name, s.home, specs, fields⟩ = .ok c) :
      Took s (.define name parent drafts fields) (s.putClass name c) (.cls c)
  /-- It builds an object, with storage of its own. -/
  | build {t : Step} {name : String} {c : PropsClass} {entries : Entries Key Value} {r : Report}
      {making : Nat} {s' : Store} {a : Answer} (ht : t.place? = some (.object name))
      (hf : t.field? = none)
      (hc : (∃ builder, s.class? builder = some c) ∨ ∃ p : Processor, c = p.cls)
      (hr : c.reportEntries entries = .ok r)
      (hs : (s.putObject name { r.props with making := making }).HoldsSame s')
      (ha : a.isFailure = false) : Took s t s' a
  | construct {cls name : String} {values : Table Value} {c : PropsClass} {o : Props}
      (hc : s.class? cls = some c) (ho : c.construct s.nextOccurrence values = .ok o) :
      Took s (.construct cls values name) (s.keepConstructed name values o).1
        (s.keepConstructed name values o).2
  | copy {cls object name : String} {c : PropsClass} {stored : Stored} {o : Props}
      (hs : s.objects.get? object = some stored) (ho : (s.load stored).copyAs c = .ok o) :
      Took s (.copy cls object name) (s.keepCopy name stored o).1 (s.keepCopy name stored o).2
  | assign {name field : String} {v : Value} {stored : Stored} {p : Props} {s' : Store}
      (hs : s.objects.get? name = some stored)
      (hp : (s.load stored).assign s.nextOccurrence field v = .ok p)
      (hs' : (s.withAssigned name field stored p).HoldsSame s') :
      Took s (.assign name field v) s'
        ((((s.load stored).unnoted? p field).map .unnoted).getD (.object p))
  /-- It changes additional properties in their cell. -/
  | editAdditional {t : Step} {name : String} {stored : Stored} {i : Nat} {a : Answer}
      (ht : t.field? = some (name, additionalName)) (hs : s.objects.get? name = some stored)
      (hi : stored.cell = some i) (e : Entries Key Value) (ha : a.isFailure = false) :
      Took s t (s.setCell i (.ofEntries e)) a
  /-- An object is not constructed, or assigned to, since its class is not complete with its
  validator. -/
  | constructLate {cls name : String} {values : Table Value} {c : PropsClass} {e : ValidatorError}
      (hc : s.class? cls = some c) (he : e.isLate = true) :
      Took s (.construct cls values name) (s.noteReady c) (.incomplete e)
  | assignLate {name field : String} {v : Value} {stored : Stored} {e : ValidatorError}
      (hs : s.objects.get? name = some stored)
      (hp : (s.load stored).assign s.nextOccurrence field v = .error (.validator e))
      (he : e.isLate = true) :
      Took s (.assign name field v) (s.noteReady (s.load stored).cls) (.incomplete e)

theorem named_eq_ok_iff {α : Type} {name : String} {o : Option α} {a : α} :
    named name o = .ok a ↔ o = some a := by
  cases o <;> simp [named]

/-- A failure is an answer exactly if it is that a class is not complete. -/
theorem unlessReady_eq_ok_iff {s : Store} {c : PropsClass} {f : Failure}
    {e : Option ValidatorError} {r : Store × Answer} : s.unlessReady c f e = .ok r ↔
      ∃ late, e = some late ∧ late.isLate = true ∧ r = (s.noteReady c, .incomplete late) := by
  constructor
  · intro h
    unfold unlessReady at h
    split at h
    · next late hlate =>
      obtain ⟨he, hl⟩ := Option.filter_eq_some_iff.1 hlate
      exact ⟨late, he, hl, (Except.ok.inj h).symm⟩
    · cases h
  · rintro ⟨late, rfl, hlate, rfl⟩
    simp [unlessReady, Option.filter_some, hlate]

/-- A new object is put where any object is. -/
theorem holdsSame_counted (s : Store) (name : String) (o : Props) :
    (s.putObject name { o with making := s.nextMaking }).HoldsSame
      ((s.counted o).1.putObject name (s.counted o).2) := by
  have hcounted : s.HoldsSame (s.counted o).1 := ⟨rfl, rfl, rfl, rfl, fun _ => rfl⟩
  exact holdsSame_putObject hcounted name _

theorem took_editRaw {s s' : Store} {t : Step} {name : String}
    {f : Entries Key Value → Entries Key Value} {a : Answer} (ht : t.place? = some (.raw name))
    (h : s.editRaw name f = .ok (s', a)) : Took s t s' a := by
  simp only [editRaw, bind_eq_ok_iff, named_eq_ok_iff] at h
  obtain ⟨i, hi, e, _, h⟩ := h
  cases h
  exact .editRaw ht hi (f e)

theorem took_editAdditional {s s' : Store} {t : Step} {name : String}
    {f : Entries Key Value → Entries Key Value} {a : Answer}
    (ht : t.field? = some (name, additionalName)) (h : s.editAdditional name f = .ok (s', a)) :
    Took s t s' a := by
  simp only [editAdditional, bind_eq_ok_iff, named_eq_ok_iff] at h
  obtain ⟨o, ho, v, _, h⟩ := h
  split at h
  · next hi _ =>
    cases h
    exact .editAdditional ht ho hi _ rfl
  · cases h

theorem took_assign {s s' : Store} {name field : String} {v : Value} {a : Answer}
    (h : s.assign name field v = .ok (s', a)) : Took s (.assign name field v) s' a := by
  simp only [assign, bind_eq_ok_iff, named_eq_ok_iff] at h
  obtain ⟨stored, hs, h⟩ := h
  cases hp : (s.load stored).assign s.nextOccurrence field v with
  | error e =>
    rw [hp] at h
    obtain ⟨late, he, hlate, hr⟩ := unlessReady_eq_ok_iff.1 h
    cases hr
    cases e <;> cases he
    exact .assignLate hs hp hlate
  | ok p =>
    rw [hp] at h
    let counted : Store := { s with nextOccurrence := s.nextOccurrence + 1 }
    have hcounted : s.HoldsSame counted := ⟨rfl, rfl, rfl, rfl, fun _ => rfl⟩
    have hafter : (s.withAssigned name field stored p).HoldsSame
        (counted.withAssigned name field stored p) := by
      unfold withAssigned
      change Store.HoldsSame (if (s.load stored).replacesAdditional field then _ else _)
        (if (s.load stored).replacesAdditional field then _ else _)
      split
      · exact holdsSame_putObject hcounted name p
      · exact ⟨rfl, rfl, rfl, rfl, fun _ => rfl⟩
    have hnoted : ∀ b : Bool, (s.withAssigned name field stored p).HoldsSame
        (if b then (counted.withAssigned name field stored p).noteHandled (s.load stored).cls field
          else counted.withAssigned name field stored p) := by
      intro b
      split
      · exact hafter.trans (holdsSame_noteHandled ..)
      · exact hafter
    have htook := Took.assign hs hp (hnoted ((s.load stored).isRemembered field &&
      (p.loose.get? Props.handlersName).isNone))
    dsimp only at h
    split at h
    · next e he =>
      cases h
      rw [he] at htook
      exact htook
    · next he =>
      cases h
      rw [he] at htook
      exact htook

/-- **What a step that is answered does.** -/
theorem took_of_step {s s' : Store} {t : Step} {a : Answer} (h : s.step t = .ok (s', a)) :
    Took s t s' a := by
  cases t with
  | putRaw name e => cases h; exact .putRaw name e
  | setRaw name key v => exact took_editRaw rfl h
  | eraseRaw name key => exact took_editRaw rfl h
  | showRaw name =>
    simp only [step, bind_eq_ok_iff] at h
    obtain ⟨_, _, h⟩ := h
    cases h
    exact .looked rfl rfl
  | define name parent drafts fields =>
    simp only [step, bind_eq_ok_iff, named_eq_ok_iff, failing_eq_ok_iff] at h
    obtain ⟨base, hbase, specs, hspecs, c, hc, h⟩ := h
    cases h
    exact .define hbase hspecs hc
  | build builder source name =>
    simp only [step, bind_eq_ok_iff, named_eq_ok_iff, failing_eq_ok_iff] at h
    obtain ⟨c, hc, raw, _, o, ho, h⟩ := h
    obtain ⟨entries, r, _, hr, rfl⟩ := (build_eq_ok_iff ..).1 ho
    cases h
    exact .build rfl rfl (.inl ⟨builder, hc⟩) hr (holdsSame_counted s name r.props) rfl
  | buildDefault builder name =>
    simp only [step, bind_eq_ok_iff, named_eq_ok_iff, failing_eq_ok_iff] at h
    obtain ⟨c, hc, o, ho, h⟩ := h
    obtain ⟨entries, r, _, hr, rfl⟩ := (build_eq_ok_iff ..).1 ho
    cases h
    exact .build rfl rfl (.inl ⟨builder, hc⟩) hr (holdsSame_counted s name r.props) rfl
  | report builder source name =>
    simp only [step, bind_eq_ok_iff, named_eq_ok_iff, failing_eq_ok_iff] at h
    obtain ⟨c, hc, raw, _, r, hr, h⟩ := h
    obtain ⟨entries, hr⟩ := PropsClass.exists_entries_of_report hr
    cases h
    exact .build rfl rfl (.inl ⟨builder, hc⟩) hr (holdsSame_counted s name r.props) rfl
  | buildFor processor source name =>
    simp only [step, bind_eq_ok_iff, failing_eq_ok_iff] at h
    obtain ⟨held, _, n, _, raw, _, ⟨p, r⟩, hr, h⟩ := h
    obtain ⟨_, hr⟩ := (LoggedBuild.prepare_eq_ok_iff ..).1 hr
    obtain ⟨entries, hr⟩ := PropsClass.exists_entries_of_report hr
    cases h
    exact .build rfl rfl (.inr ⟨p, rfl⟩) hr (holdsSame_counted s name r.props) rfl
  | construct cls values name =>
    simp only [step, bind_eq_ok_iff, named_eq_ok_iff] at h
    obtain ⟨c, hc, h⟩ := h
    split at h
    · next o ho =>
      have hr : s.keepConstructed name values o = (s', a) := Except.ok.inj h
      have htook : Took s (.construct cls values name) _ _ := .construct hc ho
      rwa [hr] at htook
    · obtain ⟨late, _, hlate, hr⟩ := unlessReady_eq_ok_iff.1 h
      cases hr
      exact .constructLate hc hlate
  | copy cls object name =>
    simp only [step, bind_eq_ok_iff, named_eq_ok_iff, failing_eq_ok_iff] at h
    obtain ⟨c, hc, stored, hs, o, ho, h⟩ := h
    have hr : s.keepCopy name stored o = (s', a) := Except.ok.inj h
    have htook : Took s (.copy cls object name) _ _ := .copy hs ho
    rwa [hr] at htook
  | assign object field v => exact took_assign h
  | setAdditional object key v =>
    exact took_editAdditional (f := fun e => e.insert (.text key) v) rfl h
  | eraseAdditional object key =>
    exact took_editAdditional (f := fun e => e.erase (.text key)) rfl h
  | showObject object =>
    simp only [step, bind_eq_ok_iff] at h
    obtain ⟨_, _, h⟩ := h
    cases h
    exact .looked rfl rfl
  | processorNames object =>
    simp only [step, bind_eq_ok_iff] at h
    obtain ⟨_, _, _, _, h⟩ := h
    cases h
    exact .looked rfl rfl
  | equal x y =>
    simp only [step, bind_eq_ok_iff] at h
    obtain ⟨_, _, _, _, _, _, h⟩ := h
    cases h
    exact .looked rfl rfl
  | sameAdditional x y =>
    simp only [step, bind_eq_ok_iff] at h
    obtain ⟨_, _, _, _, _, _, _, _, h⟩ := h
    cases h
    exact .looked rfl rfl
  | sameRaw object name =>
    simp only [step, bind_eq_ok_iff] at h
    obtain ⟨_, _, _, _, _, _, h⟩ := h
    cases h
    exact .looked rfl rfl

/-- **A step fails and changes nothing, or it does one of these things.** -/
theorem take_cases (s : Store) (t : Step) : (∃ e, s.take t = (s, .error e)) ∨
    ∃ s' a, s.take t = (s', .ok a) ∧ Took s t s' a := by
  unfold take
  cases h : s.step t with
  | error e => exact .inl ⟨e, rfl⟩
  | ok r => exact .inr ⟨r.1, r.2, rfl, took_of_step h⟩

/-- Every step of a run is of some kind, which may depend on the store it is taken on. -/
def Along (Q : Store → Step → Prop) : Store → List Step → Prop
  | _, [] => True
  | s, t :: rest => Q s t ∧ Along Q (s.take t).1 rest

theorem along_of_forall {Q : Step → Prop} {steps : List Step} (h : ∀ t ∈ steps, Q t) (s : Store) :
    Along (fun _ => Q) s steps := by
  induction steps generalizing s with
  | nil => trivial
  | cons t rest ih => exact ⟨h t (.head _), ih (fun u hu => h u (.tail _ hu)) _⟩

/-- **What every step keeps, a run keeps.** -/
theorem run_keeps {P : Store → Prop} {Q : Store → Step → Prop}
    (hstep : ∀ s t s' a, P s → Q s t → Took s t s' a → P s') {s : Store} (hs : P s)
    {steps : List Step} (h : Along Q s steps) : P (s.run steps).1 := by
  induction steps generalizing s with
  | nil => exact hs
  | cons t rest ih =>
    have hnext : P (s.take t).1 := by
      rcases s.take_cases t with ⟨e, he⟩ | ⟨s', a, ha, htook⟩
      · rw [he]
        exact hs
      · rw [ha]
        exact hstep s t s' a hs h.1 htook
    exact ih hnext h.2

end Store
end Session
end AuditConfig
