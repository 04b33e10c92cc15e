import AuditConfig.Proofs.Buildable
import AuditConfig.Proofs.Unadorned
import AuditConfig.Session.Store

/-!
# The objects of a class that builds and assignments reach

An object is made by a class if it is built by it, and then its fields are assigned any values
any number of times (`Props.MadeBy`).  What becomes known of the class in the meantime makes no
difference to the object.  Whatever is assigned, the object stays one of its class, has all
that is no field as a new object has it, and has some value for the additional properties
(`MadeBy.asMade`).

A class is defined from another one if a chain of definitions leads from that one to it
(`PropsClass.DefinedFrom`).  The objects of a class are those of the classes that it is defined
from, which are told apart by their numbers and not by their names (`isA_iff`).
-/

namespace AuditConfig
namespace PropsClass

/-- A class is another one, or a chain of definitions leads from that one to it. -/
inductive DefinedFrom : PropsClass → PropsClass → Prop where
  | self (c : PropsClass) : DefinedFrom c c
  | processor (p : Processor) : DefinedFrom p.cls .base
  | define {id : Nat} {parent c k : PropsClass} {d : Definition}
      (hc : PropsClass.define id parent d = .ok c) (h : DefinedFrom parent k) : DefinedFrom c k

theorem DefinedFrom.isA {c k : PropsClass} (h : c.DefinedFrom k) : c.isA k = true := by
  induction h with
  | self c => exact c.isA_self
  | processor p => exact Bool.or_eq_true_iff.2 (.inr (decide_eq_true (.head _)))
  | define hc _ ih =>
    obtain ⟨_, _, _, rfl, _⟩ := (define_eq_ok_iff ..).1 hc
    simp only [PropsClass.isA, Bool.or_eq_true, decide_eq_true_eq] at ih ⊢
    refine .inr (List.mem_cons.2 (ih.imp_left Eq.symm))

/-- **The objects of an accepted class are those of the classes it is defined from.** -/
theorem Accepted.isA_iff {c : PropsClass} (h : c.Accepted) (k : PropsClass) :
    c.isA k = true ↔ ∃ k', c.DefinedFrom k' ∧ k'.id = k.id := by
  constructor
  · intro hk
    induction h with
    | base =>
      simp only [isA, Bool.or_eq_true, decide_eq_true_eq] at hk
      exact ⟨.base, .self _, hk.resolve_right List.not_mem_nil⟩
    | processor p =>
      simp only [isA, Bool.or_eq_true, decide_eq_true_eq] at hk
      rcases hk with hk | hk
      · exact ⟨p.cls, .self _, hk⟩
      · exact ⟨.base, .processor p, (List.mem_singleton.1 hk).symm⟩
    | @define parent c id d _ hc ih =>
      obtain ⟨_, _, _, rfl, _⟩ := (define_eq_ok_iff ..).1 hc
      simp only [isA, Bool.or_eq_true, decide_eq_true_eq] at hk ih
      rcases hk with hk | hk
      · exact ⟨_, .self _, hk⟩
      · obtain ⟨k', hk', hid⟩ := ih ((List.mem_cons.1 hk).imp_left Eq.symm)
        exact ⟨k', .define hc hk', hid⟩
  · rintro ⟨k', hk', hid⟩
    have hisA := hk'.isA
    rwa [isA, hid] at hisA

/-- No field of an accepted class has a free name. -/
theorem Accepted.namesFields {c : PropsClass} (h : c.Accepted) : c.NamesFields := by
  induction h with
  | base => exact namesFields_base
  | processor p => exact namesFields_processor p
  | @define _ _ id d _ hc ih =>
    obtain ⟨options, _, _, rfl, _⟩ := (define_eq_ok_iff ..).1 hc
    exact ih.extend id options d

end PropsClass

namespace Props

/-- **An object that a class makes:** it is built by the class, and then its fields are
assigned values of any kind. -/
inductive MadeBy (c : PropsClass) : Props → Prop where
  /-- It is built, and is a new object of some number. -/
  | build {raw : Value} {o : Props} (h : c.build raw = .ok o) (making : Nat) :
      MadeBy c { o with making := making }
  /-- More becomes known of its class. -/
  | learn {o : Props} (h : MadeBy c o) (l : Session.Learned) :
      MadeBy c { o with cls := l.of o.cls }
  /-- One of its fields is assigned a value. -/
  | assign {o p : Props} (h : MadeBy c o) {field : String}
      (hf : (o.cls.fields.get? field).isSome) {occurrence : Nat} {v : Value}
      (hp : o.assign occurrence field v = .ok p) : MadeBy c p

/-- An object has all that is no field as a new object of the class has it. -/
structure AsMade (c : PropsClass) (o : Props) : Prop where
  cls : o.cls = { c with unready := o.cls.unready, handled := o.cls.handled }
  unadorned : o.Unadorned
  slots : o.slots = .empty
  instead : o.instead = none
  hidden : o.hidden = c.firstHidden
  additional : o.additional.isSome
  created : c.replaced.get? PropsClass.creatorName = none

/-- A new object is as it was made. -/
theorem asMade_of_build {c : PropsClass} (hc : c.Accepted) {raw : Value} {o : Props}
    (h : c.build raw = .ok o) (making : Nat) : AsMade c { o with making := making } := by
  obtain ⟨entries, r, _, hr, rfl⟩ := (PropsClass.build_eq_ok_iff ..).1 h
  obtain ⟨rs, _, hprops⟩ := PropsClass.exists_make_of_reportEntries hr
  have hun := unadorned_of_reportEntries hc.namesFields hr
  have hcreated := (hc.buildable_of_reportEntries hr).created
  rw [hprops] at hun ⊢
  exact ⟨rfl, hun.with_additional _ _ making, rfl, rfl, rfl, rfl, hcreated⟩

variable {c : PropsClass} {o : Props}

/-- What becomes known of its class makes no difference to an object. -/
theorem AsMade.learn (h : AsMade c o) (l : Session.Learned) :
    AsMade c { o with cls := l.of o.cls } where
  cls := by
    rw [Session.Learned.of, h.cls]
  unadorned :=
    ⟨h.unadorned.named, h.unadorned.fields, h.unadorned.standing, h.unadorned.overflow,
      h.unadorned.loose, h.unadorned.record, h.unadorned.unset⟩
  slots := h.slots
  instead := h.instead
  hidden := h.hidden
  additional := h.additional
  created := h.created

/-- Other values in its fields leave all else of an object as it was made. -/
theorem AsMade.of_fields (h : AsMade c o) {p : Props} (hun : p.Unadorned)
    (hp : p = { o with fields := p.fields, additional := p.additional, standing := p.standing })
    (hadditional : p.additional.isSome) : AsMade c p := by
  have hcls : p.cls = o.cls := by rw [hp]
  refine ⟨?_, hun, ?_, ?_, ?_, hadditional, h.created⟩
  · rw [hcls, ← h.cls]
  · rw [hp, h.slots]
  · rw [hp, h.instead]
  · rw [hp, h.hidden]

/-- An assignment to a field leaves all else as it was made. -/
theorem AsMade.assign (h : AsMade c o) {field : String}
    (hf : (o.cls.fields.get? field).isSome) {occurrence : Nat} {v : Value} {p : Props}
    (hp : o.assign occurrence field v = .ok p) : AsMade c p := by
  obtain ⟨w, rfl⟩ := h.unadorned.assign_eq_ok hf hp
  refine h.of_fields (h.unadorned.setField hf w) (sameBut_setField o field w).rest ?_
  unfold setField
  split
  · rfl
  · exact h.additional

/-- **What a class makes stays as it was made,** but for the values of its fields. -/
theorem MadeBy.asMade (hc : c.Accepted) (h : MadeBy c o) : AsMade c o := by
  induction h with
  | build h making => exact asMade_of_build hc h making
  | learn _ l ih => exact ih.learn l
  | assign _ hf hp ih => exact ih.assign hf hp

end Props
end AuditConfig
