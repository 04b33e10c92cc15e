import AuditConfig.Processor
import AuditConfig.PropsClass.Flaw

/-!
# Accepted classes: the base class, the processors', and what is defined from them

A class is accepted when it is the base class or a processor's, or is defined
from an accepted one by a definition that is not refused, however long the chain
of definitions.  A definition declares attributes only (see
`PropsClass.Definition`).  Every spec of an accepted class passes the check
(`Accepted.check_eq_none`): its default is of its type, and the model field of
its name is of its type and has the same default.
-/

namespace AuditConfig
namespace PropsClass

/-- The classes that some chain of definitions reaches. -/
inductive Accepted : PropsClass → Prop where
  | base : Accepted .base
  | processor (p : Processor) : Accepted p.cls
  | define {parent c : PropsClass} {id : Nat} {d : Definition} (h : Accepted parent)
      (hc : PropsClass.define id parent d = .ok c) : Accepted c

/-- The specs of the processors' classes pass the check. -/
theorem check_processor (p : Processor) : ∀ s ∈ p.cls.specs, check p.cls.fields s = none := by
  have h : (p.cls.specs.all fun s => (check p.cls.fields s).isNone) = true := by
    cases p <;> decide +kernel
  intro s hs
  exact Option.isNone_iff_eq_none.1 (List.all_eq_true.1 h s hs)

/-- **The specs of an accepted class pass the check.** -/
theorem Accepted.check_eq_none {c : PropsClass} (h : Accepted c) :
    ∀ s ∈ c.specs, check c.fields s = none := by
  cases h with
  | base => intro s hs; cases hs
  | processor p => exact check_processor p
  | define _ hc =>
    obtain ⟨_, _, _, _, _, h⟩ := (define_eq_ok_iff ..).1 hc
    exact h

end PropsClass
end AuditConfig
