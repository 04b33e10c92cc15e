import AuditConfig.Log.Logging

/-!
# Logged builds: building by the name of a processor

A logged build finds the processor that a value names, builds its properties
from a raw value, and tells of the build in the log.  A raw value that is nothing
stands for no entries.

The object is built before logging is configured, so that a build that fails
leaves logging alone; a failure to configure comes after the object is built.
-/

namespace AuditConfig
namespace LoggedBuild

/-- Why a logged build fails. -/
inductive Failure where
  | name (e : Processor.NameError)
  | build (e : BuildError)
  | level (e : Level.Unknown)
  deriving DecidableEq, Repr

namespace Failure

/-- What is said of a failed build. -/
def message : Failure → String
  | .name e => e.message
  | .build e => e.message
  | .level e => e.message

end Failure

/-- A raw value, no entries standing for nothing. -/
def entriesOrNone (raw : Value) : Value := if raw.isNull then .map [] else raw

/-- The processor of a name and the report of its object, logging aside. -/
def prepare (name raw : Value) : Except Failure (Processor × Report) :=
  match Processor.ofValue name with
  | .error e => .error (.name e)
  | .ok p =>
    match p.cls.report (entriesOrNone raw) with
    | .error e => .error (.build e)
    | .ok r => .ok (p, r)

/-- What a build leaves behind: the state of logging, the lines written, and the
report or the failure. -/
structure Result where
  logging : Logging
  lines : List Line
  answer : Except Failure Report

/-- Builds a processor's properties and tells of it in the log. -/
def run (l : Logging) (name raw : Value) : Result :=
  match prepare name raw with
  | .error e => ⟨l, [], .error e⟩
  | .ok (p, r) =>
    match l.configure with
    | (l', some e) => ⟨l', [], .error (.level e)⟩
    | (l', none) => ⟨l', l'.write (r.events p), .ok r⟩

theorem prepare_eq_ok_iff (name raw : Value) (p : Processor) (r : Report) :
    prepare name raw = .ok (p, r) ↔
      Processor.ofValue name = .ok p ∧ p.cls.report (entriesOrNone raw) = .ok r := by
  unfold prepare
  cases Processor.ofValue name with
  | error n => simp
  | ok q =>
    cases hr : q.cls.report (entriesOrNone raw) with
    | error b =>
      simp only [hr, reduceCtorEq, Except.ok.injEq, false_iff, not_and]
      rintro rfl
      simp [hr]
    | ok s =>
      simp only [hr, Except.ok.injEq, Prod.mk.injEq]
      constructor
      · rintro ⟨rfl, rfl⟩
        exact ⟨rfl, hr⟩
      · rintro ⟨rfl, h⟩
        exact ⟨rfl, Except.ok.inj (hr.symm.trans h)⟩

/-- **Logging aside, a build fails** with the failure to find the processor or to build
its object. -/
theorem prepare_eq_error_iff (name raw : Value) (e : Failure) : prepare name raw = .error e ↔
    (∃ n, Processor.ofValue name = .error n ∧ e = .name n) ∨
      ∃ p b, Processor.ofValue name = .ok p ∧ p.cls.report (entriesOrNone raw) = .error b ∧
        e = .build b := by
  unfold prepare
  cases Processor.ofValue name with
  | error n => simp [eq_comm]
  | ok q =>
    cases hr : q.cls.report (entriesOrNone raw) with
    | error b => simp [hr, eq_comm]
    | ok s => simp [hr]

/-- **A build that fails before logging writes nothing and changes nothing.** -/
theorem run_of_prepare_error {name raw : Value} {e : Failure} (h : prepare name raw = .error e)
    (l : Logging) : run l name raw = ⟨l, [], .error e⟩ := by
  simp [run, h]

theorem run_of_configure {name raw : Value} {p : Processor} {r : Report} {l l' : Logging}
    (h : prepare name raw = .ok (p, r)) (hl : l.configure = (l', none)) :
    run l name raw = ⟨l', l'.write (r.events p), .ok r⟩ := by
  simp [run, h, hl]

theorem run_of_configure_error {name raw : Value} {p : Processor} {r : Report} {l l' : Logging}
    {u : Level.Unknown} (h : prepare name raw = .ok (p, r)) (hl : l.configure = (l', some u)) :
    run l name raw = ⟨l', [], .error (.level u)⟩ := by
  simp [run, h, hl]

end LoggedBuild
end AuditConfig
