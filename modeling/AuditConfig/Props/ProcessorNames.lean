import AuditConfig.Processor
import AuditConfig.Props.Found
import AuditConfig.Text.CommaSeparated

/-!
# The processor names of an object

The common properties name the processors to run, in order, as a
comma-separated list in one of their fields.  Objects of other classes have no
such names; an object of a class defined from the common one has them as long
as the field holds a text.  What an object holds under the name by which the names
are asked for stands in the way, whatever it is.  A value of an undeclared name is
found only where nothing else is.
-/

namespace AuditConfig
namespace Props

/-- The field that holds the list. -/
def processorsName : String := "processors"

/-- The name under which the names are asked for. -/
def askedName : String := "processor_names"

/-- Why an object has no processor names. -/
inductive NamesError where
  /-- What stands in the way is called. -/
  | call (e : CallError)
  /-- Nothing is found that has the names. -/
  | lack (e : LackError)
  /-- The field holds what this word is for, and no text. -/
  | noList (word : String)
  deriving DecidableEq, Repr

namespace NamesError

/-- What is said of an object without processor names. -/
def message : NamesError → String
  | .call e => e.message
  | .lack e => e.message
  | .noList w => "'" ++ w ++ "' object has no attribute 'split'"

end NamesError

/-- The names that the field of the list holds. -/
def listedNames (o : Props) : Except NamesError (List String) :=
  match o.found processorsName with
  | .error e => .error (.lack e)
  | .ok (.value (.text s)) => .ok ((Text.names s.toList).map String.ofList)
  | .ok h => .error (.noList h.word)

/-- The processor names of an object, in order. -/
def processorNames (o : Props) : Except NamesError (List String) :=
  match o.cls.ownValue? PropsClass.finderName, o.visible? askedName with
  | some v, _ => .error (.lack (.notCallable v.kind))
  | none, some h => .error (.call h.callError)
  | none, none =>
    if o.cls.isA Processor.common.cls && !o.cls.hasSlot askedName then o.listedNames
    else
      match o.lastResort askedName with
      | .error e => .error (.lack e)
      | .ok v => .error (.call (Holding.value v).callError)

end Props
end AuditConfig
