import AuditConfig.Options

/-!
# Misfits: options of a value that they cannot have

What validates the objects of a class, and what writes them, is put together from
parts, and a part asks for the options that it heeds.  An option whose value is of a
wrong kind there, out of bounds, or no word that means something, is a misfit.  It is
told with the parts around the one that asks for it (`Misplaced`).
-/

namespace AuditConfig

/-- What is written in one of several ways. -/
inductive WritingMode where
  /-- Points in time and lengths of time. -/
  | temporal
  /-- Lengths of time, if nothing is said of both together. -/
  | duration
  | bytes
  /-- Infinities, and what is not a number. -/
  | unbounded
  deriving DecidableEq, Repr

namespace WritingMode

/-- The option that says the way. -/
def option : WritingMode → String
  | .temporal => "ser_json_temporal"
  | .duration => "ser_json_timedelta"
  | .bytes => "ser_json_bytes"
  | .unbounded => "ser_json_inf_nan"

/-- How messages call what is written. -/
def name : WritingMode → String
  | .temporal => "TemporalMode"
  | .duration => "TimedeltaMode"
  | .bytes => "BytesMode"
  | .unbounded => "InfNanMode"

/-- The words for the ways. -/
def choices : WritingMode → List String
  | .temporal => ["iso8601", "seconds", "milliseconds"]
  | .duration => ["iso8601", "float"]
  | .bytes => ["utf8", "base64", "hex"]
  | .unbounded => ["null", "constants", "strings"]

end WritingMode

/-- What is wrong with the value of an option. -/
inductive Misfit where
  /-- A value of one kind stands where one of another kind is asked for. -/
  | otherKind (kind wanted : Kind)
  /-- A value of this kind is no count. -/
  | noCount (kind : Kind)
  | negative
  | tooGreat
  /-- The word chooses nothing for undeclared names. -/
  | noChoice (word : String)
  /-- The word does not say which objects are validated again. -/
  | noRenewal (word : String)
  /-- The word does not say which texts are kept for later. -/
  | noCaching
  /-- A value of another kind does not say it. -/
  | noCachingKind
  /-- The word is for no way of writing. -/
  | noWriting (mode : WritingMode) (word : String)
  deriving DecidableEq, Repr

namespace Misfit

/-- The word for the sort of a misfit. -/
def sort : Misfit → String
  | .otherKind .. => "TypeError"
  | .noCount _ => "TypeError"
  | .negative => "OverflowError"
  | .tooGreat => "OverflowError"
  | .noChoice _ => "SchemaError"
  | .noRenewal _ => "SchemaError"
  | .noCaching => "ValueError"
  | .noCachingKind => "TypeError"
  | .noWriting .. => "SchemaError"

/-- What is said of an option that does not say which texts are kept for later. -/
def noCachingText : String :=
  "Invalid string cache mode, should be \x60'all'\x60, '\x60keys\x60', \x60'none\x60' or " ++
    "a \x60bool\x60"

/-- What is said of a misfit by itself. -/
def text : Misfit → String
  | .otherKind k w => "'" ++ k.name ++ "' object is not an instance of '" ++ w.name ++ "'"
  | .noCount k => "'" ++ k.name ++ "' object cannot be interpreted as an integer"
  | .negative => "can't convert negative int to unsigned"
  | .tooGreat => "int too big to convert"
  | .noChoice w => "Invalid extra_behavior: \x60" ++ w ++ "\x60"
  | .noRenewal w => "Invalid revalidate_instances value: " ++ w
  | .noCaching => noCachingText
  | .noCachingKind => noCachingText
  | .noWriting m w =>
    "Invalid " ++ m.name ++ " serialization mode: \x60" ++ w ++ "\x60, expected " ++
      String.join (m.choices.map (· ++ " or "))

end Misfit

/-- A misfit with the parts around it, the outermost first. -/
structure Misplaced where
  parts : List String
  misfit : Misfit
  deriving DecidableEq, Repr

namespace Misplaced

/-- A misfit in a part. -/
def within (part : String) (m : Misplaced) : Misplaced := ⟨part :: m.parts, m.misfit⟩

/-- What is said of a misfit. -/
def message (m : Misplaced) : String :=
  ":\n  SchemaError: ".intercalate m.parts ++ ":\n  " ++ m.misfit.sort ++ ": " ++ m.misfit.text

end Misplaced

namespace Options

/-- What is wrong with a value that should be a truth value. -/
def truthMisfit? : Value → Option Misfit
  | .null => none
  | .bool _ => none
  | v => some (.otherKind v.kind .bool)

/-- What is wrong with an option that is a truth value. -/
def flagMisfit? (o : Options) (name : String) : Option Misfit := truthMisfit? (o.value name)

/-- What is wrong with an option that is a count of 64 bits. -/
def countMisfit? (o : Options) (name : String) : Option Misfit :=
  match o.value name with
  | .null => none
  | .bool _ => none
  | .int n =>
    if n < 0 then some .negative else if n < twoTo 64 then none else some .tooGreat
  | v => some (.noCount v.kind)

end Options
end AuditConfig
