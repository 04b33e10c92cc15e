import AuditConfig.Validation.Field
import AuditConfig.Validation.Temporal

/-!
# Plain sorts: values that are taken or refused as a whole

A schema of a plain sort takes nothing, numbers of a special kind, points in time and
the like.  The values that are given hold none of these by themselves, but numbers and
texts can denote them unless the schema is strict (`PlainSort.fault?`).
-/

namespace AuditConfig

/-- A sort of values that are not looked into. -/
inductive PlainSort where
  | nothing
  | decimal
  | bytes
  | date
  | time
  | datetime
  | duration
  | callable
  | missing
  | url
  | hosts
  | uuid
  | complex
  deriving DecidableEq, Repr

namespace PlainSort

/-- All plain sorts. -/
def all : List PlainSort :=
  [.nothing, .decimal, .bytes, .date, .time, .datetime, .duration, .callable, .missing, .url,
    .hosts, .uuid, .complex]

/-- The name of a sort in schemas. -/
def name : PlainSort → String
  | .nothing => "none"
  | .decimal => "decimal"
  | .bytes => "bytes"
  | .date => "date"
  | .time => "time"
  | .datetime => "datetime"
  | .duration => "timedelta"
  | .callable => "callable"
  | .missing => "missing-sentinel"
  | .url => "url"
  | .hosts => "multi-host-url"
  | .uuid => "uuid"
  | .complex => "complex"

/-- The sort of a name. -/
def ofName? (s : String) : Option PlainSort := all.find? fun p => p.name = s

/-- The fault of a value of a kind that denotes nothing of the sort. -/
def kindFault : PlainSort → Fault
  | .nothing => .unlike "none_required" "Input should be None"
  | .decimal =>
    .unlike "decimal_type" "Decimal input should be an integer, float, string or Decimal object"
  | .bytes => .unlike "bytes_type" "Input should be a valid bytes"
  | .date => .unlike "date_type" "Input should be a valid date"
  | .time => .unlike "time_type" "Input should be a valid time"
  | .datetime => .unlike "datetime_type" "Input should be a valid datetime"
  | .duration => .unlike "time_delta_type" "Input should be a valid timedelta"
  | .callable => .unlike "callable_type" "Input should be callable"
  | .missing => .unlike "missing_sentinel_error" "Input should be the 'MISSING' sentinel"
  | .url => .unlike "url_type" "URL input should be a string or URL"
  | .hosts => .unlike "url_type" "URL input should be a string or URL"
  | .uuid => .unlike "uuid_type" "UUID input should be a string, bytes or UUID object"
  | .complex => .unlike "complex_type"
      ("Input should be a valid python complex object, a number, or a valid complex string " ++
        "following the rules")

/-- What is said of a text that is no day. -/
def dayFlaw (cs : List Char) : String :=
  if cs.length < 10 then "input is too short" else "invalid character in year"

/-- Whether a character is one of a number to the base of sixteen. -/
def isHexDigit (c : Char) : Bool := c.isDigit || c.toLower ∈ ['a', 'b', 'c', 'd', 'e', 'f']

/-- What is said of a text that is no identifier. -/
def identifierFlaw (cs : List Char) : String :=
  match cs.zipIdx.find? fun c => c.1 ≠ '-' && !isHexDigit c.1 with
  | some (c, n) =>
    "invalid character: expected an optional prefix of \x60urn:uuid:\x60 followed by " ++
      "[0-9a-fA-F-], found \x60" ++ String.singleton c ++ "\x60 at " ++ toString (n + 1)
  | none => "invalid length: expected length 32 for simple format, found " ++ toString cs.length

/-- The fault of a text that denotes nothing of the sort. -/
def textFault (p : PlainSort) (cs : List Char) : Fault :=
  match p with
  | .decimal => .unlike "decimal_parsing" "Input should be a valid decimal"
  | .date => .unlike "date_from_datetime_parsing"
      ("Input should be a valid date or datetime, " ++ dayFlaw cs)
  | .time => .unlike "time_parsing" "Input should be in a valid time format, input is too short"
  | .datetime => .unlike "datetime_from_date_parsing"
      ("Input should be a valid datetime or date, " ++ dayFlaw cs)
  | .duration => .unlike "time_delta_parsing"
      ("Input should be a valid timedelta, " ++
        (if cs.isEmpty then "input is too short" else "invalid digit in duration"))
  | .url => .unlike "url_parsing" "Input should be a valid URL, relative URL without a base"
  | .hosts => .unlike "url_parsing" "Input should be a valid URL, relative URL without a base"
  | .uuid => .unlike "uuid_parsing" ("Input should be a valid UUID, " ++ identifierFlaw cs)
  | .complex => .unlike "complex_str_parsing"
      "Input should be a valid complex string following the rules"
  | p => p.kindFault

/-- Whether a text denotes a number. -/
def isNumber (cs : List Char) : Bool := (Validation.floatOfText? 0 cs).isSome

/-- Whether a text starts with the name of a scheme. -/
def hasScheme (cs : List Char) : Bool :=
  let (scheme, rest) := cs.span fun c => c.isAlphanum || c ∈ ['+', '-', '.']
  scheme.head?.any Char.isAlpha && rest.head? = some ':'

/-- Whether a text has the digits of an identifier. -/
def hasIdentifier (cs : List Char) : Bool :=
  let digits := cs.filter (· ≠ '-')
  digits.length = 32 && digits.all isHexDigit

/-- Whether a text denotes something of the sort. -/
def takesText (p : PlainSort) (cs : List Char) : Bool :=
  match p with
  | .decimal => isNumber cs
  | .bytes => true
  | .date => Validation.isDay cs
  | .time => Validation.isTime cs || isNumber cs
  | .datetime => Validation.isMoment cs || isNumber cs
  | .duration => Validation.isDuration cs
  | .url => hasScheme cs
  | .hosts => hasScheme cs
  | .uuid => hasIdentifier cs
  | .complex => isNumber cs
  | _ => false

/-- The seconds of a day. -/
def daySeconds : Int := 86400

/-- The fault of a point in time that is no day. -/
def inexactDay : Fault :=
  .unlike "date_from_datetime_inexact"
    "Datetimes provided to dates should have zero time - e.g. be exact dates"

/-- Whether a whole number denotes something of the sort, or is refused as another one
would not be. -/
def wholeFault? (p : PlainSort) (n : Int) : Option Fault :=
  match p with
  | .decimal => none
  | .complex => none
  | .datetime => none
  | .duration => none
  | .time =>
    if n < 0 then
      some (.unlike "time_parsing"
        "Input should be in a valid time format, time in seconds should be positive")
    else if n < daySeconds then none
    else
      some (.unlike "time_parsing"
        "Input should be in a valid time format, numeric times may not exceed 86,399 seconds")
  | .date =>
    if n % daySeconds = 0 then none
    else some inexactDay
  | p => some p.kindFault

/-- The fault of a text, if it has one: a day can be the start of a day, which a number or
a point in time denotes. -/
def textFault? (p : PlainSort) (cs : List Char) : Option Fault :=
  if p.takesText cs then none
  else if p ≠ .date then some (p.textFault cs)
  else
    match Validation.floatOfText? 0 cs with
    | some x => ((x.whole?).map p.wholeFault?).getD (some inexactDay)
    | none =>
      if !Validation.isMoment cs then some (p.textFault cs)
      else if (cs.drop 11).all fun c => c ∈ ['0', ':', '.', 'Z', 'z', '+', '-'] then none
      else some inexactDay

/-- The fault of a value, if it has one. -/
def fault? (p : PlainSort) (strict : Bool) (v : Value) : Option Fault :=
  match p, v with
  | .nothing, v => if v.isNull then none else some p.kindFault
  | .url, .text s => if hasScheme s.toList then none else some (p.textFault s.toList)
  | .hosts, .text s => if hasScheme s.toList then none else some (p.textFault s.toList)
  | p, .text s => if strict then some p.kindFault else p.textFault? s.toList
  | p, .int n => if strict && p ≠ .complex then some p.kindFault else p.wholeFault? n
  | p, .float x =>
    if strict && p ≠ .complex then some p.kindFault
    else
      match x.whole? with
      | some n => p.wholeFault? n
      | none =>
        if p = .date then some inexactDay
        else if p ∈ [.decimal, .complex, .datetime, .duration, .time] then none
        else some p.kindFault
  | p, _ => some p.kindFault

/-- Whether a bound denotes something of the sort. -/
def denotedBy (p : PlainSort) (v : Value) : Bool :=
  (p.fault? false v).isNone && (p ≠ .date || v.kind = .text)

end PlainSort
end AuditConfig
