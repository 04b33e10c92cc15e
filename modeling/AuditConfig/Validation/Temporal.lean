import AuditConfig.Text.CommaSeparated

/-!
# Temporal texts: days, times of a day, points in time and lengths of time

A day is written with the digits of its year, month and day between hyphens, and has to
be one of the calendar.  A time of a day has hours and minutes, and may have seconds with
a fraction and an offset.  A point in time is a day and a time behind one mark.  A length
of time is written with units behind a letter, or as days and a time.
-/

namespace AuditConfig
namespace Validation

/-- The number that some digits denote, if there are as many as asked for. -/
def digitsOf? (count : Nat) (cs : List Char) : Option Nat :=
  if cs.length = count ∧ cs.all Char.isDigit then some (Nat.ofDigitChars 10 cs 0) else none

/-- Whether a year has a day more than others. -/
def isLeap (year : Nat) : Bool := year % 4 = 0 && (year % 100 ≠ 0 || year % 400 = 0)

/-- The days of a month. -/
def daysOf (year month : Nat) : Nat :=
  if month = 2 then if isLeap year then 29 else 28
  else if month ∈ [4, 6, 9, 11] then 30
  else 31

/-- Whether a text is a day. -/
def isDay (cs : List Char) : Bool :=
  match Text.pieces '-' cs with
  | [y, m, d] =>
    match digitsOf? 4 y, digitsOf? 2 m, digitsOf? 2 d with
    | some year, some month, some day =>
      1 ≤ year && 1 ≤ month && month ≤ 12 && 1 ≤ day && day ≤ daysOf year month
    | _, _, _ => false
  | _ => false

/-- Whether a text is an offset. -/
def isOffset (cs : List Char) : Bool :=
  match cs with
  | [] => true
  | ['Z'] => true
  | ['z'] => true
  | c :: rest =>
    (c = '+' || c = '-') &&
      (match Text.pieces ':' rest with
        | [h, m] => (digitsOf? 2 h).any (· < 24) && (digitsOf? 2 m).any (· < 60)
        | [hm] => (digitsOf? 2 (hm.take 2)).any (· < 24) && (digitsOf? 2 (hm.drop 2)).any (· < 60)
        | _ => false)

/-- Whether a text is a number of seconds, which may have a fraction. -/
def isSeconds (cs : List Char) : Bool :=
  match Text.pieces '.' cs with
  | [s] => (digitsOf? 2 s).any (· < 60)
  | [s, f] => (digitsOf? 2 s).any (· < 60) && !f.isEmpty && f.all Char.isDigit
  | _ => false

/-- Whether a text is a time of a day. -/
def isTime (cs : List Char) : Bool :=
  let (clock, offset) := cs.span fun c => c.isDigit || c = ':' || c = '.'
  isOffset offset &&
    (match Text.pieces ':' clock with
      | [h, m] => (digitsOf? 2 h).any (· < 24) && (digitsOf? 2 m).any (· < 60)
      | [h, m, s] => (digitsOf? 2 h).any (· < 24) && (digitsOf? 2 m).any (· < 60) && isSeconds s
      | _ => false)

/-- Whether a text is a point in time, or a day. -/
def isMoment (cs : List Char) : Bool :=
  let day := cs.take 10
  match cs.drop 10 with
  | [] => isDay day
  | mark :: time => isDay day && mark ∈ ['T', 't', ' ', '_'] && isTime time

/-- Whether a text is a length of time in units. -/
def isInUnits : List Char → Bool
  | [] => false
  | cs => cs.all fun c => c.isDigit || c ∈ ['.', ',', 'T', 'Y', 'M', 'W', 'D', 'H', 'S']

/-- Whether a text is a length of time. -/
def isDuration (cs : List Char) : Bool :=
  let bare :=
    match cs with
    | '-' :: rest => rest
    | '+' :: rest => rest
    | _ => cs
  match bare with
  | 'P' :: units => isInUnits units
  | _ =>
    let (days, rest) := bare.span Char.isDigit
    isTime bare || (!days.isEmpty &&
      (match rest with
        | ' ' :: time => isTime time
        | 'd' :: tail => String.ofList tail ∈ ["", "ay", "ays"]
        | _ => false))

end Validation
end AuditConfig
