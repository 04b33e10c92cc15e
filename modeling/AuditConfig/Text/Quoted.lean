import AuditConfig.Text.Printable

/-!
# Quoted text: a text between quotes, on one line and printable

A text is put between apostrophes, or between quotation marks if it holds an
apostrophe and no quotation mark.  The quote in use and the backslash are
written behind a backslash, the line feed, the carriage return and the tab by
their letters, and every other unprintable character by its code point in
hexadecimal, two, four or eight digits long.
-/

namespace AuditConfig
namespace Text
namespace Quoted

/-- The quote a text is put between. -/
def quote (cs : List Char) : Char := if '\'' ∈ cs ∧ '"' ∉ cs then '"' else '\''

/-- The code point of a character behind a backslash, in the shortest of the
three lengths that holds it. -/
def codePoint (c : Char) : List Char :=
  let n := c.toNat
  let hex (width : Nat) : List Char := List.leftpad width '0' (Nat.toDigits 16 n)
  if n < 0x100 then '\\' :: 'x' :: hex 2
  else if n < 0x10000 then '\\' :: 'u' :: hex 4
  else '\\' :: 'U' :: hex 8

/-- A character between the quotes `q`. -/
def character (q c : Char) : List Char :=
  if c = q ∨ c = '\\' then ['\\', c]
  else if c = '\n' then ['\\', 'n']
  else if c = '\r' then ['\\', 'r']
  else if c = '\t' then ['\\', 't']
  else if isPrintable c then [c]
  else codePoint c

/-- A text between quotes. -/
def encode (cs : List Char) : List Char :=
  let q := quote cs
  q :: cs.flatMap (character q) ++ [q]

end Quoted
end Text
end AuditConfig
