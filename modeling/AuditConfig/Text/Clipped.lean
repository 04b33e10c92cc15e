/-!
# Clipped text: the beginning of a text that fits into some bytes

A text that takes more bytes in UTF-8 than there is room for loses its end.  If the
room ends within a character, a mark stands in place of that character.
-/

namespace AuditConfig
namespace Text

/-- The mark for a character that does not fit whole. -/
def cutMark : Char := '\uFFFD'

/-- What is left of a text when there is room for some bytes. -/
def clipped : Nat → List Char → List Char
  | _, [] => []
  | room, c :: rest =>
    if c.utf8Size ≤ room then c :: clipped (room - c.utf8Size) rest
    else if room = 0 then []
    else [cutMark]

end Text
end AuditConfig
