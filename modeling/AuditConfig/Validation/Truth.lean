/-!
# Truth: the words that are read as truth values

Six words are read as true and six as false, whatever the case of their
letters.  The words are ASCII, and only ASCII letters match them.
-/

namespace AuditConfig
namespace Truth

/-- The words for true. -/
def yes : List String := ["1", "true", "t", "yes", "y", "on"]

/-- The words for false. -/
def no : List String := ["0", "false", "f", "no", "n", "off"]

/-- The truth value that a text is a word for. -/
def ofText? (s : String) : Option Bool :=
  let word := s.toLower
  if word ∈ yes then some true else if word ∈ no then some false else none

end Truth
end AuditConfig
