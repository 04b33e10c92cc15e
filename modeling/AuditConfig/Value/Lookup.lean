import AuditConfig.Text.Quoted
import AuditConfig.Value

/-!
# Looking into a value by name

A map is searched for a name and has an entry of it or has none.  Other values
that can be gone through can be searched too, a list for the name and a text for
a part that is the name, but none of them has entries of names (`Value.entry`);
what cannot be gone through cannot be searched (`Value.mentions`).
-/

namespace AuditConfig

/-- Why a value has no entry of a name. -/
inductive EntryError where
  /-- A map has no entry of this name. -/
  | noEntry (name : String)
  /-- A value of this kind has no entries of names. -/
  | notNamed (kind : Kind)
  deriving DecidableEq, Repr

namespace EntryError

/-- What is said of a value without the entry. -/
def message : EntryError → String
  | .noEntry n => String.ofList (Text.Quoted.encode n.toList)
  | .notNamed .text => "string indices must be integers, not 'str'"
  | .notNamed .list => "list indices must be integers or slices, not str"
  | .notNamed k => "'" ++ k.name ++ "' object is not subscriptable"

end EntryError

/-- What is said of a value of a kind that takes no entry of a name. -/
def Kind.noItemText : Kind → String
  | .list => "list indices must be integers or slices, not str"
  | k => "'" ++ k.name ++ "' object does not support item assignment"

namespace Text

/-- Whether a text is a part of another one. -/
def occursIn (part : List Char) : List Char → Bool
  | [] => part.isEmpty
  | c :: rest => part.isPrefixOf (c :: rest) || occursIn part rest

end Text

namespace Value

/-- What a value has under a name. -/
def entry (v : Value) (name : String) : Except EntryError Value :=
  match v.entries? with
  | none => .error (.notNamed v.kind)
  | some e =>
    match e.get? (.text name) with
    | none => .error (.noEntry name)
    | some w => .ok w

/-- A map with one more entry. -/
def putEntry (v : Value) (name : String) (w : Value) : Option Value :=
  v.entries?.map fun e => ofEntries (e.insert (.text name) w)

/-- Whether a value is the text of a name. -/
def isName (name : String) : Value → Bool
  | .text s => s = name
  | _ => false

/-- Whether a name is found in a value that can be searched. -/
def mentions (v : Value) (name : String) : Option Bool :=
  match v with
  | .map l => some (l.any fun e => e.1 = .text name)
  | .list vs => some (vs.any (isName name))
  | .text s => some (Text.occursIn name.toList s.toList)
  | _ => none

end Value
end AuditConfig
