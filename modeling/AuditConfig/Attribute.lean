import AuditConfig.Text.Quoted
import AuditConfig.Value

/-!
# Attributes: what the names of attributes say

The attributes of an object go by names, and a name alone tells how its
attribute is treated.  A name that starts with an underscore is free: no check
looks at what is assigned to it, and it declares no field.  A free name with one
underscore declares a private attribute; one with two is reserved, and declares
nothing that objects hold.

Every object has some attributes of reserved names (`Special`), and some of them
take no value, or not every value (`Special.refusal?`).  A few other names
belong to the class of an object or are computed.
-/

namespace AuditConfig
namespace Attribute

/-- The mark that a free name starts with. -/
def mark : Char := '_'

/-- Whether a name is free. -/
def isFree (name : String) : Bool := name.toList.head? = some mark

/-- Whether a name is reserved. -/
def isReserved (name : String) : Bool := [mark, mark].isPrefixOf name.toList

/-- A reserved name is free. -/
theorem isFree_of_isReserved {name : String} (h : isReserved name = true) : isFree name = true := by
  unfold isReserved at h
  unfold isFree
  cases hl : name.toList with
  | nil => rw [hl] at h; cases h
  | cons c rest =>
    rw [hl, List.isPrefixOf_cons_cons, Bool.and_eq_true, beq_iff_eq] at h
    simp [h.1]

/-- Whether a name declares a private attribute. -/
def isPrivate (name : String) : Bool := isFree name && !isReserved name

/-- The attribute that holds the specs and belongs to the class. -/
def specsName : String := "field_specs"

/-- The attribute that holds the options of the class. -/
def optionsName : String := "model_config"

/-- Whether a name declares a field. -/
def isField (name : String) : Bool := !isFree name && name ≠ optionsName

/-- The attributes that are computed. -/
def computedNames : List String := ["model_extra", "model_fields_set"]

/-- An attribute of a reserved name that every object has. -/
inductive Special where
  /-- The class of the object. -/
  | ownClass
  /-- The references to the object. -/
  | references
  /-- A listing of fields, which is computed. -/
  | listing
  /-- All that the object holds of its own. -/
  | contents
  /-- The values of names that the class does not declare. -/
  | overflow
  /-- The private attributes. -/
  | hidden
  /-- The record of the fields that were given a value. -/
  | record
  deriving DecidableEq, Repr

namespace Special

/-- The name of an attribute; one listing has a name of its own. -/
def name : Special → String
  | .ownClass => "__class__"
  | .references => "__weakref__"
  | .listing => "__fields__"
  | .contents => "__dict__"
  | .overflow => "__pydantic_extra__"
  | .hidden => "__pydantic_private__"
  | .record => "__pydantic_fields_set__"

/-- The other name of a listing. -/
def otherListingName : String := "__fields_set__"

/-- All attributes. -/
def all : List Special := [.ownClass, .references, .listing, .contents, .overflow, .hidden, .record]

/-- The attribute of a name. -/
def ofName? (n : String) : Option Special :=
  if n = otherListingName then some .listing else all.find? fun s => s.name = n

/-- Whether an attribute is found through the class, so that the objects of a class
that gives its name another meaning lack it. -/
def isHideable : Special → Bool
  | .references => true
  | .listing => true
  | _ => false

end Special

/-- Why an attribute takes no value, or not the one it is given. -/
inductive Refused where
  /-- A value of this kind is no class. -/
  | noClass (name : String) (kind : Kind)
  /-- A value of this kind is no map. -/
  | noMap (name : String) (kind : Kind)
  | readOnly (name owner : String)
  | computed (name className : String)
  deriving DecidableEq, Repr

namespace Refused

/-- What is said of a refused value. -/
def message : Refused → String
  | .noClass n k => n ++ " must be set to a class, not '" ++ k.name ++ "' object"
  | .noMap n k => n ++ " must be set to a dictionary, not a '" ++ k.name ++ "'"
  | .readOnly n c => "attribute '" ++ n ++ "' of '" ++ c ++ "' objects is not writable"
  | .computed n c =>
    "property '" ++ n ++ "' of " ++ String.ofList (Text.Quoted.encode c.toList) ++
      " object has no setter"

end Refused

/-- Why an object of a class does not take a value for an attribute of a reserved
name; `owner` is the class that brought the attribute in. -/
def Special.refusal? (s : Special) (name owner className : String) (v : Value) : Option Refused :=
  match s with
  | .ownClass => some (.noClass name v.kind)
  | .references => some (.readOnly name owner)
  | .listing => some (.computed name className)
  | .contents => if v.kind = .map then none else some (.noMap name v.kind)
  | _ => none

end Attribute
end AuditConfig
