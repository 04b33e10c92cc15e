import AuditConfig.Attribute
import AuditConfig.Field.Type
import AuditConfig.Validation.Issue

/-!
# Field specs: where a field is found and what it falls back to

A field spec names a field, the key under which a raw map holds its value, its
type, and the default it falls back to.  `resolve` turns what is found under the
key into the value of the field:

| found | value | outcome |
| --- | --- | --- |
| nothing or the empty text | the default | `defaulted` |
| a value whose text is well formed for the type | that text, coerced | `configured` |
| any other value | the default | `malformed` |

It fails only on a number of too many digits, written or read.  What it gives is
of the type of the spec, as long as the default is (`accepts_of_resolve`).

A spec is made from a draft, in which every part may be missing or of any
kind, and once made it does not change: it refuses every assignment but that to
an attribute of a free name, which is no part of it.  One such attribute is all
that the spec holds; nothing is left to be shown when that is replaced.
-/

namespace AuditConfig

/-- The declaration of one named field. -/
structure FieldSpec where
  name : String
  key : String
  type : FieldType
  default : Value

/-- How the value of a field came about. -/
inductive Outcome where
  | configured
  | defaulted
  | malformed
  deriving DecidableEq, Repr

namespace Outcome

/-- The name of an outcome. -/
def name : Outcome → String
  | .configured => "configured"
  | .defaulted => "defaulted"
  | .malformed => "malformed"

end Outcome

namespace FieldSpec

/-- The quoted form of a spec. -/
def quoted (s : FieldSpec) : Except DigitLimit (List Char) := do
  let default ← s.default.quoted
  return "FieldSpec(name=".toList ++ Text.Quoted.encode s.name.toList ++ ", key=".toList ++
    Text.Quoted.encode s.key.toList ++ ", field_type=".toList ++ s.type.quoted ++
    ", default=".toList ++ default ++ [')']

/-- The quoted forms of specs between parentheses, with a comma behind a single
one. -/
def quotedAll (specs : List FieldSpec) : Except DigitLimit (List Char) := do
  let texts ← specs.mapM quoted
  return ['('] ++ [',', ' '].intercalate texts ++ (if texts.length = 1 then [',', ')'] else [')'])

/-- Whether a raw value counts as not given. -/
def isMissing : Value → Bool
  | .null => true
  | .text s => s = ""
  | _ => false

theorem isMissing_iff (v : Value) : isMissing v = true ↔ v = .null ∨ v = .text "" := by
  cases v <;> simp [isMissing]

/-- The value of the field, and how it came about. -/
def resolve (s : FieldSpec) (raw : Value) : Except DigitLimit (Value × Outcome) :=
  if isMissing raw then .ok (s.default, .defaulted)
  else do
    let cs ← raw.plain
    match ← s.type.coerce cs with
    | some v => return (v, .configured)
    | none => return (s.default, .malformed)

theorem resolve_of_isMissing (s : FieldSpec) {raw : Value} (h : isMissing raw = true) :
    s.resolve raw = .ok (s.default, .defaulted) := by
  simp [resolve, h]

/-- A value that is given resolves to its text, coerced, or to the default. -/
theorem resolve_of_not_isMissing (s : FieldSpec) {raw : Value} (h : isMissing raw = false) :
    s.resolve raw = raw.plain.bind fun cs => (s.type.coerce cs).map fun
      | some v => (v, .configured)
      | none => (s.default, .malformed) := by
  rw [resolve, h]
  cases raw.plain with
  | error e => rfl
  | ok cs =>
    change (s.type.coerce cs >>= _) = (s.type.coerce cs).map _
    cases s.type.coerce cs with
    | error e => rfl
    | ok o => cases o <;> rfl

/-- **There are three ways for a value to come about:** nothing is given, what is given is
coerced, or what is given for a whole number is none. -/
theorem resolve_cases {s : FieldSpec} {raw v : Value} {outcome : Outcome}
    (h : s.resolve raw = .ok (v, outcome)) :
    (isMissing raw = true ∧ outcome = .defaulted ∧ v = s.default) ∨
    ∃ cs, isMissing raw = false ∧ raw.plain = .ok cs ∧
      ((s.type.coerce cs = .ok (some v) ∧ outcome = .configured) ∨
        (s.type.coerce cs = .ok none ∧ outcome = .malformed ∧ v = s.default)) := by
  cases hm : isMissing raw with
  | true =>
    rw [resolve_of_isMissing s hm] at h
    cases h
    exact .inl ⟨rfl, rfl, rfl⟩
  | false =>
    rw [resolve_of_not_isMissing s hm] at h
    cases hp : raw.plain with
    | error e => rw [hp] at h; cases h
    | ok cs =>
      rw [hp] at h
      change (s.type.coerce cs).map _ = _ at h
      refine .inr ⟨cs, rfl, rfl, ?_⟩
      cases hc : s.type.coerce cs with
      | error e => rw [hc] at h; cases h
      | ok w =>
        rw [hc] at h
        cases w with
        | none => cases h; exact .inr ⟨rfl, rfl, rfl⟩
        | some w => cases h; exact .inl ⟨rfl, rfl⟩

/-- What a spec resolves to is its default, or a text that is given, coerced. -/
theorem default_or_coerced {s : FieldSpec} {raw v : Value} {outcome : Outcome}
    (h : s.resolve raw = .ok (v, outcome)) : v = s.default ∨
      ∃ cs, isMissing raw = false ∧ raw.plain = .ok cs ∧ s.type.coerce cs = .ok (some v) := by
  obtain ⟨_, _, hv⟩ | ⟨cs, hm, hp, ⟨hc, _⟩ | ⟨_, _, hv⟩⟩ := resolve_cases h
  · exact .inl hv
  · exact .inr ⟨cs, hm, hp, hc⟩
  · exact .inl hv

/-- **What a spec resolves to is of its type,** as long as its default is. -/
theorem accepts_of_resolve {s : FieldSpec} (hd : s.type.accepts s.default = true) {raw v : Value}
    {o : Outcome} (h : s.resolve raw = .ok (v, o)) : s.type.accepts v = true := by
  rcases default_or_coerced h with rfl | ⟨_, _, _, hc⟩
  · exact hd
  · exact FieldType.accepts_of_coerce hc

/-- The parts of a spec to be, each of any kind or missing. -/
structure Draft where
  name : Option Value
  key : Option Value
  fieldType : Option Value
  default : Option Value

/-- A part that has to be a text. -/
def textPart (part : String) : Option Value → Except Issue String
  | some (.text s) => .ok s
  | some _ => .error ⟨[part], .notText⟩
  | none => .error ⟨[part], .missing⟩

/-- A part that has to name a field type; without it the type is `string`. -/
def typePart (part : String) : Option Value → Except Issue FieldType
  | none => .ok .string
  | some (.text s) =>
    match FieldType.ofName? s with
    | some t => .ok t
    | none => .error ⟨[part], .notFieldType⟩
  | some _ => .error ⟨[part], .notFieldType⟩

/-- A part that has to be there. -/
def anyPart (part : String) : Option Value → Except Issue Value
  | some v => .ok v
  | none => .error ⟨[part], .missing⟩

/-- The issue of a part, if it has one. -/
def issue? {α : Type} : Except Issue α → Option Issue
  | .ok _ => none
  | .error i => some i

/-- The name under which drafts are refused. -/
def modelName : String := "FieldSpec"

/-- The spec of a draft, or the issues of all its parts. -/
def ofDraft (d : Draft) : Except Refusal FieldSpec :=
  let name := textPart "name" d.name
  let key := textPart "key" d.key
  let type := typePart "field_type" d.fieldType
  let default := anyPart "default" d.default
  match name, key, type, default with
  | .ok n, .ok k, .ok t, .ok v => .ok ⟨n, k, t, v⟩
  | _, _, _, _ =>
    .error ⟨.text modelName, [issue? name, issue? key, issue? type, issue? default].filterMap id⟩

/-- Why an assignment to a spec is refused. -/
inductive AssignError where
  /-- The spec does not change. -/
  | frozen (r : Refusal)
  /-- The attribute, which every object has, does not take the value. -/
  | special (e : Attribute.Refused)
  deriving Repr

/-- The parts of a spec that it is shown by, in order. -/
def shownParts : List String := ["name", "key", "field_type"]

/-- Why a spec cannot be shown any more once all that it holds is replaced by a
map. -/
inductive Hollow where
  /-- The map has no such part. -/
  | noPart (part : String)
  /-- The map has every part, but one of this kind for the type. -/
  | noType (kind : Kind)
  deriving DecidableEq, Repr

/-- What is said of a spec that cannot be shown. -/
def Hollow.message : Hollow → String
  | .noPart part => "'" ++ modelName ++ "' object has no attribute '" ++ part ++ "'"
  | .noType k => "'" ++ k.name ++ "' object has no attribute 'value'"

/-- Why a spec that holds the entries of a map cannot be shown. -/
def hollowOf (e : Entries Key Value) : Hollow :=
  match shownParts.find? fun part => (e.get? (.text part)).isNone with
  | some part => .noPart part
  | none => .noType ((e.get? (.text "field_type")).getD .null).kind

/-- What becomes of a spec that an attribute is assigned to. -/
inductive Assigned where
  /-- It is the same spec. -/
  | kept (s : FieldSpec)
  /-- It can no longer be shown. -/
  | hollow (h : Hollow)

/-- Assigns an attribute, which is refused, changes nothing, or leaves nothing of
the spec. -/
def assign (s : FieldSpec) (name : String) (v : Value) : Except AssignError Assigned :=
  if Attribute.isFree name then
    match Attribute.Special.ofName? name with
    | none => .ok (.kept s)
    | some a =>
      match a.refusal? name modelName modelName v with
      | some e => .error (.special e)
      | none => .ok (if a = .contents then .hollow (hollowOf (v.entries?.getD .empty)) else .kept s)
  else .error (.frozen (.single modelName [name] .frozen))

end FieldSpec
end AuditConfig
