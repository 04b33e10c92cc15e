import AuditConfig.Props.Making

/-!
# Building an object from a raw map, and the report of it

A build gives every spec what the raw map holds under its key, nothing if the
key is not there, and puts the resolved values into the fields that the specs
name; of two specs of one name the later value stands.  A field that no spec
names gets the default of its declaration.  The entries under keys that no spec
has are passed through, unless they hold nothing.

The report lists the names of the specs that fell back to their defaults, and
of those the ones that were given a malformed value, in the order of the specs.

A build does not ask what the raw values are.  It fails when the raw map is
nothing or no map, and when a number has too many digits; a spec that takes
the name of an argument of the construction makes every build fail, and so does
what stands in the way of new objects of the class.
`reportEntries_eq_ok_iff` says when a build succeeds, and `get?_passThrough`
which entries are passed through.
-/

namespace AuditConfig

/-- What a build made and what it fell back on. -/
structure Report where
  props : Props
  defaulted : List String
  malformed : List String

/-- What a value is asked for when it should be a map. -/
inductive MapRequest where
  /-- The value under a key. -/
  | lookup
  /-- All entries. -/
  | listing
  deriving DecidableEq, Repr

namespace MapRequest

/-- The name that the request goes by. -/
def name : MapRequest → String
  | .lookup => "get"
  | .listing => "items"

end MapRequest

/-- Why a build fails. -/
inductive BuildError where
  /-- The raw map is nothing. -/
  | nothing
  /-- What should be the raw map is something else, which this word is for. -/
  | notMap (word : String) (request : MapRequest)
  | digits (limit : DigitLimit)
  /-- A spec has the name of the argument for what no spec recognizes, of what makes
  objects and is shown so. -/
  | additionalTwice (maker : String)
  /-- A spec has the name of the argument for the class. -/
  | classTwice
  | making (e : MakingError)
  deriving DecidableEq, Repr

namespace BuildError

/-- What is said of a failed build. -/
def message : BuildError → String
  | .nothing => "The validated object 'properties' is None"
  | .notMap w r => "'" ++ w ++ "' object has no attribute '" ++ r.name ++ "'"
  | .digits e => e.message
  | .additionalTwice maker =>
    maker ++ "() got multiple values for keyword argument '" ++ additionalName ++ "'"
  | .classTwice => "BaseModel.model_construct() got multiple values for argument 'cls'"
  | .making e => e.message

end BuildError

/-- A spec with the value it resolved to. -/
structure Resolved where
  spec : FieldSpec
  value : Value
  outcome : Outcome

/-- What a raw map holds under a key, nothing if the key is not there. -/
def rawAt (raw : Entries Key Value) (key : String) : Value := (raw.get? (.text key)).getD .null

/-- Resolves specs in order, up to the first that fails. -/
def resolveAll (raw : Entries Key Value) : List FieldSpec → Except DigitLimit (List Resolved)
  | [] => .ok []
  | s :: rest => do
    let r ← s.resolve (rawAt raw s.key)
    let rs ← resolveAll raw rest
    return ⟨s, r.1, r.2⟩ :: rs

/-- The resolved specs are the given ones, in their order. -/
theorem map_spec_of_resolveAll {raw : Entries Key Value} {specs : List FieldSpec}
    {rs : List Resolved} (h : resolveAll raw specs = .ok rs) : rs.map (·.spec) = specs := by
  induction specs generalizing rs with
  | nil => cases h; rfl
  | cons s rest ih =>
    rw [resolveAll] at h
    cases hs : s.resolve (rawAt raw s.key) with
    | error e => rw [hs] at h; cases h
    | ok r =>
      rw [hs] at h
      cases hr : resolveAll raw rest with
      | error e => rw [hr] at h; cases h
      | ok qs =>
        rw [hr] at h
        cases h
        rw [List.map_cons, ih hr]

/-- Every resolved spec was resolved from what the raw map holds under its
key. -/
theorem resolve_of_mem_resolveAll {raw : Entries Key Value} {specs : List FieldSpec}
    {rs : List Resolved} (h : resolveAll raw specs = .ok rs) :
    ∀ r ∈ rs, r.spec.resolve (rawAt raw r.spec.key) = .ok (r.value, r.outcome) := by
  induction specs generalizing rs with
  | nil => cases h; simp
  | cons s rest ih =>
    rw [resolveAll] at h
    cases hs : s.resolve (rawAt raw s.key) with
    | error e => rw [hs] at h; cases h
    | ok r =>
      rw [hs] at h
      cases hr : resolveAll raw rest with
      | error e => rw [hr] at h; cases h
      | ok qs =>
        rw [hr] at h
        cases h
        intro q hq
        rcases List.mem_cons.1 hq with rfl | hq
        · exact hs
        · exact ih hr q hq

/-- What is made of a result fails as that does. -/
theorem map_eq_error_iff {ε α β : Type} (f : α → β) (x : Except ε α) (e : ε) :
    x.map f = .error e ↔ x = .error e := by
  cases x <;> simp [Except.map]

/-- There is a result unless there is a failure. -/
theorem exists_eq_ok_iff {ε α : Type} (x : Except ε α) : (∃ a, x = .ok a) ↔ ∀ e, x ≠ .error e := by
  cases x <;> simp

namespace PropsClass

/-- Whether a key is that of a spec of the class. -/
def recognizes (c : PropsClass) : Key → Bool
  | .text s => s ∈ c.keys
  | _ => false

theorem recognizes_text (c : PropsClass) (s : String) :
    c.recognizes (.text s) = true ↔ s ∈ c.keys := by
  simp [recognizes]

/-- The entries of a raw map that the class does not recognize and that hold
something. -/
def passThrough (c : PropsClass) (raw : Entries Key Value) : Entries Key Value :=
  raw.filter fun k v => !c.recognizes k && !v.isNull

/-- **An entry is passed through exactly when its key is not recognized and it
holds something.** -/
theorem get?_passThrough (c : PropsClass) (raw : Entries Key Value) (k : Key) (v : Value) :
    (c.passThrough raw).get? k = some v ↔
      raw.get? k = some v ∧ c.recognizes k = false ∧ v ≠ .null := by
  rw [passThrough, Entries.get?_filter, Option.filter_eq_some_iff, Bool.and_eq_true,
    Bool.not_eq_true', Bool.not_eq_true', ← Bool.not_eq_true v.isNull, Value.isNull_iff]

/-- The name of the argument that takes the class. -/
def classArgument : String := "cls"

/-- How messages show what makes objects of given values. -/
def makerShown (c : PropsClass) : String :=
  match c.members.lookup Member.constructingName with
  | some (.slot owner) => owner ++ "." ++ Member.constructingName
  | _ => "pydantic.main." ++ Member.modelName ++ "." ++ Member.constructingName

/-- What stands in the way of giving values to what makes objects: a spec that has the
name of an argument, or a slot in its place. -/
def argumentClash (c : PropsClass) : Option BuildError :=
  if additionalName ∈ c.specs.map (·.name) then some (.additionalTwice c.makerShown)
  else if c.hasSlot Member.constructingName then
    some (.making (.notCallable FieldDefault.slot.word))
  else if classArgument ∈ c.specs.map (·.name) then some .classTwice
  else none

/-- The values of the named fields: a resolved value, else the default of the
declaration. -/
def namedValues (c : PropsClass) (rs : List Resolved) : Table Value :=
  let given := Entries.ofList (rs.map fun r => (r.spec.name, r.value))
  c.namedFieldsAnew.filterMap fun name d => (given.get? name).or d.default.value?

/-- The report of an object made from resolved specs and passed-through
entries. -/
def reportOf (c : PropsClass) (rs : List Resolved) (extra : Entries Key Value) : Report where
  props := c.make c.fieldsAnew (c.namedValues rs) (some (Value.ofEntries extra)) c.firstOverflow
  defaulted := (rs.filter fun r => r.outcome ≠ .configured).map (·.spec.name)
  malformed := (rs.filter fun r => r.outcome = .malformed).map (·.spec.name)

/-- What stands in the way of an object made from resolved specs, which is to be the given
one. -/
def obstacle? (c : PropsClass) (rs : List Resolved) (o : Props) : Option BuildError :=
  c.argumentClash.or <| (((c.uncallable? creatorName).map .notCallable).or <|
    (c.slotFlaw? (c.namedValues rs)).or (finishingFlaw? o c.fieldsAnew)).map .making

/-- Builds an object from the entries of a raw map, and reports on it. -/
def reportEntries (c : PropsClass) (raw : Entries Key Value) : Except BuildError Report :=
  match resolveAll raw c.specs with
  | .error e => .error (.digits e)
  | .ok rs =>
    let report := c.reportOf rs (c.passThrough raw)
    match c.obstacle? rs report.props with
    | some e => .error e
    | none => .ok report

/-- **A report is made exactly when every spec resolves and nothing stands in the
way.** -/
theorem reportEntries_eq_ok_iff (c : PropsClass) (raw : Entries Key Value) (r : Report) :
    c.reportEntries raw = .ok r ↔ ∃ rs, resolveAll raw c.specs = .ok rs ∧
      r = c.reportOf rs (c.passThrough raw) ∧ c.obstacle? rs r.props = none := by
  unfold reportEntries
  cases resolveAll raw c.specs with
  | error e => simp
  | ok rs =>
    cases h : c.obstacle? rs (c.reportOf rs (c.passThrough raw)).props with
    | some e =>
      simp only [h, reduceCtorEq, Except.ok.injEq, exists_eq_left', false_iff, not_and]
      rintro rfl
      simp [h]
    | none =>
      simp only [h, Except.ok.injEq, exists_eq_left']
      constructor
      · rintro rfl; exact ⟨rfl, h⟩
      · rintro ⟨rfl, _⟩; rfl

/-- What a raw value is asked for first. -/
def firstRequest (c : PropsClass) : MapRequest := if c.specs.isEmpty then .listing else .lookup

/-- Builds an object from a raw value, and reports on it. -/
def report (c : PropsClass) (raw : Value) : Except BuildError Report :=
  match raw.entries? with
  | some entries => c.reportEntries entries
  | none =>
    if raw.isNull then .error .nothing else .error (.notMap raw.kind.name c.firstRequest)

theorem report_ofEntries (c : PropsClass) (raw : Entries Key Value) :
    c.report (.ofEntries raw) = c.reportEntries raw := by
  rw [report, Value.entries?_ofEntries]

/-- A report is made of the entries of a map. -/
theorem exists_entries_of_report {c : PropsClass} {raw : Value} {r : Report}
    (h : c.report raw = .ok r) : ∃ entries, c.reportEntries entries = .ok r := by
  unfold report at h
  split at h
  · exact ⟨_, h⟩
  · split at h <;> cases h

/-- Builds an object from a raw value. -/
def build (c : PropsClass) (raw : Value) : Except BuildError Props :=
  (c.report raw).map (·.props)

theorem build_eq_ok_iff_report (c : PropsClass) (raw : Value) (o : Props) :
    c.build raw = .ok o ↔ ∃ r, c.report raw = .ok r ∧ r.props = o := by
  unfold build
  cases c.report raw <;> simp [Except.map]

theorem build_eq_error_iff_report (c : PropsClass) (raw : Value) (e : BuildError) :
    c.build raw = .error e ↔ c.report raw = .error e :=
  map_eq_error_iff ..

/-- Builds an object from no entries, so that every field is at its default. -/
def buildDefault (c : PropsClass) : Except BuildError Props := c.build (.map [])

end PropsClass
end AuditConfig
