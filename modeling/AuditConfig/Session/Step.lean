import AuditConfig.Log.Build
import AuditConfig.PropsClass.Flaw
import AuditConfig.Props.Assign
import AuditConfig.Props.Compare
import AuditConfig.Props.Construct
import AuditConfig.Props.Copy
import AuditConfig.Props.ProcessorNames
import AuditConfig.Session.Store

/-!
# Sessions: sequences of steps on a store

A step makes, changes or looks at what names stand for, and answers with what it
made or saw.  A step that fails answers with its failure and leaves the store as
it is.  Two failures come after something was done, and are answers too.
-/

namespace AuditConfig
namespace Session

/-- Where a build finds its raw value. -/
inductive Source where
  | given (v : Value)
  /-- A named raw map. -/
  | raw (name : String)
  /-- The additional properties of a named object. -/
  | additional (object : String)

/-- What can be done in a session. -/
inductive Step where
  | putRaw (name : String) (entries : Entries Key Value)
  | setRaw (name key : String) (v : Value)
  | eraseRaw (name key : String)
  | showRaw (name : String)
  | define (name parent : String) (specs : Option (List FieldSpec.Draft))
      (fields : List (String × FieldDecl))
  | build (builder : String) (source : Source) (name : String)
  | buildDefault (builder : String) (name : String)
  | report (builder : String) (source : Source) (name : String)
  | buildFor (processor : Value) (source : Source) (name : String)
  | construct (cls : String) (values : Table Value) (name : String)
  | copy (cls object name : String)
  | assign (object field : String) (v : Value)
  | setAdditional (object key : String) (v : Value)
  | eraseAdditional (object key : String)
  | showObject (object : String)
  | processorNames (object : String)
  | equal (a b : String)
  | sameAdditional (a b : String)
  | sameRaw (object name : String)

/-- What a step answers. -/
inductive Answer where
  | raw (e : Entries Key Value)
  | cls (c : PropsClass)
  | object (o : Props)
  | report (r : Report)
  | told (o : Props) (events : List Event)
  | names (ns : List String)
  | equal (b : Bool)
  | same (b : Bool)
  /-- An attribute has its value, but that is not noted. -/
  | unnoted (e : Props.Unnoted)
  /-- A class has its validator, but is not complete with it. -/
  | incomplete (e : ValidatorError)

/-- Why a step fails. -/
inductive Failure where
  /-- A name stands for nothing. -/
  | noName (name : String)
  /-- The additional properties of an object are no map. -/
  | noMap
  | refused (r : Refusal)
  | define (e : PropsClass.DefineError)
  | build (e : BuildError)
  | logged (e : LoggedBuild.Failure)
  | construct (e : ConstructError)
  /-- An object has no additional properties that are found. -/
  | lack (e : Props.LackError)
  | copy (e : CopyError)
  | assign (e : Props.AssignError)
  | names (e : Props.NamesError)
  | compare (e : Props.CompareError)

/-- What a name stands for, or the failure that it stands for nothing. -/
def named {α : Type} (name : String) : Option α → Except Failure α
  | some a => .ok a
  | none => .error (.noName name)

/-- A failure of one part as a failure of the step. -/
def failing {ε α : Type} (f : ε → Failure) : Except ε α → Except Failure α
  | .ok a => .ok a
  | .error e => .error (f e)

theorem bind_eq_ok_iff {ε α β : Type} {x : Except ε α} {f : α → Except ε β} {b : β} :
    x >>= f = .ok b ↔ ∃ a, x = .ok a ∧ f a = .ok b := by
  cases x <;> simp [bind, Except.bind]

theorem failing_eq_ok_iff {ε α : Type} {f : ε → Failure} {x : Except ε α} {a : α} :
    failing f x = .ok a ↔ x = .ok a := by
  cases x <;> simp [failing]

/-- The specs of drafts, up to the first that is refused. -/
def specsOf : List FieldSpec.Draft → Except Refusal (List FieldSpec)
  | [] => .ok []
  | d :: rest => do
    let s ← FieldSpec.ofDraft d
    let ss ← specsOf rest
    return s :: ss

/-- The least and the greatest whole number that there is only once. -/
def onceWhole : Int × Int := (-5, 256)

/-- The greatest code point of a character whose text there is only once. -/
def onceCodePoint : Nat := 0xFF

/-- Whether there is only one value equal to a given one of its kind, so that it
is the same wherever it is held: nothing, a truth value, a small whole number,
or a text of at most one character of a low code point. -/
def isConstant : Value → Bool
  | .null => true
  | .bool _ => true
  | .int n => onceWhole.1 ≤ n && n ≤ onceWhole.2
  | .text s =>
    match s.toList with
    | [] => true
    | [c] => c.toNat ≤ onceCodePoint
    | _ => false
  | _ => false

namespace Store

/-- The additional properties that are found of an object. -/
def additionalOf (o : Props) : Except Failure Holding := failing .lack (o.found additionalName)

/-- What a source holds. -/
def sourceOf (s : Store) : Source → Except Failure Holding
  | .given v => .ok (.value v)
  | .raw name => (named name (s.raw? name)).map fun e => .value (Value.ofEntries e)
  | .additional name => do
    let o ← named name (s.object? name)
    additionalOf o

/-- The value that a build of a class takes; a fixture is none. -/
def rawFor (c : PropsClass) : Holding → Except Failure Value
  | .value v => .ok v
  | .fixture f => .error (.build (.notMap f.word c.firstRequest))

/-- The value of a source that a build of a class takes. -/
def sourceValue (s : Store) (c : PropsClass) (source : Source) : Except Failure Value := do
  let h ← s.sourceOf source
  rawFor c h

/-- Gives a name to a copy of a stored object and answers with it; they share the
additional properties if the copy got none of its own. -/
def keepCopy (s : Store) (name : String) (stored : Stored) (copy : Props) : Store × Answer :=
  if (s.load stored).copiesAside then
    ({ s with objects := s.objects.insert name ⟨copy, stored.cell⟩ }, .object copy)
  else (s.putObject name copy, .object copy)

/-- Gives a name to an object and answers with it. -/
def keep (s : Store) (name : String) (o : Props) : Store × Answer := (s.putObject name o, .object o)

/-- An object as a new one, and the store that counts it. -/
def counted (s : Store) (o : Props) : Store × Props :=
  ({ s with nextMaking := s.nextMaking + 1 }, { o with making := s.nextMaking })

/-- Gives a name to a new object and answers with it. -/
def keepNew (s : Store) (name : String) (o : Props) : Store × Answer :=
  let (s', p) := s.counted o
  s'.keep name p

/-- Changes the raw map of a name in place. -/
def editRaw (s : Store) (name : String) (f : Entries Key Value → Entries Key Value) :
    Except Failure (Store × Answer) := do
  let i ← named name (s.raws.get? name)
  let e ← named name (s.raw? name)
  return (s.setCell i (Value.ofEntries (f e)), .raw (f e))

/-- Changes the additional properties of an object in place. -/
def editAdditional (s : Store) (name : String) (f : Entries Key Value → Entries Key Value) :
    Except Failure (Store × Answer) := do
  let o ← named name (s.objects.get? name)
  let v ← additionalOf (s.load o)
  match o.cell, v with
  | some i, .value (.map l) =>
    let e := Entries.ofList l
    let s' := s.setCell i (Value.ofEntries (f e))
    return (s', .object (s'.load o))
  | _, _ => .error .noMap

/-- What becomes of a failure, which can be that a class is not complete with its
validator, so that it has that from then on. -/
def unlessReady (s : Store) (c : PropsClass) (f : Failure) (e : Option ValidatorError) :
    Except Failure (Store × Answer) :=
  match e.filter (·.isLate) with
  | some e => .ok (s.noteReady c, .incomplete e)
  | none => .error f

/-- Gives an attribute of an object a value; additional properties get a new
cell. -/
def assign (s : Store) (name field : String) (v : Value) : Except Failure (Store × Answer) := do
  let o ← named name (s.objects.get? name)
  let before := s.load o
  match before.assign s.nextOccurrence field v with
  | .error e => s.unlessReady before.cls (.assign e) e.validator?
  | .ok p =>
    let counted := { s with nextOccurrence := s.nextOccurrence + 1 }
    let after :=
      if before.replacesAdditional field then counted.putObject name p
      else { counted with objects := counted.objects.insert name ⟨p, o.cell⟩ }
    let noted :=
      if before.isRemembered field && (p.loose.get? Props.handlersName).isNone then
        after.noteHandled before.cls field
      else after
    match before.unnoted? p field with
    | some e => return (noted, .unnoted e)
    | none => return (noted, .object p)

/-- Whether a default cannot be changed in place, so that objects can share it. -/
def isShareable : FieldDefault → Bool
  | .value v => v.kind ≠ .list && v.kind ≠ .map
  | _ => false

/-- Whether an object made of named values shares its additional properties with
others that have them by default. -/
def sharesDefault (c : PropsClass) (values : Table Value) : Bool :=
  (values.get? additionalName).isNone &&
    (c.fields.get? additionalName).any fun d => isShareable d.default

/-- Gives a name to a constructed object and answers with it. -/
def keepConstructed (s : Store) (name : String) (values : Table Value) (o : Props) :
    Store × Answer :=
  let (s', p) := { s with nextOccurrence := s.nextOccurrence + 1 }.counted o
  if o.additional.isSome && sharesDefault o.cls values then
    (s'.putDefault name o.cls.additionalOrigin p, .object p)
  else s'.keep name p

/-- Whether two cells are the same one. -/
def sameCell (i j : Option Nat) : Bool := i.isSome && i = j

/-- Whether the additional properties of two objects are the very same, which are found
to be these. -/
def sameHolding (a b : Stored) : Holding → Holding → Bool
  | .value v, .value w =>
    sameCell a.cell b.cell || (isConstant v && v.kind = w.kind && v.equal w)
  | .fixture f, .fixture g =>
    f = g && a.object.cls.additionalOrigin = b.object.cls.additionalOrigin
  | _, _ => false

/-- Takes one step. -/
def step (s : Store) : Step → Except Failure (Store × Answer)
  | .putRaw name e => .ok (s.putRaw name e, .raw e)
  | .setRaw name key v => s.editRaw name fun e => e.insert (.text key) v
  | .eraseRaw name key => s.editRaw name fun e => e.erase (.text key)
  | .showRaw name => do
    let e ← named name (s.raw? name)
    return (s, .raw e)
  | .define name parent drafts fields => do
    let base ← named parent (s.class? parent)
    let specs ← failing .refused (drafts.mapM specsOf)
    let c ← failing .define (PropsClass.define s.nextClass base ⟨name, s.home, specs, fields⟩)
    return (s.putClass name c, .cls c)
  | .build builder source name => do
    let c ← named builder (s.class? builder)
    let raw ← s.sourceValue c source
    let o ← failing .build (c.build raw)
    return s.keepNew name o
  | .buildDefault builder name => do
    let c ← named builder (s.class? builder)
    let o ← failing .build c.buildDefault
    return s.keepNew name o
  | .report builder source name => do
    let c ← named builder (s.class? builder)
    let raw ← s.sourceValue c source
    let r ← failing .build (c.report raw)
    let (s', o) := s.counted r.props
    return (s'.putObject name o, .report r)
  | .buildFor processor source name => do
    let h ← s.sourceOf source
    let named ← failing (.logged ∘ .name) (Processor.ofValue processor)
    let raw ← rawFor named.cls h
    let (p, r) ← failing .logged (LoggedBuild.prepare processor raw)
    let (s', o) := s.counted r.props
    return (s'.putObject name o, .told o (r.events p))
  | .construct cls values name => do
    let c ← named cls (s.class? cls)
    match c.construct s.nextOccurrence values with
    | .ok o => return s.keepConstructed name values o
    | .error e => s.unlessReady c (.construct e) e.validator?
  | .copy cls object name => do
    let c ← named cls (s.class? cls)
    let o ← named object (s.objects.get? object)
    let o' ← failing .copy ((s.load o).copyAs c)
    return s.keepCopy name o o'
  | .assign object field v => s.assign object field v
  | .setAdditional object key v => s.editAdditional object fun e => e.insert (.text key) v
  | .eraseAdditional object key => s.editAdditional object fun e => e.erase (.text key)
  | .showObject object => do
    let o ← named object (s.object? object)
    return (s, .object o)
  | .processorNames object => do
    let o ← named object (s.object? object)
    let ns ← failing .names o.processorNames
    return (s, .names ns)
  | .equal a b => do
    let x ← named a (s.object? a)
    let y ← named b (s.object? b)
    let said ← failing .compare (x.compare y)
    return (s, .equal (said.getD (a = b)))
  | .sameAdditional a b => do
    let x ← named a (s.objects.get? a)
    let v ← additionalOf (s.load x)
    let y ← named b (s.objects.get? b)
    let w ← additionalOf (s.load y)
    return (s, .same (sameHolding x y v w))
  | .sameRaw object name => do
    let o ← named object (s.objects.get? object)
    let _ ← additionalOf (s.load o)
    let i ← named name (s.raws.get? name)
    return (s, .same (sameCell o.cell (some i)))

/-- Takes a step; a step that fails changes nothing. -/
def take (s : Store) (t : Step) : Store × Except Failure Answer :=
  match s.step t with
  | .ok (s', a) => (s', .ok a)
  | .error e => (s, .error e)

/-- Takes steps one after the other. -/
def run (s : Store) : List Step → Store × List (Except Failure Answer)
  | [] => (s, [])
  | t :: rest =>
    let (s', a) := s.take t
    let (s'', as) := run s' rest
    (s'', a :: as)

end Store
end Session
end AuditConfig
