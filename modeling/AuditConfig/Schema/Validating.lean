import AuditConfig.Schema.Deciding
import AuditConfig.Schema.Named
import AuditConfig.Schema.Reading

/-!
# What schemas take

A schema takes a value by its own rule, which goes from the value to its members with
the schemas that it holds (`Schema.take`).  What validates by those is given to each rule.
A schema may be asked to be strict, whatever it says itself.

`SchemaPlan.take` is what the plan as a whole takes.
-/

namespace AuditConfig
namespace Schema

/-- What validates by a schema. -/
abbrev Taker := Schema → Option Value → Taken

/-- A list of values, unless one of them is none. -/
def listOf (vs : List (Option Value)) : Option Value := (vs.mapM id).map .list

/-- What is made of the items of a list, each at its index. -/
def takeEach (go : Taker) (item : Schema) (vs : List Value) : List Taken :=
  vs.zipIdx.map fun v => Rejection.inside [toString v.2] (go item (some v.1))

/-- What a schema of lists takes. -/
def takeList (go : Taker) (l : Lengths) (item : Schema) : Option Value → Taken
  | some (.list vs) =>
    let results := takeEach go item vs
    match l.most.filter (· < (Rejection.takenOf results).length) with
    | some n => .error (.single (Rejection.tooLong "List" n vs.length))
    | none => do
      let ws ← Rejection.gather results
      Rejection.checkLength "List" l ws.length
      return listOf ws
  | _ => .error (.single .notList)

/-- A member of a collection without order, which has to be one that keys are. -/
def asMember (index : Nat) : Taken → Taken
  | .ok (some v) =>
    if v.key?.isSome then .ok (some v)
    else
      .error (.singleAt [toString index]
        (.unlike "set_item_not_hashable" "Set items should be hashable"))
  | r => r

/-- The members of a list without those that are equal to earlier ones. -/
def distinct : List (Option Value) → List (Option Value)
  | [] => []
  | none :: vs => none :: distinct vs
  | some v :: vs =>
    let rest := distinct vs
    if rest.any fun w => w.any (v.equal ·) then rest else some v :: rest

/-- What a schema of collections without order takes. -/
def takeSet (go : Taker) (fixed strict : Bool) (l : Lengths) (item : Schema) :
    Option Value → Taken
  | some (.list vs) =>
    if strict then .error (.single fault)
    else do
      let ws ← Rejection.gather ((takeEach go item vs).zipIdx.map fun r => asMember r.2 r.1)
      Rejection.checkLength (if fixed then "Frozenset" else "Set") l (distinct ws).length
      return none
  | _ => .error (.single fault)
where
  /-- The fault of what is no such collection. -/
  fault : Fault :=
    if fixed then .unlike "frozen_set_type" "Input should be a valid frozenset"
    else .unlike "set_type" "Input should be a valid set"

/-- The schemas for a number of items, of which one stands for any number of them. -/
def spread (items : List Schema) (repeated : Option Nat) (count : Nat) : List Schema :=
  match repeated.bind (items[·]?), repeated with
  | some s, some i =>
    items.take i ++ List.replicate (count + 1 - items.length) s ++ items.drop (i + 1)
  | _, _ => items

/-- The default of a schema, and whether it is validated. -/
def fallback? : Schema → Option (Fallback × Bool)
  | .default .none _ _ _ => none
  | .default f _ validated _ => some (f, validated)
  | _ => none

/-- What stands in place of a value that is not given, if something does. -/
def takeFallback (go : Taker) (s : Schema) : Except Rejection (Option (Option Value)) :=
  match fallback? s with
  | some (.value v, true) => (go s (some v)).map some
  | some (.value v, false) => .ok (some (some v))
  | some (.called w, _) => .error (.called w)
  | _ => .ok none

/-- What is made of a value that may not be given: its default, or a fault. -/
def takeGiven (go : Taker) (s : Schema) (absent : Fault) : Option Value → Taken
  | some v => go s (some v)
  | none => do
    match ← takeFallback go s with
    | some v => return v
    | none => .error (.single absent)

/-- What a schema of a list with a schema for each item takes. -/
def takeTuple (go : Taker) (strict : Bool) (l : Lengths) (repeated : Option Nat)
    (items : List Schema) : Option Value → Taken
  | some (.list vs) =>
    if strict then .error (.single fault)
    else
      let schemas := spread items repeated vs.length
      if schemas.length < vs.length then
        .error (.single (Rejection.tooLong "Tuple" schemas.length vs.length))
      else do
        discard (Rejection.gather (schemas.zipIdx.map fun s =>
          Rejection.inside [toString s.2] (takeGiven go s.1 .missing vs[s.2]?)))
        Rejection.checkLength "Tuple" l vs.length
        return none
  | _ => .error (.single fault)
where
  /-- The fault of what is no list. -/
  fault : Fault := .unlike "tuple_type" "Input should be a valid tuple"

/-- What a schema of what can be gone through takes, which it does not do. -/
def takeGenerator : Option Value → Taken
  | some v =>
    if v.sequence?.isSome then .ok none
    else .error (.single (.unlike "iterable_type" "Input should be iterable"))
  | none => .ok none

/-- Two results together. -/
def both {α β : Type} (a : Except Rejection α) (b : Except Rejection β) :
    Except Rejection (α × β) :=
  match a, b with
  | .ok x, .ok y => .ok (x, y)
  | .error (.called w), _ => .error (.called w)
  | _, .error (.called w) => .error (.called w)
  | .error r, .error s =>
    if r.listed.isEmpty && s.listed.isEmpty then .error r
    else .error (.issues (r.listed ++ s.listed))
  | .error r, .ok _ => .error r
  | .ok _, .error s => .error s

/-- What is made of an entry of a map. -/
def takeEntry (go : Taker) (key value : Schema) (e : Key × Value) :
    Except Rejection (Key × Option Value) := do
  let here := e.1.written
  let (k, v) ← both
    (Rejection.inside [here, Validation.keyMark] (go key (some e.1.value)))
    (Rejection.inside [here] (go value (some e.2)))
  return ((k.bind Value.key?).getD e.1, v)

/-- A map of values, unless one of them is none. -/
def mapOf (es : List (Key × Option Value)) : Option Value :=
  (es.mapM fun (e : Key × Option Value) => e.2.map fun v => (e.1, v)).map
    fun bs => Value.ofEntries (Entries.ofList bs)

/-- What a schema of maps takes. -/
def takeDict (go : Taker) (l : Lengths) (key value : Schema) : Option Value → Taken
  | some (.map es) => do
    let bs ← Rejection.gather (es.map (takeEntry go key value))
    Rejection.checkLength "Dictionary" l bs.length
    return mapOf bs
  | _ => .error (.single .notMap)

/-- What a schema with a default takes: what it refuses may be left out, or its default
may stand in place of it. -/
def takeDefault (go : Taker) (f : Fallback) (onRefusal : OnRefusal) (validated : Bool)
    (inner : Schema) (given : Option Value) : Taken :=
  match go inner given, onRefusal with
  | .ok v, _ => .ok v
  | .error r, .raise => .error r
  | .error _, .omit => .error .omitted
  | .error r, .fallback =>
    match f with
    | .none => .error r
    | .called w => .error (.called w)
    | .value v =>
      if validated then go (.default f onRefusal validated inner) (some v) else .ok (some v)

/-- Whether a result lists issues. -/
def listsIssues : Taken → Bool
  | .error (.issues _) => true
  | _ => false

/-- What a schema of choices takes: the first that does not list issues counts. -/
def takeUnion (go : Taker) (fault : Option Fault) (choices : List (Option String × Schema))
    (given : Option Value) : Taken :=
  let results := choices.map fun c => (c.1.getD c.2.name, go c.2 given)
  match results.find? fun r => !listsIssues r.2 with
  | some r => r.2
  | none =>
    match fault with
    | some f => .error (.single f)
    | none =>
      .error (.issues (Rejection.issuesOf (results.map fun r => Rejection.inside [r.1] r.2)))

/-- What is found in a value by a step of a path. -/
def stepInto (v : Value) : Key → Option Value
  | .text name => found? v name
  | .int n =>
    match v with
    | .list vs => if 0 ≤ n then vs[n.toNat]? else vs.reverse[(-n - 1).toNat]?
    | _ => none
  | _ => none

/-- What is found in a value by a path. -/
def follow (v : Value) (path : List Key) : Option Value := path.foldlM stepInto v

/-- What is found in a value by the first of some paths that leads to a value, with the
start of that path. -/
def foundBy? (v : Value) (paths : List (List Key)) : Option (Option Key × Value) :=
  paths.findSome? fun p => (follow v p).map fun w => (p.head?, w)

/-- What a schema of choices by what is found at a place takes. -/
def takeTagged (go : Taker) (fromAttributes : Bool) (fault : Option Fault) (place : Lookup)
    (choices : List (Value × Schema)) : Option Value → Taken
  | some (.map es) =>
    match foundBy? (.map es) place.paths with
    | none =>
      .error (.single (fault.getD (.unlike "union_tag_not_found"
        ("Unable to extract tag using discriminator " ++ place.name))))
    | some (_, tag) =>
      match choices.find? fun c => isExpected c.1 tag with
      | some (t, s) =>
        Rejection.inside [String.ofList (t.plain.toOption.getD [])] (go s (some (.map es)))
      | none =>
        .error (.single (fault.getD (.unlike "union_tag_invalid"
          ("Input tag '" ++ String.ofList (tag.plain.toOption.getD []) ++ "' found using " ++
            place.name ++ " does not match any of the expected tags: " ++
              ", ".intercalate (choices.map fun c => quotedText c.1)))))
  | _ =>
    .error (.single
      (if fromAttributes then
        .unlike "model_attributes_type"
          "Input should be a valid dictionary or object to extract fields from"
      else .notMap))

/-- What a schema of texts that are read as values takes. -/
def takeJson (go : Taker) (inner : Schema) : Option Value → Taken
  | some (.text s) =>
    match ofJson s.toList with
    | .ok v => go inner (some v)
    | .error f => .error (.single f)
  | _ => .error (.single (.unlike "json_type" "JSON input should be string, bytes or bytearray"))

/-- What a schema that calls something takes, which it does in no way. -/
def takeCalling (go : Taker) (c : Calling) (word : String) (inner : Schema)
    (given : Option Value) : Taken :=
  match c with
  | .after => do
    discard (go inner given)
    .error (.called word)
  | _ => .error (.called word)

/-- The fault of what has no named values. -/
def namedFault (sort : NamedSort) (fromAttributes : Bool) : Fault :=
  match sort with
  | .map _ => .notMap
  | .model n =>
    if fromAttributes then
      .unlike "model_attributes_type"
        "Input should be a valid dictionary or object to extract fields from"
    else .unlike "model_type" ("Input should be a valid dictionary or instance of " ++ n)
  | .data n => .unlike "dataclass_type" ("Input should be a dictionary or an instance of " ++ n)

/-- The fault of an argument of a name that there is not. -/
def unknownArgument : Fault := .unlike "unexpected_keyword_argument" "Unexpected keyword argument"

/-- The fault of another name. -/
def otherNameFault : NamedSort → Fault
  | .data _ => unknownArgument
  | _ => .unknownName

/-- What is made of a field of named values, if it is given or has to be. -/
def takeField (go : Taker) (v : Value) (f : Lookup × Bool × Schema) :
    Except Rejection (Option (Key × Option Value)) :=
  let (lookup, required, s) := f
  let named (w : Option Value) : Option (Key × Option Value) := some (.text lookup.name, w)
  Rejection.inside lookup.told <|
    match foundBy? v lookup.paths with
    | some (_, w) => (go s (some w)).map named
    | none => do
      match ← takeFallback go s with
      | some w => return named w
      | none => if required then .error (.single .missing) else return none

/-- What is made of another name. -/
def takeOther (go : Taker) (others : Undeclared) (othersSchema : Option Schema) (fault : Fault)
    (e : Key × Value) : Except Rejection (Option (Key × Option Value)) :=
  Rejection.inside [e.1.written] <|
    match others, othersSchema with
    | .refused, _ => .error (.single fault)
    | .dropped, _ => .ok none
    | .kept, none => .ok (some (e.1, some e.2))
    | .kept, some s => (go s (some e.2)).map fun w => some (e.1, w)

/-- The names that values are found under. -/
def usedNames (v : Value) (lookups : List Lookup) : List Key :=
  lookups.filterMap fun l => (foundBy? v l.paths).bind (·.1)

/-- What a schema of named values takes. -/
def takeNamed (go : Taker) (sort : NamedSort) (fromAttributes : Bool) (others : Undeclared)
    (othersSchema : Option Schema) (fields : List (Lookup × Bool × Schema)) : Option Value → Taken
  | some (.map es) => do
    let v := Value.map es
    let used := usedNames v (fields.map (·.1))
    let rest := es.filter (·.1 ∉ used)
    let taken ← Rejection.gather (fields.map (takeField go v) ++
      rest.map (takeOther go others othersSchema (otherNameFault sort)))
    match sort with
    | .map _ => return mapOf (taken.filterMap id)
    | _ => return none
  | _ => .error (.single (namedFault sort fromAttributes))

/-- The fault of an argument that is not given. -/
def missingArgument : ArgumentMode → Fault
  | .byPosition =>
    .unlike "missing_positional_only_argument" "Missing required positional only argument"
  | .byEither => .unlike "missing_argument" "Missing required argument"
  | .byName => .unlike "missing_keyword_only_argument" "Missing required keyword only argument"

/-- What is made of arguments that are given by name. -/
def takeByName (go : Taker) (others : Undeclared) (named : Option Schema)
    (parameters : List (Lookup × ArgumentMode × Schema)) (es : List (Key × Value)) : Taken := do
  let v := Value.map es
  let byName := parameters.filter (·.2.1 ≠ .byPosition)
  let rest := es.filter (·.1 ∉ usedNames v (byName.map (·.1)))
  let taken := parameters.zipIdx.map fun p =>
    let (lookup, mode, s) := p.1
    if mode = .byPosition then
      Rejection.inside [toString p.2] (takeGiven go s (missingArgument mode) none)
    else
      Rejection.inside lookup.told
        (takeGiven go s (missingArgument mode) ((foundBy? v lookup.paths).map (·.2)))
  let keeps := if named.isSome then Undeclared.kept else others
  discard (Rejection.gather
    (taken ++ rest.map fun e => (takeOther go keeps named unknownArgument e).map fun _ => none))
  return none

/-- What is made of arguments that are given by position. -/
def takeByPosition (go : Taker) (rest : Option Schema)
    (parameters : List (Lookup × ArgumentMode × Schema)) (vs : List Value) : Taken := do
  let count := (parameters.takeWhile (·.2.1 ≠ .byName)).length
  let taken := parameters.zipIdx.map fun p =>
    let (lookup, mode, s) := p.1
    let path := if mode = .byPosition || p.2 < vs.length then [toString p.2] else lookup.told
    Rejection.inside path (takeGiven go s (missingArgument mode)
      (if mode = .byName then none else vs[p.2]?))
  let more := (vs.zipIdx.drop count).map fun v =>
    Rejection.inside [toString v.2]
      (match rest with
        | some s => go s (some v.1)
        | none => .error (.single (.unlike "unexpected_positional_argument"
            "Unexpected positional argument")))
  discard (Rejection.gather (taken ++ more))
  return none

/-- What a schema of arguments takes. -/
def takeArguments (go : Taker) (others : Undeclared) (rest named : Option Schema)
    (parameters : List (Lookup × ArgumentMode × Schema)) : Option Value → Taken
  | some (.map es) => takeByName go others named parameters es
  | some (.list vs) => takeByPosition go rest parameters vs
  | _ =>
    .error (.single (.unlike "arguments_type" "Arguments must be a tuple, list or a dictionary"))

/-- What is told of a definition that refers to itself without end. -/
def endless : Fault := .unlike "recursion_loop" "Recursion error - cyclic reference detected"

/-- What a schema takes, in as many steps as are given; it may be asked to be strict. -/
def take (definitions : List (String × Schema)) : Nat → Bool → Taker
  | 0, _, _, _ => .error (.single endless)
  | fuel + 1, forced, schema, given =>
    let go := take definitions fuel forced
    match schema with
    | .any => .ok given
    | .plain _ strict p => takePlain (forced || strict) p given
    | .truth strict => takeTruth (forced || strict) given
    | .whole strict b => takeWhole (forced || strict) b given
    | .real strict unbounded b => takeReal (forced || strict) unbounded b given
    | .text _ r => takeText { r with strict := forced || r.strict } given
    | .literal expected => takeLiteral expected given
    | .list _ l item => takeList go l item given
    | .set fixed strict l item => takeSet go fixed (forced || strict) l item given
    | .tuple strict l repeated items => takeTuple go (forced || strict) l repeated items given
    | .generator _ => takeGenerator given
    | .dict _ l key value => takeDict go l key value given
    | .nullable inner => if given.any Value.isNull then .ok given else go inner given
    | .default f onRefusal validated inner => takeDefault go f onRefusal validated inner given
    | .union strict fault choices =>
      takeUnion (take definitions fuel (forced || strict)) fault choices given
    | .tagged _ fromAttributes fault place choices =>
      takeTagged go fromAttributes fault place choices given
    | .chain steps => steps.foldlM (fun v s => go s v) given
    | .laxOrStrict strict lax strictly => go (if forced || strict then strictly else lax) given
    | .jsonOrPlain _ s => go s given
    | .json inner => takeJson go inner given
    | .renaming f inner => (go inner given).mapError fun _ => .single f
    | .calling c word _ inner => takeCalling go c word inner given
    | .call word _ inner => do
      discard (go inner given)
      .error (.called word)
    | .named sort _ fromAttributes others othersSchema fields =>
      takeNamed go sort fromAttributes others othersSchema fields given
    | .arguments others rest byName parameters =>
      takeArguments go others rest byName parameters given
    | .reference name =>
      match definitions.lookup name with
      | some s => go s given
      | none => .error (.single endless)

end Schema

namespace SchemaPlan

/-- What a plan takes. -/
def take (p : SchemaPlan) (v : Value) : Taken :=
  Schema.take p.definitions ((p.size + 1) * (v.size + 1)) false p.root (some v)

end SchemaPlan
end AuditConfig
