import AuditConfig.Options
import AuditConfig.Schema.Plain
import AuditConfig.Value.Text

/-!
# Schemas: what values are validated by

A schema says what values are taken and what is made of them.  There are schemas of
single values, of collections, of choices, of named values, and schemas that call
something in place of a validation, which always fails.

Every schema goes by a name, which messages show (`Schema.name`): that of its sort and,
in brackets, those of the schemas in it.
-/

namespace AuditConfig

/-- Bounds on numbers. -/
structure Bounds (α : Type) where
  /-- What all numbers are multiples of. -/
  multipleOf : Option α
  atMost : Option α
  below : Option α
  atLeast : Option α
  above : Option α

/-- Whether there is any bound. -/
def Bounds.isGiven {α : Type} (b : Bounds α) : Bool :=
  b.multipleOf.isSome || b.atMost.isSome || b.below.isSome || b.atLeast.isSome || b.above.isSome

/-- Bounds on the number of the members of a collection. -/
structure Lengths where
  least : Option Nat
  most : Option Nat

/-- What stands in place of a value that is not given. -/
inductive Fallback where
  | none
  | value (v : Value)
  /-- What this word is for is called to make it. -/
  | called (word : String)

/-- What becomes of a value that is refused. -/
inductive OnRefusal where
  | raise
  | omit
  /-- The value that stands in place of none is taken. -/
  | fallback
  deriving DecidableEq

/-- Which named values a schema is for. -/
inductive NamedSort where
  /-- Those of a model of a name. -/
  | model (name : String)
  /-- Those of a map, which may have a name. -/
  | map (name : Option String)
  /-- Those of a class of a name that is no more than its data. -/
  | data (name : String)
  deriving DecidableEq

/-- When something is called that validates. -/
inductive Calling where
  | before
  | after
  | alone
  | around
  deriving DecidableEq

/-- How an argument is given. -/
inductive ArgumentMode where
  | byPosition
  | byEither
  | byName
  deriving DecidableEq

/-- Where a named value is looked for, and how messages tell that. -/
structure Lookup where
  /-- The name that the value has. -/
  name : String
  /-- The paths that are followed, the first that leads to a value counting. -/
  paths : List (List Key)
  /-- The path under which issues are told. -/
  told : List String

/-- What values are validated by. -/
inductive Schema where
  | any
  /-- Takes values as a whole or refuses them, and goes by a name of its own. -/
  | plain (name : String) (strict : Bool) (sort : PlainSort)
  | truth (strict : Bool)
  | whole (strict : Bool) (bounds : Bounds Int)
  | real (strict unbounded : Bool) (bounds : Bounds Binary64)
  | text (isNamed : Bool) (rules : Validation.Rules)
  | literal (expected : List Value)
  | list (strict : Bool) (lengths : Lengths) (item : Schema)
  /-- A collection without order, which can be fixed. -/
  | set (fixed strict : Bool) (lengths : Lengths) (item : Schema)
  /-- Of the items one may stand for any number of items. -/
  | tuple (strict : Bool) (lengths : Lengths) (repeated : Option Nat) (items : List Schema)
  | generator (item : Schema)
  | dict (strict : Bool) (lengths : Lengths) (key value : Schema)
  | nullable (inner : Schema)
  | default (fallback : Fallback) (onRefusal : OnRefusal) (validated : Bool) (inner : Schema)
  | union (strict : Bool) (fault : Option Fault) (choices : List (Option String × Schema))
  /-- What is found at a place says which schema is chosen. -/
  | tagged (strict fromAttributes : Bool) (fault : Option Fault) (place : Lookup)
      (choices : List (Value × Schema))
  | chain (steps : List Schema)
  | laxOrStrict (strict : Bool) (lax strictly : Schema)
  | jsonOrPlain (json plain : Schema)
  | json (inner : Schema)
  /-- Tells one fault in place of all that the inner schema finds. -/
  | renaming (f : Fault) (inner : Schema)
  /-- Calls what this word is for and is shown so. -/
  | calling (c : Calling) (word : String) (shown : List Char) (inner : Schema)
  /-- Calls what this word is for with the arguments that the inner schema makes. -/
  | call (word : String) (shown : String) (inner : Schema)
  | named (sort : NamedSort) (strict fromAttributes : Bool) (others : Undeclared)
      (othersSchema : Option Schema) (fields : List (Lookup × Bool × Schema))
  | arguments (others : Undeclared) (rest : Option Schema) (named : Option Schema)
      (parameters : List (Lookup × ArgumentMode × Schema))
  /-- Stands for the definition of a name. -/
  | reference (name : String)

namespace Schema

/-- What stands in place of a name that is being made. -/
def unknownName : String := "..."

/-- A name with others in brackets. -/
def bracketed (sort : String) (inner : List String) (separator : String) : String :=
  sort ++ "[" ++ separator.intercalate inner ++ "]"

/-- The word for the sort of a calling schema. -/
def callingWord : Calling → String
  | .before => "function-before"
  | .after => "function-after"
  | .alone => "function-plain"
  | .around => "function-wrap"

/-- The quoted form of a value in the name of a schema. -/
def quotedText (v : Value) : String := String.ofList (v.quoted.toOption.getD [])

/-- Puts a mark behind the item of an index. -/
def marked (mark : String) (index : Option Nat) (names : List String) : List String :=
  match index with
  | none => names
  | some i => names.take (i + 1) ++ [mark] ++ names.drop (i + 1)

mutual

/-- The name of a schema. -/
def name : Schema → String
  | .any => "any"
  | .plain n _ _ => n
  | .truth _ => "bool"
  | .whole _ b => if b.isGiven then "constrained-int" else "int"
  | .real _ _ b => if b.isGiven then "constrained-float" else "float"
  | .text isNamed _ => if isNamed then "constrained-str" else "str"
  | .literal vs => bracketed "literal" (vs.map quotedText) ","
  | .list _ _ s => bracketed "list" [s.name] ""
  | .set fixed _ _ s => bracketed (if fixed then "frozenset" else "set") [s.name] ""
  | .tuple _ _ repeated ss => bracketed "tuple" (marked "..." repeated (names ss)) ", "
  | .generator s => bracketed "generator" [s.name] ""
  | .dict _ _ k v => bracketed "dict" [k.name, v.name] ","
  | .nullable s => bracketed "nullable" [s.name] ""
  | .default _ _ _ s => bracketed "default" [s.name] ""
  | .union _ _ cs => bracketed "union" (choiceNames cs) ","
  | .tagged _ _ _ _ cs => bracketed "tagged-union" (tagNames cs) ","
  | .chain ss => bracketed "chain" (names ss) ","
  | .laxOrStrict _ l s => bracketed "lax-or-strict" ["lax=" ++ l.name, "strict=" ++ s.name] ","
  | .jsonOrPlain j p => bracketed "json-or-python" ["json=" ++ j.name, "python=" ++ p.name] ","
  | .json s => bracketed "json" [s.name] ""
  | .renaming _ s => bracketed "custom-error" [s.name] ""
  | .calling c _ shown s =>
    let function := String.ofList shown ++ "()"
    bracketed (callingWord c)
      (match c with
        | .before => [function, s.name]
        | .after => [function, s.name]
        | _ => [function]) ", "
  | .call _ shown _ => bracketed "call" [shown] ""
  | .named sort _ _ _ _ _ =>
    match sort with
    | .model _ => "model-fields"
    | .map n => n.getD "typed-dict"
    | .data n => bracketed "dataclass-args" [n] ""
  | .arguments .. => "arguments"
  | .reference _ => unknownName

/-- The names of schemas. -/
def names : List Schema → List String
  | [] => []
  | s :: ss => s.name :: names ss

/-- The names of choices, which can have labels. -/
def choiceNames : List (Option String × Schema) → List String
  | [] => []
  | (label, s) :: cs => label.getD s.name :: choiceNames cs

/-- The names of what tags choose. -/
def tagNames : List (Value × Schema) → List String
  | [] => []
  | (_, s) :: cs => s.name :: tagNames cs

end

end Schema
end AuditConfig
