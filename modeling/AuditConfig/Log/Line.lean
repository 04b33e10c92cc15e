import AuditConfig.Log.Event

/-!
# Log lines: how an event is written

A line is either the event itself, written as a JSON object, or a text for a
console: the level in a field of nine characters between brackets, the kind of
the event in a field of thirty, the logger between brackets, and what the event
carries as `name=value` with the value in its quoted form.  The time at which a line is
written is left out of it.
-/

namespace AuditConfig

/-- How lines are written. -/
inductive Renderer where
  | json
  | console
  deriving DecidableEq, Repr

/-- A written line. -/
inductive Line where
  | json (e : Event)
  | console (text : String)
  deriving DecidableEq, Repr

namespace Line

/-- The widths of the level and of the kind of the event on a console. -/
def widths : Nat × Nat := (9, 30)

/-- A text filled up with spaces to a width. -/
def padded (width : Nat) (s : String) : String :=
  String.ofList (s.toList ++ List.replicate (width - s.length) ' ')

/-- The quoted form of what an event carries.  Names of fields always have one, and a count
has one up to as many digits as are written. -/
def detailText (v : Value) : String :=
  match v.quoted with
  | .ok t => String.ofList t
  | .error e => e.message

/-- The text of an event on a console. -/
def consoleText (e : Event) : String :=
  "[" ++ padded widths.1 e.levelName ++ "] " ++ padded widths.2 e.name ++
    " [" ++ e.logger ++ "] " ++
    " ".intercalate (e.details.map fun d => d.1 ++ "=" ++ detailText d.2)

/-- Names between brackets, each in its quoted form. -/
def quotedNames (names : List String) : String :=
  "[" ++ ", ".intercalate (names.map fun n => String.ofList (Text.Quoted.encode n.toList)) ++ "]"

/-- The text on a console that counts the entries passed through and the fields at their
defaults. -/
def builtText (p : Processor) (additional defaulted : Nat) : String :=
  "[info     ] props.built                    [props." ++ p.name ++
    "] additional_properties=" ++ toString additional ++ " defaulted_count=" ++ toString defaulted

/-- The text on a console that names the fields at their defaults and the malformed ones. -/
def defaultedText (p : Processor) (fields malformed : List String) : String :=
  "[debug    ] props.defaulted                [props." ++ p.name ++
    "] fields=" ++ quotedNames fields ++ " malformed=" ++ quotedNames malformed

theorem detailText_count {n : Nat} (h : n < tenTo Decimal.limit) :
    detailText (.int n) = toString n := by
  have hquoted : (Value.int n).quoted = .ok (Decimal.digits n) :=
    (Decimal.write_eq_ok_iff n _).2 ⟨h, rfl⟩
  rw [detailText, hquoted, Nat.toString_eq_ofList_toDigits]
  rfl

theorem quotedItems_names (names : List String) : Value.quotedItems (names.map .text) =
    .ok (names.map fun n => Text.Quoted.encode n.toList) := by
  induction names with
  | nil => rfl
  | cons n names ih => rw [List.map_cons, Value.quotedItems, ih]; rfl

theorem detailText_nameList (names : List String) :
    detailText (Event.nameList names) = quotedNames names := by
  have hquoted : (Event.nameList names).quoted =
      .ok (['['] ++ [',', ' '].intercalate (names.map fun n => Text.Quoted.encode n.toList) ++
        [']']) := by
    rw [Event.nameList, Value.quoted, quotedItems_names]
    rfl
  rw [detailText, hquoted, quotedNames]
  apply String.toList_inj.1
  simp [Function.comp_def]

end Line

namespace Event

/-- The counts that an event carries have no more digits than are written. -/
def IsWritten : Event → Prop
  | .built _ a d => a < tenTo Decimal.limit ∧ d < tenTo Decimal.limit
  | .defaulted .. => True

end Event

namespace Line

/-- An event is written by its level, its kind and its logger, and by the two things that it
carries. -/
theorem consoleText_eq {e : Event} {n m : String} {v w : Value}
    (h : e.details = [(n, v), (m, w)]) : consoleText e =
      "[" ++ padded widths.1 e.levelName ++ "] " ++ padded widths.2 e.name ++ " [" ++ e.logger ++
        "] " ++ (n ++ "=" ++ detailText v ++ " " ++ (m ++ "=" ++ detailText w)) := by
  rw [consoleText, h, List.map_cons, List.map_cons, List.map_nil]
  apply String.toList_inj.1
  simp

/-- **The text of a built object on a console.** -/
theorem consoleText_built (p : Processor) {a d : Nat} (ha : a < tenTo Decimal.limit)
    (hd : d < tenTo Decimal.limit) : consoleText (.built p a d) = builtText p a d := by
  have hhead : "[" ++ padded widths.1 "info" ++ "] " ++ padded widths.2 "props.built" ++ " [" =
    "[info     ] props.built                    [" := by decide
  rw [consoleText_eq (e := .built p a d) rfl, detailText_count ha, detailText_count hd]
  simp only [Event.levelName, Event.name, Event.logger, Event.processor]
  rw [hhead]
  unfold builtText
  apply String.toList_inj.1
  simp

/-- **The text of the fields at their defaults on a console.** -/
theorem consoleText_defaulted (p : Processor) (fs ms : List String) :
    consoleText (.defaulted p fs ms) = defaultedText p fs ms := by
  have hhead : "[" ++ padded widths.1 "debug" ++ "] " ++ padded widths.2 "props.defaulted" ++
    " [" = "[debug    ] props.defaulted                [" := by decide
  rw [consoleText_eq (e := .defaulted p fs ms) rfl, detailText_nameList, detailText_nameList]
  simp only [Event.levelName, Event.name, Event.logger, Event.processor]
  rw [hhead]
  unfold defaultedText
  apply String.toList_inj.1
  simp

/-- A line shows an event: it is the event itself, or the text of it on a console. -/
inductive Shows : Line → Event → Prop where
  | json (e : Event) : Shows (.json e) e
  | built (p : Processor) (a d : Nat) : Shows (.console (builtText p a d)) (.built p a d)
  | defaulted (p : Processor) (fs ms : List String) :
    Shows (.console (defaultedText p fs ms)) (.defaulted p fs ms)

end Line

namespace Renderer

/-- The line of an event. -/
def render : Renderer → Event → Line
  | .json, e => .json e
  | .console, e => .console (Line.consoleText e)

/-- **The line of an event shows that event,** however it is written. -/
theorem shows_render (way : Renderer) {e : Event} (h : e.IsWritten) : (way.render e).Shows e := by
  cases way with
  | json => exact .json e
  | console =>
    cases e with
    | built p a d =>
      rw [render, Line.consoleText_built p h.1 h.2]
      exact .built p a d
    | defaulted p fs ms =>
      rw [render, Line.consoleText_defaulted]
      exact .defaulted p fs ms

end Renderer
end AuditConfig
