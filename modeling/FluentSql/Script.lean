import FluentSql.Script.DialectCall
import FluentSql.Script.Piece
import FluentSql.Script.QueryCall
import FluentSql.Script.SessionCall
import FluentSql.Script.WriteCall

/-!
# Scripts

A script gives names to what it makes, and calls builders and sessions by their names. Whatever a
step answers shows the contents that everything has at the end of the step.
-/

namespace FluentSql

/-- The objects of a script by name, and the workspace that they live in. -/
structure Script (σ : Type) where
  names : List (String × Value) := []
  work : Workspace σ

namespace Script

/-- A step of a script. -/
abbrev Step (σ : Type) := Fallible (Script σ)

variable {σ α : Type}

/-- Carries out a task. -/
def task (t : Task σ α) : Step σ α := fun s =>
  match t s.work with
  | (outcome, work) => (outcome, { s with work })

/-- The store as it is. -/
def store : Step σ Store :=
  Fallible.view (·.work.store)

/-- Gives a name to a value. -/
def bind (name : String) (v : Value) : Step σ Unit :=
  Fallible.update fun s => { s with names := putEntry name v s.names }

/-- The value with a name. -/
def named (names : List (String × Value)) (name : String) : Except Fault Value :=
  match names.lookup name with
  | some v => .ok v
  | none => .error (.missingKey (Text.quoted name))

/-- What a name stands for. -/
def object (name : String) : Step σ Value := do
  let names ← Fallible.view (·.names)
  Fallible.ofExcept (named names name)

/-- A value with the present contents of everything it refers to. -/
def settled (v : Value) : Step σ Value := do
  let s ← store
  pure (s.settle v)

/-! ### New objects -/

/-- Makes sure that a builder can be asked for: a dialect is named, or else a session makes it. -/
def checkMaker (session dialect : Value) : Except Fault Unit :=
  match session with
  | .null | .session .. => .ok ()
  | _ => if dialect.isNull then .error .missingMember else .ok ()

/-- Makes a query builder. -/
def newQuery (name : String) (session dialect : Value) : Step σ Reply := do
  Fallible.ofExcept (checkMaker session dialect)
  let h ← task (Task.build (Building.newQuery session dialect))
  bind name (Value.ofQuery h)
  let s ← store
  let text ← Fallible.ofExcept (s.describeQuery h)
  pure (.value (.text text))

/-- Makes a write builder. -/
def newWrite (name : String) (session dialect : Value) : Step σ Reply := do
  Fallible.ofExcept (checkMaker session dialect)
  let h ← task (Task.build (Building.newWrite session dialect))
  bind name (Value.ofWrite h)
  let s ← store
  let text ← Fallible.ofExcept (s.describeWrite h)
  pure (.value (.text text))

/-- Values for settings. Those that are converted to a type are read at once. -/
def settingValues (values : List (String × Value)) : Step σ (List (String × Value)) := do
  let s ← store
  pure (values.map fun e =>
    (e.1, if (Setting.ofName? e.1).any (·.isTyped) then s.settle e.2 else e.2))

/-- Makes a session. -/
def newSession (name : String) (adapter : Adapter) (settings : Settings) : Step σ Handle := do
  let h ← task (Task.build (Building.newSession adapter settings))
  bind name (Value.ofSession h)
  pure h

/-! ### Values -/

/-- Keeps a value. A list or record is kept where later steps can change it. -/
def keep (name : String) (v : Value) : Step σ Reply := do
  let kept ←
    match v with
    | .list items => Value.sharedList <$> task (Task.build (Building.newList items))
    | .record entries => Value.sharedRecord <$> task (Task.build (Building.newRecord entries))
    | v => pure v
  bind name kept
  pure (.value .null)

/-- Adds an item at the end of a list that was kept. -/
def append (name : String) (item : Value) : Step σ Reply := do
  match ← object name with
  | .sharedList list => task (Task.build (Building.append list item))
  | _ => Fallible.fail .missingMember
  pure (.value .null)

/-- Sets a key of a record that was kept. -/
def put (name : String) (key item : Value) : Step σ Reply := do
  match ← object name with
  | .sharedRecord record => do
    Fallible.ofExcept key.checkKey
    task (Task.build (Building.put record key item))
  | _ => Fallible.fail .wrongType
  pure (.value .null)

/-! ### Calls -/

/-- Makes a call with the arguments of its signature. -/
def checked (a : Arguments) (found : Option (Signature × Task σ Reply)) : Step σ Reply :=
  match found with
  | none => Fallible.fail .missingMember
  | some (signature, t) => if signature.accepts a then task t else Fallible.fail .wrongType

/-- Calls a builder or a session by name. -/
def call (b : Backend σ) (on name : String) (a : Arguments) (callback : Option (Callback σ)) :
    Step σ Reply := do
  match ← object on with
  | .query h _ => checked a (QueryCall.ofName? b h a callback name)
  | .write h _ => checked a (WriteCall.ofName? b h a callback name)
  | .session h _ => checked a (SessionCall.ofName? b h a name)
  | _ => Fallible.fail .missingMember

/-- Calls a dialect, or describes it where there is no call. -/
def callDialect (dialect : Value) (call : Option String) (args : List Value) : Step σ Reply := do
  let d ← Fallible.ofExcept (Dialect.ofValue dialect)
  match call with
  | none =>
    pure (.value (.list [.text d.description, .text d.name,
      .text (String.singleton d.quoteChar), .text Dialect.placeholder]))
  | some name => do
    let s ← store
    let answer ← Fallible.ofExcept (d.call name (args.map s.settle))
    pure (.value answer)

/-- Renders a piece of a statement on its own. -/
def render (dialect : Value) (rendering : Store → Scope → Rendering String) : Step σ Reply := do
  let d ← Fallible.ofExcept (Dialect.ofValue dialect)
  let s ← store
  match (rendering s (s.scope d)).run [] with
  | (text, params) => pure (.rendered text params)

/-- Renders a piece by its kind and arguments. -/
def renderPiece (dialect : Value) (kind : String) (a : Arguments) : Step σ Reply :=
  render dialect fun s scope => Piece.render scope kind (a.map s.settle)

/-- Renders the nodes of a condition list. -/
def renderNodes (dialect nodes : Value) : Step σ Reply :=
  render dialect fun s scope => Condition.renderNodes scope (s.settle (s.opened nodes))

/-- Renders an operand. -/
def renderOperand (dialect operand : Value) : Step σ Reply :=
  render dialect fun s scope => scope.operand (s.settle operand)

/-! ### Answers -/

/-- The answer of a step, with the contents that everything has when the step is over. -/
def answer (step : Step σ Reply) : Step σ Reply := do
  let reply ← step
  let s ← store
  pure (reply.map s.settle)

/-- The session behind a name: the named one, or that of the named builder. -/
def sessionBehind (s : Script σ) (name : String) : Option Handle :=
  let ofValue (session : Value) : Option Handle :=
    match session with
    | .session h _ => some h
    | _ => none
  match s.names.lookup name with
  | some (.query h _) => ofValue (s.work.store.query h).session
  | some (.write h _) => ofValue (s.work.store.write h).session
  | some v => ofValue v
  | none => none

end Script

end FluentSql
