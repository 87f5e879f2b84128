import FluentSql.Building

/-!
# Workspaces

A store of builders and sessions at work: with the world of their drivers, and a log. Builders are
run here. A caller may have the outcome of a run told to a continuation, which acts on the same
world, after the driver and before the outcome is given.
-/

namespace FluentSql

/-- A store at work. -/
structure Workspace (σ : Type) where
  store : Store := {}
  world : σ
  log : List LogLine := []

/-- What a continuation is told: whether the run succeeded, and the rows or the fault. -/
structure Notice where
  success : Bool
  outcome : Except Fault Yield

/-- A continuation. -/
abbrev Callback (σ : Type) := Notice → Action σ Unit

/-- Work on a workspace. -/
abbrev Task (σ : Type) := Fallible (Workspace σ)

namespace Task

variable {σ α : Type}

/-- Builds. -/
def build (b : Building α) : Task σ α := fun w =>
  match b w.store with
  | (outcome, store) => (outcome, { w with store })

/-- Acts on the world. -/
def act (action : Action σ α) : Task σ α := fun w =>
  match action w.world with
  | (outcome, world) => (outcome, { w with world })

/-- Writes a line to the log. -/
def log (level : LogLevel) (text : String) : Task σ Unit :=
  Fallible.update fun w => { w with log := w.log ++ [⟨level, text⟩] }

/-- The store as it is. -/
def store : Task σ Store :=
  Fallible.view (·.store)

/-- Lets a session work, through the driver of its adapter. -/
def withSession (drivers : Adapter → Driver σ) (h : Handle) (work : Driver σ → Work σ α) :
    Task σ α := fun w =>
  let ⟨adapter, session⟩ := w.store.session h
  let read (held : Option Connection) := (w.store.setSession h { session with held }).settle
  match work (drivers adapter) ⟨session, w.world, w.log, read⟩ with
  | (outcome, link) =>
    (outcome,
      { store := w.store.setSession h link.session, world := link.world, log := link.log })

/-- Tells an outcome to a continuation, if there is one. -/
def notify (callback : Option (Callback σ)) (notice : Notice) : Task σ Unit :=
  match callback with
  | none => pure ()
  | some f => act (f notice)

/-- A statement, unless the builder refuses it. Any other fault stops the task. -/
def accepted (s : Except Fault Statement) : Task σ (Except Refusal Statement) :=
  match s with
  | .ok statement => pure (.ok statement)
  | .error (.refused refusal) => pure (.error refusal)
  | .error f => Fallible.fail f

/-- The session that a builder works through, where it has one. Nothing else in its place can run a
statement, not even a query. -/
def sessionHandle : Value → Task σ Handle
  | .session h _ => pure h
  | .query .. => Fallible.fail .wrongType
  | _ => Fallible.fail .missingMember

/-! ### Queries -/

/-- Compiles a query and runs it through its session. -/
def fetch (drivers : Adapter → Driver σ) (h : Handle) : Task σ (Except Fault Rows) := do
  let s ← store
  if (s.query h).session.isNull then pure (.error (.unbound "Query"))
  else
    match ← accepted (s.compile h (s.queryDialect h)) with
    | .error refusal => pure (.error (.refused refusal))
    | .ok statement => do
      let session ← sessionHandle (s.query h).session
      withSession drivers session fun d =>
        Session.run d (.text statement.sql) (.list statement.params)

/-- Runs a query, keeps its rows if it succeeds, and tells the outcome. -/
def executeQuery (drivers : Adapter → Driver σ) (h : Handle) (callback : Option (Callback σ)) :
    Task σ (Except Fault Yield) := do
  let fetched ← fetch drivers h
  match fetched with
  | .ok rows => build (Building.editQuery h fun q => .ok { q with records := some rows })
  | .error f => log .debug ("Query failed: " ++ f.message)
  let outcome := fetched.map Yield.rows
  notify callback ⟨outcome.isOk, outcome⟩
  pure outcome

/-! ### Writes -/

/-- Writes a line about a refused write to the log. Without a display of the table there is no
line. -/
def logRejected (table : Value) (refusal : Refusal) : Task σ Unit :=
  match table.display with
  | .ok shown => log .debug ("Transaction on " ++ shown ++ " rejected: " ++ refusal.message)
  | .error _ => pure ()

/-- Compiles a write and runs it in a transaction of its session. -/
def runWrite (drivers : Adapter → Driver σ) (h : Handle) (kind : WriteKind) (commits : Bool) :
    Task σ (Except Fault Yield) := do
  let s ← store
  match ← accepted (s.compileWrite h kind (s.writeDialect h)) with
  | .error refusal => do
    logRejected (s.settle (s.write h).write.table) refusal
    pure (.error (.refused refusal))
  | .ok statement =>
    if (s.write h).session.isNull then pure (.error (.unbound "Transaction"))
    else do
      let session ← sessionHandle (s.write h).session
      withSession drivers session fun d =>
        Session.runTransaction d (.text statement.sql) (.list statement.params) commits

/-- Runs a write and tells the outcome. -/
def executeWrite (drivers : Adapter → Driver σ) (h : Handle) (kind : WriteKind) (commits : Bool)
    (callback : Option (Callback σ)) : Task σ (Except Fault Yield) := do
  let outcome ← runWrite drivers h kind commits
  notify callback ⟨outcome.isOk, outcome⟩
  pure outcome

end Task

end FluentSql
