import FluentSql.Session

/-!
# The journal of a session

`Driver.recorded` is a driver that writes down each of its calls with how it turned out. A session
that works through it does nothing else than through the plain driver, so the journal shows what
the operations of a session do to any driver, however its calls turn out.

`history` performs a list of operations one after the other, and keeps for each the calls that it
made and its outcome. What holds of every history holds in every order of operations, for every
pattern of success and failure of the calls.
-/

namespace FluentSql

variable {σ α : Type}

/-! ### Calls -/

/-- A call of a driver, with how it turned out. -/
inductive Event where
  | connect (settings : Settings) (outcome : Except Fault Connection)
  | control (c : Connection) (call : Control) (outcome : Except Fault Unit)
  | query (c : Connection) (sql params : Value) (outcome : Except Fault Rows)

/-- The calls that begin or end a transaction. -/
def Control.isTransactional : Control → Bool
  | begin | commit | rollback => true
  | _ => false

/-- Whether a call begins or ends a transaction, or tried to. -/
def Event.isTransactional : Event → Bool
  | control _ call _ => call.isTransactional
  | _ => false

/-- The world of a driver, with the calls that were made in it. -/
structure Journal (σ : Type) where
  world : σ
  events : List Event := []

/-- An action that is written down. -/
def Action.noted (note : Except Fault α → Event) (action : Action σ α) : Action (Journal σ) α :=
  fun j =>
    match action j.world with
    | (r, world) => (r, ⟨world, j.events ++ [note r]⟩)

/-- A driver that writes its calls down. -/
def Driver.recorded (d : Driver σ) : Driver (Journal σ) where
  connect settings := Action.noted (.connect settings) (d.connect settings)
  control c call := Action.noted (.control c call) (d.control c call)
  query c sql params := Action.noted (.query c sql params) (d.query c sql params)

theorem Action.noted_apply (note : Except Fault α → Event) (action : Action σ α)
    (j : Journal σ) :
    Action.noted note action j =
      ((action j.world).1, ⟨(action j.world).2, j.events ++ [note (action j.world).1]⟩) :=
  rfl

/-! ### Operations and histories -/

/-- An operation of a session, with its arguments. -/
inductive Operation where
  | ensureConnected (user password schema : Value)
  | execute (sql params index column : Value)
  | runTransaction (sql params : Value) (commits : Bool)
  | commit
  | rollback
  | close
  | destroy

/-- Performs an operation. Teardown has nothing to report. -/
def Operation.perform (d : Driver σ) : Operation → Work σ (Except Fault Yield)
  | ensureConnected user password schema => Session.ensureConnected d user password schema
  | execute sql params index column => Session.execute d sql params index column
  | runTransaction sql params commits => Session.runTransaction d sql params commits
  | commit => Session.commit d
  | rollback => Session.rollback d
  | close => do
    Session.close d
    pure (.ok .nothing)
  | destroy => do
    Session.destroy d
    pure (.ok .nothing)

/-- An operation that was performed: its calls, and its outcome. An operation that a cancellation
stopped has the cancellation for its outcome. -/
structure Step where
  operation : Operation
  events : List Event
  outcome : Except Fault (Except Fault Yield)

/-- A link whose driver is recorded from now on. -/
def Link.recorded (link : Link σ) : Link (Journal σ) :=
  ⟨link.session, ⟨link.world, []⟩, link.log, link.read⟩

/-- A link without the journal of its driver. -/
def Link.plain (link : Link (Journal σ)) : Link σ :=
  ⟨link.session, link.world.world, link.log, link.read⟩

/-- Performs an operation and keeps what it did. -/
def Operation.step (d : Driver σ) (op : Operation) (link : Link σ) : Step × Link σ :=
  match op.perform d.recorded link.recorded with
  | (outcome, after) => (⟨op, after.world.events, outcome⟩, after.plain)

/-- Performs several operations one after the other and keeps what each did. -/
def history (d : Driver σ) : List Operation → Link σ → List Step
  | [], _ => []
  | op :: ops, link => (op.step d link).1 :: history d ops (op.step d link).2

/-- The calls of several steps, in order. -/
def Step.allEvents (steps : List Step) : List Event :=
  steps.flatMap (·.events)

@[simp]
theorem Step.allEvents_append (steps others : List Step) :
    allEvents (steps ++ others) = allEvents steps ++ allEvents others :=
  List.flatMap_append

@[simp]
theorem Step.allEvents_singleton (step : Step) : allEvents [step] = step.events :=
  List.append_nil step.events

end FluentSql
