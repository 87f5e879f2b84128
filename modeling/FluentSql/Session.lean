import FluentSql.Driver
import FluentSql.Log

/-!
# Sessions

A session owns one connection. Every operation first makes sure that the connection is alive: a
probe runs on the one that is held, and if it fails (or there is none) a new connection is opened
with the last known credentials and set up. Failures of the driver are reported and not retried.

A transaction stays open until it is committed or rolled back, and the statements of later
operations join it. If the connection is lost under it, the next statement of a transaction or
commit reports the loss and runs nothing.

An operation gives `Except Fault Yield`: the fault that it reports, or what it yields. Only a
cancellation, or an index that cannot be compared to a position, leaves it as a fault of the
operation itself.
-/

namespace FluentSql

/-- A session. -/
structure Session where
  settings : Settings := {}
  /-- The connection that is held; it may be dead. -/
  held : Option Connection := none
  inTransaction : Bool := false
  /-- Whether a connection was lost under a transaction, and nothing has reported it yet. -/
  transactionLost : Bool := false

/-- The description of a session. -/
def Session.description (s : Session) : Except Fault String :=
  s.settings.driver.display.map fun name =>
    "<Session " ++ name ++ (if s.held.isSome then " connected>" else " disconnected>")

/-- A session with the values of its settings changed. -/
def Session.map (f : Value → Value) (s : Session) : Session :=
  { s with settings := s.settings.map f }

/-- A session at work, with the world of its driver and the log. -/
structure Link (σ : Type) where
  session : Session
  world : σ
  log : List LogLine
  /-- How values read while the session holds a connection, or none. They may be shared with others,
  and even show the session itself. -/
  read : Option Connection → Value → Value := fun _ v => v

/-- The work of a session. -/
abbrev Work (σ : Type) := Fallible (Link σ)

/-- Writes a line to the log. -/
def Work.log {σ : Type} (level : LogLevel) (text : String) : Work σ Unit :=
  Fallible.update fun link => { link with log := link.log ++ [⟨level, text⟩] }

/-- Changes the session. -/
def Work.update {σ : Type} (f : Session → Session) : Work σ Unit :=
  Fallible.update fun link => { link with session := f link.session }

/-- The session as it is. -/
def Work.session {σ : Type} : Work σ Session :=
  Fallible.view (·.session)

/-- A value as it reads at present. -/
def Work.read {σ : Type} (v : Value) : Work σ Value :=
  Fallible.view fun link => link.read link.session.held v

/-- Settings as they read at present. -/
def Work.readSettings {σ : Type} (settings : Settings) : Work σ Settings :=
  Fallible.view fun link => settings.map (link.read link.session.held)

/-- Writes a line about settings to the log, as they read at present. Without a description of them
there is no line. -/
def Work.logSettings {σ : Type} (level : LogLevel) (settings : Settings)
    (line : String → String) : Work σ Unit := do
  let present ← Work.readSettings settings
  match present.description with
  | .ok shown => Work.log level (line shown)
  | .error _ => pure ()

/-- Writes a line to the log that announces a statement with its parameters, as they read at
present. Unless both can be shown there is no line. -/
def Work.logStatement {σ : Type} (start : String) (sql params : Value) : Work σ Unit := do
  let sql ← Work.read sql
  let params ← Work.read params
  match sql.display, params.quoted with
  | .ok statement, .ok bound => Work.log .debug (start ++ statement ++ " " ++ bound)
  | _, _ => pure ()

/-- Performs an action of the driver, and gives its fault as a value. A cancellation is not given
but stops the work. -/
def Work.attempt {σ α : Type} (action : Action σ α) : Work σ (Except Fault α) := fun link =>
  match action link.world with
  | (.ok a, world) => (.ok (.ok a), { link with world })
  | (.error f, world) =>
    if f.isCancellation then (.error f, { link with world })
    else (.ok (.error f), { link with world })

/-- What an operation yields that has nothing to give. -/
def Yield.nothing : Yield := .item .null

namespace Session

open Work

variable {σ : Type}

/-! ### Teardown -/

/-- Tears a connection down by a call. A fault in doing so is only logged. -/
def tearDown (d : Driver σ) (c : Connection) (call : Control) (level : LogLevel)
    (start : String) : Work σ Unit := do
  match ← attempt (d.control c call) with
  | .ok _ => pure ()
  | .error f => log level (start ++ f.message)

/-- Destroys a connection. -/
def destroyConnection (d : Driver σ) (c : Connection) : Work σ Unit :=
  tearDown d c .destroy .debug "Error while destroying connection: "

/-- Closes a connection in good order. -/
def closeConnection (d : Driver σ) (c : Connection) : Work σ Unit :=
  tearDown d c .finish .warning "Error while closing connection: "

/-- Lets go of the connection that is held, and of its transaction, and destroys it. -/
def discard (d : Driver σ) : Work σ Unit := do
  let s ← session
  update fun s => { s with held := none, inTransaction := false }
  match s.held with
  | none => pure ()
  | some c => destroyConnection d c

/-- Drops the connection without closing it in good order. -/
def destroy (d : Driver σ) : Work σ Unit := do
  update fun s => { s with transactionLost := false }
  discard d

/-- Closes the connection, if one is held. -/
def close (d : Driver σ) : Work σ Unit := do
  let s ← session
  update fun s => { s with held := none }
  match s.held with
  | none => pure ()
  | some c => do
    if s.inTransaction then
      log .warning "Closing session with an open transaction; it will be rolled back"
    update fun s => { s with inTransaction := false, transactionLost := false }
    closeConnection d c

/-! ### Connecting -/

/-- Settings with the credentials that are given; null keeps the ones that there are. -/
def withCredentials (s : Settings) (user password schema : Value) : Settings :=
  { s with
    user := if user.isNull then s.user else user
    password := if password.isNull then s.password else password
    schema := if schema.isNull then s.schema else schema }

/-- Makes a call for a setting that is given. -/
def controlIf (d : Driver σ) (c : Connection) (given : Bool) (call : Control) : Action σ Unit :=
  if given then d.control c call else pure ()

/-- Prepares a new connection: its schema and its idle timeout, where they are given. -/
def setup (d : Driver σ) (c : Connection) (settings : Settings) : Action σ Unit := do
  controlIf d c settings.schema.truthy (.selectSchema settings.schema)
  controlIf d c settings.waitTimeout.truthy (.setWaitTimeout settings.waitTimeout)

/-- Opens a connection and holds it, with its settings, once it is set up. -/
def openConnection (d : Driver σ) (settings : Settings) : Work σ (Except Fault Connection) := do
  let present ← readSettings settings
  match ← attempt (d.connect present) with
  | .error f => do
    logSettings .warning settings fun shown =>
      "Connection to " ++ shown ++ " failed: " ++ f.message
    pure (.error (.connectFailed f))
  | .ok c =>
    match ← attempt (setup d c present) with
    | .error f => do
      logSettings .warning settings fun shown =>
        "Session setup on " ++ shown ++ " failed: " ++ f.message
      destroyConnection d c
      pure (.error (.setupFailed f))
    | .ok _ => do
      update fun s => { s with settings, held := some c, inTransaction := false }
      logSettings .info settings fun shown => "Connected: " ++ shown
      pure (.ok c)

/-- Lets go of a connection that failed its probe. A transaction that was open on it is lost. -/
def dropDead (d : Driver σ) (f : Fault) : Work σ Unit := do
  let s ← session
  if s.inTransaction then
    log .warning ("Connection lost with an open transaction: " ++ f.message)
    update fun s => { s with transactionLost := true }
  else log .warning ("Liveness probe failed, reconnecting: " ++ f.message)
  discard d

/-- A connection if it is alive, else a new one with the given settings. -/
def probe (d : Driver σ) (c : Connection) (settings : Settings) :
    Work σ (Except Fault Connection) := do
  match ← attempt (d.control c .ping) with
  | .ok _ => pure (.ok c)
  | .error f => do
    dropDead d f
    openConnection d settings

/-- The connection that is held if it is alive, else a new one with the given credentials. -/
def liveConnection (d : Driver σ) (user password schema : Value) :
    Work σ (Except Fault Connection) := do
  let s ← session
  let settings := withCredentials s.settings user password schema
  match s.held with
  | none => openConnection d settings
  | some c => probe d c settings

/-- Makes sure that a live connection is held. -/
def ensureConnected (d : Driver σ) (user password schema : Value) :
    Work σ (Except Fault Yield) := do
  let c ← liveConnection d user password schema
  pure (c.map fun _ => .nothing)

/-! ### Statements -/

/-- Reports the loss of a transaction, once. -/
def reportLoss (sql : Value) : Work σ (Except Fault Yield) := do
  update fun s => { s with transactionLost := false }
  pure (.error (.transactionLost sql))

/-- Announces a statement and sends it to the driver, with its parameters as they read at
present. -/
def send (d : Driver σ) (c : Connection) (start : String) (sql params : Value) :
    Work σ (Except Fault Rows) := do
  logStatement start sql params
  let statement ← read sql
  let bound ← read params
  attempt (d.query c statement (bound.orElse (.list [])))

/-- Runs one statement outside of a transaction. -/
def run (d : Driver σ) (sql params : Value) : Work σ (Except Fault Rows) := do
  match ← liveConnection d .null .null .null with
  | .error f => pure (.error f)
  | .ok c =>
    match ← send d c "SQL: " sql params with
    | .error f => do
      log .debug ("Statement failed: " ++ f.message)
      pure (.error (.statementFailed sql f))
    | .ok rows => pure (.ok rows)

/-- Runs one statement outside of a transaction, and narrows its rows. -/
def execute (d : Driver σ) (sql params index column : Value) :
    Work σ (Except Fault Yield) := do
  match ← run d sql params with
  | .error f => pure (.error f)
  | .ok rows => do
    let index ← read index
    let column ← read column
    let narrowed ← Fallible.ofExcept (narrow (.list rows.rows) index column)
    pure (.ok (narrowed.elim (.rows rows) .item))

/-- Ends the open transaction by a call. A fault in doing so is logged and reported. -/
def endTransaction (d : Driver σ) (c : Connection) (call : Control) (start : String)
    (report : Fault → Fault) : Work σ (Except Fault Yield) := do
  update fun s => { s with inTransaction := false }
  match ← attempt (d.control c call) with
  | .ok _ => pure (.ok .nothing)
  | .error f => do
    log .warning (start ++ f.message)
    pure (.error (report f))

/-- Commits the open transaction, if there is one. -/
def commit (d : Driver σ) : Work σ (Except Fault Yield) := do
  let s ← session
  if s.transactionLost then reportLoss .null
  else
    match s.inTransaction, s.held with
    | true, some c => endTransaction d c .commit "COMMIT failed: " .commitFailed
    | _, _ => pure (.ok .nothing)

/-- Rolls back the open transaction, if there is one. -/
def rollback (d : Driver σ) : Work σ (Except Fault Yield) := do
  update fun s => { s with transactionLost := false }
  let s ← session
  match s.inTransaction, s.held with
  | true, some c => endTransaction d c .rollback "ROLLBACK failed: " .rollbackFailed
  | _, _ => pure (.ok .nothing)

/-- Rolls back after a failed statement. A connection that cannot be rolled back is dropped. -/
def recover (d : Driver σ) : Work σ Unit := do
  match ← rollback d with
  | .ok _ => pure ()
  | .error _ => discard d

/-- Opens a transaction on a connection. -/
def startTransaction (d : Driver σ) (c : Connection) (sql : Value) :
    Work σ (Except Fault Unit) := do
  match ← attempt (d.control c .begin) with
  | .error f => do
    log .warning ("BEGIN failed: " ++ f.message)
    pure (.error (.beginFailed sql f))
  | .ok _ => do
    update fun s => { s with inTransaction := true }
    pure (.ok ())

/-- Opens a transaction on a connection, unless one is open. -/
def beginTransaction (d : Driver σ) (c : Connection) (sql : Value) :
    Work σ (Except Fault Unit) := do
  let s ← session
  if s.inTransaction then pure (.ok ()) else startTransaction d c sql

/-- Sends one statement of the open transaction, and may commit it. -/
def conclude (d : Driver σ) (c : Connection) (sql params : Value) (commits : Bool) :
    Work σ (Except Fault Yield) := do
  match ← send d c "SQL (transaction): " sql params with
  | .error f => do
    log .warning ("Statement failed, rolling back: " ++ f.message)
    recover d
    pure (.error (.aborted sql f))
  | .ok rows =>
    if commits then do
      let ended ← commit d
      pure (ended.map fun _ => .rows rows)
    else pure (.ok (.rows rows))

/-- Sends one statement in the transaction that is open on a connection, or in a new one. -/
def joinTransaction (d : Driver σ) (c : Connection) (sql params : Value) (commits : Bool) :
    Work σ (Except Fault Yield) := do
  match ← beginTransaction d c sql with
  | .error f => pure (.error f)
  | .ok _ => conclude d c sql params commits

/-- Runs one statement inside of a transaction on a connection that is alive. -/
def transact (d : Driver σ) (c : Connection) (sql params : Value) (commits : Bool) :
    Work σ (Except Fault Yield) := do
  let s ← session
  if s.transactionLost then reportLoss sql else joinTransaction d c sql params commits

/-- Runs one statement inside of a transaction, and may commit it. -/
def runTransaction (d : Driver σ) (sql params : Value) (commits : Bool) :
    Work σ (Except Fault Yield) := do
  match ← liveConnection d .null .null .null with
  | .error f => pure (.error f)
  | .ok c => transact d c sql params commits

end Session

end FluentSql
