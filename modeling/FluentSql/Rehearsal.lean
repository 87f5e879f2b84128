import FluentSql.Workspace

/-!
# Rehearsals

A world in which no database runs: every call is written down, and answered by the next outcome
that was laid out under its name, or by an empty answer when there is none left. Connections are
numbered in the order in which they are opened.

A rehearsal stands in for a client, and for a driver that a caller brings along.
-/

namespace FluentSql

/-- How a call turns out. -/
inductive Outcome where
  | fault (kind : RaisedKind) (text : String)
  | answer (cursor : Cursor)

/-- A call that was made, with its arguments as they read then. The keywords of a connection are one
record. -/
structure Call where
  name : String
  arguments : List Value

/-- A rehearsal. -/
structure Rehearsal where
  /-- The outcomes that are still laid out, by the name of the call. -/
  outcomes : List (String × List Outcome) := []
  /-- How many connections were opened. -/
  opened : Nat := 0
  calls : List Call := []
  /-- What was told to continuations. -/
  notices : List Notice := []

/-- The name of a call on a connection. -/
def Control.name : Control → String
  | ping => "ping"
  | selectSchema _ => "select_schema"
  | setWaitTimeout _ => "set_wait_timeout"
  | begin => "begin"
  | commit => "commit"
  | rollback => "rollback"
  | finish => "end"
  | destroy => "destroy"

/-- The arguments of a call on a connection. -/
def Control.arguments : Control → List Value
  | selectSchema schema => [schema]
  | setWaitTimeout seconds => [seconds]
  | _ => []

/-- The name of a request. -/
def Request.name : Request → String
  | begin => "begin"
  | commit => "commit"
  | rollback => "rollback"
  | close => "close"
  | closeCursor => "cursor_close"

namespace Rehearsal

/-- Lays out outcomes behind those that are there. -/
def layOut (r : Rehearsal) (name : String) (outcomes : List Outcome) : Rehearsal :=
  { r with outcomes := putEntry name ((r.outcomes.lookup name).getD [] ++ outcomes) r.outcomes }

/-- Makes a call. -/
def call (name : String) (arguments : List Value) : Action Rehearsal Cursor := fun r =>
  let r := { r with calls := r.calls ++ [⟨name, arguments⟩] }
  match r.outcomes.lookup name with
  | none | some [] => (.ok {}, r)
  | some (outcome :: rest) =>
    let r := { r with outcomes := putEntry name rest r.outcomes }
    match outcome with
    | .fault kind text => (.error (.raised kind text), r)
    | .answer cursor => (.ok cursor, r)

/-- A connection as an argument. -/
def connection (c : Connection) : Value :=
  .int c

/-- Opens a connection. One that fails has no number. -/
def connect (keywords : List (String × Value)) : Action Rehearsal Connection := do
  let _ ← call "connect" [.record (keywords.map fun e => (.text e.1, e.2))]
  Fallible.update fun r => { r with opened := r.opened + 1 }
  Fallible.view (·.opened)

/-- A rehearsal as a client. -/
def client : Client Rehearsal where
  connect := connect
  execute c sql arguments := call "execute" ([connection c, sql] ++ arguments.toList)
  fetchAll c cursor := do
    let _ ← call "fetchall" [connection c]
    pure cursor.rows
  request c request := do
    let _ ← call request.name [connection c]

/-- The rows of a cursor. -/
def rowsOf (cursor : Cursor) : Except Fault Rows := do
  let columns := cursor.columns.getD []
  let rows ← cursor.rows.mapM (Rows.recordOf columns)
  .ok ⟨rows, columns, cursor.rowcount, cursor.lastrowid⟩

/-- A rehearsal as a driver. -/
def driver : Driver Rehearsal where
  connect s := connect (Setting.all.map fun f => (f.name, s.get f))
  control c control := do
    let _ ← call control.name (connection c :: control.arguments)
  query c sql params := do
    let cursor ← call "query" [connection c, sql, params]
    Fallible.ofExcept (rowsOf cursor)

/-- Everything that sessions need of a rehearsal. -/
def backend : Backend Rehearsal :=
  ⟨client, driver⟩

/-- A continuation that writes down what it is told, and then may fail. -/
def listener (fault : Option Fault) : Callback Rehearsal := fun notice => do
  Fallible.update fun r => { r with notices := r.notices ++ [notice] }
  match fault with
  | none => pure ()
  | some f => Fallible.fail f

end Rehearsal

end FluentSql
