import FluentSql.Fallible
import FluentSql.Rows
import FluentSql.Settings

/-!
# Drivers

What a session asks of a database: connections, control over them, and statements. A driver acts
on a world `σ` of its own, of which nothing is assumed. Every call may fail, and still leaves the
world in some state.
-/

namespace FluentSql

/-- A connection, by its number. -/
abbrev Connection := Nat

/-- An action on the world of a driver. -/
abbrev Action (σ : Type) := Fallible σ

/-- The calls on a connection that give nothing back. -/
inductive Control where
  /-- A cheap round trip, which fails if the connection is dead. -/
  | ping
  /-- Makes a schema the one of all unqualified names. -/
  | selectSchema (schema : Value)
  /-- Sets the seconds that the server keeps the connection while it is idle. -/
  | setWaitTimeout (seconds : Value)
  | begin
  | commit
  | rollback
  /-- Closes the connection in good order. -/
  | finish
  /-- Drops the connection without waiting for the server. -/
  | destroy
deriving Inhabited

/-- The calls that a session makes. -/
structure Driver (σ : Type) where
  connect : Settings → Action σ Connection
  control : Connection → Control → Action σ Unit
  /-- Runs a statement with parameters. Callers may pass any value for a statement. -/
  query : Connection → Value → Value → Action σ Rows

end FluentSql
