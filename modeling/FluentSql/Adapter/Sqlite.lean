import FluentSql.Client

/-!
# SQLite

Placeholders are native, and transactions are begun and ended by statements. There is no schema to
select and no idle timeout. A row must have as many values as there are columns.
-/

namespace FluentSql.Adapter.Sqlite

variable {σ : Type}

/-- The keywords of a connection: without a file the database is in memory. -/
def keywords (s : Settings) : List (String × Value) :=
  [("database", s.database.orElse (.text ":memory:")), ("timeout", s.connectTimeout),
    ("isolation_level", .null)]

/-- The record of a row, which has to be as wide as there are columns. -/
def rowRecord (columns row : List Value) : Except Fault Value := do
  let record ← Rows.recordOf columns row
  if row.length = columns.length then .ok record
  else .error (.rowWidth (row.length < columns.length))

/-- The records of several rows. -/
def records (columns : List Value) (rows : List (List Value)) : Except Fault (List Value) :=
  rows.mapM (rowRecord columns)

/-- Runs a statement, and always fetches. -/
def query (k : Client σ) (c : Connection) (sql params : Value) : Action σ Rows := do
  let arguments ← Fallible.ofExcept params.itemsIfGiven
  let cursor ← k.execute c sql (some (.list arguments))
  let rows ← k.fetchAll c cursor
  let columns := cursor.columns.getD []
  let rows ← Fallible.ofExcept (records columns rows)
  pure ⟨rows, columns, cursor.rowcount, cursor.lastrowid⟩

/-- Runs a bare statement for its effect. -/
def run (k : Client σ) (c : Connection) (sql : String) : Action σ Unit := do
  let _ ← k.execute c (.text sql) none

/-- The calls that give nothing back. -/
def control (k : Client σ) (c : Connection) : Control → Action σ Unit
  | .ping => do
    run k c "SELECT 1"
    k.request c .closeCursor
  | .selectSchema _ | .setWaitTimeout _ => pure ()
  | .begin => run k c "BEGIN"
  | .commit => run k c "COMMIT"
  | .rollback => run k c "ROLLBACK"
  | .finish | .destroy => k.request c .close

/-- The driver for SQLite over a client. -/
def driver (k : Client σ) : Driver σ where
  connect s := k.connect (keywords s)
  control := control k
  query := query k

end FluentSql.Adapter.Sqlite
