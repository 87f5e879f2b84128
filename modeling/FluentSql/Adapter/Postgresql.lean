import FluentSql.Adapter.Arguments
import FluentSql.Client
import FluentSql.Value.Number

/-!
# PostgreSQL

The schema is the search path of a connection, and the idle timeout counts milliseconds.
Transactions are begun and ended by statements.
-/

namespace FluentSql.Adapter.Postgresql

variable {σ : Type}

/-- The keywords of a connection, whose timeout is a whole number of seconds. -/
def keywords (s : Settings) : Except Fault (List (String × Value)) := do
  let timeout ← s.connectTimeout.toInteger
  .ok [("host", s.host), ("port", s.port.orElse (.int 5432)), ("user", s.user.orElse .null),
    ("password", s.password.orElse .null), ("dbname", s.database),
    ("connect_timeout", .int timeout), ("autocommit", .bool true)]

/-- Fetches the rows behind a cursor, if the statement gives any. -/
def fetch (k : Client σ) (c : Connection) (cursor : Cursor) : Action σ Rows :=
  match cursor.columns with
  | none => pure ⟨[], [], cursor.rowcount, .null⟩
  | some columns => do
    let rows ← k.fetchAll c cursor
    let rows ← Fallible.ofExcept (rows.mapM (Rows.recordOf columns))
    pure ⟨rows, columns, cursor.rowcount, .null⟩

/-- Runs a statement, and fetches what it gives. -/
def query (k : Client σ) (c : Connection) (sql params : Value) : Action σ Rows := do
  let sql ← Fallible.ofExcept (formatStatement sql params)
  let arguments ← Fallible.ofExcept (formatArguments params)
  let cursor ← k.execute c sql (some arguments)
  fetch k c cursor

/-- Runs a bare statement for its effect. -/
def run (k : Client σ) (c : Connection) (sql : String) : Action σ Unit := do
  let _ ← k.execute c (.text sql) none

/-- The identifier that the client makes of a name, which has to be text. -/
def identifierOf : Value → Except Fault String
  | .text name => .ok (Dialect.postgresql.quote name)
  | v => do
    let shown ← v.quoted
    .error (.noIdentifier shown)

/-- The calls that give nothing back. -/
def control (k : Client σ) (c : Connection) : Control → Action σ Unit
  | .ping => run k c "SELECT NOW()"
  | .selectSchema schema => do
    let name ← Fallible.ofExcept (identifierOf schema)
    run k c ("SET search_path TO " ++ name)
  | .setWaitTimeout seconds => do
    let n ← Fallible.ofExcept seconds.toInteger
    let digits ← Fallible.ofExcept (integerText (n * 1000))
    run k c ("SET idle_session_timeout = " ++ digits)
  | .begin => run k c "BEGIN"
  | .commit => run k c "COMMIT"
  | .rollback => run k c "ROLLBACK"
  | .finish | .destroy => k.request c .close

/-- The driver for PostgreSQL over a client. -/
def driver (k : Client σ) : Driver σ where
  connect s := do
    let pairs ← Fallible.ofExcept (keywords s)
    k.connect pairs
  control := control k
  query := query k

end FluentSql.Adapter.Postgresql
