import FluentSql.Adapter.Arguments
import FluentSql.Clause
import FluentSql.Client
import FluentSql.Value.Number

/-!
# MySQL and MariaDB

Connections commit each statement by themselves outside of transactions. The schema is the
database of the connection, and the server keeps the idle timeout for each session.
-/

namespace FluentSql.Adapter.Mysql

variable {σ : Type}

/-- The keywords of a connection. -/
def keywords (s : Settings) : List (String × Value) :=
  [("host", s.host), ("port", s.port.orElse (.int 3306)), ("user", s.user),
    ("password", s.password), ("database", s.schema.orElse .null),
    ("connect_timeout", s.connectTimeout), ("autocommit", .bool true),
    ("cursorclass", .text "DictCursor")]

/-- Fetches the rows behind a cursor, if there are columns. -/
def fetch (k : Client σ) (c : Connection) (cursor : Cursor) : Action σ Rows :=
  match cursor.columns with
  | none | some [] => pure ⟨[], [], cursor.rowcount, cursor.lastrowid⟩
  | some columns => do
    let rows ← k.fetchAll c cursor
    let rows ← Fallible.ofExcept (rows.mapM (Rows.recordOf columns))
    pure ⟨rows, columns, cursor.rowcount, cursor.lastrowid⟩

/-- Runs a statement, and fetches what it gives. -/
def query (k : Client σ) (c : Connection) (sql params : Value) : Action σ Rows := do
  let sql ← Fallible.ofExcept (formatStatement sql params)
  let arguments ← Fallible.ofExcept (formatArguments params)
  let cursor ← k.execute c sql (some arguments)
  fetch k c cursor

/-- Runs a statement for its effect. -/
def run (k : Client σ) (c : Connection) (sql : String) : Action σ Unit := do
  let _ ← query k c (.text sql) .null

/-- Whether a fault is one of the client's own. -/
def isClientFault : Fault → Bool
  | .raised .mysql _ | .raised .mysqlOperational _ => true
  | _ => false

/-- Closes a connection by force. The client fails to close a socket that is gone, and that does not
matter. -/
def drop (k : Client σ) (c : Connection) : Action σ Unit := fun world =>
  match k.request c .close world with
  | (.error f, world) => if isClientFault f then (.ok (), world) else (.error f, world)
  | closed => closed

/-- The calls that give nothing back. -/
def control (k : Client σ) (c : Connection) : Control → Action σ Unit
  | .ping => run k c "SELECT NOW()"
  | .selectSchema schema => do
    let name ← Fallible.ofExcept (Dialect.mysql.identifier schema)
    run k c ("USE " ++ name)
  | .setWaitTimeout seconds => do
    let n ← Fallible.ofExcept seconds.toInteger
    let digits ← Fallible.ofExcept (integerText n)
    run k c ("SET @@session.wait_timeout = " ++ digits)
  | .begin => k.request c .begin
  | .commit => k.request c .commit
  | .rollback => k.request c .rollback
  | .finish => k.request c .close
  | .destroy => drop k c

/-- The driver for MySQL over a client. -/
def driver (k : Client σ) : Driver σ where
  connect s := k.connect (keywords s)
  control := control k
  query := query k

end FluentSql.Adapter.Mysql
