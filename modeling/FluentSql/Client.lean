import FluentSql.Driver

/-!
# Database clients

The packages that talk to databases, one level below a driver: connections are opened by keywords,
statements leave a cursor, and the rows of a cursor are fetched.
-/

namespace FluentSql

/-- What a statement leaves behind. -/
structure Cursor where
  /-- The names of the columns, or none if the statement gives no rows. -/
  columns : Option (List Value) := none
  rows : List (List Value) := []
  rowcount : Value := .int (-1)
  lastrowid : Value := .null

/-- The requests that give nothing back. -/
inductive Request where
  | begin
  | commit
  | rollback
  | close
  | closeCursor

/-- A database client. A statement is executed with arguments, with null in their place, or bare. -/
structure Client (σ : Type) where
  connect : List (String × Value) → Action σ Connection
  execute : Connection → Value → Option Value → Action σ Cursor
  fetchAll : Connection → Cursor → Action σ (List (List Value))
  request : Connection → Request → Action σ Unit

end FluentSql
