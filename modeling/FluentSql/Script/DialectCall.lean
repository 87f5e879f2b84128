import FluentSql.Clause

/-!
# Calls on dialects

The clauses of a dialect by name, with their arguments in order.
-/

namespace FluentSql.Dialect

/-- A text as the answer of a call. -/
def textOf (r : Except Fault String) : Except Fault Value :=
  r.map .text

/-- Calls a dialect. -/
def call (d : Dialect) (name : String) (args : List Value) : Except Fault Value :=
  match name, args with
  | "quote", [v] => textOf (d.identifier v)
  | "qualified", parts => textOf (d.qualifiedName parts)
  | "column", [table, column] => textOf (d.columnName table column)
  | "alias", [sql, nick] =>
    if !nick.truthy then .ok sql
    else do
      let shown ← sql.display
      textOf (d.underAlias shown nick)
  | "concat", [parts] => textOf (d.concatenation parts)
  | "pattern", [leading, trailing] => .ok (.text (d.pattern leading.truthy trailing.truthy))
  | "limit", [offset, size] => textOf (d.limitOf offset size)
  | "upsert", [columns] => textOf (d.upsertOf columns (.tuple []))
  | "upsert", [columns, target] => textOf (d.upsertOf columns target)
  | _, _ => .error .wrongType

end FluentSql.Dialect
