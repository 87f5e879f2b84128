import FluentSql.Select.Condition
import FluentSql.Select.Field
import FluentSql.Select.Table

/-!
# SELECT statements

The model of a query, and its text: fields, tables, conditions, order and page, in this order.
-/

namespace FluentSql

/-- A column to sort by, and the direction if it counts as given. -/
structure SortKey where
  table : Value
  column : Value
  direction : Value := .null

/-- The text of a sort key. -/
def SortKey.render (k : SortKey) (d : Dialect) : Except Fault String := do
  let sql ← d.columnName k.table k.column
  if k.direction.truthy then do
    let shown ← k.direction.display
    .ok (sql ++ " " ++ shown)
  else .ok sql

/-- The model of a query. -/
structure Select where
  fields : List Field
  tables : List Table
  /-- What holds the nodes of the conditions. -/
  conditions : Value
  order : List SortKey
  page : Option Int
  limit : Option Int

namespace Select

/-- The number of rows before a page, or none if the pages are not limited. Pages count from one,
and every earlier page is the first. -/
def pageOffset (page limit : Option Int) : Option Int :=
  match page, limit with
  | some p, some l => if l ≤ 0 then none else some (if p ≤ 1 then 0 else (p - 1) * l)
  | _, _ => none

/-- The page clause, with the blank before it. -/
def renderPage (q : Select) (d : Dialect) : Except Fault String :=
  match pageOffset q.page q.limit, q.limit with
  | some offset, some size => (d.limitOf (.int offset) (.int size)).map (" " ++ ·)
  | _, _ => .ok ""

/-- The order clause, with the blank before it. -/
def renderOrder (q : Select) (d : Dialect) : Except Fault String :=
  if q.order.isEmpty then .ok ""
  else do
    let keys ← q.order.mapM fun k => k.render d
    .ok (" ORDER BY " ++ String.intercalate ", " keys)

/-- The fields, in order. -/
def renderFields (s : Scope) : List Field → Rendering (List String)
  | [] => pure []
  | f :: fs => do
    let text ← f.render s
    let texts ← renderFields s fs
    pure (text :: texts)

/-- The tables, in order; only the first of all is not joined. -/
def renderTables (s : Scope) (first : Bool) : List Table → Rendering (List String)
  | [] => pure []
  | t :: ts => do
    let text ← t.render s first
    let texts ← renderTables s false ts
    pure (text :: texts)

/-- The conditions, with the keyword before them. -/
def renderConditions (s : Scope) (conditions : Value) : Rendering String :=
  if !conditions.truthy then pure ""
  else do
    let text ← Condition.renderNodes s conditions
    pure (" WHERE " ++ text)

/-- The text of a query. -/
def render (q : Select) (s : Scope) : Rendering String := do
  let fields ← renderFields s q.fields
  let tables ← renderTables s true q.tables
  let conditions ← renderConditions s q.conditions
  let order ← Fallible.ofExcept (q.renderOrder s.dialect)
  let page ← Fallible.ofExcept (q.renderPage s.dialect)
  pure ("SELECT " ++ String.intercalate ", " fields ++ " FROM " ++ String.intercalate " " tables
    ++ conditions ++ order ++ page)

/-- The compiled query. -/
def compile (q : Select) (s : Scope) : Except Fault Statement :=
  (q.render s).statement

end Select

end FluentSql
