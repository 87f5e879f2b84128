import FluentSql.Rows
import FluentSql.Select
import FluentSql.Value.Number

/-!
# Query builders

A query builder collects the parts of a SELECT. The parts are kept as the callers gave them, and
are read when the query is compiled.

The conditions of a builder are usually kept apart, in a list that it may share with other builders;
the nodes of that list are made here.
-/

namespace FluentSql

/-- A query builder. -/
structure QueryBuilder where
  /-- The session that it works through; null for none. -/
  session : Value := .null
  /-- The dialect that was asked for, whatever that of the session is. -/
  dialect : Option Dialect := none
  fields : List Field := []
  tables : List Table := []
  /-- What holds the nodes of the conditions. -/
  conditions : Value := .list []
  order : List SortKey := []
  page : Option Int := none
  limit : Option Int := none
  /-- The rows of the last run that succeeded. -/
  records : Option Rows := none

namespace QueryBuilder

/-! ### Tables and fields -/

/-- Adds a table; the first is the source of the query. -/
def addTable (q : QueryBuilder) (t : Table) : QueryBuilder :=
  { q with tables := q.tables ++ [t] }

/-- Adds a field. -/
def addField (q : QueryBuilder) (f : Field) : QueryBuilder :=
  { q with fields := q.fields ++ [f] }

/-- The column that a pair of table and column names. -/
def columnOfPair : Value → Except Fault Value
  | .column table column => .ok (.column table column)
  | pair => do
    let table ← pair.item (.int 0)
    let column ← pair.item (.int 1)
    .ok (.column table column)

/-- Selects the concatenation of columns, each a reference or a pair. -/
def addConcat (q : QueryBuilder) (columns aliasName separator : Value) :
    Except Fault QueryBuilder := do
  let items ← columns.items
  let references ← items.mapM columnOfPair
  .ok (q.addField (.concat (.tuple references) aliasName separator))

/-! ### Order and pages -/

/-- A direction in upper case, if one is given. -/
def directionOf (direction : Value) : Except Fault Value :=
  if !direction.truthy then .ok .null
  else
    match direction with
    | .text s => .ok (.text (Text.upper s))
    | .bytes bs => .ok (.bytes (bs.map Text.upperByte))
    | _ => .error .missingMember

/-- Sorts by a column, after the columns that came before. -/
def addOrder (q : QueryBuilder) (table column direction : Value) : Except Fault QueryBuilder := do
  let direction ← directionOf direction
  .ok { q with order := q.order ++ [⟨table, column, direction⟩] }

/-- A number of a page; null is none. -/
def pageNumber (v : Value) : Except Fault (Option Int) :=
  if v.isNull then .ok none else v.toInteger.map some

/-- Sets the page. -/
def setPage (q : QueryBuilder) (page : Value) : Except Fault QueryBuilder := do
  let page ← pageNumber page
  .ok { q with page }

/-- Sets the size of a page. -/
def setLimit (q : QueryBuilder) (limit : Value) : Except Fault QueryBuilder := do
  let limit ← pageNumber limit
  .ok { q with limit }

/-- The number of rows before the page. -/
def offset (q : QueryBuilder) : Option Int :=
  Select.pageOffset q.page q.limit

end QueryBuilder

/-! ### Nodes of condition lists -/

namespace Condition

/-- The left side of a comparison: a query, or else a column. -/
def leftSide (table column : Value) : Value :=
  if table.isQuery then table else .column table column

/-- The right side of a membership test: a query, or the items of a collection. -/
def membershipSide (values : Value) : Except Fault Value :=
  if values.isQuery then .ok values else values.items.map .list

end Condition

end FluentSql
