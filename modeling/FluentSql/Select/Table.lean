import FluentSql.Statement
import FluentSql.Text.Blank

/-!
# The tables of a query

The first table of a query is its source; every later one is joined, on the equality of its own
columns with columns of other tables or with bound values.
-/

namespace FluentSql

/-- The kind of join that a value asks for: null is an inner join, and any other value is read by
its display, in any case and with low lines for spaces. -/
def Join.ofValue : Value → Except Fault Join
  | .null => .ok .inner
  | .join j => .ok j
  | v => do
    let shown ← v.display
    let key := (Text.upper (Text.strip shown)).toList.map fun c => if c = ' ' then '_' else c
    match Join.ofName? (String.ofList key) with
    | some j => .ok j
    | none => .error (.unknownJoin shown)

/-- A table of a query. -/
structure Table where
  schema : Value
  table : Value
  aliasName : Value := .null
  /-- A record of the table's own columns, and what each is set equal to. -/
  joins : Value := .record []
  /-- The kind of join. -/
  join : Value := .join .inner

namespace Table

/-- The name under which the rest of the query knows the table. -/
def label (t : Table) : Value :=
  t.aliasName.orElse t.table

/-- The table under its alias. -/
def reference (t : Table) (d : Dialect) : Except Fault String := do
  let sql ← d.qualifiedName [t.schema, t.table]
  d.underAlias sql t.aliasName

/-- One equality of a join. -/
def renderEquality (t : Table) (s : Scope) (column target : Value) : Rendering String := do
  let left ← s.column t.label column
  match target with
  | .query .. => do
    let shown ← Fallible.ofExcept column.display
    Fallible.fail (.refused (.joinTargetIsQuery shown))
  | target => do
    let right ← s.operand target
    pure (left ++ " = " ++ right)

/-- The equalities of a join, in order. -/
def renderEqualities (t : Table) (s : Scope) : List (Value × Value) → Rendering (List String)
  | [] => pure []
  | (column, target) :: rest => do
    let equality ← t.renderEquality s column target
    let equalities ← t.renderEqualities s rest
    pure (equality :: equalities)

/-- The condition of a join, with the blank before it. -/
def renderOn (t : Table) (s : Scope) : Rendering String :=
  if !t.joins.truthy then pure ""
  else
    match t.joins with
    | .record entries => do
      let equalities ← t.renderEqualities s entries
      pure (" ON (" ++ String.intercalate " AND " equalities ++ ")")
    | _ => Fallible.fail .missingMember

/-- The keywords of the join. A comparison in its place gives its right side for them. -/
def keyword (t : Table) : Except Fault String :=
  match t.join with
  | .join j => .ok j.keyword
  | .comparison _ right _ _ => right.display
  | _ => .error .missingMember

/-- The table as the first one, or with its join. -/
def render (t : Table) (s : Scope) (first : Bool) : Rendering String := do
  let sql ← Fallible.ofExcept (t.reference s.dialect)
  if first then pure sql
  else do
    let keyword ← Fallible.ofExcept t.keyword
    let condition ← t.renderOn s
    pure (keyword ++ " " ++ sql ++ condition)

end Table

end FluentSql
