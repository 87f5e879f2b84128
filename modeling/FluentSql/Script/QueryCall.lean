import FluentSql.Script.Arguments
import FluentSql.Script.Reply
import FluentSql.Workspace

/-!
# Calls on query builders

The operations of a query builder by name. Those that shape it answer its description.
-/

namespace FluentSql.QueryCall

variable {σ : Type}

/-- Builds, and answers the description of a query builder. -/
def shape (h : Handle) (b : Building Unit) : Task σ Reply := do
  Task.build b
  let s ← Task.store
  let text ← Fallible.ofExcept (s.describeQuery h)
  pure (.value (.text text))

/-- Shapes a query builder without a look at the store. -/
def edit (h : Handle) (f : QueryBuilder → Except Fault QueryBuilder) : Task σ Reply :=
  shape h (Building.editQuery h f)

/-- Compiles a query, and answers by its statement. -/
def compiled (h : Handle) (dialect : Value) (reply : Statement → Reply) : Task σ Reply := do
  let s ← Task.store
  let statement ← Fallible.ofExcept (s.compileIn h dialect)
  pure (reply statement)

/-- An optional number as a value. -/
def numberOf (n : Option Int) : Value :=
  n.elim .null .int

/-- The kind of a field. -/
def fieldName : Field → String
  | .column .. => "ColumnField"
  | .wildcard .. => "WildcardField"
  | .function .. => "FunctionField"
  | .concat .. => "ConcatField"
  | .subquery .. => "SubQueryField"

/-- The name of a table's kind of join. -/
def joinName (t : Table) : Value :=
  match t.join with
  | .join j => .text j.name
  | _ => .null

/-- A node of a condition list by its kind, operator and combinator. -/
def nodeParts : Value → Except Fault Value
  | .comparison left right operator combinator =>
    .ok (.list [.text (Value.comparison left right operator combinator).typeName, operator,
      combinator])
  | .groupStart combinator => .ok (.list [.text "GroupStart", .null, combinator])
  | .groupEnd combinator => .ok (.list [.text "GroupEnd", .null, combinator])
  | _ => .error .missingMember

/-- The state of a query builder. -/
def state (s : Store) (h : Handle) : Except Fault Reply := do
  let q := s.query h
  let nodes ← (s.settle (s.conditions h)).items
  let conditions ← nodes.mapM nodeParts
  let items : List (String × Value) :=
    [("page", numberOf q.page), ("limit", numberOf q.limit), ("offset", numberOf q.offset),
      ("dialect", .text (s.queryDialect h).name),
      ("tables", .list (q.tables.map fun t => (t.map s.settle).label)),
      ("joins", .list (q.tables.map joinName)),
      ("fields", .list (q.fields.map fun f => .text (fieldName f))),
      ("conditions", .list conditions),
      ("order_by", .list (q.order.map fun k => .list [k.table, k.column, k.direction]))]
  .ok (.parts (items.map (fun e => (e.1, Yield.item e.2))
    ++ [("records", q.records.elim (.item .null) .rows)]))

/-- The rows of the last run, narrowed. -/
def results (h : Handle) (index column : Value) : Task σ Reply := do
  let s ← Task.store
  match (s.query h).records with
  | none => pure (.value .null)
  | some r => do
    let found ← Fallible.ofExcept (r.recall (s.settle index) (s.settle column))
    pure (.yield found)

/-- Arguments of a comparison with an operator of its own. -/
def comparison : Signature :=
  ⟨["table", "column", "value"], ["combo"]⟩

/-- Arguments of a test without a right side. -/
def nullTest : Signature :=
  ⟨["table", "column"], ["combo"]⟩

/-- Arguments of a test of membership. -/
def membership : Signature :=
  ⟨["table", "column", "values"], ["combo"]⟩

/-- The signature of a call, and the call with its arguments. -/
def ofName? (b : Backend σ) (h : Handle) (a : Arguments) (callback : Option (Callback σ))
    (name : String) : Option (Signature × Task σ Reply) :=
  let table := a.get "table"
  let column := a.get "column"
  let nick := a.get "alias"
  let item := a.get "value"
  let values := a.get "values"
  let combo := a.getOr "combo" (.text "AND")
  let compared (f : Handle → Value → Value → Value → Value → Building Unit) :=
    some (comparison, shape h (f h table column item combo))
  match name with
  | "add_table" =>
    some (⟨["schema", "table"], ["alias", "joins", "join"]⟩,
      shape h (Building.addTable h (a.get "schema") table nick (a.get "joins") (a.get "join")))
  | "join_to" => some (⟨["table", "column"], []⟩, pure (.value (.column table column)))
  | "add_field" =>
    some (⟨["table", "column"], ["alias"]⟩,
      shape h (Building.addField h (.column table column nick)))
  | "add_all_field" => some (⟨["table"], []⟩, shape h (Building.addField h (.wildcard table)))
  | "add_concat_field" =>
    some (⟨["fields"], ["alias", "separator"]⟩,
      shape h (Building.addConcat h (a.get "fields") nick (a.get "separator")))
  | "count" =>
    some (⟨[], ["table", "column", "alias", "distinct"]⟩,
      shape h (Building.count h table column nick (a.get "distinct")))
  | "add_function" =>
    some (⟨["func", "table"], ["column", "alias", "distinct", "argument"]⟩,
      shape h (Building.addFunction h (a.get "func") table column nick (a.get "distinct")
        (a.get? "argument")))
  | "add_date_format" =>
    some (⟨["table", "column", "fmt"], ["alias"]⟩,
      shape h (Building.addDateFormat h table column (a.get "fmt") nick))
  | "add_sub_query" =>
    some (⟨["query"], ["alias"]⟩, shape h (Building.addField h (.subquery (a.get "query") nick)))
  | "add_order_by" =>
    some (⟨["table", "column"], ["direction"]⟩,
      shape h (Building.addOrder h table column (a.get "direction")))
  | "set_page" => some (⟨["page"], []⟩, edit h (·.setPage (a.get "page")))
  | "set_limit" => some (⟨["limit"], []⟩, edit h (·.setLimit (a.get "limit")))
  | "set_paging" =>
    some (⟨["page", "limit"], []⟩, shape h (Building.setPaging h (a.get "page") (a.get "limit")))
  | "add_param" =>
    some (⟨["table", "column", "value"], ["operator", "combo"]⟩,
      shape h (Building.compare h table column item (a.get "operator") combo))
  | "not_equal" => compared Building.notEqual
  | "like" => compared Building.like
  | "not_like" => compared Building.notLike
  | "like_prefix" => compared Building.likeStart
  | "like_suffix" => compared Building.likeEnd
  | "greater_equal" => compared Building.greaterEqual
  | "less_equal" => compared Building.lessEqual
  | "greater_than" => compared Building.greaterThan
  | "less_than" => compared Building.lessThan
  | "is_null" => some (nullTest, shape h (Building.isNull h table column combo))
  | "is_not_null" => some (nullTest, shape h (Building.isNotNull h table column combo))
  | "is_in" => some (membership, shape h (Building.isIn h table column values combo))
  | "not_in" => some (membership, shape h (Building.notIn h table column values combo))
  | "between" =>
    some (⟨["table", "column", "low", "high"], ["combo"]⟩,
      shape h (Building.between h table column (a.get "low") (a.get "high") combo))
  | "start_group" => some (⟨[], ["combo"]⟩, shape h (Building.openGroup h combo))
  | "end_group" => some (⟨[], ["combo"]⟩, shape h (Building.closeGroup h combo))
  | "set_params" =>
    some (⟨["conditions"], []⟩, shape h (Building.setConditions h (a.get "conditions")))
  | "copy_params" | "copy_conditions" =>
    some (⟨["target"], []⟩, shape h (Building.copyConditions h (a.get "target")))
  | "offset" =>
    some (⟨[], []⟩, do
      let s ← Task.store
      pure (.value (numberOf (s.query h).offset)))
  | "compile" => some (⟨[], ["dialect"]⟩, compiled h (a.get "dialect") .statement)
  | "get_query" => some (⟨[], []⟩, compiled h .null fun s => .value (.text s.sql))
  | "get_values" => some (⟨[], []⟩, compiled h .null fun s => .value (.list s.params))
  | "execute" =>
    some (⟨[], []⟩, Reply.outcome <$> Task.executeQuery (Adapter.driver · b) h callback)
  | "get_results" => some (⟨[], ["index", "column"]⟩, results h (a.get "index") column)
  | "state" =>
    some (⟨[], []⟩, do
      let s ← Task.store
      Fallible.ofExcept (state s h))
  | _ => none

end FluentSql.QueryCall
