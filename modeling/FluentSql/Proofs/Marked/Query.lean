import FluentSql.Proofs.Marked.Text
import FluentSql.Store

/-!
# Queries as marked text

The reference for the text of a query: each part of a query as marked text, where a bound value
stands where it belongs. It is a plain function of the query, with no list of values on the side.
A part is refused with the same fault as in `FluentSql.Select`, and in the same order.
-/

namespace FluentSql

open Marked

/-! ### Scopes -/

/-- A dialect, and the marked text of every query that may be embedded. -/
structure MarkedScope where
  dialect : Dialect
  nested : Handle → Except Fault (Marked Value)

namespace MarkedScope

/-- The scope of the statements that are read off. -/
def scope (s : MarkedScope) : Scope :=
  ⟨s.dialect, fun h => (s.nested h).map statement⟩

/-- A column by the names that two values give. -/
def column (s : MarkedScope) (table name : Value) : Except Fault (Marked Value) :=
  (s.dialect.columnName table name).map plain

/-- Marked text under its alias, if one is given. -/
def aliased (s : MarkedScope) (text : Marked Value) : Option String → Marked Value
  | some a => text ++ plain (" AS " ++ s.dialect.quote a)
  | none => text

/-- Marked text under the alias that a value names. -/
def underAlias (s : MarkedScope) (text : Marked Value) (aliasName : Value) :
    Except Fault (Marked Value) :=
  aliasName.name?.map (s.aliased text)

/-- An operand. -/
def operand (s : MarkedScope) : Value → Except Fault (Marked Value)
  | .column table name => s.column table name
  | .query handle _ => (s.nested handle).map fun t => plain "(" ++ t ++ plain ")"
  | v => .ok (bound v)

/-- The concatenation of marked texts. -/
def concat (s : MarkedScope) (parts : List (Marked Value)) : Marked Value :=
  match s.dialect with
  | .ansi | .sqlite => plain "(" ++ (intercalate " || " parts ++ plain ")")
  | .mysql | .postgresql => plain "CONCAT(" ++ (intercalate ", " parts ++ plain ")")

/-- A bound value between the wildcards of a pattern. -/
def pattern (s : MarkedScope) (v : Value) (leading trailing : Bool) : Marked Value :=
  s.concat ((if leading then [plain "'%'"] else []) ++ [bound v]
    ++ (if trailing then [plain "'%'"] else []))

end MarkedScope

/-! ### Fields -/

namespace Field

/-- The source of a function. -/
def markedSource (s : MarkedScope) (name distinct : Value) : Value → Except Fault (Marked Value)
  | .null =>
    if distinct.truthy then do
      let shown ← name.display
      .error (.refused (.distinctNeedsColumn shown))
    else .ok (plain "*")
  | .query handle label => s.operand (.query handle label)
  | .column table c => s.column table c
  | .comparison .. => .error .wrongType
  | _ => .error .missingMember

/-- The second argument of a function, with the comma before it. -/
def markedArgument (s : MarkedScope) : Option Value → Except Fault (Marked Value)
  | none => .ok []
  | some v => do
    let second ← s.operand v
    .ok (plain ", " ++ second)

/-- A reference to a column, and nothing else. -/
def markedColumn (s : MarkedScope) : Value → Except Fault (Marked Value)
  | .column table name => s.column table name
  | .comparison .. => .error .wrongType
  | _ => .error .missingMember

/-- The parts of a concatenation behind the first column. -/
def markedTail (s : MarkedScope) (separator : Value) :
    List Value → Except Fault (List (Marked Value))
  | [] => .ok []
  | c :: rest => do
    let part ← markedColumn s c
    let parts ← markedTail s separator rest
    .ok ((if separator.truthy then [bound separator] else []) ++ part :: parts)

/-- The parts of a concatenation. -/
def markedParts (s : MarkedScope) (separator : Value) :
    List Value → Except Fault (List (Marked Value))
  | [] => .ok []
  | c :: rest => do
    let part ← markedColumn s c
    let parts ← markedTail s separator rest
    .ok (part :: parts)

/-- A field. -/
def marked (s : MarkedScope) : Field → Except Fault (Marked Value)
  | .column table name aliasName => do
    let text ← s.column table name
    s.underAlias text aliasName
  | .wildcard table => s.column table (.text "*")
  | .function name source distinct aliasName argument => do
    let inner ← markedSource s name distinct source
    let second ← markedArgument s argument
    let called ← name.display
    s.underAlias (plain (called ++ "(") ++ (plain (if distinct.truthy then "DISTINCT " else "") ++
      (inner ++ (second ++ plain ")")))) aliasName
  | .concat columns aliasName separator => do
    let items ← columns.items
    let parts ← markedParts s separator items
    s.underAlias (s.concat parts) aliasName
  | .subquery (.query handle label) aliasName => do
    let text ← s.operand (.query handle label)
    s.underAlias text aliasName
  | .subquery _ _ => .error .missingMember

end Field

/-! ### Tables -/

namespace Table

/-- One equality of a join. -/
def markedEquality (t : Table) (s : MarkedScope) (column target : Value) :
    Except Fault (Marked Value) := do
  let left ← s.column t.label column
  match target with
  | .query .. => do
    let shown ← column.display
    .error (.refused (.joinTargetIsQuery shown))
  | target => do
    let right ← s.operand target
    .ok (left ++ (plain " = " ++ right))

/-- The equalities of a join, in order. -/
def markedEqualities (t : Table) (s : MarkedScope) :
    List (Value × Value) → Except Fault (List (Marked Value))
  | [] => .ok []
  | (column, target) :: rest => do
    let equality ← t.markedEquality s column target
    let equalities ← t.markedEqualities s rest
    .ok (equality :: equalities)

/-- The condition of a join, with the blank before it. -/
def markedOn (t : Table) (s : MarkedScope) : Except Fault (Marked Value) :=
  if !t.joins.truthy then .ok []
  else
    match t.joins with
    | .record entries => do
      let equalities ← t.markedEqualities s entries
      .ok (plain " ON (" ++ (intercalate " AND " equalities ++ plain ")"))
    | _ => .error .missingMember

/-- The table as the first one, or with its join. -/
def marked (t : Table) (s : MarkedScope) (first : Bool) : Except Fault (Marked Value) := do
  let sql ← t.reference s.dialect
  if first then .ok (plain sql)
  else do
    let keyword ← t.keyword
    let condition ← t.markedOn s
    .ok (plain (keyword ++ " " ++ sql) ++ condition)

end Table

/-! ### Conditions -/

namespace Condition

/-- Several operands, in order. -/
def markedAll (s : MarkedScope) : List Value → Except Fault (List (Marked Value))
  | [] => .ok []
  | v :: vs => do
    let text ← s.operand v
    let texts ← markedAll s vs
    .ok (text :: texts)

/-- A comparison with a single operand. -/
def markedPlain (s : MarkedScope) (left right operator : Value) : Except Fault (Marked Value) := do
  let l ← s.operand left
  let shown ← operator.display
  let r ← s.operand right
  .ok (l ++ (plain (" " ++ shown ++ " ") ++ r))

/-- A membership test in a collection; a test in an empty one has no left side. -/
def markedMembership (s : MarkedScope) (left right : Value) (keyword : String) (negated : Bool) :
    Except Fault (Marked Value) :=
  match right.members? with
  | none => .error (.refused (.membershipNeedsList keyword right.typeName))
  | some [] => .ok (plain (if negated then "1 = 1" else "1 = 0"))
  | some items => do
    let l ← s.operand left
    let texts ← markedAll s items
    .ok (l ++ (plain (" " ++ keyword ++ " (") ++ (intercalate ", " texts ++ plain ")")))

/-- A range test. -/
def markedRange (s : MarkedScope) (left right : Value) : Except Fault (Marked Value) := do
  let l ← s.operand left
  match right.pair? with
  | none => .error (.refused .rangeNeedsPair)
  | some (low, high) => do
    let lo ← s.operand low
    let hi ← s.operand high
    .ok (l ++ (plain " BETWEEN " ++ (lo ++ (plain " AND " ++ hi))))

/-- A pattern test. -/
def markedPattern (s : MarkedScope) (left right : Value) (keyword : String)
    (leading trailing : Bool) : Except Fault (Marked Value) := do
  let l ← s.operand left
  .ok (l ++ (plain (" " ++ keyword ++ " ") ++ s.pattern right leading trailing))

/-- A comparison. -/
def markedComparison (s : MarkedScope) (left right operator : Value) :
    Except Fault (Marked Value) := do
  let keyword ← operatorName operator
  match OperatorKind.ofName keyword with
  | .nullTest => do
    let l ← s.operand left
    .ok (l ++ plain (" " ++ keyword))
  | .pattern name leading trailing =>
    if right.isQuery then markedPlain s left right operator
    else markedPattern s left right name leading trailing
  | .membership negated =>
    if right.isQuery then markedPlain s left right operator
    else markedMembership s left right keyword negated
  | .range => if right.isQuery then markedPlain s left right operator else markedRange s left right
  | .plain => markedPlain s left right operator

/-- A combinator between blanks, unless nothing stands before it. -/
def markedJoiner (bare : Bool) (combinator : Value) : Except Fault (Marked Value) :=
  if bare then .ok []
  else do
    let shown ← combinator.display
    .ok (plain (" " ++ shown ++ " "))

/-- A condition list. -/
def markedList (s : MarkedScope) (bare : Bool) : List Condition → Except Fault (Marked Value)
  | [] => .ok []
  | .groupStart combinator :: rest => do
    let link ← markedJoiner bare combinator
    let text ← markedList s true rest
    .ok (link ++ (plain "(" ++ text))
  | .groupEnd _ :: rest => do
    let text ← markedList s false rest
    .ok (plain ")" ++ text)
  | .comparison left right operator combinator :: rest => do
    let link ← markedJoiner bare combinator
    let first ← markedComparison s left right operator
    let text ← markedList s false rest
    .ok (link ++ (first ++ text))
  | .unknown v :: _ => do
    let shown ← v.quoted
    .error (.unknownNode shown)

/-- The nodes that a value holds. -/
def markedNodes (s : MarkedScope) (nodes : Value) : Except Fault (Marked Value) := do
  let items ← nodes.items
  markedList s true (items.map ofValue)

end Condition

/-! ### Queries -/

namespace Select

/-- The fields, in order. -/
def markedFields (s : MarkedScope) : List Field → Except Fault (List (Marked Value))
  | [] => .ok []
  | f :: fs => do
    let text ← f.marked s
    let texts ← markedFields s fs
    .ok (text :: texts)

/-- The tables, in order; only the first of all is not joined. -/
def markedTables (s : MarkedScope) (first : Bool) :
    List Table → Except Fault (List (Marked Value))
  | [] => .ok []
  | t :: ts => do
    let text ← t.marked s first
    let texts ← markedTables s false ts
    .ok (text :: texts)

/-- The conditions, with the keyword before them. -/
def markedConditions (s : MarkedScope) (conditions : Value) : Except Fault (Marked Value) :=
  if !conditions.truthy then .ok []
  else do
    let text ← Condition.markedNodes s conditions
    .ok (plain " WHERE " ++ text)

/-- A query. -/
def marked (q : Select) (s : MarkedScope) : Except Fault (Marked Value) := do
  let fields ← markedFields s q.fields
  let tables ← markedTables s true q.tables
  let conditions ← markedConditions s q.conditions
  let order ← q.renderOrder s.dialect
  let page ← q.renderPage s.dialect
  .ok (plain "SELECT " ++ (intercalate ", " fields ++ (plain " FROM " ++
    (intercalate " " tables ++ (conditions ++ plain (order ++ page))))))

end Select

namespace Store

/-- A query of a store with all queries that it embeds, nested at most `depth` deep. -/
def markedWithin (s : Store) (d : Dialect) : Nat → Handle → Except Fault (Marked Value)
  | 0, _ => .error (.display .endless)
  | depth + 1, h => (s.select h).marked ⟨d, s.markedWithin d depth⟩

/-- A query of a store. -/
def marked (s : Store) (h : Handle) (d : Dialect) : Except Fault (Marked Value) :=
  s.markedWithin d s.queries.size h

end Store

end FluentSql
