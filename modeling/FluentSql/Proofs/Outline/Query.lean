import FluentSql.Proofs.Marked.Query

/-!
# Outlines of queries

The outline of a query is its text before a dialect writes it. Identifiers are names that are still
to be quoted, and what every dialect writes in its own way, the frame of a concatenation and the
page clause, is one glyph. A query has the same outline in every dialect, and is refused with the
same fault in all of them: no definition here but `Outline.write` knows a dialect.

Outlines are marked text. Their glyphs hold bound values too, each in its place.
-/

namespace FluentSql

open Marked

/-- What a dialect still has to write. -/
inductive Token where
  /-- A bound value. -/
  | value (v : Value)
  /-- An identifier. -/
  | name (s : String)
  /-- What stands before the parts of a concatenation. -/
  | opening
  /-- What stands between two parts of a concatenation. -/
  | gap
  /-- A page clause: the rows before the page, and those on it. -/
  | page (offset size : String)

/-- Text that a dialect still has to write. -/
abbrev Outline := Marked Token

/-- A token in a dialect. -/
def Token.write (d : Dialect) : Token → Marked Value
  | value v => bound v
  | name s => plain (d.quote s)
  | opening =>
    match d with
    | .ansi | .sqlite => plain "("
    | .mysql | .postgresql => plain "CONCAT("
  | gap =>
    match d with
    | .ansi | .sqlite => plain " || "
    | .mysql | .postgresql => plain ", "
  | page offset size => plain (d.limit offset size)

namespace Outline

/-- A glyph in a dialect. -/
def writeGlyph (d : Dialect) : Glyph Token → Marked Value
  | .letter c => [.letter c]
  | .marker a => a.write d

/-- The marked text of an outline in a dialect. -/
def write (d : Dialect) (o : Outline) : Marked Value :=
  o.flatMap (writeGlyph d)

@[simp]
theorem write_nil (d : Dialect) : write d [] = [] :=
  rfl

@[simp]
theorem write_append (d : Dialect) (o p : Outline) : write d (o ++ p) = write d o ++ write d p :=
  List.flatMap_append

@[simp]
theorem write_plain (d : Dialect) (s : String) : write d (plain s) = plain s := by
  rw [write, plain, plain, List.flatMap_map]
  exact List.map_eq_flatMap.symm

@[simp]
theorem write_bound (d : Dialect) (a : Token) : write d (bound a) = a.write d :=
  List.append_nil _

/-- Every part is written by itself, and so is what stands between the parts. -/
theorem write_separated (d : Dialect) (separator : Outline) (parts : List Outline) :
    write d (List.intercalate separator parts) =
      List.intercalate (write d separator) (parts.map (write d)) := by
  induction parts with
  | nil => rfl
  | cons o rest ih =>
    cases rest with
    | nil => simp [List.intercalate]
    | cons p rest => simpa [List.intercalate] using ih

@[simp]
theorem write_intercalate (d : Dialect) (separator : String) (parts : List Outline) :
    write d (intercalate separator parts) = intercalate separator (parts.map (write d)) := by
  rw [intercalate, write_separated, write_plain, intercalate]

/-! ### Names and operands -/

/-- The names that are given, joined by dots. -/
def dotted (names : List (Option String)) : Outline :=
  intercalate "." (names.filterMap fun name => name.map fun s => bound (.name s))

/-- A column of a table. The column `*` is every column, and no name. -/
def columnOf (table name : Option String) : Outline :=
  if name = some "*" then
    match table with
    | some t => bound (.name t) ++ plain ".*"
    | none => plain "*"
  else dotted [table, name]

/-- An outline under its alias, if one is given. -/
def aliased (o : Outline) : Option String → Outline
  | some a => o ++ (plain " AS " ++ bound (.name a))
  | none => o

/-- A column by the names that two values give. -/
def column (table name : Value) : Except Fault Outline := do
  let t ← table.name?
  let c ← name.name?
  .ok (columnOf t c)

/-- An outline under the alias that a value names. -/
def underAlias (o : Outline) (aliasName : Value) : Except Fault Outline :=
  aliasName.name?.map (aliased o)

/-- An operand, given the outlines of the queries that may be embedded. -/
def operand (nested : Handle → Except Fault Outline) : Value → Except Fault Outline
  | .column table name => column table name
  | .query handle _ => (nested handle).map fun o => plain "(" ++ (o ++ plain ")")
  | v => .ok (bound (.value v))

/-- The concatenation of outlines. -/
def concat (parts : List Outline) : Outline :=
  bound .opening ++ (List.intercalate (bound .gap) parts ++ plain ")")

/-- A bound value between the wildcards of a pattern. -/
def pattern (v : Value) (leading trailing : Bool) : Outline :=
  concat ((if leading then [plain "'%'"] else []) ++ [bound (.value v)]
    ++ (if trailing then [plain "'%'"] else []))

end Outline

open Outline

/-! ### Fields -/

namespace Field

variable (nested : Handle → Except Fault Outline)

/-- The source of a function. -/
def outlinedSource (name distinct : Value) : Value → Except Fault Outline
  | .null =>
    if distinct.truthy then do
      let shown ← name.display
      .error (.refused (.distinctNeedsColumn shown))
    else .ok (plain "*")
  | .query handle label => operand nested (.query handle label)
  | .column table c => Outline.column table c
  | .comparison .. => .error .wrongType
  | _ => .error .missingMember

/-- The second argument of a function, with the comma before it. -/
def outlinedArgument : Option Value → Except Fault Outline
  | none => .ok []
  | some v => do
    let second ← operand nested v
    .ok (plain ", " ++ second)

/-- A reference to a column, and nothing else. -/
def outlinedColumn : Value → Except Fault Outline
  | .column table name => Outline.column table name
  | .comparison .. => .error .wrongType
  | _ => .error .missingMember

/-- The parts of a concatenation behind the first column. -/
def outlinedTail (separator : Value) : List Value → Except Fault (List Outline)
  | [] => .ok []
  | c :: rest => do
    let part ← outlinedColumn c
    let parts ← outlinedTail separator rest
    .ok ((if separator.truthy then [bound (.value separator)] else []) ++ part :: parts)

/-- The parts of a concatenation. -/
def outlinedParts (separator : Value) : List Value → Except Fault (List Outline)
  | [] => .ok []
  | c :: rest => do
    let part ← outlinedColumn c
    let parts ← outlinedTail separator rest
    .ok (part :: parts)

/-- A field. -/
def outlined : Field → Except Fault Outline
  | .column table name aliasName => do
    let o ← Outline.column table name
    underAlias o aliasName
  | .wildcard table => Outline.column table (.text "*")
  | .function name source distinct aliasName argument => do
    let inner ← outlinedSource nested name distinct source
    let second ← outlinedArgument nested argument
    let called ← name.display
    underAlias (plain (called ++ "(") ++ (plain (if distinct.truthy then "DISTINCT " else "") ++
      (inner ++ (second ++ plain ")")))) aliasName
  | .concat columns aliasName separator => do
    let items ← columns.items
    let parts ← outlinedParts separator items
    underAlias (Outline.concat parts) aliasName
  | .subquery (.query handle label) aliasName => do
    let o ← operand nested (.query handle label)
    underAlias o aliasName
  | .subquery _ _ => .error .missingMember

end Field

/-! ### Tables -/

namespace Table

/-- The table under its alias. -/
def outlinedReference (t : Table) : Except Fault Outline := do
  let names ← [t.schema, t.table].mapM Value.name?
  underAlias (dotted names) t.aliasName

/-- One equality of a join. -/
def outlinedEquality (t : Table) (nested : Handle → Except Fault Outline)
    (column target : Value) : Except Fault Outline := do
  let left ← Outline.column t.label column
  match target with
  | .query .. => do
    let shown ← column.display
    .error (.refused (.joinTargetIsQuery shown))
  | target => do
    let right ← operand nested target
    .ok (left ++ (plain " = " ++ right))

/-- The equalities of a join, in order. -/
def outlinedEqualities (t : Table) (nested : Handle → Except Fault Outline) :
    List (Value × Value) → Except Fault (List Outline)
  | [] => .ok []
  | (column, target) :: rest => do
    let equality ← t.outlinedEquality nested column target
    let equalities ← t.outlinedEqualities nested rest
    .ok (equality :: equalities)

/-- The condition of a join, with the blank before it. -/
def outlinedOn (t : Table) (nested : Handle → Except Fault Outline) : Except Fault Outline :=
  if !t.joins.truthy then .ok []
  else
    match t.joins with
    | .record entries => do
      let equalities ← t.outlinedEqualities nested entries
      .ok (plain " ON (" ++ (intercalate " AND " equalities ++ plain ")"))
    | _ => .error .missingMember

/-- The table as the first one, or with its join. -/
def outlined (t : Table) (nested : Handle → Except Fault Outline) (first : Bool) :
    Except Fault Outline := do
  let o ← t.outlinedReference
  if first then .ok o
  else do
    let keyword ← t.keyword
    let condition ← t.outlinedOn nested
    .ok (plain (keyword ++ " ") ++ (o ++ condition))

end Table

/-! ### Conditions -/

namespace Condition

variable (nested : Handle → Except Fault Outline)

/-- Several operands, in order. -/
def outlinedAll : List Value → Except Fault (List Outline)
  | [] => .ok []
  | v :: vs => do
    let o ← operand nested v
    let rest ← outlinedAll vs
    .ok (o :: rest)

/-- A comparison with a single operand. -/
def outlinedPlain (left right operator : Value) : Except Fault Outline := do
  let l ← operand nested left
  let shown ← operator.display
  let r ← operand nested right
  .ok (l ++ (plain (" " ++ shown ++ " ") ++ r))

/-- A membership test in a collection; a test in an empty one has no left side. -/
def outlinedMembership (left right : Value) (keyword : String) (negated : Bool) :
    Except Fault Outline :=
  match right.members? with
  | none => .error (.refused (.membershipNeedsList keyword right.typeName))
  | some [] => .ok (plain (if negated then "1 = 1" else "1 = 0"))
  | some items => do
    let l ← operand nested left
    let texts ← outlinedAll nested items
    .ok (l ++ (plain (" " ++ keyword ++ " (") ++ (intercalate ", " texts ++ plain ")")))

/-- A range test. -/
def outlinedRange (left right : Value) : Except Fault Outline := do
  let l ← operand nested left
  match right.pair? with
  | none => .error (.refused .rangeNeedsPair)
  | some (low, high) => do
    let lo ← operand nested low
    let hi ← operand nested high
    .ok (l ++ (plain " BETWEEN " ++ (lo ++ (plain " AND " ++ hi))))

/-- A pattern test. -/
def outlinedPattern (left right : Value) (keyword : String) (leading trailing : Bool) :
    Except Fault Outline := do
  let l ← operand nested left
  .ok (l ++ (plain (" " ++ keyword ++ " ") ++ Outline.pattern right leading trailing))

/-- A comparison. -/
def outlinedComparison (left right operator : Value) : Except Fault Outline := do
  let keyword ← operatorName operator
  match OperatorKind.ofName keyword with
  | .nullTest => do
    let l ← operand nested left
    .ok (l ++ plain (" " ++ keyword))
  | .pattern name leading trailing =>
    if right.isQuery then outlinedPlain nested left right operator
    else outlinedPattern nested left right name leading trailing
  | .membership negated =>
    if right.isQuery then outlinedPlain nested left right operator
    else outlinedMembership nested left right keyword negated
  | .range =>
    if right.isQuery then outlinedPlain nested left right operator
    else outlinedRange nested left right
  | .plain => outlinedPlain nested left right operator

/-- A combinator between blanks, unless nothing stands before it. -/
def outlinedJoiner (bare : Bool) (combinator : Value) : Except Fault Outline :=
  if bare then .ok []
  else do
    let shown ← combinator.display
    .ok (plain (" " ++ shown ++ " "))

/-- A condition list. -/
def outlinedList (bare : Bool) : List Condition → Except Fault Outline
  | [] => .ok []
  | .groupStart combinator :: rest => do
    let link ← outlinedJoiner bare combinator
    let o ← outlinedList true rest
    .ok (link ++ (plain "(" ++ o))
  | .groupEnd _ :: rest => do
    let o ← outlinedList false rest
    .ok (plain ")" ++ o)
  | .comparison left right operator combinator :: rest => do
    let link ← outlinedJoiner bare combinator
    let first ← outlinedComparison nested left right operator
    let o ← outlinedList false rest
    .ok (link ++ (first ++ o))
  | .unknown v :: _ => do
    let shown ← v.quoted
    .error (.unknownNode shown)

/-- The nodes that a value holds. -/
def outlinedNodes (nodes : Value) : Except Fault Outline := do
  let items ← nodes.items
  outlinedList nested true (items.map ofValue)

end Condition

/-! ### Queries -/

/-- A sort key. -/
def SortKey.outlined (k : SortKey) : Except Fault Outline := do
  let o ← Outline.column k.table k.column
  if k.direction.truthy then do
    let shown ← k.direction.display
    .ok (o ++ plain (" " ++ shown))
  else .ok o

namespace Select

variable (nested : Handle → Except Fault Outline)

/-- The page clause, with the blank before it. -/
def outlinedPage (q : Select) : Except Fault Outline :=
  match pageOffset q.page q.limit, q.limit with
  | some offset, some size => do
    let o ← (Value.int offset).display
    let n ← (Value.int size).display
    .ok (plain " " ++ bound (.page o n))
  | _, _ => .ok []

/-- The order clause, with the blank before it. -/
def outlinedOrder (q : Select) : Except Fault Outline :=
  if q.order.isEmpty then .ok []
  else do
    let keys ← q.order.mapM SortKey.outlined
    .ok (plain " ORDER BY " ++ intercalate ", " keys)

/-- The fields, in order. -/
def outlinedFields : List Field → Except Fault (List Outline)
  | [] => .ok []
  | f :: fs => do
    let o ← f.outlined nested
    let rest ← outlinedFields fs
    .ok (o :: rest)

/-- The tables, in order; only the first of all is not joined. -/
def outlinedTables (first : Bool) : List Table → Except Fault (List Outline)
  | [] => .ok []
  | t :: ts => do
    let o ← t.outlined nested first
    let rest ← outlinedTables false ts
    .ok (o :: rest)

/-- The conditions, with the keyword before them. -/
def outlinedConditions (conditions : Value) : Except Fault Outline :=
  if !conditions.truthy then .ok []
  else do
    let o ← Condition.outlinedNodes nested conditions
    .ok (plain " WHERE " ++ o)

/-- A query. -/
def outlined (q : Select) : Except Fault Outline := do
  let fields ← outlinedFields nested q.fields
  let tables ← outlinedTables nested true q.tables
  let conditions ← outlinedConditions nested q.conditions
  let order ← q.outlinedOrder
  let page ← q.outlinedPage
  .ok (plain "SELECT " ++ (intercalate ", " fields ++ (plain " FROM " ++
    (intercalate " " tables ++ (conditions ++ (order ++ page))))))

end Select

namespace Store

/-- A query of a store with all queries that it embeds, nested at most `depth` deep. -/
def outlinedWithin (s : Store) : Nat → Handle → Except Fault Outline
  | 0, _ => .error (.display .endless)
  | depth + 1, h => (s.select h).outlined (s.outlinedWithin depth)

/-- A query of a store. -/
def outlined (s : Store) (h : Handle) : Except Fault Outline :=
  s.outlinedWithin s.queries.size h

end Store

end FluentSql
