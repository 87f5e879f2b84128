import Mathlib.Algebra.Group.Nat.Defs
import FluentSql.Proofs.Placeholder.Verbatim

/-!
# Malformed queries

A query is malformed if one of its own parts is: a function of distinct rows without a column, a
query as the target of a join, a membership test in something that is no collection, or a range that
is no pair. `Select.IsMalformed` lists these, and `Select.Renders` the queries whose text becomes
part of a query: not every query among its values is written.

The parts are typed as builders make them: names have a display, sources of functions are columns or
queries, operators are text. An integer in a page clause may still be too long to be written.
-/

namespace FluentSql

/-! ### Types of parts -/

/-- A value that can be displayed. Text can, and so can null. -/
def Value.Displays (v : Value) : Prop :=
  ∃ text, v.display = .ok text

/-- A reference to a column by names. -/
def Value.IsColumn (v : Value) : Prop :=
  ∃ table name, v = .column table name ∧ table.Displays ∧ name.Displays

/-- A value that may be compared: any, but a reference to a column is one by names. -/
def Value.IsOperand : Value → Prop
  | .column table name => table.Displays ∧ name.Displays
  | _ => True

/-- A field as a builder makes it. -/
def Field.IsTyped : Field → Prop
  | .column table name aliasName => table.Displays ∧ name.Displays ∧ aliasName.Displays
  | .wildcard table => table.Displays
  | .function name source _ aliasName argument =>
    name.Displays ∧ (source = .null ∨ source.isQuery = true ∨ source.IsColumn) ∧
      aliasName.Displays ∧ ∀ v ∈ argument, v.IsOperand
  | .concat columns aliasName _ =>
    (∃ items, columns.items = .ok items ∧ ∀ v ∈ items, v.IsColumn) ∧ aliasName.Displays
  | .subquery query aliasName => query.isQuery = true ∧ aliasName.Displays

/-- A table as a builder makes it. -/
structure Table.IsTyped (t : Table) : Prop where
  schema : t.schema.Displays
  table : t.table.Displays
  aliasName : t.aliasName.Displays
  join : ∃ j, t.join = .join j
  joins : ∃ entries, t.joins = .record entries ∧
    ∀ e ∈ entries, e.1.Displays ∧ e.2.IsOperand

/-- A node of a condition list as a builder makes it. -/
def Condition.IsTyped : Condition → Prop
  | .comparison left right operator combinator =>
    left.IsOperand ∧ right.IsOperand ∧
      (∀ items, right.members? = some items → ∀ v ∈ items, v.IsOperand) ∧
      (∃ name, operator = .text name) ∧ combinator.Displays
  | .groupStart combinator => combinator.Displays
  | .groupEnd _ => True
  | .unknown _ => False

/-- The nodes of the conditions of a query. -/
def Select.HasNode (q : Select) (c : Condition) : Prop :=
  ∃ items, q.conditions.items = .ok items ∧ c ∈ items.map Condition.ofValue

/-- A query as a builder makes it. -/
structure Select.IsTyped (q : Select) : Prop where
  fields : ∀ f ∈ q.fields, f.IsTyped
  tables : ∀ t ∈ q.tables, t.IsTyped
  conditions : ∃ items, q.conditions.items = .ok items
  nodes : ∀ c, q.HasNode c → c.IsTyped
  order : ∀ k ∈ q.order, k.table.Displays ∧ k.column.Displays ∧ k.direction.Displays

/-! ### What is malformed -/

/-- An operator that asks for a collection, in any case and with any white space. -/
def IsMembership (operator : String) : Prop :=
  normalizeOperator operator = "IN" ∨ normalizeOperator operator = "NOT IN"

/-- An operator without a right side. -/
def IsNullTest (operator : String) : Prop :=
  normalizeOperator operator = "IS NULL" ∨ normalizeOperator operator = "IS NOT NULL"

/-- The operator that asks for a pair. -/
def IsRange (operator : String) : Prop :=
  normalizeOperator operator = "BETWEEN"

instance (operator : String) : Decidable (IsMembership operator) :=
  inferInstanceAs (Decidable (_ ∨ _))

instance (operator : String) : Decidable (IsNullTest operator) :=
  inferInstanceAs (Decidable (_ ∨ _))

instance (operator : String) : Decidable (IsRange operator) :=
  inferInstanceAs (Decidable (_ = _))

/-- A function of distinct rows needs a column. -/
def Field.IsMalformed : Field → Prop
  | .function _ source distinct _ _ => source = .null ∧ distinct.truthy = true
  | _ => False

/-- The target of a join is no query. -/
def Table.IsMalformed (t : Table) : Prop :=
  ∃ entries, t.joins = .record entries ∧ ∃ e ∈ entries, e.2.isQuery = true

/-- Where a value is no query, a membership test needs a collection, and a range a pair. -/
def Condition.IsMalformed : Condition → Prop
  | .comparison _ right (.text operator) _ => right.isQuery = false ∧
    (IsMembership operator ∧ right.members? = none ∨ IsRange operator ∧ right.pair? = none)
  | _ => False

/-- A query with a part of its own that is malformed. The first table is not joined, whatever it
says. -/
def Select.IsMalformed (q : Select) : Prop :=
  (∃ f ∈ q.fields, f.IsMalformed) ∨ (∃ t ∈ q.tables.tail, t.IsMalformed) ∨
    ∃ c, q.HasNode c ∧ c.IsMalformed

/-- An integer with more digits than are written. -/
def IsOverlong (n : Int) : Prop :=
  10 ^ writtenDigitLimit ≤ n.natAbs

/-- A query whose page clause holds an integer that is too long. -/
def Select.IsOverlong (q : Select) : Prop :=
  ∃ offset size, pageOffset q.page q.limit = some offset ∧ q.limit = some size ∧
    (FluentSql.IsOverlong offset ∨ FluentSql.IsOverlong size)

/-! ### What is rendered -/

/-- The queries that a comparison renders. A test in an empty collection is decided without its left
side, and a null test has no right side. -/
inductive Condition.Renders : Condition → Handle → Prop where
  | left {left right combinator : Value} {operator : String} {h : Handle}
      (hnonempty : ¬ (IsMembership operator ∧ right.members? = some [])) (hv : left.Refers h) :
      Renders (.comparison left right (.text operator) combinator) h
  | right {left right combinator : Value} {operator : String} {h : Handle}
      (hnull : ¬ IsNullTest operator) (hv : right.Refers h) :
      Renders (.comparison left right (.text operator) combinator) h
  | member {left right combinator v : Value} {operator : String} {items : List Value} {h : Handle}
      (hin : IsMembership operator) (hitems : right.members? = some items) (hmem : v ∈ items)
      (hv : v.Refers h) : Renders (.comparison left right (.text operator) combinator) h
  | endpoint {left right combinator : Value} {operator : String} {ends : Value × Value} {h : Handle}
      (hrange : IsRange operator) (hpair : right.pair? = some ends)
      (hv : ends.1.Refers h ∨ ends.2.Refers h) :
      Renders (.comparison left right (.text operator) combinator) h

/-- The queries that a query renders. -/
def Select.Renders (q : Select) (h : Handle) : Prop :=
  (∃ f ∈ q.fields, f.Embeds h) ∨ ∃ c, q.HasNode c ∧ c.Renders h

end FluentSql
