import FluentSql.Binary64
import FluentSql.Dialect
import FluentSql.Join

/-!
# Values

What callers pass in and drivers hand back: bound values, names, collections, references to
columns and the nodes of a condition list. Callers may pass any value wherever a name or a bound
value is expected; each operation says what it makes of the kinds it knows.

Builders and sessions live in a store (`FluentSql.Store`), so a value refers to one by its `Handle`.
A list or record that may be shared lives there too.
-/

namespace FluentSql

/-- The place of a builder, session or shared collection among its kind in a store. -/
abbrev Handle := Nat

/-- Why a value cannot be displayed. -/
inductive DisplayFault where
  /-- A query with a table, by its position, whose name is of the given type instead of text. -/
  | tableName (position : Nat) (typeName : String)
  /-- A query whose conditions are of a type that has no length. -/
  | conditionCount (typeName : String)
  /-- An integer with more digits than may be written. -/
  | tooManyDigits
  /-- An object that contains itself. -/
  | endless
deriving DecidableEq

/-- The description of an object at the time it was looked up, where it has one. -/
abbrev Label := Except DisplayFault String

/-- The descriptions of an object at one time. -/
structure Labels where
  /-- The description on its own. -/
  alone : Label
  /-- The description inside the display of a value. It does not show the lists and records over
  again that the display is about to show. -/
  inside : Label

/-- An object that is described everywhere alike. -/
def Labels.alike (label : Label) : Labels :=
  ⟨label, label⟩

/-- A value of any kind. -/
inductive Value where
  | null
  | bool (b : Bool)
  | int (n : Int)
  | float (x : Binary64)
  | text (s : String)
  | bytes (bs : List UInt8)
  | list (items : List Value)
  | tuple (items : List Value)
  | set (frozen : Bool) (items : List Value)
  /-- Entries in order, each key once. -/
  | record (entries : List (Value × Value))
  /-- A reference to a column, by table name or alias. -/
  | column (table column : Value)
  /-- A query builder. -/
  | query (handle : Handle) (labels : Labels)
  /-- A write builder. -/
  | write (handle : Handle) (labels : Labels)
  | session (handle : Handle) (labels : Labels)
  | dialect (d : Dialect)
  | join (j : Join)
  /-- A list that is kept in the store. -/
  | sharedList (handle : Handle)
  /-- A record that is kept in the store. -/
  | sharedRecord (handle : Handle)
  /-- A comparison of a condition list. -/
  | comparison (left right operator combinator : Value)
  | groupStart (combinator : Value)
  | groupEnd (combinator : Value)
deriving Inhabited

namespace Value

/-- A query builder by its handle. Its description is still to be looked up. -/
def ofQuery (h : Handle) : Value :=
  query h (.alike (.error .endless))

/-- A write builder by its handle. -/
def ofWrite (h : Handle) : Value :=
  write h (.alike (.error .endless))

/-- A session by its handle. -/
def ofSession (h : Handle) : Value :=
  session h (.alike (.error .endless))

/-- Whether a value counts as given: null, zero, false and everything empty do not. -/
def truthy : Value → Bool
  | null => false
  | bool b => b
  | int n => n != 0
  | float x => !x.isZero
  | text s => !s.isEmpty
  | bytes bs => !bs.isEmpty
  | list items | tuple items | set _ items => !items.isEmpty
  | record entries => !entries.isEmpty
  | _ => true

/-- The first value if it counts as given, else the second. -/
def orElse (v w : Value) : Value :=
  if v.truthy then v else w

/-- Whether a value is a query builder. -/
def isQuery : Value → Bool
  | query .. => true
  | _ => false

/-- Whether a value is null. -/
def isNull : Value → Bool
  | null => true
  | _ => false

/-- The name of a value's type, as messages give it. -/
def typeName : Value → String
  | null => "NoneType"
  | bool _ => "bool"
  | int _ => "int"
  | float _ => "float"
  | text _ => "str"
  | bytes _ => "bytes"
  | list _ | sharedList _ => "list"
  | tuple _ => "tuple"
  | set false _ => "set"
  | set true _ => "frozenset"
  | record _ | sharedRecord _ => "dict"
  | column .. => "ColumnRef"
  | query .. => "Query"
  | write .. => "Transaction"
  | session .. => "Session"
  | dialect .ansi => "Dialect"
  | dialect .mysql => "MySqlDialect"
  | dialect .sqlite => "SqliteDialect"
  | dialect .postgresql => "PostgresDialect"
  | join _ => "JoinKind"
  | comparison .. => "Param"
  | groupStart _ => "GroupStart"
  | groupEnd _ => "GroupEnd"

end Value

end FluentSql
