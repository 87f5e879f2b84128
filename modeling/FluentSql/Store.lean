import FluentSql.Adapter
import FluentSql.Builder.Query
import FluentSql.Builder.Write
import FluentSql.Session
import FluentSql.Value.Contents

/-!
# The store of builders

Builders refer to one another: a query may be embedded in other queries, condition lists and
records may be shared, and many builders work through one session. A store keeps all of them, and
what refers to an object holds its handle. So a change to an object shows everywhere it is used,
and a query is compiled with the contents that everything has at that moment.
-/

namespace FluentSql

/-- A session with the adapter that it works through. -/
structure BoundSession where
  adapter : Adapter := .sqlite
  session : Session := {}

/-- The objects of a store, each kind by itself. -/
structure Store where
  queries : Array QueryBuilder := #[]
  writes : Array WriteBuilder := #[]
  sessions : Array BoundSession := #[]
  lists : Array (List Value) := #[]
  records : Array (List (Value × Value)) := #[]

/-! ### Values inside models -/

/-- A field with its values changed. -/
def Field.map (f : Value → Value) : Field → Field
  | .column table name aliasName => .column (f table) (f name) (f aliasName)
  | .wildcard table => .wildcard (f table)
  | .function name source distinct aliasName argument =>
    .function (f name) (f source) (f distinct) (f aliasName) (argument.map f)
  | .concat columns aliasName separator => .concat (f columns) (f aliasName) (f separator)
  | .subquery query aliasName => .subquery (f query) (f aliasName)

/-- A table with its values changed. -/
def Table.map (f : Value → Value) (t : Table) : Table :=
  ⟨f t.schema, f t.table, f t.aliasName, f t.joins, f t.join⟩

/-- A sort key with its values changed. -/
def SortKey.map (f : Value → Value) (k : SortKey) : SortKey :=
  ⟨f k.table, f k.column, f k.direction⟩

/-- A write with its values changed. -/
def Write.map (f : Value → Value) (w : Write) : Write where
  schema := f w.schema
  table := f w.table
  columns := w.columns.map f
  updated := w.updated.map f
  target := w.target.map f
  records := w.records.map f
  conditions := w.conditions.map fun c => (f c.1, f c.2)

/-- The description of an object as a label. -/
def Label.ofDescription : Except Fault String → Label
  | .ok text => .ok text
  | .error (.display fault) => .error fault
  | .error _ => .error .endless

namespace Store

/-! ### Objects by handle -/

/-- A query builder. -/
def query (s : Store) (h : Handle) : QueryBuilder :=
  s.queries.getD h {}

/-- A write builder. -/
def write (s : Store) (h : Handle) : WriteBuilder :=
  s.writes.getD h {}

/-- A session. -/
def session (s : Store) (h : Handle) : BoundSession :=
  s.sessions.getD h {}

/-- A list. -/
def list (s : Store) (h : Handle) : List Value :=
  s.lists.getD h []

/-- A record. -/
def record (s : Store) (h : Handle) : List (Value × Value) :=
  s.records.getD h []

/-- The store with a session replaced. -/
def setSession (s : Store) (h : Handle) (session : Session) : Store :=
  { s with sessions := s.sessions.setIfInBounds h { s.session h with session } }

/-! ### Present contents -/

/-- A value with its present items, if it refers to a list or a record. -/
def opened (s : Store) : Value → Value
  | .sharedList h => .list (s.list h)
  | .sharedRecord h => .record (s.record h)
  | v => v

/-- A value with its present items, and with the present items of these. -/
def openedTwice (s : Store) (v : Value) : Value :=
  match s.opened v with
  | .list vs => .list (vs.map s.opened)
  | .tuple vs => .tuple (vs.map s.opened)
  | w => w

/-- Whether a value counts as given at present. -/
def given (s : Store) (v : Value) : Bool :=
  (s.opened v).truthy

/-- The nodes of the conditions of a query builder. -/
def conditions (s : Store) (h : Handle) : Value :=
  s.opened (s.query h).conditions

/-! ### Descriptions -/

/-- The names of several tables, the first of which has the given position. -/
def tableNames (s : Store) (position : Nat) : List Table → Except Fault (List String)
  | [] => .ok []
  | t :: ts =>
    match ({ t with aliasName := s.opened t.aliasName } : Table).label with
    | .text name => do
      let names ← s.tableNames (position + 1) ts
      .ok (name :: names)
    | v => .error (.display (.tableName position v.typeName))

/-- The description of a query builder, which names its tables. -/
def describeQuery (s : Store) (h : Handle) : Except Fault String := do
  let names ← s.tableNames 0 (s.query h).tables
  match (s.conditions h).size? with
  | some size =>
    .ok ("<Query [" ++ String.intercalate ", " names ++ "] fields="
      ++ toString (s.query h).fields.length ++ " conditions=" ++ toString size ++ ">")
  | none => .error (.display (.conditionCount (s.conditions h).typeName))

/-- The description of a write builder, whose names are read by `f`. -/
def describeWriteBy (s : Store) (f : Value → Value) (h : Handle) : Except Fault String :=
  let w := (s.write h).write
  ({ w with schema := f w.schema, table := f w.table } : Write).description

/-- What is being filled in: the lists and records on the way to a value, and the write builders and
sessions that are being described since the last of these. -/
structure Trail where
  lists : List Handle := []
  records : List Handle := []
  writes : List Handle := []
  sessions : List Handle := []

namespace Trail

/-- The trail into a list. -/
def enterList (t : Trail) (h : Handle) : Trail :=
  { lists := h :: t.lists, records := t.records }

/-- The trail into a record. -/
def enterRecord (t : Trail) (h : Handle) : Trail :=
  { lists := t.lists, records := h :: t.records }

/-- The trail into a write builder. -/
def enterWrite (t : Trail) (h : Handle) : Trail :=
  { t with writes := h :: t.writes }

/-- The trail into a session. -/
def enterSession (t : Trail) (h : Handle) : Trail :=
  { t with sessions := h :: t.sessions }

end Trail

/-- The descriptions of an object whose values are read by what `describe` is given, at the end of
the trail that it is given. Inside the description of another object, objects are not described on
their own as well. -/
def labels (nested : Bool) (trail : Trail) (describe : Trail → Except Fault String) : Labels :=
  let inside := Label.ofDescription (describe trail)
  if nested then .alike inside else ⟨Label.ofDescription (describe {}), inside⟩

/-- What handles stand for at the end of a trail, where `settle` reads the values behind them. A list
or record inside itself stays as it is, and the description of an object inside itself has no end. -/
def contents (s : Store) (nested : Bool) (trail : Trail) (settle : Bool → Trail → Value → Value) :
    Contents where
  list h :=
    if trail.lists.contains h then .sharedList h
    else .list ((s.list h).map (settle nested (trail.enterList h)))
  record h :=
    if trail.records.contains h then .sharedRecord h
    else .record ((s.record h).map fun e =>
      (settle nested (trail.enterRecord h) e.1, settle nested (trail.enterRecord h) e.2))
  query h := .alike (Label.ofDescription (s.describeQuery h))
  write h :=
    if trail.writes.contains h then .alike (.error .endless)
    else labels nested trail fun t => s.describeWriteBy (settle true (t.enterWrite h)) h
  session h :=
    if trail.sessions.contains h then .alike (.error .endless)
    else labels nested trail fun t =>
      ((s.session h).session.map (settle true (t.enterSession h))).description

/-- A value with the present contents of everything it refers to, at the end of a trail. The value is
left as it is where `depth` is used up. -/
def settleWithin (s : Store) : Nat → Bool → Trail → Value → Value
  | 0, _, _, v => v
  | depth + 1, nested, trail, v => v.fill (s.contents nested trail (s.settleWithin depth))

/-- A depth that is never used up. The way to an object leads through each list and record once, and
through each write builder and session once between two of them; and a description that stands on
its own begins such a way behind another. -/
def steps (s : Store) : Nat :=
  2 * (s.lists.size + s.records.size + 1) * (s.writes.size + s.sessions.size + 1)

/-- A value with the present contents of everything it refers to. -/
def settle (s : Store) (v : Value) : Value :=
  s.settleWithin s.steps false {} v

/-- The description of a write builder. -/
def describeWrite (s : Store) (h : Handle) : Except Fault String :=
  s.describeWriteBy s.settle h

/-- The description of a session. -/
def describeSession (s : Store) (h : Handle) : Except Fault String :=
  ((s.session h).session.map s.settle).description

/-! ### Compilation -/

/-- The dialect of a builder: the one it was made for, else its session's, else MySQL. -/
def dialectOf (s : Store) (session : Value) (dialect : Option Dialect) : Dialect :=
  match dialect, session with
  | some d, _ => d
  | none, .session h _ => (s.session h).adapter.dialect
  | none, _ => .mysql

/-- The dialect that a value asks for, if it is not null. -/
def requestedDialect (v : Value) : Except Fault (Option Dialect) :=
  if v.isNull then .ok none else (Dialect.ofValue v).map some

/-- The dialect of a query builder. -/
def queryDialect (s : Store) (h : Handle) : Dialect :=
  s.dialectOf (s.query h).session (s.query h).dialect

/-- The dialect of a write builder. -/
def writeDialect (s : Store) (h : Handle) : Dialect :=
  s.dialectOf (s.write h).session (s.write h).dialect

/-- The model of a query with the present contents of everything it refers to. A node of a condition
list is settled by itself, so it may hold that very list. -/
def select (s : Store) (h : Handle) : Select :=
  let q := s.query h
  { fields := q.fields.map (Field.map s.settle)
    tables := q.tables.map (Table.map s.settle)
    conditions := s.settle (s.conditions h)
    order := q.order.map (SortKey.map s.settle)
    page := q.page
    limit := q.limit }

/-- The statement of a query with all queries that it embeds, nested at most `depth` deep. -/
def compileWithin (s : Store) (d : Dialect) : Nat → Handle → Except Fault Statement
  | 0, _ => .error (.display .endless)
  | depth + 1, h => (s.select h).compile ⟨d, s.compileWithin d depth⟩

/-- The statement of a query. Queries that are nested deeper than there are queries contain
themselves. -/
def compile (s : Store) (h : Handle) (d : Dialect) : Except Fault Statement :=
  s.compileWithin d s.queries.size h

/-- The statement of a write. -/
def compileWrite (s : Store) (h : Handle) (kind : WriteKind) (d : Dialect) :
    Except Fault Statement :=
  ((s.write h).write.map s.settle).compile kind d

/-- What parts of statements are rendered in, with the queries of the store at hand. -/
def scope (s : Store) (d : Dialect) : Scope :=
  ⟨d, fun h => s.compile h d⟩

/-- The statement of a query in the dialect that a value asks for, or else in its own. -/
def compileIn (s : Store) (h : Handle) (dialect : Value) : Except Fault Statement := do
  let d ← requestedDialect dialect
  s.compile h (d.getD (s.queryDialect h))

/-- The statement of a write in the dialect that a value asks for, or else in its own. -/
def compileWriteIn (s : Store) (h : Handle) (kind : WriteKind) (dialect : Value) :
    Except Fault Statement := do
  let d ← requestedDialect dialect
  s.compileWrite h kind (d.getD (s.writeDialect h))

end Store

end FluentSql
