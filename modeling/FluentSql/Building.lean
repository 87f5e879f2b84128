import FluentSql.Store

/-!
# Building

The operations on a store: new objects, and the calls by which builders take shape. An operation
that fails changes nothing, except where it says so.
-/

namespace FluentSql

/-- Work on a store, which may fail. -/
abbrev Building := Fallible Store

namespace Building

/-- Adds a query builder, with an empty list of conditions. -/
def newQuery (session dialect : Value) : Building Handle := fun s =>
  match Store.requestedDialect dialect with
  | .error f => (.error f, s)
  | .ok dialect =>
    let q : QueryBuilder := { session, dialect, conditions := .sharedList s.lists.size }
    (.ok s.queries.size, { s with lists := s.lists.push [], queries := s.queries.push q })

/-- The schema that the session of a new write builder works in. -/
def usualSchema (s : Store) (session : Value) : Except Fault Value :=
  match session with
  | .session h _ =>
    let schema := (s.session h).session.settings.schema
    .ok (if s.given schema then schema else .null)
  | v => if s.given v then .error .missingMember else .ok .null

/-- Adds a write builder, for the schema of its session. -/
def newWrite (session dialect : Value) : Building Handle := do
  let dialect ← Fallible.ofExcept (Store.requestedDialect dialect)
  let s ← Fallible.view id
  let schema ← Fallible.ofExcept (usualSchema s session)
  let w : WriteBuilder := { session, dialect, write := { schema } }
  Fallible.update fun s => { s with writes := s.writes.push w }
  pure s.writes.size

/-- Adds a session. -/
def newSession (adapter : Adapter) (settings : Settings) : Building Handle := fun s =>
  (.ok s.sessions.size, { s with sessions := s.sessions.push ⟨adapter, { settings }⟩ })

/-- Adds a list. -/
def newList (items : List Value) : Building Handle := fun s =>
  (.ok s.lists.size, { s with lists := s.lists.push items })

/-- Adds a record. -/
def newRecord (entries : List (Value × Value)) : Building Handle := fun s =>
  (.ok s.records.size, { s with records := s.records.push entries })

/-- Changes a query builder. -/
def editQuery (h : Handle) (f : QueryBuilder → Except Fault QueryBuilder) :
    Building Unit := fun s =>
  match f (s.query h) with
  | .error e => (.error e, s)
  | .ok q => (.ok (), { s with queries := s.queries.setIfInBounds h q })

/-- Changes a write builder. -/
def editWrite (h : Handle) (f : Write → Except Fault Write) : Building Unit := fun s =>
  match f (s.write h).write with
  | .error e => (.error e, s)
  | .ok write =>
    (.ok (), { s with writes := s.writes.setIfInBounds h { s.write h with write } })

/-- Adds an item at the end of a list. -/
def append (list : Handle) (item : Value) : Building Unit :=
  Fallible.update fun s => { s with lists := s.lists.setIfInBounds list (s.list list ++ [item]) }

/-- Sets a key of a record. -/
def put (record : Handle) (key value : Value) : Building Unit :=
  Fallible.update fun s =>
    { s with records := s.records.setIfInBounds record (putEntry key value (s.record record)) }

/-! ### Conditions -/

/-- The list that the conditions of a query builder are added to. -/
def conditionList (h : Handle) : Building Handle := do
  let s ← Fallible.view id
  match (s.query h).conditions with
  | .sharedList list => pure list
  | _ => Fallible.fail .missingMember

/-- Gives a query builder something that holds its conditions. Everyone who has the same list shares
the conditions that are added to it. -/
def setConditions (h : Handle) (conditions : Value) : Building Unit :=
  match conditions with
  | .list items => do
    let list ← newList items
    editQuery h fun q => .ok { q with conditions := .sharedList list }
  | conditions => editQuery h fun q => .ok { q with conditions }

/-- Gives the target a copy of the conditions of a query builder. -/
def copyConditions (h : Handle) (target : Value) : Building Unit :=
  match target with
  | .query target _ => do
    let s ← Fallible.view id
    let nodes ← Fallible.ofExcept (s.conditions h).items
    setConditions target (.list nodes)
  | _ => Fallible.fail .missingMember

/-- The combinator that a value gives at present. -/
def combinatorOf (combinator : Value) : Building Value := do
  let s ← Fallible.view id
  let text ← Fallible.ofExcept (normalizeCombinator (s.settle combinator))
  pure (.text text)

/-- Adds a mark to the conditions of a query builder. -/
def addMark (mark : Value → Value) (h : Handle) (combinator : Value) : Building Unit := do
  let list ← conditionList h
  let combinator ← combinatorOf combinator
  append list (mark combinator)

/-- Opens a group of conditions. -/
def openGroup : Handle → Value → Building Unit := addMark .groupStart

/-- Closes the innermost group of conditions. -/
def closeGroup : Handle → Value → Building Unit := addMark .groupEnd

/-- Adds a comparison to the conditions of a query builder, and so to those of every builder that
shares them. The operator is `=` unless another is given. -/
def compare (h : Handle) (table column value operator combinator : Value) : Building Unit := do
  let list ← conditionList h
  let s ← Fallible.view id
  let operator := if s.given operator then operator else .text "="
  let combinator ← combinatorOf combinator
  append list (.comparison (Condition.leftSide table column) value operator combinator)

/-- Adds a comparison with a named operator. -/
def compareBy (operator : String) (h : Handle) (table column value combinator : Value) :
    Building Unit :=
  compare h table column value (.text operator) combinator

/-- Adds the test that a column differs from a value. -/
def notEqual : Handle → Value → Value → Value → Value → Building Unit := compareBy "<>"

/-- Adds the test that a column contains a text. -/
def like : Handle → Value → Value → Value → Value → Building Unit := compareBy "LIKE"

/-- Adds the test that a column does not contain a text. -/
def notLike : Handle → Value → Value → Value → Value → Building Unit := compareBy "NOT LIKE"

/-- Adds the test that a column begins with a text. -/
def likeStart : Handle → Value → Value → Value → Value → Building Unit := compareBy "LIKE%"

/-- Adds the test that a column ends with a text. -/
def likeEnd : Handle → Value → Value → Value → Value → Building Unit := compareBy "%LIKE"

/-- Adds the test that a column is at least a value. -/
def greaterEqual : Handle → Value → Value → Value → Value → Building Unit := compareBy ">="

/-- Adds the test that a column is at most a value. -/
def lessEqual : Handle → Value → Value → Value → Value → Building Unit := compareBy "<="

/-- Adds the test that a column is more than a value. -/
def greaterThan : Handle → Value → Value → Value → Value → Building Unit := compareBy ">"

/-- Adds the test that a column is less than a value. -/
def lessThan : Handle → Value → Value → Value → Value → Building Unit := compareBy "<"

/-- Adds the test that a column is null. -/
def isNull (h : Handle) (table column combinator : Value) : Building Unit :=
  compareBy "IS NULL" h table column .null combinator

/-- Adds the test that a column is not null. -/
def isNotNull (h : Handle) (table column combinator : Value) : Building Unit :=
  compareBy "IS NOT NULL" h table column .null combinator

/-- Adds a test of membership. -/
def member (operator : String) (h : Handle) (table column values combinator : Value) :
    Building Unit := do
  let s ← Fallible.view id
  let side ← Fallible.ofExcept (Condition.membershipSide (s.opened values))
  compareBy operator h table column side combinator

/-- Adds the test that a column is one of several values. -/
def isIn : Handle → Value → Value → Value → Value → Building Unit := member "IN"

/-- Adds the test that a column is none of several values. -/
def notIn : Handle → Value → Value → Value → Value → Building Unit := member "NOT IN"

/-- Adds the test that a column lies between two values. -/
def between (h : Handle) (table column low high combinator : Value) : Building Unit :=
  compareBy "BETWEEN" h table column (.list [low, high]) combinator

/-! ### Tables and fields -/

/-- Adds a table to a query builder, with a copy of the joins as they are now. -/
def addTable (h : Handle) (schema table aliasName joins join : Value) : Building Unit := do
  let s ← Fallible.view id
  let entries ← Fallible.ofExcept (s.openedTwice joins).entries
  let join ← Fallible.ofExcept (Join.ofValue (s.settle join))
  editQuery h fun q => .ok (q.addTable ⟨schema, table, aliasName, .record entries, .join join⟩)

/-- Adds a field to a query builder. -/
def addField (h : Handle) (f : Field) : Building Unit :=
  editQuery h fun q => .ok (q.addField f)

/-- Selects the concatenation of columns. -/
def addConcat (h : Handle) (columns aliasName separator : Value) : Building Unit := do
  let s ← Fallible.view id
  editQuery h (·.addConcat (s.openedTwice columns) aliasName separator)

/-- A column, if one is named, and else null. -/
def namedColumn (table column : Value) : Building Value := do
  let s ← Fallible.view id
  pure (if s.given column then .column table column else .null)

/-- Selects the number of rows, or of the values of a column. -/
def count (h : Handle) (table column aliasName distinct : Value) : Building Unit := do
  let source ← namedColumn table column
  addField h (.function (.text "COUNT") source distinct aliasName none)

/-- Selects a function of a query or a column, with an argument behind it if there is one. -/
def addFunction (h : Handle) (name table column aliasName distinct : Value)
    (argument : Option Value) : Building Unit := do
  let source ← if table.isQuery then pure table else namedColumn table column
  addField h (.function name source distinct aliasName argument)

/-- Selects a date in a format. -/
def addDateFormat (h : Handle) (table column format aliasName : Value) : Building Unit :=
  addFunction h (.text "DATE_FORMAT") table column aliasName (.bool false) (some format)

/-! ### Order and pages -/

/-- Sorts by a column, after the columns that came before. -/
def addOrder (h : Handle) (table column direction : Value) : Building Unit := do
  let s ← Fallible.view id
  editQuery h (·.addOrder table column (s.opened direction))

/-- Sets the page and its size. The page stays set if its size cannot be. -/
def setPaging (h : Handle) (page limit : Value) : Building Unit := do
  editQuery h (·.setPage page)
  editQuery h (·.setLimit limit)

/-! ### Writes -/

/-- Declares a column of a write, and may mark it as updated. -/
def addColumn (h : Handle) (name updated : Value) : Building Unit := do
  editWrite h fun w => .ok (w.addColumn name)
  let s ← Fallible.view id
  if s.given updated then editWrite h (·.addUpdated name)

/-- Names the columns that identify a row that an insert meets. -/
def setTarget (h : Handle) (columns : Value) : Building Unit := do
  let s ← Fallible.view id
  let names ← Fallible.ofExcept (s.opened columns).items
  editWrite h fun w => .ok (w.setTarget names)

end Building

end FluentSql
