import FluentSql.Value.Items

/-!
# Clauses from values

Callers name tables, columns and aliases by values: null, and every other value that does not count
as given, is no name, and any other value names by its display. Here the clauses of a dialect are
written for such values.
-/

namespace FluentSql

/-- The dialect that a value asks for: a dialect or its name. No dialect has a name of bytes. -/
def Dialect.ofValue : Value → Except Fault Dialect
  | .dialect d => .ok d
  | .text name =>
    match ofName? name with
    | some d => .ok d
    | none => .error (.unknownDialect name)
  | .bytes bs => .error (.unknownDialect (Text.quotedBytes bs))
  | _ => .error .missingMember

namespace Dialect

/-- An identifier: what a value displays, given or not. -/
def identifier (d : Dialect) (name : Value) : Except Fault String :=
  name.display.map d.quote

/-- The names among several values, joined by dots. -/
def qualifiedName (d : Dialect) (parts : List Value) : Except Fault String :=
  (parts.mapM Value.name?).map d.qualified

/-- A column by the names of its table and itself. -/
def columnName (d : Dialect) (table name : Value) : Except Fault String := do
  let t ← table.name?
  let c ← name.name?
  .ok (d.column t c)

/-- An expression under the alias that a value names. -/
def underAlias (d : Dialect) (sql : String) (aliasName : Value) : Except Fault String :=
  aliasName.name?.map (d.aliased sql)

/-- The concatenation of the texts that a value holds. -/
def concatenation (d : Dialect) (parts : Value) : Except Fault String := do
  let items ← parts.items
  let texts ← items.mapM fun v =>
    match v with
    | .text t => Except.ok t
    | _ => Except.error Fault.wrongType
  .ok (d.concat texts)

/-- The page clause for values as they are. -/
def limitOf (d : Dialect) (offset size : Value) : Except Fault String := do
  let o ← offset.display
  let n ← size.display
  .ok (d.limit o n)

/-- The columns that identify a row that an insert meets. MySQL knows them by itself. -/
def conflictColumns (d : Dialect) (target : Value) : Except Fault (List String) :=
  match d with
  | mysql => .ok []
  | _ => do
    let names ← target.itemsIfGiven
    Value.displayAll names

/-- The clause of an insert that updates rows it meets, for collections of names. A target that is
missing is noticed first. -/
def upsertOf (d : Dialect) (columns target : Value) : Except Fault String :=
  if d = postgresql ∧ !target.truthy then .error (.refused .upsertNeedsTarget)
  else do
    let names ← columns.items
    let updated ← Value.displayAll names
    let conflict ← d.conflictColumns target
    (d.upsert updated conflict).mapError .refused

end Dialect

end FluentSql
