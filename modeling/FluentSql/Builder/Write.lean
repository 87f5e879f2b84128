import FluentSql.Write

/-!
# Write builders

A write builder collects columns, records and conditions for an INSERT, UPDATE or DELETE.
-/

namespace FluentSql

/-- A write builder. -/
structure WriteBuilder where
  /-- The session that it works through; null for none. -/
  session : Value := .null
  /-- The dialect that was asked for, whatever that of the session is. -/
  dialect : Option Dialect := none
  write : Write := {}

/-- The statements that a write may be. -/
inductive WriteKind where
  | insert
  | update
  | delete
deriving DecidableEq

namespace Write

/-- The statement of a kind. -/
def compile (w : Write) (kind : WriteKind) (d : Dialect) : Except Fault Statement :=
  match kind with
  | .insert => w.compileInsert d
  | .update => w.compileUpdate d
  | .delete => w.compileDelete d

/-- Names the table. -/
def setTable (w : Write) (schema table : Value) : Write :=
  { w with schema, table }

/-- Declares a column. -/
def addColumn (w : Write) (name : Value) : Write :=
  { w with columns := w.columns ++ [name] }

/-- Marks a column as one that an insert updates in rows it meets. -/
def addUpdated (w : Write) (name : Value) : Except Fault Write := do
  name.checkKey
  if w.updated.any (·.same name) then .ok w
  else .ok { w with updated := w.updated ++ [name] }

/-- Names the columns that identify a row that an insert meets. -/
def setTarget (w : Write) (columns : List Value) : Write :=
  { w with target := columns }

/-- Adds a record. -/
def addRecord (w : Write) (record : Value) : Write :=
  { w with records := w.records ++ [record] }

/-- Demands a value of a column; the last value that is given for it counts. -/
def addCondition (w : Write) (column value : Value) : Except Fault Write := do
  column.checkKey
  .ok { w with conditions := putEntry column value w.conditions }

/-- The description of a write builder. -/
def description (w : Write) : Except Fault String := do
  let schema ← w.schema.display
  let table ← w.table.display
  .ok ("<Transaction " ++ schema ++ "." ++ table ++ " records=" ++ toString w.records.length
    ++ ">")

end Write

end FluentSql
