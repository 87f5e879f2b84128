import FluentSql.Statement

/-!
# INSERT, UPDATE and DELETE statements

A write names a table, and collects columns, records and conditions. An insert lays the records
out row by row under the declared columns; an update and a delete go by the conditions, and are
refused without any.
-/

namespace FluentSql

/-- The model of a write. -/
structure Write where
  schema : Value := .null
  table : Value := .text ""
  /-- The columns of an insert, as declared. -/
  columns : List Value := []
  /-- The columns that an insert updates in rows it meets, each once. -/
  updated : List Value := []
  /-- The columns that identify a row that an insert meets. -/
  target : List Value := []
  records : List Value := []
  /-- Columns and the values they must have, each column once. -/
  conditions : List (Value × Value) := []

namespace Write

/-- The table, under its schema if one is given. -/
def reference (w : Write) (d : Dialect) : Except Fault String :=
  d.qualifiedName [w.schema, w.table]

/-- An equality between a column and a placeholder. -/
def equality (d : Dialect) (column : Value) : Except Fault String := do
  let name ← d.identifier column
  .ok (name ++ " = " ++ Dialect.placeholder)

/-- One equality for each column of several entries. -/
def equalities (d : Dialect) (entries : List (Value × Value)) : Except Fault (List String) :=
  entries.mapM fun e => equality d e.1

/-- The conditions as one equality for each column. -/
def renderConditions (w : Write) (d : Dialect) : Except Fault String := do
  let tests ← equalities d w.conditions
  .ok (String.intercalate " AND " tests)

/-- The values of the conditions. -/
def conditionValues (w : Write) : List Value :=
  w.conditions.map (·.2)

/-- The value of a record under a column: null if it has none. -/
def cell (record column : Value) : Except Fault Value := do
  let found ← record.get? column
  .ok (found.getD .null)

/-- The values of a record under the declared columns. -/
def row (w : Write) (record : Value) : Except Fault (List Value) :=
  w.columns.mapM (cell record)

/-- The placeholders of one record. -/
def placeholders (w : Write) : String :=
  "(" ++ String.intercalate "," (w.columns.map fun _ => Dialect.placeholder) ++ ")"

/-- The update clause of an insert, with the blank before it. -/
def renderUpsert (w : Write) (d : Dialect) : Except Fault String :=
  if w.updated.isEmpty then .ok ""
  else (d.upsertOf (.list w.updated) (.list w.target)).map (" " ++ ·)

/-- An insert of all records. -/
def compileInsert (w : Write) (d : Dialect) : Except Fault Statement :=
  if w.columns.isEmpty then .error (.refused .noColumns)
  else if w.records.isEmpty then .error (.refused .noRecords)
  else do
    let rows ← w.records.mapM w.row
    let columns ← Value.displayAll w.columns
    let table ← w.reference d
    let upsert ← w.renderUpsert d
    .ok ⟨"INSERT INTO " ++ table ++ " (" ++ d.quotedList columns ++ ") VALUES "
      ++ String.intercalate ", " (w.records.map fun _ => w.placeholders) ++ upsert,
      rows.flatten⟩

/-- An update of the rows that meet the conditions, with the values of the single record. -/
def compileUpdate (w : Write) (d : Dialect) : Except Fault Statement :=
  if w.conditions.isEmpty then .error (.refused .noConditions)
  else
    match w.records with
    | [record] =>
      if !record.truthy then .error (.refused .noRecords)
      else
        match record with
        | .record entries => do
          let assignments ← equalities d entries
          let table ← w.reference d
          let conditions ← w.renderConditions d
          .ok ⟨"UPDATE " ++ table ++ " SET " ++ String.intercalate ", " assignments ++ " WHERE "
            ++ conditions, entries.map (·.2) ++ w.conditionValues⟩
        | _ => .error .missingMember
    | _ => .error (.refused .noRecords)

/-- A delete of the rows that meet the conditions. -/
def compileDelete (w : Write) (d : Dialect) : Except Fault Statement :=
  if w.conditions.isEmpty then .error (.refused .noConditions)
  else do
    let table ← w.reference d
    let conditions ← w.renderConditions d
    .ok ⟨"DELETE FROM " ++ table ++ " WHERE " ++ conditions, w.conditionValues⟩

end Write

end FluentSql
