import FluentSql.Builder.Write
import FluentSql.Proofs.Marked.Text
import FluentSql.Proofs.Results

/-!
# Writes as marked text

The reference for the text of an INSERT, UPDATE or DELETE. `Write.compile_eq_marked` says that the
compiled statement is read off it.
-/

namespace FluentSql.Write

open Marked

/-! ### The reference -/

/-- An equality between a column and a bound value. -/
def markedEquality (d : Dialect) (e : Value × Value) : Except Fault (Marked Value) := do
  let name ← d.identifier e.1
  .ok (plain (name ++ " = ") ++ bound e.2)

/-- One equality for each entry. -/
def markedEqualities (d : Dialect) (entries : List (Value × Value)) :
    Except Fault (List (Marked Value)) :=
  entries.mapM (markedEquality d)

/-- The conditions. -/
def markedConditions (w : Write) (d : Dialect) : Except Fault (Marked Value) := do
  let tests ← markedEqualities d w.conditions
  .ok (intercalate " AND " tests)

/-- The values of one record. -/
def markedRow (values : List Value) : Marked Value :=
  plain "(" ++ (intercalate "," (values.map bound) ++ plain ")")

/-- An insert of all records. -/
def markedInsert (w : Write) (d : Dialect) : Except Fault (Marked Value) :=
  if w.columns.isEmpty then .error (.refused .noColumns)
  else if w.records.isEmpty then .error (.refused .noRecords)
  else do
    let rows ← w.records.mapM w.row
    let columns ← Value.displayAll w.columns
    let table ← w.reference d
    let upsert ← w.renderUpsert d
    .ok (plain ("INSERT INTO " ++ table ++ " (" ++ d.quotedList columns ++ ") VALUES ") ++
      (intercalate ", " (rows.map markedRow) ++ plain upsert))

/-- An update of the rows that meet the conditions. -/
def markedUpdate (w : Write) (d : Dialect) : Except Fault (Marked Value) :=
  if w.conditions.isEmpty then .error (.refused .noConditions)
  else
    match w.records with
    | [record] =>
      if !record.truthy then .error (.refused .noRecords)
      else
        match record with
        | .record entries => do
          let assignments ← markedEqualities d entries
          let table ← w.reference d
          let conditions ← w.markedConditions d
          .ok (plain ("UPDATE " ++ table ++ " SET ") ++ (intercalate ", " assignments ++
            (plain " WHERE " ++ conditions)))
        | _ => .error .missingMember
    | _ => .error (.refused .noRecords)

/-- A delete of the rows that meet the conditions. -/
def markedDelete (w : Write) (d : Dialect) : Except Fault (Marked Value) :=
  if w.conditions.isEmpty then .error (.refused .noConditions)
  else do
    let table ← w.reference d
    let conditions ← w.markedConditions d
    .ok (plain ("DELETE FROM " ++ table ++ " WHERE ") ++ conditions)

/-- A write of a kind. -/
def marked (w : Write) (kind : WriteKind) (d : Dialect) : Except Fault (Marked Value) :=
  match kind with
  | .insert => w.markedInsert d
  | .update => w.markedUpdate d
  | .delete => w.markedDelete d

/-! ### Compiled writes are read off marked text -/

variable (d : Dialect)

theorem equality_eq_marked (e : Value × Value) :
    equality d e.1 = (markedEquality d e).map Marked.sql := by
  rw [equality, markedEquality]
  cases d.identifier e.1 with
  | ok name => simp [bind, Except.bind, Except.map, String.append_assoc]
  | error f => rfl

theorem values_markedEquality {e : Value × Value} {t : Marked Value}
    (h : markedEquality d e = .ok t) : t.values = [e.2] := by
  rw [markedEquality] at h
  cases hname : d.identifier e.1 with
  | ok name =>
    rw [hname] at h
    cases h
    simp
  | error f =>
    rw [hname] at h
    cases h

theorem markedEqualities_cons (e : Value × Value) (rest : List (Value × Value)) :
    markedEqualities d (e :: rest) = (do
      let equality ← markedEquality d e
      let equalities ← markedEqualities d rest
      .ok (equality :: equalities)) :=
  List.mapM_cons

/-- Equalities show the columns. -/
theorem equalities_eq_marked (entries : List (Value × Value)) :
    equalities d entries = (markedEqualities d entries).map (·.map Marked.sql) := by
  induction entries with
  | nil => rfl
  | cons e rest ih =>
    -- both sides take the columns one by one, and stop at the same one
    have hcons : equalities d (e :: rest) = (do
        let text ← equality d e.1
        let texts ← equalities d rest
        .ok (text :: texts)) := List.mapM_cons
    rw [hcons, markedEqualities_cons, ih, equality_eq_marked]
    cases markedEquality d e with
    | ok t => cases markedEqualities d rest <;> rfl
    | error f => rfl

/-- Equalities bind the values of the entries, in order. -/
theorem values_markedEqualities {entries : List (Value × Value)} {texts : List (Marked Value)}
    (h : markedEqualities d entries = .ok texts) :
    texts.flatMap Marked.values = entries.map (·.2) := by
  induction entries generalizing texts with
  | nil =>
    cases h
    rfl
  | cons e rest ih =>
    rw [markedEqualities_cons] at h
    cases he : markedEquality d e with
    | error f =>
      rw [he] at h
      cases h
    | ok t =>
      cases hrest : markedEqualities d rest with
      | error f =>
        rw [he, hrest] at h
        cases h
      | ok more =>
        rw [he, hrest] at h
        cases h
        rw [List.flatMap_cons, values_markedEquality d he, ih hrest]
        rfl

variable (w : Write)

theorem renderConditions_eq_marked :
    w.renderConditions d = (w.markedConditions d).map Marked.sql := by
  rw [renderConditions, markedConditions, equalities_eq_marked]
  cases markedEqualities d w.conditions with
  | ok tests => exact congrArg Except.ok (Marked.sql_intercalate " AND " tests).symm
  | error f => rfl

theorem values_markedConditions {t : Marked Value} (h : w.markedConditions d = .ok t) :
    t.values = w.conditionValues := by
  rw [markedConditions] at h
  cases htests : markedEqualities d w.conditions with
  | ok tests =>
    rw [htests] at h
    cases h
    rw [Marked.values_intercalate, values_markedEqualities d htests]
    rfl
  | error f =>
    rw [htests] at h
    cases h

theorem compileDelete_eq_marked :
    w.compileDelete d = (w.markedDelete d).map Marked.statement := by
  rw [compileDelete, markedDelete]
  split
  · rfl
  · rw [renderConditions_eq_marked]
    cases w.reference d with
    | error f => rfl
    | ok table =>
      cases hconditions : w.markedConditions d with
      | error f => rfl
      | ok t =>
        have hvalues := w.values_markedConditions d hconditions
        simp [bind, Except.bind, Except.map, Marked.statement, hvalues, String.append_assoc]

/-- An update behind its checks. -/
theorem assigned_eq_marked (entries : List (Value × Value)) :
    (do
      let assignments ← equalities d entries
      let table ← w.reference d
      let conditions ← w.renderConditions d
      .ok ⟨"UPDATE " ++ table ++ " SET " ++ String.intercalate ", " assignments ++ " WHERE "
        ++ conditions, entries.map (·.2) ++ w.conditionValues⟩ : Except Fault Statement) =
    Except.map Marked.statement (do
      let assignments ← markedEqualities d entries
      let table ← w.reference d
      let conditions ← w.markedConditions d
      .ok (plain ("UPDATE " ++ table ++ " SET ") ++ (intercalate ", " assignments ++
        (plain " WHERE " ++ conditions)))) := by
  rw [equalities_eq_marked, renderConditions_eq_marked]
  cases hassigned : markedEqualities d entries with
  | error f => rfl
  | ok assignments =>
    cases w.reference d with
    | error f => rfl
    | ok table =>
      cases hconditions : w.markedConditions d with
      | error f => rfl
      | ok t =>
        have hassignments := values_markedEqualities d hassigned
        have hvalues := w.values_markedConditions d hconditions
        simp [bind, Except.bind, Except.map, Marked.statement, hvalues, hassignments,
          String.append_assoc]

theorem compileUpdate_eq_marked :
    w.compileUpdate d = (w.markedUpdate d).map Marked.statement := by
  rw [compileUpdate, markedUpdate]
  split
  · rfl
  -- an update has exactly one record, and no other number of them
  · rcases w.records with _ | ⟨record, _ | ⟨_, _⟩⟩
    · rfl
    · by_cases hrecord : (!record.truthy) = true
      · simp only [hrecord, if_true]
        rfl
      · simp only [hrecord]
        cases record with
        | record entries => exact w.assigned_eq_marked d entries
        | _ => rfl
    · rfl

/-- A row has as many placeholders as there are columns. -/
theorem sql_markedRow {values : List Value} (h : values.length = w.columns.length) :
    Marked.sql (markedRow values) = w.placeholders := by
  have hparts : (values.map bound).map Marked.sql =
      w.columns.map fun _ => Dialect.placeholder := by
    rw [List.map_map, List.map_const', ← h, ← List.map_const']
    rfl
  rw [markedRow, placeholders, Marked.sql_append, Marked.sql_append, Marked.sql_intercalate, hparts,
    ← String.append_assoc]
  simp

theorem values_markedRow (values : List Value) : Marked.values (markedRow values) = values := by
  simp [markedRow, List.flatMap_map]

/-- Every record makes a row, and a row has a value for each column. -/
theorem gives_rows : Gives (w.records.mapM w.row) fun rows =>
    rows.length = w.records.length ∧ ∀ row ∈ rows, row.length = w.columns.length :=
  .mapM fun record _ => fun row hrow =>
    ((Gives.mapM fun column _ => .trivial (cell record column)) row hrow).1

theorem compileInsert_eq_marked :
    w.compileInsert d = (w.markedInsert d).map Marked.statement := by
  rw [compileInsert, markedInsert]
  split
  · rfl
  · split
    · rfl
    · cases hrows : w.records.mapM w.row with
      | error f => rfl
      | ok rows =>
        -- the code counts records and columns where the reference counts rows and their values
        obtain ⟨hlength, hrow⟩ := w.gives_rows rows hrows
        have htexts : (rows.map markedRow).map Marked.sql =
            w.records.map fun _ => w.placeholders := by
          rw [List.map_map, List.map_const', ← hlength, ← List.map_const']
          exact List.map_congr_left fun row h => w.sql_markedRow (hrow row h)
        have hvalues : (rows.map markedRow).flatMap Marked.values = rows.flatten := by
          rw [List.flatMap_map, List.flatMap_def]
          exact congrArg List.flatten (List.map_id'' values_markedRow rows)
        cases Value.displayAll w.columns with
        | error f => rfl
        | ok columns =>
          cases w.reference d with
          | error f => rfl
          | ok table =>
            cases w.renderUpsert d with
            | error f => rfl
            | ok upsert =>
              simp [bind, Except.bind, Except.map, Marked.statement, htexts, hvalues,
                String.append_assoc]

/-- **Compiled writes are read off marked text.** -/
theorem compile_eq_marked (kind : WriteKind) :
    w.compile kind d = (w.marked kind d).map Marked.statement := by
  cases kind with
  | insert => exact w.compileInsert_eq_marked d
  | update => exact w.compileUpdate_eq_marked d
  | delete => exact w.compileDelete_eq_marked d

end FluentSql.Write
