import FluentSql.Proofs.Identifier.Compile
import FluentSql.Proofs.Marked.Write

/-!
# Writes with names

A draft is a write whose schema, table and columns are named by text. Then nothing but what the
write lacks can stand in the way of its statement, and the statement can be written down:
`Draft.compileInsert_write`, `Draft.compileUpdate_write` and `Draft.compileDelete_write`.
-/

namespace FluentSql

namespace Value

/-- The value of a record under a column: null if it has none. -/
def under (entries : List (Value × Value)) (column : String) : Value :=
  (entries.lookup (.text column)).getD .null

theorem displayAll_text (names : List String) : displayAll (names.map text) = .ok names := by
  induction names with
  | nil => rfl
  | cons name names ih =>
    rw [displayAll] at ih
    rw [displayAll, List.map_cons, List.mapM_cons, ih]
    rfl

end Value

/-! ### Clauses -/

namespace Dialect

variable (d : Dialect)

/-- The test that a column equals a bound value. -/
def test (column : String) : String :=
  d.quote column ++ " = " ++ placeholder

/-- The tests of several columns, all of which have to hold. -/
def guard (columns : List String) : String :=
  String.intercalate " AND " (columns.map d.test)

/-- What stands before the assignments of an upsert. -/
def upsertLead (target : List String) : String :=
  match d with
  | mysql => "ON DUPLICATE KEY UPDATE "
  | _ => "ON CONFLICT " ++ (if target.isEmpty then "" else "(" ++ d.quotedList target ++ ") ")
      ++ "DO UPDATE SET "

/-- The value that an insert has for a quoted column. -/
def inserted (column : String) : String :=
  match d with
  | mysql => "VALUES(" ++ column ++ ")"
  | postgresql => "EXCLUDED." ++ column
  | _ => "excluded." ++ column

/-- An upsert assigns to each of its columns what the insert has for it. Only PostgreSQL cannot do
without a target. -/
theorem upsert_eq (columns target : List String) :
    d.upsert columns target =
      if d = .postgresql ∧ target = [] then .error .upsertNeedsTarget
      else .ok (d.upsertLead target ++ d.assignments d.inserted columns) := by
  cases d with
  | postgresql =>
    rcases target with _ | ⟨c, cs⟩
    · rfl
    · have hopen : "ON CONFLICT (" = "ON CONFLICT " ++ "(" := rfl
      have hclose : ") DO UPDATE SET " = ") " ++ "DO UPDATE SET " := rfl
      rw [upsert, if_neg (by simp), if_neg (by simp), hopen, hclose]
      simp only [upsertLead, List.isEmpty_cons, Bool.false_eq_true, if_false, String.append_assoc]
      rfl
  | _ => rfl

theorem conflictColumns_text (target : List String) :
    d.conflictColumns (.list (target.map .text)) = .ok (if d = .mysql then [] else target) := by
  have hgiven : (Value.list (target.map .text)).itemsIfGiven = .ok (target.map .text) := by
    cases target <;> rfl
  cases d with
  | mysql => rfl
  | _ => exact (congrArg (· >>= Value.displayAll) hgiven).trans (Value.displayAll_text target)

theorem upsertOf_text (columns target : List String) :
    d.upsertOf (.list (columns.map .text)) (.list (target.map .text)) =
      (d.upsert columns target).mapError .refused := by
  have hmissing : (!(Value.list (target.map .text)).truthy) = true ↔ target = [] := by
    simp [Value.truthy]
  have hitems : (Value.list (columns.map .text)).items = .ok (columns.map .text) := rfl
  simp only [upsertOf, conflictColumns_text, hmissing, hitems]
  split
  · rename_i h
    rw [upsert_eq, if_pos h]
    rfl
  · -- what MySQL is told about the target does not matter
    have htarget : d.upsert columns (if d = .mysql then [] else target) =
        d.upsert columns target := by
      cases d <;> rfl
    rw [← htarget]
    exact congrArg (· >>= fun shown => (d.upsert shown _).mapError .refused)
      (Value.displayAll_text columns)

end Dialect

/-! ### Drafts -/

/-- A write whose names are text. -/
structure Draft where
  schema : Option String
  table : String
  columns : List String
  updated : List String
  target : List String
  records : List Value
  conditions : List (String × Value)

namespace Draft

/-- The draft as a write. -/
def write (p : Draft) : Write where
  schema := .ofName p.schema
  table := .text p.table
  columns := p.columns.map .text
  updated := p.updated.map .text
  target := p.target.map .text
  records := p.records
  conditions := p.conditions.map fun e => (.text e.1, e.2)

/-- A draft with the values of its records and conditions changed. -/
def map (f : Value → Value) (p : Draft) : Draft :=
  { p with records := p.records.map f, conditions := p.conditions.map fun e => (e.1, f e.2) }

/-- The table as a statement names it, under its schema. A part without characters is no name. -/
def place (p : Draft) (d : Dialect) : String :=
  d.qualified [p.schema.filter (· ≠ ""), (some p.table).filter (· ≠ "")]

/-- What an insert says before its groups. -/
def front (p : Draft) (d : Dialect) : String :=
  "INSERT INTO " ++ p.place d ++ " (" ++ d.quotedList p.columns ++ ") VALUES "

/-- The group of placeholders that an insert has for each record. -/
def group (p : Draft) : String :=
  "(" ++ String.intercalate "," (p.columns.map fun _ => Dialect.placeholder) ++ ")"

/-- The update clause of an insert, with the blank before it. -/
def clause (p : Draft) (d : Dialect) : String :=
  if p.updated = [] then ""
  else " " ++ (d.upsertLead p.target ++ d.assignments d.inserted p.updated)

variable (p : Draft) (d : Dialect)

theorem write_map {f : Value → Value} (hnull : f .null = .null)
    (htext : ∀ s, f (.text s) = .text s) : p.write.map f = (p.map f).write := by
  have hname : ∀ part, f (.ofName part) = .ofName part := by
    rintro (_ | s)
    · exact hnull
    · exact htext s
  simp [Write.map, write, map, hname, htext, Function.comp_def]

/-! ### Parts of statements -/

theorem reference_write : p.write.reference d = .ok (p.place d) := by
  have hparts : [p.write.schema, p.write.table] = [p.schema, some p.table].map .ofName := rfl
  rw [Write.reference, hparts, Dialect.qualifiedName, Value.mapM_name?_ofName]
  rfl

/-- Columns that can be displayed are tested by their names. -/
theorem equalities_eq {entries : List (Value × Value)} {names : List String}
    (h : Value.displayAll (entries.map (·.1)) = .ok names) :
    Write.equalities d entries = .ok (names.map d.test) := by
  induction entries generalizing names with
  | nil =>
    cases h
    rfl
  | cons e entries ih =>
    rw [Value.displayAll, List.map_cons, List.mapM_cons] at h
    rcases hname : e.1.display with f | name
    · rw [hname] at h
      cases h
    · rcases hnames : (entries.map (·.1)).mapM Value.display with f | names'
      · rw [hname, hnames] at h
        cases h
      · rw [hname, hnames] at h
        cases h
        have hrest := ih hnames
        rw [Write.equalities] at hrest
        rw [Write.equalities, List.mapM_cons, Write.equality, Dialect.identifier, hname, hrest]
        rfl

theorem renderConditions_write :
    p.write.renderConditions d = .ok (d.guard (p.conditions.map (·.1))) := by
  have hnames : Value.displayAll (p.write.conditions.map (·.1)) = .ok (p.conditions.map (·.1)) := by
    rw [write, List.map_map, ← Value.displayAll_text, List.map_map]
    rfl
  rw [Write.renderConditions, equalities_eq d hnames]
  rfl

theorem conditionValues_write : p.write.conditionValues = p.conditions.map (·.2) := by
  rw [Write.conditionValues, write, List.map_map]
  rfl

theorem placeholders_write : p.write.placeholders = p.group := by
  rw [Write.placeholders, write, List.map_map]
  rfl

theorem row_write (entries : List (Value × Value)) :
    p.write.row (.record entries) = .ok (p.columns.map (Value.under entries)) := by
  have hrow : ∀ columns : List String, (columns.map Value.text).mapM
      (Write.cell (.record entries)) = .ok (columns.map (Value.under entries)) := by
    intro columns
    induction columns with
    | nil => rfl
    | cons c columns ih =>
      rw [List.map_cons, List.mapM_cons, ih]
      rfl
  exact hrow p.columns

theorem rows_write (rows : List (List (Value × Value))) :
    (rows.map Value.record).mapM p.write.row =
      .ok (rows.map fun entries => p.columns.map (Value.under entries)) := by
  induction rows with
  | nil => rfl
  | cons entries rows ih =>
    rw [List.map_cons, List.mapM_cons, row_write, ih]
    rfl

theorem renderUpsert_write :
    p.write.renderUpsert d =
      if p.updated ≠ [] ∧ d = .postgresql ∧ p.target = [] then .error (.refused .upsertNeedsTarget)
      else .ok (p.clause d) := by
  have hupdated : p.write.updated.isEmpty = p.updated.isEmpty := List.isEmpty_map
  have hupsert : d.upsertOf (.list p.write.updated) (.list p.write.target) =
      (d.upsert p.updated p.target).mapError .refused := d.upsertOf_text p.updated p.target
  rw [Write.renderUpsert, hupdated, hupsert, d.upsert_eq, clause]
  by_cases hnone : p.updated = []
  · simp [hnone]
  · simp only [hnone, List.isEmpty_iff, ne_eq, not_false_eq_true, true_and, if_false]
    split <;> rfl

/-! ### Statements -/

/-- A delete needs a condition, and nothing else. -/
theorem compileDelete_write :
    p.write.compileDelete d =
      if p.conditions = [] then .error (.refused .noConditions)
      else .ok ⟨"DELETE FROM " ++ p.place d ++ " WHERE " ++ d.guard (p.conditions.map (·.1)),
        p.conditions.map (·.2)⟩ := by
  have hconditions : p.write.conditions.isEmpty = p.conditions.isEmpty := List.isEmpty_map
  simp only [Write.compileDelete, hconditions, List.isEmpty_iff, reference_write,
    renderConditions_write, conditionValues_write]
  rfl

/-- An update needs a condition, and a single record with entries. -/
theorem compileUpdate_write {rows : List (List (Value × Value))}
    (hrows : p.records = rows.map .record) :
    (p.conditions = [] → p.write.compileUpdate d = .error (.refused .noConditions)) ∧
      (p.conditions ≠ [] → (¬ ∃ entries, entries ≠ [] ∧ rows = [entries]) →
        p.write.compileUpdate d = .error (.refused .noRecords)) ∧
      ∀ entries names, p.conditions ≠ [] → entries ≠ [] → rows = [entries] →
        Value.displayAll (entries.map (·.1)) = .ok names →
        p.write.compileUpdate d = .ok ⟨"UPDATE " ++ p.place d ++ " SET "
          ++ String.intercalate ", " (names.map d.test) ++ " WHERE "
          ++ d.guard (p.conditions.map (·.1)), entries.map (·.2) ++ p.conditions.map (·.2)⟩ := by
  have hconditions : p.write.conditions.isEmpty = p.conditions.isEmpty := List.isEmpty_map
  have hrecords : p.write.records = rows.map .record := hrows
  simp only [Write.compileUpdate, hconditions, List.isEmpty_iff, hrecords]
  refine ⟨fun hnone => if_pos hnone, fun hgiven hsingle => ?_, ?_⟩
  · rw [if_neg hgiven]
    cases rows with
    | nil => rfl
    | cons entries rest =>
      cases rest with
      | cons _ _ => rfl
      | nil =>
        cases entries with
        | nil => rfl
        | cons e entries => exact absurd ⟨e :: entries, List.cons_ne_nil _ _, rfl⟩ hsingle
  · rintro entries names hgiven hne rfl hnames
    have htruthy : (!(Value.record entries).truthy) = false := by simp [Value.truthy, hne]
    rw [if_neg hgiven]
    simp only [List.map_cons, List.map_nil, htruthy, Bool.false_eq_true, if_false]
    rw [equalities_eq d hnames, reference_write, renderConditions_write, conditionValues_write]
    rfl

/-- Whatever the records of an insert are, their groups stand before its update clause. -/
theorem sql_of_compileInsert {statement : Statement} (h : p.write.compileInsert d = .ok statement) :
    statement.sql =
      p.front d ++ String.intercalate ", " (p.records.map fun _ => p.group) ++ p.clause d := by
  have hshown : Value.displayAll p.write.columns = .ok p.columns := Value.displayAll_text p.columns
  simp only [Write.compileInsert, hshown, reference_write, renderUpsert_write,
    placeholders_write] at h
  split at h
  · cases h
  split at h
  · cases h
  cases hrows : p.write.records.mapM p.write.row with
  | error f =>
    rw [hrows] at h
    cases h
  | ok rows =>
    rw [hrows] at h
    split at h
    · cases h
    · cases h
      rfl

/-- An insert needs columns and records, and an upsert of PostgreSQL a target. -/
theorem compileInsert_write {rows : List (List (Value × Value))}
    (hrows : p.records = rows.map .record) :
    p.write.compileInsert d =
      if p.columns = [] then .error (.refused .noColumns)
      else if rows = [] then .error (.refused .noRecords)
      else if p.updated ≠ [] ∧ d = .postgresql ∧ p.target = [] then
        .error (.refused .upsertNeedsTarget)
      else .ok ⟨p.front d ++ String.intercalate ", " (rows.map fun _ => p.group) ++ p.clause d,
        rows.flatMap fun entries => p.columns.map (Value.under entries)⟩ := by
  have hcolumns : p.write.columns.isEmpty = p.columns.isEmpty := List.isEmpty_map
  have hrecords : p.write.records = rows.map .record := hrows
  have hshown : Value.displayAll p.write.columns = .ok p.columns := Value.displayAll_text p.columns
  simp only [Write.compileInsert, hcolumns, hrecords, List.isEmpty_map, List.isEmpty_iff,
    rows_write, hshown, reference_write, renderUpsert_write, placeholders_write, List.map_map]
  split
  · rfl
  · split
    · rfl
    · split
      · rfl
      · rw [List.flatMap_def]
        rfl

end Draft

end FluentSql
