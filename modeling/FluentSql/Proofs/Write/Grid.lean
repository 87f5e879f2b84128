import FluentSql.Proofs.Placeholder.Translation
import FluentSql.Proofs.Write.Edits

/-!
# Inserts as grids

An insert writes a group of placeholders for each record, and in each group one for every column,
while it collects the values in a list of their own. `Store.inserts_lay_out_a_grid` says that the
two fit together: the values are the grid of the records and the columns, record by record, and no
placeholder stands outside of the groups.
-/

namespace FluentSql

open WriteEdit

/-! ### Grids -/

section Grid

variable {α β γ : Type} (f : α → β → γ) (rows : List α) (columns : List β)

theorem length_grid :
    (rows.flatMap fun a => columns.map (f a)).length = rows.length * columns.length := by
  simp [List.length_flatMap]

/-- A cell stands behind the rows above it and the cells before it. -/
theorem getElem?_grid {r c : Nat} (hc : c < columns.length) :
    (rows.flatMap fun a => columns.map (f a))[r * columns.length + c]? =
      rows[r]?.map fun a => f a columns[c] := by
  induction rows generalizing r with
  | nil => simp
  | cons a rows ih =>
    rw [List.flatMap_cons]
    cases r with
    | zero =>
      rw [List.getElem?_append_left (by simpa using hc)]
      simp [hc]
    | succ r =>
      have hrow : (columns.map (f a)).length ≤ (r + 1) * columns.length + c := by
        rw [List.length_map, Nat.succ_mul]
        omega
      have hrest : (r + 1) * columns.length + c - (columns.map (f a)).length =
          r * columns.length + c := by
        rw [List.length_map, Nat.succ_mul]
        omega
      rw [List.getElem?_append_right hrow, hrest, ih]
      rfl

end Grid

/-! ### Inserts -/

namespace Draft

variable (p : Draft) (d : Dialect) {rows : List (List (Value × Value))}

/-- An insert of the rows lacks something: it has no columns, no rows, or no target where PostgreSQL
needs one. -/
def Lacks (rows : List (List (Value × Value))) : Prop :=
  p.columns = [] ∨ rows = [] ∨ p.updated ≠ [] ∧ d = .postgresql ∧ p.target = []

/-- An insert with each value in its place. -/
def grid (rows : List (List (Value × Value))) : Marked Value :=
  .plain (p.front d) ++ (.intercalate ", " (rows.map fun entries =>
    Write.markedRow (p.columns.map (Value.under entries))) ++ .plain (p.clause d))

theorem markedInsert_write (hrows : p.records = rows.map .record) (h : ¬p.Lacks d rows) :
    p.write.markedInsert d = .ok (p.grid d rows) := by
  obtain ⟨hcolumns, hrecords, htarget⟩ := (not_or.mp h).imp_right not_or.mp
  have hdeclared : p.write.columns.isEmpty = p.columns.isEmpty := List.isEmpty_map
  have hadded : p.write.records = rows.map .record := hrows
  have hshown : Value.displayAll p.write.columns = .ok p.columns := Value.displayAll_text p.columns
  have hgroups : rows.map (fun entries => Write.markedRow (p.columns.map (Value.under entries))) =
      (rows.map fun entries => p.columns.map (Value.under entries)).map Write.markedRow := by
    rw [List.map_map]
    rfl
  simp only [Write.markedInsert, hdeclared, hadded, List.isEmpty_map, List.isEmpty_iff, rows_write,
    hshown, reference_write, renderUpsert_write, if_neg hcolumns, if_neg hrecords, if_neg htarget]
  rw [grid, hgroups]
  rfl

/-- The update clause has no placeholder of its own. -/
theorem marks_clause (htarget : ¬(p.updated ≠ [] ∧ d = .postgresql ∧ p.target = [])) :
    Placeholder.marks (p.clause d).toList = .plain (p.clause d) := by
  have hclause : p.write.renderUpsert d = .ok (p.clause d) := by
    rw [renderUpsert_write, if_neg htarget]
  have hmarks := (p.write.gives_renderUpsert d _ hclause).1.marks_eq
  simpa [Marked.plain, Marked.marks, Function.comp_def, Glyph.char, Glyph.map] using hmarks

/-- An insert lays out its records: as many groups of placeholders as there are records, each with
one for every column, and the values in the same order. -/
structure LaysOut (rows : List (List (Value × Value))) (statement : Statement) : Prop where
  sql_eq : statement.sql = "INSERT INTO " ++ p.place d ++ " (" ++ d.quotedList p.columns
    ++ ") VALUES " ++ String.intercalate ", " (List.replicate rows.length
      ("(" ++ String.intercalate "," (List.replicate p.columns.length Dialect.placeholder) ++ ")"))
    ++ p.clause d
  length_params : statement.params.length = rows.length * p.columns.length
  /-- A record has null under a column that it does not know. -/
  param_at : ∀ r c, ∀ (hr : r < rows.length) (hc : c < p.columns.length),
    statement.params[r * p.columns.length + c]? =
      some ((rows[r].lookup (.text p.columns[c])).getD .null)
  marks_clause : Placeholder.marks (p.clause d).toList = .plain (p.clause d)
  /-- Every placeholder, and no other one, has the value of its record under its column. -/
  survives : Survives statement (p.grid d rows)

theorem compileInsert_of_lacks (hrows : p.records = rows.map .record) (h : p.Lacks d rows) :
    ∃ refusal, p.write.compileInsert d = .error (.refused refusal) := by
  rw [p.compileInsert_write d hrows]
  split
  · exact ⟨_, rfl⟩
  · rename_i hcolumns
    split
    · exact ⟨_, rfl⟩
    · rename_i hrecords
      exact ⟨_, if_pos ((h.resolve_left hcolumns).resolve_left hrecords)⟩

theorem compileInsert_laysOut (hrows : p.records = rows.map .record) (h : ¬p.Lacks d rows) :
    ∃ statement, p.write.compileInsert d = .ok statement ∧ p.LaysOut d rows statement := by
  have hmarked := p.markedInsert_write d hrows h
  have hread : p.write.compileInsert d = .ok (p.grid d rows).statement := by
    rw [p.write.compileInsert_eq_marked, hmarked]
    rfl
  obtain ⟨hcolumns, hrecords, htarget⟩ := (not_or.mp h).imp_right not_or.mp
  have hsurvives := (p.write.gives_markedInsert d _ hmarked).survives
  rw [p.compileInsert_write d hrows, if_neg hcolumns, if_neg hrecords, if_neg htarget] at hread ⊢
  rw [← Except.ok.inj hread] at hsurvives
  refine ⟨_, rfl, ?_, length_grid Value.under rows p.columns, fun r c hr hc => ?_,
    p.marks_clause d htarget, hsurvives⟩
  · simp only [List.map_const', front, group]
  · have hcell := getElem?_grid Value.under rows p.columns (r := r) hc
    rw [List.getElem?_eq_getElem hr] at hcell
    exact hcell

end Draft

namespace Store

variable {s : Store} {h : Handle} {schema : Option String} {edits : List WriteEdit}
  {rows : List (List (Value × Value))}

/-- **An insert lays out its records as a grid.** Take a write builder after any edits, whose
records are records, and any dialect. The insert is refused exactly if there are no columns, no
records, or columns to be updated without a target where PostgreSQL needs one; and it fails in no
other way. Else the values are those of each record under each column, in that order, and so are
their placeholders. -/
theorem inserts_lay_out_a_grid (hs : s.Edited h schema edits)
    (hrows : (added edits).map s.settle = rows.map .record) (d : Dialect) :
    ((∃ f, s.compileWrite h .insert d = .error f) ↔ declared edits = [] ∨ rows = [] ∨
        flagged edits ≠ [] ∧ d = .postgresql ∧ targeted edits = []) ∧
      (∀ f, s.compileWrite h .insert d = .error f → ∃ refusal, f = .refused refusal) ∧
      ∀ statement, s.compileWrite h .insert d = .ok statement →
        (Draft.ofEdits schema edits).LaysOut d rows statement := by
  let p := (Draft.ofEdits schema edits).map s.settle
  have hrecords : p.records = rows.map .record := hrows
  have hinsert : s.compileWrite h .insert d = p.write.compileInsert d := hs.compileWrite_eq ..
  have hlacks : p.Lacks d rows ↔ declared edits = [] ∨ rows = [] ∨
      flagged edits ≠ [] ∧ d = .postgresql ∧ targeted edits = [] := by
    have hflagged : p.updated = [] ↔ flagged edits = [] := eraseDups_eq_nil_iff _
    rw [Draft.Lacks, ne_eq, hflagged]
    rfl
  rw [← hlacks, hinsert]
  by_cases h : p.Lacks d rows
  · obtain ⟨refusal, hrefused⟩ := p.compileInsert_of_lacks d hrecords h
    rw [hrefused]
    refine ⟨⟨fun _ => h, fun _ => ⟨_, rfl⟩⟩, fun f hf => ⟨refusal, ?_⟩, nofun⟩
    exact (Except.error.inj hf).symm
  · obtain ⟨statement, hstatement, hlays⟩ := p.compileInsert_laysOut d hrecords h
    rw [hstatement]
    refine ⟨⟨nofun, fun hlacks => absurd hlacks h⟩, nofun, ?_⟩
    rintro _ ⟨⟩
    -- what an insert lays out has nothing to do with the conditions
    exact ⟨hlays.sql_eq, hlays.length_params, hlays.param_at, hlays.marks_clause, hlays.survives⟩

/-- Two orders, of which one has no note, and the other has something that no column is for. -/
def twoOrders : List WriteEdit :=
  [.setTable none "orders", .addColumn "id" false, .addRecord (.record [(.text "id", .int 1)]),
    .addColumn "note" true, .setTarget ["id"],
    .addRecord (.record [(.text "note", .text "?"), (.text "paid", .bool true),
      (.text "id", .int 2)])]

/-- The first order has null for its note, and the second one its own number. -/
theorem inserts_lay_out_a_grid_twoOrders :
    (afterEdits twoOrders).store.Edited 0 none twoOrders ∧
      ∃ statement, (afterEdits twoOrders).store.compileWrite 0 .insert .postgresql = .ok statement ∧
        statement.params.length = 4 ∧ statement.params[1]? = some .null ∧
        statement.params[2]? = some (.int 2) := by
  have hs := edited_afterEdits twoOrders
  have hrows : (added twoOrders).map (afterEdits twoOrders).store.settle =
      [[(Value.text "id", Value.int 1)],
        [(.text "note", .text "?"), (.text "paid", .bool true), (.text "id", .int 2)]].map
        .record := rfl
  obtain ⟨hfails, -, hgives⟩ := inserts_lay_out_a_grid hs hrows .postgresql
  cases hstatement : (afterEdits twoOrders).store.compileWrite 0 .insert .postgresql with
  | error f => exact absurd (hfails.mp ⟨f, hstatement⟩) (by decide)
  | ok statement =>
    have hlays := hgives statement hstatement
    exact ⟨hs, statement, rfl, hlays.length_params, hlays.param_at 0 1 (by decide) (by decide),
      hlays.param_at 1 0 (by decide) (by decide)⟩

end Store

end FluentSql
