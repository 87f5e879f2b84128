import FluentSql.Builder.Write
import FluentSql.Proofs.Refusal.Query

/-!
# Writes are refused if incomplete

A typed write has a statement unless it lacks a part that the statement needs, and is refused then:
`Write.compile_failsOnly`. Which parts these are depends on the kind of the write, and for an upsert
on the dialect.
-/

namespace FluentSql.Write

/-- A write as builders make it: records are given as such, and columns by names. -/
structure IsTyped (w : Write) : Prop where
  schema : w.schema.Displays
  table : w.table.Displays
  columns : ∀ c ∈ w.columns, ∃ name, c = .text name
  updated : ∀ c ∈ w.updated, c.Displays
  target : ∀ c ∈ w.target, c.Displays
  records : ∀ r ∈ w.records, ∃ entries, r = .record entries ∧ ∀ e ∈ entries, e.1.Displays
  conditions : ∀ e ∈ w.conditions, e.1.Displays

/-- A write without a part that its statement needs. PostgreSQL has to be told which columns
identify a row that an insert meets. An update takes one record, which is not empty. -/
def IsIncomplete (w : Write) (d : Dialect) : WriteKind → Prop
  | .insert => w.columns = [] ∨ w.records = [] ∨ w.updated ≠ [] ∧ d = .postgresql ∧ w.target = []
  | .update => w.conditions = [] ∨ ¬ ∃ entries, entries ≠ [] ∧ w.records = [.record entries]
  | .delete => w.conditions = []

variable {w : Write} (d : Dialect)

theorem exists_equalities {entries : List (Value × Value)} (h : ∀ e ∈ entries, e.1.Displays) :
    ∃ texts, equalities d entries = .ok texts := by
  refine exists_mapM_ok fun e he => ?_
  obtain ⟨shown, hshown⟩ := h e he
  rw [equality, Dialect.identifier, hshown]
  exact ⟨_, rfl⟩

theorem exists_row {record : Value} (hw : w.IsTyped) (hr : record ∈ w.records) :
    ∃ values, w.row record = .ok values := by
  obtain ⟨entries, rfl, -⟩ := hw.records record hr
  refine exists_mapM_ok fun c hc => ?_
  obtain ⟨name, rfl⟩ := hw.columns c hc
  exact ⟨_, rfl⟩

section Parts

variable (hw : w.IsTyped)
include hw

theorem exists_reference : ∃ text, w.reference d = .ok text := by
  have hparts : ∀ v ∈ [w.schema, w.table], v.Displays := by simp [hw.schema, hw.table]
  exact d.exists_qualifiedName hparts

theorem exists_renderConditions : ∃ text, w.renderConditions d = .ok text := by
  obtain ⟨tests, htests⟩ := exists_equalities d hw.conditions
  rw [renderConditions, htests]
  exact ⟨_, rfl⟩

/-- The columns that identify a row are written, and as many as there are. -/
theorem exists_conflictColumns : ∃ names, d.conflictColumns (.list w.target) = .ok names ∧
    (d = .postgresql → names = [] → w.target = []) := by
  obtain ⟨names, hnames⟩ := exists_mapM_ok hw.target
  have hlength : names.length = w.target.length :=
    (Gives.mapM (P := fun _ => True) (fun v _ => .trivial _) names hnames).1
  cases htarget : w.target with
  | nil =>
    refine ⟨[], ?_, fun _ _ => rfl⟩
    cases d <;> rfl
  | cons v vs =>
    rw [htarget] at hnames hlength
    cases d with
    | mysql => exact ⟨[], rfl, nofun⟩
    | _ =>
      refine ⟨names, hnames, fun _ hempty => ?_⟩
      rw [hempty] at hlength
      cases hlength

theorem renderUpsert_failsOnly :
    FailsOnly (w.renderUpsert d) (w.updated ≠ [] ∧ d = .postgresql ∧ w.target = []) False := by
  rw [renderUpsert]
  split
  · rename_i hempty
    exact (FailsOnly.ok _).congr (by simp [List.isEmpty_iff.mp hempty]) Iff.rfl
  · rename_i hgiven
    have hupdated : w.updated ≠ [] := fun hempty => hgiven (List.isEmpty_iff.mpr hempty)
    obtain ⟨updated, hshown⟩ := exists_mapM_ok hw.updated
    obtain ⟨conflict, hconflict, hnonempty⟩ := exists_conflictColumns d hw
    rw [Dialect.upsertOf]
    split
    · rename_i hmissing
      have htarget : d = .postgresql ∧ w.target = [] := by
        simpa [Value.truthy] using hmissing
      exact (FailsOnly.refused _).map _ |>.congr (by simp [hupdated, htarget]) Iff.rfl
    · rename_i hpresent
      have htarget : ¬ (d = .postgresql ∧ w.target = []) := by
        simpa [Value.truthy] using hpresent
      have hclause : ∃ text, d.upsert updated conflict = .ok text := by
        cases d with
        | postgresql =>
          have hne : conflict ≠ [] := fun hempty => htarget ⟨rfl, hnonempty rfl hempty⟩
          rw [Dialect.upsert, if_neg (by simpa using hne)]
          exact ⟨_, rfl⟩
        | _ => exact ⟨_, rfl⟩
      obtain ⟨text, htext⟩ := hclause
      have hgives : FailsOnly (do
          let updated ← Value.displayAll w.updated
          let conflict ← d.conflictColumns (.list w.target)
          (d.upsert updated conflict).mapError .refused) False False := by
        rw [Value.displayAll, hshown, hconflict]
        exact .of_ok ⟨text, congrArg (Except.mapError Fault.refused) htext⟩
      exact (hgives.map _).congr (by simp [htarget]) Iff.rfl

theorem compileInsert_failsOnly :
    FailsOnly (w.compileInsert d) (w.IsIncomplete d .insert) False := by
  obtain ⟨rows, hrows⟩ := exists_mapM_ok fun r hr => exists_row hw hr
  obtain ⟨columns, hcolumns⟩ : ∃ shown, Value.displayAll w.columns = .ok shown := by
    refine exists_mapM_ok fun c hc => ?_
    obtain ⟨name, rfl⟩ := hw.columns c hc
    exact ⟨name, rfl⟩
  rw [compileInsert]
  split
  · rename_i hempty
    exact (FailsOnly.refused _).congr (by simp [IsIncomplete, List.isEmpty_iff.mp hempty]) Iff.rfl
  · rename_i hnamed
    split
    · rename_i hempty
      exact (FailsOnly.refused _).congr (by simp [IsIncomplete, List.isEmpty_iff.mp hempty]) Iff.rfl
    · rename_i hgiven
      rw [List.isEmpty_iff] at hnamed hgiven
      refine (FailsOnly.ok_bind ⟨rows, hrows⟩ fun rows _ => .ok_bind ⟨columns, hcolumns⟩
        fun columns _ => .ok_bind (exists_reference d hw) fun table _ =>
        (renderUpsert_failsOnly d hw).bind_ok fun upsert => ⟨_, rfl⟩).congr ?_ Iff.rfl
      simp [IsIncomplete, hnamed, hgiven]

theorem compileUpdate_failsOnly :
    FailsOnly (w.compileUpdate d) (w.IsIncomplete d .update) False := by
  rw [compileUpdate]
  split
  · rename_i hempty
    exact (FailsOnly.refused _).congr (by simp [IsIncomplete, List.isEmpty_iff.mp hempty]) Iff.rfl
  · rename_i hgiven
    rw [List.isEmpty_iff] at hgiven
    split
    · rename_i record hrecord
      obtain ⟨entries, rfl, hkeys⟩ := hw.records record (by simp [hrecord])
      split
      · rename_i hempty
        have hnil : entries = [] := by simpa [Value.truthy] using hempty
        exact (FailsOnly.refused _).congr (by simp [IsIncomplete, hrecord, hnil]) Iff.rfl
      · rename_i hnonempty
        have hne : entries ≠ [] := by simpa [Value.truthy] using hnonempty
        exact (FailsOnly.ok_bind (exists_equalities d hkeys) fun assignments _ => .ok_bind
          (exists_reference d hw) fun table _ => .ok_bind (exists_renderConditions d hw)
          fun conditions _ => .ok _).congr (by simp [IsIncomplete, hgiven, hrecord, hne]) Iff.rfl
    · rename_i hnone
      refine (FailsOnly.refused _).congr (iff_of_true trivial (.inr ?_)) Iff.rfl
      rintro ⟨entries, -, hrecord⟩
      exact hnone _ hrecord

theorem compileDelete_failsOnly :
    FailsOnly (w.compileDelete d) (w.IsIncomplete d .delete) False := by
  rw [compileDelete]
  split
  · rename_i hempty
    exact (FailsOnly.refused _).congr (by simp [IsIncomplete, List.isEmpty_iff.mp hempty]) Iff.rfl
  · rename_i hgiven
    rw [List.isEmpty_iff] at hgiven
    exact (FailsOnly.ok_bind (exists_reference d hw) fun table _ => .ok_bind
      (exists_renderConditions d hw) fun conditions _ => .ok _).congr
      (by simp [IsIncomplete, hgiven]) Iff.rfl

/-- **Writes are refused exactly if incomplete.** -/
theorem compile_failsOnly (kind : WriteKind) :
    FailsOnly (w.compile kind d) (w.IsIncomplete d kind) False :=
  match kind with
  | .insert => compileInsert_failsOnly d hw
  | .update => compileUpdate_failsOnly d hw
  | .delete => compileDelete_failsOnly d hw

end Parts

end FluentSql.Write
