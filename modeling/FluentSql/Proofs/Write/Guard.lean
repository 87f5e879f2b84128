import FluentSql.Proofs.Execution
import FluentSql.Proofs.Session.Protocol
import FluentSql.Proofs.Write.Edits

/-!
# Guarded writes

An update or a delete goes by the conditions that were demanded of its builder, and without any it
is refused. `Store.updates_and_deletes_are_guarded` says this of every order of edits, with the text
and the values of the statement, and of what a session is given to run.
-/

namespace FluentSql

open WriteEdit

variable {σ : Type}

/-! ### What a session is given to run -/

namespace Session

variable {read : Option Connection → Value → Value} {sql params : Value} {commits : Bool}
  {s s' : Session} {events : List Event}

/-- A transaction sends no statement but the one that it is for. -/
theorem Performs.statement_of_mem {r : Except Fault (Except Fault Yield)}
    (h : Performs read s (.runTransaction sql params commits) events r s') {c : Connection}
    {text bound : Value} {o : Except Fault Rows} (hmem : .query c text bound o ∈ events) :
    text = read (some c) sql ∧ bound = (read (some c) params).orElse (.list []) := by
  cases h with
  | transactionStopped hl => exact absurd (hl.no_statement _ hmem) nofun
  | transactionUnconnected hl => exact absurd (hl.no_statement _ hmem) nofun
  | transaction hl _ ht =>
    rcases List.mem_append.mp hmem with hmem | hmem
    · exact absurd (hl.no_statement _ hmem) nofun
    rcases ht.sent_cases with hnone | ⟨begun, o', later, rfl, hbegun, hlater⟩
    · exact absurd (hnone _ hmem) nofun
    · rcases List.mem_append.mp hmem with hmem | hmem
      · rcases hbegun with rfl | rfl
        · cases hmem
        · cases List.mem_singleton.mp hmem
      · rcases List.mem_cons.mp hmem with heq | hmem
        · cases heq
          exact ⟨rfl, rfl⟩
        · exact absurd (hlater _ hmem) nofun

end Session

namespace Task

variable {w : Workspace (Journal σ)} (drivers : Adapter → Driver σ)

/-- The calls that the driver of a workspace is asked to make by a task, all of which are of one
statement if they are of any. -/
def Sends (w : Workspace (Journal σ)) (statement? : Except Fault Statement)
    (after : Workspace (Journal σ)) : Prop :=
  ∃ events, after.world.events = w.world.events ++ events ∧
    ∀ c sql params r, .query c sql params r ∈ events →
      ∃ statement, statement? = .ok statement ∧ sql = .text statement.sql

theorem Sends.of_same {statement? : Except Fault Statement} {after : Workspace (Journal σ)}
    (h : after.world = w.world) : Sends w statement? after :=
  ⟨[], by rw [h, List.append_nil], nofun⟩

theorem withSession_sends (k : Handle) (statement : Statement) (commits : Bool) :
    Sends w (.ok statement) (withSession (Adapter.recorded drivers) k (fun d =>
      Session.runTransaction d (.text statement.sql) (.list statement.params) commits) w).2 := by
  let bound := w.store.session k
  let read (held : Option Connection) :=
    (w.store.setSession k { bound.session with held }).settle
  obtain ⟨events, r, after, hrun, hp⟩ := Session.runTransaction_follows (drivers bound.adapter)
    (.text statement.sql) (.list statement.params) commits ⟨bound.session, w.world, w.log, read⟩
  have hwith : withSession (Adapter.recorded drivers) k (fun d =>
      Session.runTransaction d (.text statement.sql) (.list statement.params) commits) w =
      (r, ⟨w.store.setSession k after.session, after.world, after.log⟩) := by
    simp only [withSession, Adapter.recorded]
    rw [hrun.apply_eq]
  rw [hwith]
  refine ⟨events, hrun.events_eq, fun c sql params o hmem => ⟨statement, rfl, ?_⟩⟩
  have hsql : sql = read (some c) (.text statement.sql) := (hp.statement_of_mem hmem).1
  rw [hsql]
  exact Store.settleWithin_text _ _ _ _

/-- **A run sends the statement of its builder**, and nothing if there is none. -/
theorem runWrite_sends (h : Handle) (kind : WriteKind) (commits : Bool) :
    Sends w (w.store.compileWrite h kind (w.store.writeDialect h))
      (runWrite (Adapter.recorded drivers) h kind commits w).2 := by
  cases hstatement : w.store.compileWrite h kind (w.store.writeDialect h) with
  | error f =>
    by_cases hrefused : ∃ refusal, f = .refused refusal
    · obtain ⟨refusal, rfl⟩ := hrefused
      obtain ⟨log, hrun⟩ := exists_runWrite_of_refused drivers hstatement commits
      rw [hrun]
      exact .of_same rfl
    · have haccepted : accepted (.error f) w = (.error f, w) := by
        cases f <;> first | rfl | exact absurd ⟨_, rfl⟩ hrefused
      have hrun : runWrite (Adapter.recorded drivers) h kind commits w = (.error f, w) := by
        rw [runWrite, store, Fallible.bind_apply_of_ok (Fallible.view_apply ..), hstatement]
        exact Fallible.bind_apply_of_error haccepted
      rw [hrun]
      exact .of_same rfl
  | ok statement =>
    rw [runWrite, store, Fallible.bind_apply_of_ok (Fallible.view_apply ..), hstatement]
    have haccepted : accepted (.ok statement) w = (.ok (.ok statement), w) := rfl
    rw [Fallible.bind_apply_of_ok haccepted]
    dsimp only
    split
    · exact .of_same rfl
    · rcases hsession : sessionHandle (w.store.write h).session w with ⟨f | k, w'⟩
      · obtain rfl : w = w' := (sessionHandle_same _ w).symm.trans (congrArg Prod.snd hsession)
        rw [Fallible.bind_apply_of_error hsession]
        exact .of_same rfl
      · obtain rfl : w = w' := (sessionHandle_same _ w).symm.trans (congrArg Prod.snd hsession)
        rw [Fallible.bind_apply_of_ok hsession]
        exact withSession_sends drivers k statement commits

/-- A continuation that has no driver make a call, if there is one. -/
def Quiet (callback : Option (Callback (Journal σ))) : Prop :=
  ∀ f ∈ callback, ∀ notice j, (f notice j).2.events = j.events

/-- To tell the outcome sends nothing more. -/
theorem executeWrite_sends (h : Handle) (kind : WriteKind) (commits : Bool)
    {callback : Option (Callback (Journal σ))} (hc : Quiet callback) :
    Sends w (w.store.compileWrite h kind (w.store.writeDialect h))
      (executeWrite (Adapter.recorded drivers) h kind commits callback w).2 := by
  obtain ⟨events, hevents, hsent⟩ := runWrite_sends (w := w) drivers h kind commits
  refine ⟨events, ?_, hsent⟩
  rw [executeWrite]
  refine Fallible.bind_snd (P := fun w' : Workspace (Journal σ) =>
    w'.world.events = w.world.events ++ events) (fun outcome w₁ hrun => ?_) fun f w₁ hrun => ?_
  · rw [hrun] at hevents
    cases callback with
    | none => exact hevents
    | some f =>
      have hquiet := hc f rfl ⟨outcome.isOk, outcome⟩ w₁.world
      rw [← hevents, ← hquiet]
      simp only [notify, Fallible.bind_apply, act]
      rcases f ⟨outcome.isOk, outcome⟩ w₁.world with ⟨_ | _, _⟩ <;> rfl
  · rw [hrun] at hevents
    exact hevents

end Task

/-! ### Updates and deletes -/

/-- The columns of which several edits demand values, each once, in the order in which they came. -/
def WriteEdit.tested (edits : List WriteEdit) : List String :=
  ((demanded edits).map (·.1)).eraseDups

namespace Store

variable {s : Store} {h : Handle} {schema : Option String} {edits : List WriteEdit}
  {rows : List (List (Value × Value))}

/-- The present contents of the last value that was demanded of each column. -/
def testValues (s : Store) (edits : List WriteEdit) : List Value :=
  (tested edits).map fun column => s.settle (lastFor (demanded edits) column)

/-- The updates and deletes of a builder after edits, where its records read as `rows`. -/
structure Guarded (s : Store) (h : Handle) (schema : Option String) (edits : List WriteEdit)
    (rows : List (List (Value × Value))) (d : Dialect) : Prop where
  delete_ok_iff :
    (∃ statement, s.compileWrite h .delete d = .ok statement) ↔ demanded edits ≠ []
  update_ok_iff : (∃ statement, s.compileWrite h .update d = .ok statement) ↔
    demanded edits ≠ [] ∧ ∃ entries, entries ≠ [] ∧ rows = [entries]
  /-- A missing condition is reported whatever else is missing. -/
  unguarded : demanded edits = [] → ∀ kind, kind ≠ .insert →
    s.compileWrite h kind d = .error (.refused .noConditions)
  unrecorded : demanded edits ≠ [] → (¬ ∃ entries, entries ≠ [] ∧ rows = [entries]) →
    s.compileWrite h .update d = .error (.refused .noRecords)
  delete_eq : demanded edits ≠ [] → s.compileWrite h .delete d =
    .ok ⟨"DELETE FROM " ++ (Draft.ofEdits schema edits).place d ++ " WHERE "
      ++ d.guard (tested edits), s.testValues edits⟩
  update_eq : ∀ entries names, demanded edits ≠ [] → entries ≠ [] → rows = [entries] →
    Value.displayAll (entries.map (·.1)) = .ok names → s.compileWrite h .update d =
      .ok ⟨"UPDATE " ++ (Draft.ofEdits schema edits).place d ++ " SET "
        ++ String.intercalate ", " (names.map d.test) ++ " WHERE " ++ d.guard (tested edits),
        entries.map (·.2) ++ s.testValues edits⟩

theorem tested_eq_nil_iff (edits : List WriteEdit) : tested edits = [] ↔ demanded edits = [] := by
  rw [tested, eraseDups_eq_nil_iff, List.map_eq_nil_iff]

theorem conditions_ofEdits (s : Store) (schema : Option String) (edits : List WriteEdit) :
    ((Draft.ofEdits schema edits).map s.settle).conditions =
      (tested edits).map fun column => (column, s.settle (lastFor (demanded edits) column)) := by
  simp [Draft.map, Draft.ofEdits, latest, tested, Function.comp_def]

theorem Edited.guarded (hs : s.Edited h schema edits)
    (hrows : (added edits).map s.settle = rows.map .record)
    (hkeys : ∀ entries ∈ rows, ∃ names, Value.displayAll (entries.map (·.1)) = .ok names)
    (d : Dialect) : s.Guarded h schema edits rows d := by
  let p := (Draft.ofEdits schema edits).map s.settle
  have hnone : p.conditions = [] ↔ demanded edits = [] := by
    rw [conditions_ofEdits, List.map_eq_nil_iff, tested_eq_nil_iff]
  have htested : p.conditions.map (·.1) = tested edits := by
    simp [p, conditions_ofEdits, Function.comp_def]
  have hvalues : p.conditions.map (·.2) = s.testValues edits := by
    simp [p, conditions_ofEdits, testValues, Function.comp_def]
  have hdelete : s.compileWrite h .delete d = p.write.compileDelete d := hs.compileWrite_eq ..
  have hupdate : s.compileWrite h .update d = p.write.compileUpdate d := hs.compileWrite_eq ..
  have hrecords : p.records = rows.map .record := hrows
  obtain ⟨hunguarded, hunrecorded, hrecorded⟩ := p.compileUpdate_write d hrecords
  rw [p.compileDelete_write, htested, hvalues] at hdelete
  simp only [htested, hvalues, ← hupdate, hnone, ne_eq] at hdelete hunguarded hunrecorded hrecorded
  refine ⟨?_, ?_, ?_, hunrecorded, ?_, hrecorded⟩
  · by_cases hdemanded : demanded edits = []
    · simp [hdelete, hdemanded]
    · simp [hdelete, hdemanded]
  · constructor
    · rintro ⟨statement, hstatement⟩
      by_cases hdemanded : demanded edits = []
      · rw [hunguarded hdemanded] at hstatement
        cases hstatement
      · refine ⟨hdemanded, ?_⟩
        by_contra hsingle
        rw [hunrecorded hdemanded hsingle] at hstatement
        cases hstatement
    · rintro ⟨hdemanded, entries, hne, hsingle⟩
      obtain ⟨names, hnames⟩ := hkeys entries (by simp [hsingle])
      exact ⟨_, hrecorded entries names hdemanded hne hsingle hnames⟩
  · intro hdemanded kind hkind
    cases kind with
    | insert => exact absurd rfl hkind
    | update => exact hunguarded hdemanded
    | delete => rw [hdelete, if_pos hdemanded]
  · intro hdemanded
    rw [hdelete, if_neg hdemanded]
    rfl

/-- **Updates and deletes are never unguarded.** Take a write builder after any edits, whose records
are records, and any dialect. A delete is given exactly if a condition was demanded, and an update
exactly if there is a single record with entries besides. It assigns to the columns of the record in
their order, and tests each demanded column once, in the order in which they came; the values are
those of the record and then the last one for each demanded column. To run it, with any drivers,
sends no other statement. -/
theorem updates_and_deletes_are_guarded (hs : s.Edited h schema edits)
    (hrows : (added edits).map s.settle = rows.map .record)
    (hkeys : ∀ entries ∈ rows, ∃ names, Value.displayAll (entries.map (·.1)) = .ok names) :
    (∀ d, s.Guarded h schema edits rows d) ∧
      ∀ {σ : Type} (drivers : Adapter → Driver σ) (w : Workspace (Journal σ)), w.store = s →
        ∀ kind commits callback, kind ≠ .insert → Task.Quiet callback → ∃ events,
          (Task.executeWrite (Adapter.recorded drivers) h kind commits callback w).2.world.events =
            w.world.events ++ events ∧
          ∀ c sql params r, .query c sql params r ∈ events → demanded edits ≠ [] ∧
            ∃ statement front, s.compileWrite h kind (s.writeDialect h) = .ok statement ∧
              sql = .text statement.sql ∧
              statement.sql = front ++ " WHERE " ++ (s.writeDialect h).guard (tested edits) := by
  refine ⟨fun d => hs.guarded hrows hkeys d, ?_⟩
  rintro σ drivers w rfl kind commits callback hkind hquiet
  obtain ⟨events, hevents, hsent⟩ := Task.executeWrite_sends drivers h kind commits hquiet
  refine ⟨events, hevents, fun c sql params r hmem => ?_⟩
  obtain ⟨statement, hstatement, hsql⟩ := hsent c sql params r hmem
  have hg := hs.guarded hrows hkeys (w.store.writeDialect h)
  have hdemanded : demanded edits ≠ [] := by
    intro hnone
    rw [hg.unguarded hnone kind hkind] at hstatement
    cases hstatement
  refine ⟨hdemanded, statement, ?_⟩
  cases kind with
  | insert => exact absurd rfl hkind
  | update =>
    obtain ⟨-, entries, hne, hsingle⟩ := hg.update_ok_iff.mp ⟨statement, hstatement⟩
    obtain ⟨names, hnames⟩ := hkeys entries (by simp [hsingle])
    have hupdate := hg.update_eq entries names hdemanded hne hsingle hnames
    cases hstatement.symm.trans hupdate
    exact ⟨_, hupdate, hsql, rfl⟩
  | delete =>
    have hdelete := hg.delete_eq hdemanded
    cases hstatement.symm.trans hdelete
    exact ⟨_, hdelete, hsql, rfl⟩

/-- An order that is marked as paid. Its number was given twice. -/
def paidOrder : List WriteEdit :=
  [.setTable (some "shop") "orders", .addCondition "id" (.int 1),
    .addRecord (.record [(.text "paid", .bool true), (.text "note", .null)]),
    .addCondition "region" (.text "eu"), .addCondition "id" (.int 7)]

/-- The number that was given last counts, in the place of the first. -/
theorem updates_and_deletes_are_guarded_paidOrder :
    (afterEdits paidOrder).store.Edited 0 none paidOrder ∧
      (afterEdits paidOrder).store.compileWrite 0 .update .postgresql =
        .ok ⟨"UPDATE \"shop\".\"orders\" SET \"paid\" = ?, \"note\" = ? "
          ++ "WHERE \"id\" = ? AND \"region\" = ?",
          [.bool true, .null, .int 7, .text "eu"]⟩ := by
  have hs := edited_afterEdits paidOrder
  have hrows : (added paidOrder).map (afterEdits paidOrder).store.settle =
      [[(Value.text "paid", Value.bool true), (.text "note", .null)]].map .record := rfl
  have hguarded := updates_and_deletes_are_guarded hs hrows fun entries hmem =>
    ⟨["paid", "note"], by rw [List.mem_singleton.mp hmem]; rfl⟩
  refine ⟨hs, ?_⟩
  rw [(hguarded.1 .postgresql).update_eq _ ["paid", "note"] (by simp [demanded, paidOrder, demands])
    (by simp) rfl rfl]
  rfl

end Store

end FluentSql
