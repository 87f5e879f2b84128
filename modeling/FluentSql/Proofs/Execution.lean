import FluentSql.Proofs.Refusal.Compile
import FluentSql.Proofs.Refusal.Write
import FluentSql.Proofs.Session.Outcome
import FluentSql.Workspace

/-!
# Running builders

A builder is run by compiling its statement, having a session run it, and telling the outcome to a
continuation. `builders_conclude` says of typed builders, through any drivers, that the run gives an
outcome unless one of its calls is cancelled, and that the outcome is told once, after the last
call. A builder whose statement is refused, or that has no session, makes no call at all.

`Submits` is what the first two parts come to, for queries and writes alike.
-/

namespace FluentSql

variable {σ α : Type}

/-! ### Continuations and outcomes -/

/-- Drivers that write their calls down. -/
def Adapter.recorded (drivers : Adapter → Driver σ) (a : Adapter) : Driver (Journal σ) :=
  (drivers a).recorded

/-- The world that a continuation leaves, if there is one. -/
def Callback.leaves (callback : Option (Callback σ)) (notice : Notice) (world : σ) : σ :=
  match callback with
  | none => world
  | some f => (f notice world).2

/-- A continuation that does not fail, if there is one. -/
def Callback.Returns (callback : Option (Callback σ)) : Prop :=
  ∀ f ∈ callback, ∀ notice world, (f notice world).1 = .ok ()

/-- What a builder works through: a session, or nothing. -/
def Value.IsBinding (v : Value) : Prop :=
  v = .null ∨ ∃ session labels, v = .session session labels

/-- How the run of a builder turns out. Its calls are `events`, and `j` is the journal after the
last of them. -/
structure Concludes (callback : Option (Callback (Journal σ))) (rejected : Prop)
    (w : Workspace (Journal σ)) (events : List Event) (j : Journal σ)
    (outcome : Except Fault (Except Fault Yield)) (w' : Workspace (Journal σ)) : Prop where
  calls : j.events = w.world.events ++ events
  /-- The run has no outcome exactly if one of its calls is cancelled. -/
  stops : StopsAt events outcome
  /-- The outcome is told once, after the last call. -/
  told : ∀ result, outcome = .ok result →
    w'.world = Callback.leaves callback ⟨result.isOk, result⟩ j
  untold : ∀ f, outcome = .error f → w'.world = j
  idle : rejected → (∃ f, outcome = .ok (.error f)) ∧ events = [] ∧ j = w.world ∧
    w'.store.sessions = w.store.sessions

/-- The rows that a query builder keeps: those of a run that succeeds, and else those that it
had. -/
structure KeepsRows (h : Handle) (before : Store) (outcome : Except Fault (Except Fault Yield))
    (after : Store) : Prop where
  fetched : ∀ y, outcome = .ok (.ok y) → ∃ rows, y = .rows rows ∧
    (after.query h).records = some rows
  unchanged : (¬ ∃ y, outcome = .ok (.ok y)) → (after.query h).records = (before.query h).records

namespace Store

/-- A query without a session, or whose statement is refused. -/
def RejectsQuery (s : Store) (h : Handle) : Prop :=
  (s.query h).session = .null ∨
    ∃ refusal, s.compile h (s.queryDialect h) = .error (.refused refusal)

/-- A write without a session, or whose statement is refused. -/
def RejectsWrite (s : Store) (h : Handle) (kind : WriteKind) : Prop :=
  (s.write h).session = .null ∨
    ∃ refusal, s.compileWrite h kind (s.writeDialect h) = .error (.refused refusal)

/-- A query with a session, whose statement has an integer that is too long to be written. -/
def IsUnwritable (s : Store) (h : Handle) : Prop :=
  (s.query h).session ≠ .null ∧
    s.compile h (s.queryDialect h) = .error (.display .tooManyDigits)

/-- A store with the rows of a query builder replaced. -/
def keepRows (s : Store) (h : Handle) (rows : Rows) : Store :=
  { s with queries := s.queries.setIfInBounds h { s.query h with records := some rows } }

end Store

namespace Task

/-! ### Sessions at work -/

/-- What compiling a statement and having a session run it comes to. Nothing is told yet. -/
structure Submits (rejected : Prop) (w : Workspace (Journal σ)) (events : List Event)
    (r : Except Fault (Except Fault α)) (after : Workspace (Journal σ)) : Prop where
  calls : after.world.events = w.world.events ++ events
  stops : StopsAt events r
  queries : after.store.queries = w.store.queries
  idle : rejected → (∃ f, r = .ok (.error f)) ∧ events = [] ∧ after.world = w.world ∧
    after.store.sessions = w.store.sessions

variable {rejected : Prop} {w : Workspace (Journal σ)} (drivers : Adapter → Driver σ)

theorem Submits.of_rejected (f : Fault) (log : List LogLine) :
    Submits rejected w [] (.ok (.error f) : Except Fault (Except Fault α)) { w with log } where
  calls := (List.append_nil _).symm
  stops := .nil _
  queries := rfl
  idle _ := ⟨⟨f, rfl⟩, rfl, rfl, rfl⟩

theorem Submits.map {β : Type} {events : List Event} {r : Except Fault (Except Fault α)}
    {after : Workspace (Journal σ)} (h : Submits rejected w events r after) (g : α → β) :
    Submits rejected w events (r.map (·.map g)) after where
  calls := h.calls
  stops := h.stops.map _
  queries := h.queries
  idle hrejected := by
    obtain ⟨⟨f, rfl⟩, hsame⟩ := h.idle hrejected
    exact ⟨⟨f, rfl⟩, hsame⟩

/-- A session at work, if its work stops exactly where a call is cancelled. -/
theorem withSession_submits {work : Driver (Journal σ) → Work (Journal σ) (Except Fault α)}
    (hr : ¬ rejected) (h : Handle)
    (hwork : ∀ (d : Driver σ) link, Session.Follows (work d.recorded) link fun events r _ =>
      StopsAt events r) :
    ∃ events, Submits rejected w events (withSession (Adapter.recorded drivers) h work w).1
      (withSession (Adapter.recorded drivers) h work w).2 := by
  let bound := w.store.session h
  let read (held : Option Connection) :=
    (w.store.setSession h { bound.session with held }).settle
  obtain ⟨events, r, after, hrun, hs⟩ :=
    hwork (drivers bound.adapter) ⟨bound.session, w.world, w.log, read⟩
  have hwith : withSession (Adapter.recorded drivers) h work w =
      (r, ⟨w.store.setSession h after.session, after.world, after.log⟩) := by
    simp only [withSession, Adapter.recorded]
    rw [hrun.apply_eq]
  rw [hwith]
  exact ⟨events, hrun.events_eq, hs, rfl, fun h => absurd h hr⟩

theorem run_submits (hr : ¬ rejected) (h : Handle) (sql params : Value) :
    ∃ events, Submits rejected w events
      (withSession (Adapter.recorded drivers) h (fun d => Session.run d sql params) w).1
      (withSession (Adapter.recorded drivers) h (fun d => Session.run d sql params) w).2 := by
  refine withSession_submits drivers hr h fun d link => ?_
  obtain ⟨events, r, after, hrun, hf⟩ := Session.run_follows d sql params link
  exact ⟨events, r, after, hrun, hf.stopsAt⟩

theorem runTransaction_submits (hr : ¬ rejected) (h : Handle) (sql params : Value)
    (commits : Bool) :
    ∃ events, Submits rejected w events
      (withSession (Adapter.recorded drivers) h
        (fun d => Session.runTransaction d sql params commits) w).1
      (withSession (Adapter.recorded drivers) h
        (fun d => Session.runTransaction d sql params commits) w).2 := by
  refine withSession_submits drivers hr h fun d link => ?_
  obtain ⟨lives, _, _, course, r, after, -, hl, hrun, hp⟩ :=
    Session.runTransaction_splits d sql params commits link
  exact ⟨lives ++ course, r, after, hrun, hp.stopsAt hl.stopsAt⟩

/-! ### Queries and writes at work -/

theorem fetch_submits {h : Handle} (hbound : (w.store.query h).session.IsBinding)
    (hcompile : (w.store.query h).session ≠ .null → ∀ f,
      w.store.compile h (w.store.queryDialect h) = .error f → ∃ refusal, f = .refused refusal) :
    ∃ events, Submits (w.store.RejectsQuery h) w events
      (fetch (Adapter.recorded drivers) h w).1 (fetch (Adapter.recorded drivers) h w).2 := by
  rw [fetch, store, Fallible.bind_apply_of_ok (Fallible.view_apply ..)]
  rcases hbound with hnull | ⟨g, labels, hsession⟩
  · simp only [hnull, Value.isNull]
    exact ⟨[], .of_rejected _ _⟩
  · cases hstatement : w.store.compile h (w.store.queryDialect h) with
    | error f =>
      have hgiven : (w.store.query h).session ≠ .null := by simp [hsession]
      obtain ⟨refusal, rfl⟩ := hcompile hgiven f hstatement
      simp only [hsession, Value.isNull]
      exact ⟨[], .of_rejected _ _⟩
    | ok statement =>
      have hr : ¬ w.store.RejectsQuery h := by simp [Store.RejectsQuery, hsession, hstatement]
      have hran := run_submits drivers hr (w := w) g (.text statement.sql) (.list statement.params)
      simp only [hsession, Value.isNull] at hran ⊢
      exact hran

/-- Of a refused write, at most a line in the log is left. -/
theorem exists_runWrite_of_refused {h : Handle} {kind : WriteKind} {refusal : Refusal}
    (hrefused : w.store.compileWrite h kind (w.store.writeDialect h) = .error (.refused refusal))
    (commits : Bool) :
    ∃ log, runWrite (Adapter.recorded drivers) h kind commits w =
      (.ok (.error (.refused refusal)), { w with log }) := by
  let table := w.store.settle (w.store.write h).write.table
  -- a table without a display costs the line, not the outcome
  obtain ⟨log, hlog⟩ : ∃ log, logRejected table refusal w = (.ok (), { w with log }) := by
    cases hshown : table.display <;> rw [logRejected, hshown] <;> exact ⟨_, rfl⟩
  refine ⟨log, ?_⟩
  rw [runWrite, store, Fallible.bind_apply_of_ok (Fallible.view_apply ..), hrefused]
  exact (Fallible.bind_apply_of_ok hlog : (logRejected table refusal >>= fun _ =>
    (pure (.error (.refused refusal)) : Task (Journal σ) (Except Fault Yield))) w = _)

theorem runWrite_submits {h : Handle} {kind : WriteKind} {commits : Bool}
    (hbound : (w.store.write h).session.IsBinding)
    (hcompile : ∀ f, w.store.compileWrite h kind (w.store.writeDialect h) = .error f →
      ∃ refusal, f = .refused refusal) :
    ∃ events, Submits (w.store.RejectsWrite h kind) w events
      (runWrite (Adapter.recorded drivers) h kind commits w).1
      (runWrite (Adapter.recorded drivers) h kind commits w).2 := by
  cases hstatement : w.store.compileWrite h kind (w.store.writeDialect h) with
  | error f =>
    obtain ⟨refusal, rfl⟩ := hcompile f hstatement
    obtain ⟨log, hrun⟩ := exists_runWrite_of_refused drivers hstatement commits
    rw [hrun]
    exact ⟨[], .of_rejected _ _⟩
  | ok statement =>
    rw [runWrite, store, Fallible.bind_apply_of_ok (Fallible.view_apply ..), hstatement]
    rcases hbound with hnull | ⟨g, labels, hsession⟩
    · simp only [hnull, Value.isNull]
      exact ⟨[], .of_rejected _ _⟩
    · have hr : ¬ w.store.RejectsWrite h kind := by
        simp [Store.RejectsWrite, hsession, hstatement]
      have hran := runTransaction_submits drivers hr (w := w) g (.text statement.sql)
        (.list statement.params) commits
      simp only [hsession, Value.isNull] at hran ⊢
      exact hran

/-! ### Telling -/

variable {callback : Option (Callback (Journal σ))}

theorem notify_apply {callback : Option (Callback σ)} (hc : Callback.Returns callback)
    (notice : Notice) (w : Workspace σ) : notify callback notice w =
      (.ok (), { w with world := Callback.leaves callback notice w.world }) := by
  cases callback with
  | none => rfl
  | some f =>
    have hreturns : f notice w.world = (.ok (), (f notice w.world).2) :=
      Prod.ext (hc f rfl notice w.world) rfl
    rw [notify, act, hreturns]
    rfl

/-- What was submitted, with its outcome told in the end. -/
theorem Submits.concludes {events : List Event} {r : Except Fault (Except Fault Yield)}
    {w₁ w' : Workspace (Journal σ)} (h : Submits rejected w events r w₁)
    (hsessions : w'.store.sessions = w₁.store.sessions)
    (htold : ∀ result, r = .ok result →
      w'.world = Callback.leaves callback ⟨result.isOk, result⟩ w₁.world)
    (huntold : ∀ f, r = .error f → w'.world = w₁.world) :
    Concludes callback rejected w events w₁.world r w' where
  calls := h.calls
  stops := h.stops
  told := htold
  untold := huntold
  idle hrejected := by
    obtain ⟨hfailed, hevents, hworld, hsame⟩ := h.idle hrejected
    exact ⟨hfailed, hevents, hworld, hsessions.trans hsame⟩

/-- A query with an integer that cannot be written is not run, and nothing is told. -/
theorem executeQuery_of_unwritable {h : Handle} {w : Workspace σ} (drivers : Adapter → Driver σ)
    (callback : Option (Callback σ)) (hbound : (w.store.query h).session.IsBinding)
    (hunwritable : w.store.IsUnwritable h) :
    executeQuery drivers h callback w = (.error (.display .tooManyDigits), w) := by
  obtain ⟨hgiven, hcompile⟩ := hunwritable
  obtain ⟨g, labels, hsession⟩ := hbound.resolve_left hgiven
  have hfetch : fetch drivers h w = (.error (.display .tooManyDigits), w) := by
    rw [fetch, store, Fallible.bind_apply_of_ok (Fallible.view_apply ..), hcompile]
    simp only [hsession, Value.isNull]
    rfl
  exact Fallible.bind_apply_of_error hfetch

section Builders

variable {h : Handle} {w w₁ : Workspace σ} {drivers : Adapter → Driver σ}
  {callback : Option (Callback σ)} (hc : Callback.Returns callback)
include hc

theorem executeQuery_of_rows {rows : Rows} (hf : fetch drivers h w = (.ok (.ok rows), w₁)) :
    executeQuery drivers h callback w = (.ok (.ok (.rows rows)), ⟨w₁.store.keepRows h rows,
      Callback.leaves callback ⟨true, .ok (.rows rows)⟩ w₁.world, w₁.log⟩) := by
  have hkept : build (Building.editQuery h fun q => .ok { q with records := some rows }) w₁ =
      (.ok (), { w₁ with store := w₁.store.keepRows h rows }) := rfl
  have htold := notify_apply hc ⟨true, .ok (.rows rows)⟩
    { w₁ with store := w₁.store.keepRows h rows }
  rw [executeQuery, Fallible.bind_apply_of_ok hf]
  dsimp only
  rw [Fallible.bind_apply_of_ok hkept]
  exact Fallible.bind_apply_of_ok htold

theorem executeQuery_of_fault {f : Fault} (hf : fetch drivers h w = (.ok (.error f), w₁)) :
    ∃ log, executeQuery drivers h callback w =
      (.ok (.error f), ⟨w₁.store, Callback.leaves callback ⟨false, .error f⟩ w₁.world, log⟩) := by
  have hlog : log .debug ("Query failed: " ++ f.message) w₁ = (.ok (),
      { w₁ with log := w₁.log ++ [⟨.debug, "Query failed: " ++ f.message⟩] }) := rfl
  have htold := notify_apply hc ⟨false, .error f⟩
    { w₁ with log := w₁.log ++ [⟨.debug, "Query failed: " ++ f.message⟩] }
  rw [executeQuery, Fallible.bind_apply_of_ok hf]
  dsimp only
  rw [Fallible.bind_apply_of_ok hlog]
  exact ⟨_, Fallible.bind_apply_of_ok htold⟩

theorem executeWrite_of_outcome {kind : WriteKind} {commits : Bool} {outcome : Except Fault Yield}
    (hr : runWrite drivers h kind commits w = (.ok outcome, w₁)) :
    executeWrite drivers h kind commits callback w =
      (.ok outcome, { w₁ with
        world := Callback.leaves callback ⟨outcome.isOk, outcome⟩ w₁.world }) := by
  rw [executeWrite, Fallible.bind_apply_of_ok hr]
  exact Fallible.bind_apply_of_ok (notify_apply hc ⟨outcome.isOk, outcome⟩ w₁)

end Builders

variable {h : Handle}

theorem executeQuery_concludes (hmem : h < w.store.queries.size)
    (hbound : (w.store.query h).session.IsBinding)
    (hcompile : (w.store.query h).session ≠ .null → ∀ f,
      w.store.compile h (w.store.queryDialect h) = .error f → ∃ refusal, f = .refused refusal) :
    ∃ events j, ∀ callback, Callback.Returns callback →
      let run := executeQuery (Adapter.recorded drivers) h callback w
      Concludes callback (w.store.RejectsQuery h) w events j run.1 run.2 ∧
        KeepsRows h w.store run.1 run.2.store := by
  obtain ⟨events, hs⟩ := fetch_submits drivers hbound hcompile
  rcases hfetch : fetch (Adapter.recorded drivers) h w with ⟨f | f | rows, w₁⟩
  all_goals
    rw [hfetch] at hs
    -- all calls are made while fetching, before anything is told
    refine ⟨events, w₁.world, fun callback hc => ?_⟩
    intro run
    have hsubmits := hs.map Yield.rows
    have hrecords : ∀ q, w₁.store.query q = w.store.query q := fun q => by
      rw [Store.query, hs.queries, Store.query]
  · have hrun : run = (.error f, w₁) := Fallible.bind_apply_of_error hfetch
    rw [hrun]
    refine ⟨hsubmits.concludes rfl nofun fun _ _ => rfl, nofun, fun _ => ?_⟩
    rw [hrecords]
  · obtain ⟨log, hrun⟩ : ∃ log, run = _ := executeQuery_of_fault hc hfetch
    rw [hrun]
    refine ⟨hsubmits.concludes rfl ?_ nofun, nofun, fun _ => ?_⟩
    · rintro _ ⟨⟩
      rfl
    · rw [hrecords]
  · have hrun : run = _ := executeQuery_of_rows hc hfetch
    rw [hrun]
    refine ⟨hsubmits.concludes rfl ?_ nofun, ?_, fun hnone => absurd ⟨_, rfl⟩ hnone⟩
    · rintro _ ⟨⟩
      rfl
    · rintro _ ⟨⟩
      refine ⟨rows, rfl, ?_⟩
      rw [← hs.queries] at hmem
      simp [Store.query, Store.keepRows, hmem]

theorem executeWrite_concludes {kind : WriteKind} {commits : Bool}
    (hbound : (w.store.write h).session.IsBinding)
    (hcompile : ∀ f, w.store.compileWrite h kind (w.store.writeDialect h) = .error f →
      ∃ refusal, f = .refused refusal) :
    ∃ events j, ∀ callback, Callback.Returns callback →
      let run := executeWrite (Adapter.recorded drivers) h kind commits callback w
      Concludes callback (w.store.RejectsWrite h kind) w events j run.1 run.2 := by
  obtain ⟨events, hs⟩ := runWrite_submits drivers hbound hcompile
  rcases hwrite : runWrite (Adapter.recorded drivers) h kind commits w with ⟨f | outcome, w₁⟩
  all_goals
    rw [hwrite] at hs
    refine ⟨events, w₁.world, fun callback hc => ?_⟩
    intro run
  · have hrun : run = (.error f, w₁) := Fallible.bind_apply_of_error hwrite
    rw [hrun]
    exact hs.concludes rfl nofun fun _ _ => rfl
  · have hrun : run = _ := executeWrite_of_outcome hc hwrite
    rw [hrun]
    refine hs.concludes rfl ?_ nofun
    rintro _ ⟨⟩
    rfl

end Task

/-- **Running a builder tells its outcome once.** Take a workspace with any sessions, through any
drivers. A typed query or write, bound to a session or to none, is run to an outcome unless a call
is cancelled. To a continuation that does not fail the outcome is told once, after the last call. If
the statement is refused or there is no session, then the outcome is a fault, no call is made, and
no session changes. A query keeps its rows if it succeeds, and else those that it had. Only a query
with an overlong page clause may stop before all that, and then leaves no trace. -/
theorem builders_conclude (drivers : Adapter → Driver σ) (w : Workspace (Journal σ)) (h : Handle) :
    (w.store.IsTyped h → (w.store.query h).session.IsBinding →
      (w.store.IsUnwritable h → w.store.IsOverlong h ∧
        ∀ callback, Task.executeQuery (Adapter.recorded drivers) h callback w =
          (.error (.display .tooManyDigits), w)) ∧
      (¬ w.store.IsUnwritable h → ∃ events j, ∀ callback, Callback.Returns callback →
        let run := Task.executeQuery (Adapter.recorded drivers) h callback w
        Concludes callback (w.store.RejectsQuery h) w events j run.1 run.2 ∧
          KeepsRows h w.store run.1 run.2.store)) ∧
    ∀ kind commits, ((w.store.write h).write.map w.store.settle).IsTyped →
      (w.store.write h).session.IsBinding →
      ∃ events j, ∀ callback, Callback.Returns callback →
        let run := Task.executeWrite (Adapter.recorded drivers) h kind commits callback w
        Concludes callback (w.store.RejectsWrite h kind) w events j run.1 run.2 := by
  constructor
  · intro htyped hbound
    have hfails := Store.compile_failsOnly htyped (w.store.queryDialect h)
    constructor
    · intro hunwritable
      refine ⟨?_, fun callback => Task.executeQuery_of_unwritable _ _ hbound hunwritable⟩
      rcases hfails.of_error hunwritable.2 with ⟨⟨refusal, hrefused⟩, -⟩ | ⟨-, hlong⟩
      · cases hrefused
      · exact hlong
    · intro hwritable
      refine Task.executeQuery_concludes drivers (htyped.mem h .refl) hbound fun hgiven f hf => ?_
      rcases hfails.of_error hf with ⟨hrefused, -⟩ | ⟨rfl, -⟩
      · exact hrefused
      · exact absurd ⟨hgiven, hf⟩ hwritable
  · intro kind commits htyped hbound
    refine Task.executeWrite_concludes drivers hbound fun f hf => ?_
    rcases (Write.compile_failsOnly _ htyped kind).of_error hf with ⟨hrefused, -⟩ | ⟨-, hlong⟩
    · exact hrefused
    · exact hlong.elim

/-! ### A rehearsed run -/

/-- A continuation that writes down what it is told. -/
def Rehearsal.ear : Callback (Journal Rehearsal) := fun notice j =>
  (.ok (), { j with world := { j.world with notices := j.world.notices ++ [notice] } })

theorem Rehearsal.ear_returns : Callback.Returns (some ear) := by
  rintro f ⟨⟩ notice j
  rfl

/-- A query and an empty write that share a session, in a rehearsal. -/
def Workspace.rehearsed (page limit : Option Int) (outcomes : List (String × List Outcome)) :
    Workspace (Journal Rehearsal) where
  store :=
    { queries := #[{ QueryBuilder.ofColumn [] page limit with session := .ofSession 0 }]
      writes := #[{ session := .ofSession 0 }]
      sessions := #[{ adapter := .custom .ansi }] }
  world := { world := { outcomes } }

namespace Workspace

variable (page limit : Option Int) (outcomes : List (String × List Outcome))

theorem select_rehearsed :
    (rehearsed page limit outcomes).store.select 0 = .ofColumn [] page limit :=
  rfl

theorem isTyped_rehearsed : (rehearsed page limit outcomes).store.IsTyped 0 :=
  Store.isTyped_of_single rfl (select_rehearsed page limit outcomes)

theorem isBinding_rehearsed :
    ((rehearsed page limit outcomes).store.query 0).session.IsBinding ∧
      ((rehearsed page limit outcomes).store.write 0).session.IsBinding :=
  ⟨.inr ⟨0, _, rfl⟩, .inr ⟨0, _, rfl⟩⟩

theorem isUnwritable_rehearsed (hlong : (Select.ofColumn [] page limit).IsOverlong) :
    (rehearsed page limit outcomes).store.IsUnwritable 0 :=
  ⟨nofun, Store.compile_of_single rfl (select_rehearsed page limit outcomes) hlong _⟩

theorem not_isOverlong_rehearsed : ¬ (rehearsed none none outcomes).store.IsOverlong 0 := by
  rw [Store.isOverlong_of_single_iff rfl (select_rehearsed none none outcomes)]
  rintro ⟨offset, size, hoffset, -⟩
  cases hoffset

theorem write_isTyped_rehearsed : (((rehearsed page limit outcomes).store.write 0).write.map
    (rehearsed page limit outcomes).store.settle).IsTyped :=
  ⟨⟨_, rfl⟩, ⟨_, rfl⟩, nofun, nofun, nofun, nofun, nofun⟩

end Workspace

/-- A statement that fails, and a delete that is refused. -/
theorem builders_conclude_failed :
    let w := Workspace.rehearsed none none [("query", [.fault .runtime "gone"])]
    let ear := some Rehearsal.ear
    let query := Task.executeQuery (Adapter.recorded fun _ => Rehearsal.driver) 0 ear w
    let write := Task.executeWrite (Adapter.recorded fun _ => Rehearsal.driver) 0 .delete true ear w
    (Callback.Returns ear ∧ w.store.IsTyped 0 ∧ (w.store.query 0).session.IsBinding ∧
      ¬ w.store.IsUnwritable 0 ∧
      ((w.store.write 0).write.map w.store.settle).IsTyped ∧
      (w.store.write 0).session.IsBinding ∧ w.store.RejectsWrite 0 .delete) ∧
    (∃ f, query.1 = .ok (.error f) ∧ query.2.world.world.notices = [⟨false, .error f⟩]) ∧
    (∃ events j, Concludes ear (w.store.RejectsQuery 0) w events j query.1 query.2 ∧
      KeepsRows 0 w.store query.1 query.2.store) ∧
    (∃ f, write.1 = .ok (.error f) ∧ write.2.world.world.notices = [⟨false, .error f⟩]) ∧
    ∃ events j, Concludes ear (w.store.RejectsWrite 0 .delete) w events j write.1 write.2 := by
  intro w ear query write
  have hreturns : Callback.Returns ear := Rehearsal.ear_returns
  have htyped : w.store.IsTyped 0 := Workspace.isTyped_rehearsed ..
  have hwrite : ((w.store.write 0).write.map w.store.settle).IsTyped :=
    Workspace.write_isTyped_rehearsed ..
  obtain ⟨hquerybound, hwritebound⟩ : (w.store.query 0).session.IsBinding ∧
      (w.store.write 0).session.IsBinding := Workspace.isBinding_rehearsed ..
  obtain ⟨hqueries, hwrites⟩ := builders_conclude (fun _ => Rehearsal.driver) w 0
  obtain ⟨hunwritable, hconcludes⟩ := hqueries htyped hquerybound
  have hwritable : ¬ w.store.IsUnwritable 0 := fun h =>
    Workspace.not_isOverlong_rehearsed _ (hunwritable h).1
  obtain ⟨events, j, hquery⟩ := hconcludes hwritable
  obtain ⟨events', j', hdelete⟩ := hwrites .delete true hwrite hwritebound
  exact ⟨⟨hreturns, htyped, hquerybound, hwritable, hwrite, hwritebound, .inr ⟨_, rfl⟩⟩,
    ⟨_, rfl, rfl⟩, ⟨events, j, hquery ear hreturns⟩, ⟨_, rfl, rfl⟩,
    ⟨events', j', hdelete ear hreturns⟩⟩

/-- A query whose statement is cancelled gives no outcome, and neither does one with an overlong
page clause. Nothing is told. -/
theorem queries_without_outcome :
    let cancelled := Workspace.rehearsed none none [("query", [.fault .cancelled ""])]
    let overlong := Workspace.rehearsed (some (10 ^ 3000 + 1)) (some (10 ^ 3000)) []
    let ear := some Rehearsal.ear
    let run := Task.executeQuery (Adapter.recorded fun _ => Rehearsal.driver) 0 ear
    Callback.Returns ear ∧ ∀ w ∈ [cancelled, overlong],
      w.store.IsTyped 0 ∧ (w.store.query 0).session.IsBinding ∧
        (¬ ∃ result, (run w).1 = .ok result) ∧ (run w).2.world.world.notices = [] := by
  intro cancelled overlong ear run
  have hcancelled : (run cancelled).1 = .error (.raised .cancelled "") := rfl
  have hoverlong : run overlong = (.error (.display .tooManyDigits), overlong) :=
    Task.executeQuery_of_unwritable _ _ (Workspace.isBinding_rehearsed ..).1
      (Workspace.isUnwritable_rehearsed _ _ _ (Select.isOverlong_ofColumn (by decide)))
  refine ⟨Rehearsal.ear_returns, List.forall_mem_cons.mpr ⟨?_, List.forall_mem_singleton.mpr ?_⟩⟩
  · refine ⟨Workspace.isTyped_rehearsed .., (Workspace.isBinding_rehearsed ..).1, ?_, rfl⟩
    rintro ⟨result, hresult⟩
    cases hcancelled.symm.trans hresult
  · rw [hoverlong]
    exact ⟨Workspace.isTyped_rehearsed .., (Workspace.isBinding_rehearsed ..).1, nofun, rfl⟩

end FluentSql
