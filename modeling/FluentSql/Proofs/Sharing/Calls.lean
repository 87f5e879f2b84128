import FluentSql.Proofs.Session.Parallel
import FluentSql.Proofs.Session.Steps
import FluentSql.Proofs.Sharing.Building
import FluentSql.Script.QueryCall

/-!
# Calls on query builders

Every call on a query builder by name, whether it shapes the builder, compiles it or runs it, leaves
a store in which nothing refers to an object that is not there, and changes no objects but those
that `QueryCall.Changes` names (`QueryCall.evolves`). Stores that come of such calls are `Built`.
-/

namespace FluentSql

variable {σ α β : Type}

/-! ### Sessions at work -/

namespace Session

variable {read : Option Connection → Value → Value} {s s' : Session} {events : List Event}

theorem Opens.driver_eq {settings : Settings} {r : Except Fault (Except Fault Connection)}
    (h : Opens read settings s events r s') (hsettings : settings.driver = s.settings.driver) :
    s'.settings.driver = s.settings.driver := by
  cases h with
  | opened => exact hsettings
  | _ => rfl

/-- Credentials may change with a new connection, and the driver does not. -/
theorem Lives.driver_eq {user password schema : Value}
    {r : Except Fault (Except Fault Connection)}
    (h : Lives read user password schema s events r s') :
    s'.settings.driver = s.settings.driver := by
  cases h with
  | replaced _ _ _ ho => exact ho.driver_eq rfl
  | opened _ ho => exact ho.driver_eq rfl
  | _ => rfl

theorem Fetches.driver_eq {sql params : Value} {r : Except Fault (Except Fault Rows)}
    (h : Fetches read sql params s events r s') : s'.settings.driver = s.settings.driver := by
  cases h with
  | stopped hl => exact hl.driver_eq
  | unconnected hl => exact hl.driver_eq
  | sent hl _ => exact hl.driver_eq

theorem run_driver_eq (d : Driver σ) (sql params : Value) (link : Link σ) :
    (run d sql params link).2.session.settings.driver = link.session.settings.driver := by
  have hplain : run d sql params link = _ := d.beside.run sql params link.recorded
  obtain ⟨events, r, after, hrun, hf⟩ := run_follows d sql params link.recorded
  rw [hplain, hrun.apply_eq]
  exact hf.driver_eq

end Session

/-! ### Tasks -/

namespace Task

open Store

variable {C : Object → Prop} {w : Workspace σ}

/-- A task that makes the store of a workspace evolve. -/
def Evolves (C : Object → Prop) (w : Workspace σ) (t : Task σ α) : Prop :=
  w.store.Evolves C (t w).2.store

namespace Evolves

variable {t : Task σ α} {k : α → Task σ β}

/-- A task that leaves the store as it is. -/
theorem of_same (hs : w.store.IsSound) (h : (t w).2.store = w.store) : Evolves C w t := by
  rw [Evolves, h]
  exact .refl hs

theorem bind (h : Evolves C w t)
    (hk : ∀ a w', t w = (.ok a, w') → w'.store.IsSound → Evolves C w' (k a)) :
    Evolves C w (t >>= k) := by
  refine Fallible.bind_snd (P := fun w' : Workspace σ => w.store.Evolves C w'.store)
    (fun a w' hw => ?_) fun f w' hw => ?_
  · rw [Evolves, hw] at h
    exact h.trans (hk a w' hw h.sound)
  · rw [Evolves, hw] at h
    exact h

theorem build {b : Building α} (h : Building.Evolves C w.store b) :
    Evolves C w (Task.build b : Task σ α) :=
  h

end Evolves

/-- An answer that is read off the store leaves the workspace as it is. -/
theorem answered_eq (read : Store → Except Fault α) (answer : α → β) (w : Workspace σ) :
    (store >>= fun s => Fallible.ofExcept (read s) >>= fun a => pure (answer a) : Task σ β) w =
      ((read w.store).map answer, w) := by
  have hviewed : (store : Task σ Store) w = (.ok w.store, w) := rfl
  rw [Fallible.bind_apply_of_ok hviewed, Fallible.bind_apply, Fallible.ofExcept_apply]
  cases read w.store <;> rfl

theorem store_notify (callback : Option (Callback σ)) (notice : Notice) (w : Workspace σ) :
    (notify callback notice w).2.store = w.store := by
  cases callback <;> rfl

theorem accepted_same (m : Except Fault Statement) (w : Workspace σ) : (accepted m w).2 = w := by
  unfold accepted
  split <;> rfl

theorem sessionHandle_same (v : Value) (w : Workspace σ) : (sessionHandle v w).2 = w := by
  cases v <;> rfl

/-- What can run a statement is a session. -/
theorem exists_of_sessionHandle {v : Value} {k : Handle} {w : Workspace σ}
    (h : (sessionHandle v w).1 = .ok k) : ∃ labels, v = .session k labels := by
  cases v with
  | session j labels =>
    obtain rfl := Except.ok.inj h
    exact ⟨labels, rfl⟩
  | _ => cases h

/-- The session that a query builder works through. -/
def SessionOf (s : Store) (h : Handle) (o : Object) : Prop :=
  ∃ k labels, (s.query h).session = .session k labels ∧ o = .session k

variable (drivers : Adapter → Driver σ) (h : Handle)

theorem withSession_evolves (hs : w.store.IsSound) (k : Handle) (sql params : Value) :
    Evolves (· = .session k) w (withSession drivers k fun d => Session.run d sql params) := by
  exact evolves_setSession hs k (Session.run_driver_eq (drivers (w.store.session k).adapter) sql
    params ⟨(w.store.session k).session, w.world, w.log, _⟩)

theorem fetch_evolves (hs : w.store.IsSound) :
    Evolves (SessionOf w.store h) w (fetch drivers h) := by
  change Evolves (SessionOf w.store h) w (if (w.store.query h).session.isNull then _ else _)
  split
  · exact .of_same hs rfl
  · refine .bind (.of_same hs (by rw [accepted_same])) fun r w' haccepted _ => ?_
    obtain rfl : w = w' := (accepted_same _ w).symm.trans (congrArg Prod.snd haccepted)
    split
    · exact .of_same hs rfl
    · refine .bind (.of_same hs (by rw [sessionHandle_same])) fun k w' hsession _ => ?_
      obtain rfl : w = w' := (sessionHandle_same _ w).symm.trans (congrArg Prod.snd hsession)
      obtain ⟨labels, hlabels⟩ := exists_of_sessionHandle (congrArg Prod.fst hsession)
      refine Store.Evolves.mono (withSession_evolves drivers hs k _ _) ?_
      rintro _ rfl
      exact ⟨k, labels, hlabels, rfl⟩

/-- A run changes the session of the builder, and the rows that the builder keeps. -/
theorem executeQuery_evolves (hs : w.store.IsSound) (callback : Option (Callback σ)) :
    Evolves (fun o => o = .query h ∨ SessionOf w.store h o) w
      (executeQuery drivers h callback) := by
  have hfetch : Evolves (fun o => o = .query h ∨ SessionOf w.store h o) w (fetch drivers h) :=
    Store.Evolves.mono (fetch_evolves drivers h hs) fun _ ho => .inr ho
  refine .bind hfetch fun fetched w' _ hs' => ?_
  have hnotified : ∀ (outcome : Except Fault Yield) (u : Workspace σ), u.store.IsSound →
      Evolves (fun o => o = .query h ∨ SessionOf w.store h o) u
        (notify callback ⟨outcome.isOk, outcome⟩ >>= fun _ => pure outcome) :=
    fun outcome u hs => .bind (.of_same hs (store_notify callback _ u)) fun _ _ _ hs =>
      .of_same hs rfl
  cases fetched with
  | ok rows =>
    have hkept : Building.Evolves (fun o => o = .query h ∨ SessionOf w.store h o) w'.store
        (Building.editQuery h fun q => .ok { q with records := some rows }) := by
      refine Store.Evolves.mono (Building.editQuery_evolves hs' h (.ok ?_)) fun _ ho => .inl ho
      exact { query_within_holds hs' h with }
    exact .bind (.build hkept) fun _ u _ hs => hnotified _ u hs
  | error f => exact .bind (.of_same hs' rfl) fun _ u _ hs => hnotified _ u hs

end Task

/-! ### Arguments -/

namespace Arguments

variable {P : Object → Prop} {a : Arguments}

theorem get?_within (ha : ∀ e ∈ a.given, e.2.Within P) (name : String) :
    ∀ v ∈ a.get? name, v.Within P := by
  intro v hv
  obtain ⟨key, hkey⟩ := mem_of_lookup (Option.mem_def.mp hv)
  exact ha _ hkey

theorem get_within (ha : ∀ e ∈ a.given, e.2.Within P) (name : String) : (a.get name).Within P := by
  rw [get, getOr]
  cases hv : a.given.lookup name with
  | none => exact Value.within_null
  | some v => exact get?_within ha name v hv

end Arguments

namespace QueryCall

open Store

variable {w : Workspace σ} {h : Handle} {a : Arguments} {C : Object → Prop}

/-- Compilation leaves the workspace as it is. -/
theorem compiled_eq (h : Handle) (dialect : Value) (reply : Statement → Reply) (w : Workspace σ) :
    compiled h dialect reply w = ((w.store.compileIn h dialect).map reply, w) :=
  Task.answered_eq (fun s => s.compileIn h dialect) reply w

theorem shape_evolves {b : Building Unit} (hb : Building.Evolves C w.store b) :
    Task.Evolves C w (shape h b) := by
  refine .bind (.build hb) fun _ w' _ hs => .of_same hs ?_
  have hanswered := Task.answered_eq (fun s => s.describeQuery h)
    (fun text => Reply.value (.text text)) w'
  exact congrArg (fun r => r.2.store) hanswered

/-! ### Calls by name -/

/-- The objects that a call on a query builder may change: the builder and the list of its
conditions, the builder that its conditions are copied to, and the session of a run. -/
def Changes (s : Store) (h : Handle) (a : Arguments) (name : String) : Object → Prop
  | .query k =>
    k = h ∨ name ∈ ["copy_params", "copy_conditions"] ∧ (a.get "target").Refers k
  | .list l => (s.query h).conditions = .sharedList l
  | .session k => name = "execute" ∧ ∃ labels, (s.query h).session = .session k labels
  | _ => False

variable {name : String}

theorem changes_of_shaped {s : Store} (o : Object) (ho : Building.Shaped s h o) :
    Changes s h a name o := by
  cases o with
  | query k => exact .inl ho
  | list l => exact ho
  | _ => exact ho.elim

theorem shape_changes {b : Building Unit}
    (hb : Building.Evolves (Building.Shaped w.store h) w.store b) :
    Task.Evolves (Changes w.store h a name) w (shape h b) :=
  Store.Evolves.mono (shape_evolves hb) changes_of_shaped

theorem copy_changes (hs : w.store.IsSound) (hname : name ∈ ["copy_params", "copy_conditions"]) :
    Task.Evolves (Changes w.store h a name) w
      (shape h (Building.copyConditions h (a.get "target"))) := by
  refine Store.Evolves.mono (shape_evolves (Building.copyConditions_evolves hs h _)) ?_
  rintro _ ⟨k, rfl, hk⟩
  exact .inr ⟨hname, hk⟩

theorem execute_changes (hs : w.store.IsSound) (b : Backend σ) (callback : Option (Callback σ)) :
    Task.Evolves (Changes w.store h a "execute") w
      (Reply.outcome <$> Task.executeQuery (Adapter.driver · b) h callback) := by
  refine .bind (Store.Evolves.mono (Task.executeQuery_evolves _ h hs callback) ?_) fun _ _ _ hs =>
    .of_same hs rfl
  rintro _ (rfl | ⟨k, labels, hsession, rfl⟩)
  · exact .inl rfl
  · exact ⟨rfl, labels, hsession⟩

theorem results_same (index column : Value) (w : Workspace σ) :
    (results h index column w).2 = w := by
  have hviewed : (Task.store : Task σ Store) w = (.ok w.store, w) := rfl
  rw [results, Fallible.bind_apply_of_ok hviewed]
  cases (w.store.query h).records with
  | none => rfl
  | some r =>
    simp only [Fallible.bind_apply, Fallible.ofExcept_apply]
    cases r.recall (w.store.settle index) (w.store.settle column) <;> rfl

/-- **Every call on a query builder** changes what it may change and nothing else, and refers to
nothing that is not there. -/
theorem evolves (b : Backend σ) (callback : Option (Callback σ)) {signature : Signature}
    {t : Task σ Reply} (hcall : ofName? b h a callback name = some (signature, t))
    (hs : w.store.IsSound) (ha : ∀ e ∈ a.given, e.2.Within w.store.Holds) :
    Task.Evolves (Changes w.store h a name) w t := by
  have hget : ∀ key, (a.get key).Within w.store.Holds := Arguments.get_within ha
  have hcompared : ∀ operator combinator, Task.Evolves (Changes w.store h a name) w
      (shape h (Building.compareBy operator h (a.get "table") (a.get "column") (a.get "value")
        combinator)) :=
    fun operator combinator => shape_changes (Building.compareBy_evolves hs h operator combinator
      (hget "table") (hget "column") (hget "value"))
  unfold ofName? at hcall
  split at hcall
  all_goals
    cases hcall
  -- tables and fields
  · exact shape_changes (Building.addTable_evolves hs h _ (hget _) (hget _) (hget _) (hget _))
  · exact .of_same hs rfl
  · refine shape_changes (Building.addField_evolves hs h ?_)
    simpa [Field.values] using ⟨hget "table", hget "column", hget "alias"⟩
  · refine shape_changes (Building.addField_evolves hs h ?_)
    simpa [Field.values] using hget "table"
  · exact shape_changes (Building.addConcat_evolves hs h (hget _) (hget _) (hget _))
  · exact shape_changes (Building.count_evolves hs h (hget _) (hget _) (hget _) (hget _))
  · exact shape_changes (Building.addFunction_evolves hs h (hget _) (hget _) (hget _) (hget _)
      (hget _) (Arguments.get?_within ha _))
  · refine shape_changes (Building.addFunction_evolves hs h (Value.within_text _) (hget _) (hget _)
      (hget _) (Value.within_bool _) ?_)
    rintro _ ⟨⟩
    exact hget "fmt"
  · refine shape_changes (Building.addField_evolves hs h ?_)
    simpa [Field.values] using ⟨hget "query", hget "alias"⟩
  -- order and pages
  · exact shape_changes (Building.addOrder_evolves hs h _ (hget _) (hget _))
  · exact shape_changes (Building.edit_evolves hs h ((query_within_holds hs h).setPage _))
  · exact shape_changes (Building.edit_evolves hs h ((query_within_holds hs h).setLimit _))
  · exact shape_changes (Building.setPaging_evolves hs h _ _)
  -- conditions
  · exact shape_changes (Building.compare_evolves hs h _ (hget _) (hget _) (hget _) (hget _))
  · exact hcompared _ _
  · exact hcompared _ _
  · exact hcompared _ _
  · exact hcompared _ _
  · exact hcompared _ _
  · exact hcompared _ _
  · exact hcompared _ _
  · exact hcompared _ _
  · exact hcompared _ _
  · exact shape_changes (Building.compareBy_evolves hs h _ _ (hget _) (hget _) Value.within_null)
  · exact shape_changes (Building.compareBy_evolves hs h _ _ (hget _) (hget _) Value.within_null)
  · exact shape_changes (Building.member_evolves hs h _ _ (hget _) (hget _) (hget _))
  · exact shape_changes (Building.member_evolves hs h _ _ (hget _) (hget _) (hget _))
  · refine shape_changes (Building.compareBy_evolves hs h _ _ (hget _) (hget _) ?_)
    simpa using ⟨hget "low", hget "high"⟩
  · exact shape_changes (Building.addMark_evolves hs h (fun text =>
      Value.within_of_parts rfl (by simp [Value.parts])) _)
  · exact shape_changes (Building.addMark_evolves hs h (fun text =>
      Value.within_of_parts rfl (by simp [Value.parts])) _)
  · refine Store.Evolves.mono (shape_evolves (Building.setConditions_evolves hs h (hget _))) ?_
    rintro _ rfl
    exact .inl rfl
  · exact copy_changes hs (by simp)
  · exact copy_changes hs (by simp)
  -- what is read off, and runs
  · exact .of_same hs rfl
  · exact .of_same hs (by rw [compiled_eq])
  · exact .of_same hs (by rw [compiled_eq])
  · exact .of_same hs (by rw [compiled_eq])
  · exact execute_changes hs b callback
  · exact .of_same hs (congrArg Workspace.store (results_same _ _ w))
  · exact .of_same hs rfl

end QueryCall

namespace Store

/-! ### Stores that are built -/

/-- What write builders and sessions do to a store: they may come and change in any way, if what
they show is there. -/
structure WorksElsewhere (s t : Store) : Prop where
  queries : t.queries = s.queries
  lists : t.lists = s.lists
  records : t.records = s.records
  writes : s.writes.size ≤ t.writes.size
  sessions : s.sessions.size ≤ t.sessions.size
  shown : ∀ k, ∀ o ∈ [Object.write k, Object.session k], t.Holds o →
    ∀ v ∈ t.values o, v.Within t.Holds

/-- The stores that come of calls. A call refers to objects that are there. -/
inductive Built : Store → Prop where
  | empty : Built {}
  | newQuery {s : Store} (hs : Built s) (session dialect : Value) :
      Built (Building.newQuery session dialect s).2
  | newList {s : Store} (hs : Built s) {items : List Value}
      (hitems : ∀ v ∈ items, v.Within s.Holds) : Built (Building.newList items s).2
  | newRecord {s : Store} (hs : Built s) {entries : List (Value × Value)}
      (hentries : (Value.record entries).Within s.Holds) : Built (Building.newRecord entries s).2
  | append {s : Store} (hs : Built s) (l : Handle) {item : Value} (hitem : item.Within s.Holds) :
      Built (Building.append l item s).2
  | put {s : Store} (hs : Built s) (r : Handle) {key value : Value} (hkey : key.Within s.Holds)
      (hvalue : value.Within s.Holds) : Built (Building.put r key value s).2
  | call {σ : Type} {w : Workspace σ} (hw : Built w.store) {b : Backend σ} {h : Handle}
      {a : Arguments} {callback : Option (Callback σ)} {name : String} {signature : Signature}
      {t : Task σ Reply} (hcall : QueryCall.ofName? b h a callback name = some (signature, t))
      (ha : ∀ e ∈ a.given, e.2.Within w.store.Holds) : Built (t w).2.store
  | elsewhere {s t : Store} (hs : Built s) (h : s.WorksElsewhere t) : Built t

variable {s t : Store}

theorem WorksElsewhere.sound (h : s.WorksElsewhere t) (hs : s.IsSound) : t.IsSound := by
  have hholds : ∀ o, s.Holds o → t.Holds o := fun o ho =>
    ho.mono (by rw [h.queries]) (by rw [h.lists]) (by rw [h.records]) h.writes h.sessions
  intro o ho v hv
  cases o with
  | query k =>
    rw [Holds, h.queries] at ho
    rw [values, query, h.queries] at hv
    exact (hs (.query k) ho v hv).mono hholds
  | list k =>
    rw [Holds, h.lists] at ho
    rw [values, list, h.lists] at hv
    exact (hs (.list k) ho v hv).mono hholds
  | record k =>
    rw [Holds, h.records] at ho
    rw [values, record, h.records] at hv
    exact (hs (.record k) ho v hv).mono hholds
  | write k => exact h.shown k _ (by simp) ho v hv
  | session k => exact h.shown k _ (by simp) ho v hv

/-- Nothing in a store that is built refers to an object that is not there. -/
theorem Built.sound (hs : s.Built) : s.IsSound := by
  induction hs with
  | empty =>
    intro o ho
    cases o <;> exact absurd ho (Nat.not_lt_zero _)
  | newQuery _ session dialect ih =>
    exact (Building.newQuery_evolves (C := fun _ => False) ih session dialect).sound
  | newList _ hitems ih => exact (Building.newList_evolves (C := fun _ => False) ih hitems).sound
  | newRecord _ hentries ih =>
    exact (Building.newRecord_evolves (C := fun _ => False) ih hentries).sound
  | append _ l hitem ih => exact (Building.append_evolves ih l hitem).sound
  | put _ r hkey hvalue ih => exact (Building.put_evolves ih r hkey hvalue).sound
  | call _ hcall ha ih => exact (QueryCall.evolves _ _ hcall ih ha).sound
  | elsewhere _ h ih => exact h.sound ih

/-! ### Sequences of calls -/

variable {σ : Type}

/-- Calls on query builders by name, one after another. What is no call does nothing. -/
def callAll (b : Backend σ) : List (Handle × String × Arguments) → Workspace σ → Workspace σ
  | [], w => w
  | (h, name, a) :: rest, w =>
    match QueryCall.ofName? b h a none name with
    | some (_, t) => callAll b rest (t w).2
    | none => callAll b rest w

/-- Any sequence of calls on a store that is built leaves one. -/
theorem Built.callAll (b : Backend σ) {calls : List (Handle × String × Arguments)}
    {w : Workspace σ} (hw : w.store.Built)
    (hcalls : ∀ c ∈ calls, ∀ e ∈ c.2.2.given, e.2.Within w.store.Holds) :
    (callAll b calls w).store.Built := by
  induction calls generalizing w with
  | nil => exact hw
  | cons c rest ih =>
    have hrest : ∀ c ∈ rest, ∀ e ∈ c.2.2.given, e.2.Within w.store.Holds :=
      fun c hc => hcalls c (List.mem_cons_of_mem _ hc)
    rw [Store.callAll]
    split
    · rename_i signature t hcall
      have ha := hcalls c List.mem_cons_self
      have hholds := (QueryCall.evolves b none hcall hw.sound ha).holds
      exact ih (hw.call hcall ha) fun c hc e he => (hrest c hc e he).mono hholds
    · exact ih hw hrest

end Store

end FluentSql
