import FluentSql.Proofs.Session.Losses

/-!
# Teardown makes a session like new

Closing a session, and destroying its connection, leave a session as it would be created with the
settings that it has by then: it holds no connection, has no transaction, and has no loss to report.
Whether the calls of the teardown succeed does not matter. So the next statement of a transaction
connects, begins and runs.

There is one exception. A session that lost its connection under a transaction, and could not
connect again, has nothing to close, and closing it then does nothing at all: the loss keeps
waiting, and the next statement of a transaction reports it and is not run.

`teardown_renews` is the main result.
-/

namespace FluentSql

variable {σ : Type}

/-- The calls that open a connection, if all succeed. -/
def openingCalls (settings : Settings) (c : Connection) : List Event :=
  .connect settings (.ok c) ::
    (Session.schemaCalls c settings ++ Session.timeoutCalls c settings)

/-- The calls of a statement that is run in a transaction of its own, if all succeed. -/
def transactionCalls (read : Option Connection → Value → Value) (c : Connection)
    (sql params : Value) (commits : Bool) (rows : Rows) : List Event :=
  [.control c .begin (.ok ()), .statement read c sql params (.ok rows)] ++
    if commits then [.control c .commit (.ok ())] else []

/-- A statement of a transaction connects with the settings, begins, runs, and succeeds. -/
def Step.RunsAfresh (read : Option Connection → Value → Value) (settings : Settings)
    (sql params : Value) (commits : Bool) (step : Step) : Prop :=
  ∃ c rows, step.events = openingCalls (settings.map (read none)) c ++
      transactionCalls read c sql params commits rows ∧
    step.outcome = .ok (.ok (.rows rows))

/-- A teardown has nothing to tear down, and leaves a loss that waits. -/
def Operation.LeavesLoss (d : Driver σ) (op : Operation) (s : Session) (before : List (Turn σ)) :
    Prop :=
  op = .close ∧ s.held = none ∧ LossPending d before

theorem Event.faultless_of_all {events : List Event}
    (h : events.all (·.fault?.isNone) = true) : ∀ e ∈ events, e.fault? = none := by
  simpa using h

namespace Session

variable {read : Option Connection → Value → Value} {s s' : Session} {c : Connection}
  {events : List Event} {sql params : Value} {commits : Bool}

/-! ### After a teardown -/

theorem Closes.eq_of_idle {r : Except Fault Unit} (h : Closes s events r s')
    (hidle : s.held = none → s.inTransaction = false) :
    ∃ lost, s' = { settings := s.settings, transactionLost := lost } := by
  cases h with
  | nothing hs => exact ⟨s.transactionLost, by rw [← hs, ← hidle hs]⟩
  | done => exact ⟨false, rfl⟩
  | stopped => exact ⟨false, rfl⟩

/-- A teardown leaves a session with the settings that it had, and at most a loss. -/
theorem Performs.eq_of_teardown {op : Operation} {r : Except Fault (Except Fault Yield)}
    (h : Performs read s op events r s') (hop : op = .close ∨ op = .destroy)
    (hidle : s.held = none → s.inTransaction = false) :
    ∃ lost, s' = { settings := s.settings, transactionLost := lost } := by
  cases h with
  | close hc => exact hc.eq_of_idle hidle
  | destroy hd => exact ⟨false, hd.eq_released⟩
  | _ => rcases hop with hop | hop <;> cases hop

/-- Of a loss, a teardown leaves what a closing finds without a connection. -/
theorem Performs.lost_iff_of_teardown {op : Operation} {r : Except Fault (Except Fault Yield)}
    (h : Performs read s op events r s') (hop : op = .close ∨ op = .destroy) :
    s'.transactionLost = true ↔ op = .close ∧ s.held = none ∧ s.transactionLost = true := by
  cases h with
  | close hc => simp [hc.lost_iff, and_comm]
  | destroy hd => simp [hd.eq_released, released, settledLoss]
  | _ => rcases hop with hop | hop <;> cases hop

/-! ### Statements whose calls all succeed -/

/-- If no call fails, a connection is opened and set up. -/
theorem Opens.of_faultless {settings : Settings} {r : Except Fault (Except Fault Connection)}
    (h : Opens read settings s events r s') (hok : ∀ e ∈ events, e.fault? = none) :
    ∃ c, events = openingCalls (settings.map (read s.held)) c ∧ r = .ok (.ok c) ∧
      s' = s.connectedTo settings c := by
  rcases r with f | f | c
  · obtain ⟨e, he, hf⟩ := (h.stopsAt f).mp rfl
    rw [Event.cancellation?, hok e he] at hf
    cases hf
  · obtain ⟨-, e, he, -, hf⟩ := h.reports
    exact absurd (hok e he) hf
  · obtain ⟨setup, rfl, hsetup, rfl⟩ := h.exists_setup
    cases hsetup
    exact ⟨c, rfl, rfl, rfl⟩

theorem Lives.opens_of_unheld {user password schema : Value}
    {r : Except Fault (Except Fault Connection)} (h : Lives read user password schema s events r s')
    (hs : s.held = none) :
    Opens read (withCredentials s.settings user password schema) s events r s' := by
  cases h with
  | opened _ ho => exact ho
  | alive hc => exact absurd (hs.symm.trans hc) nofun
  | stopped hc => exact absurd (hs.symm.trans hc) nofun
  | dropStopped hc => exact absurd (hs.symm.trans hc) nofun
  | replaced hc => exact absurd (hs.symm.trans hc) nofun

/-- Where no transaction is open, one is begun. -/
theorem Begins.eq_of_idle (h : Begins c sql s events (.ok (.ok ())) s')
    (hi : s.inTransaction = false) :
    events = [.control c .begin (.ok ())] ∧ s' = { s with inTransaction := true } := by
  generalize hr : (Except.ok (.ok ()) : Except Fault (Except Fault Unit)) = r at h
  cases h with
  | joined hi' => exact absurd (hi.symm.trans hi') nofun
  | failed => cases eq_of_passedOn hr.symm
  | begun => exact ⟨rfl, rfl⟩

/-- If no call fails, a statement of a transaction runs in a transaction of its own where none is
open and none was lost. -/
theorem Transacts.of_faultless {r : Except Fault (Except Fault Yield)}
    (h : Transacts read sql params commits c s events r s')
    (hok : ∀ e ∈ events, e.fault? = none) (hl : s.transactionLost = false)
    (hi : s.inTransaction = false) (hc : s.held = some c) :
    ∃ rows, events = transactionCalls read c sql params commits rows ∧
      r = .ok (.ok (.rows rows)) := by
  have hfault : ∀ {e f}, e ∈ events → e.fault? ≠ some f := by
    intro e f he hf
    exact absurd ((hok e he).symm.trans hf) nofun
  cases h with
  | lost hl' => exact absurd (hl.symm.trans hl') nofun
  | beginStopped _ hb =>
    obtain ⟨e, he, hf⟩ := (hb.stopsAt _).mp rfl
    exact absurd (Option.filter_eq_some_iff.mp hf).1 (hfault he)
  | unbegun _ hb =>
    obtain ⟨cause, rfl, -⟩ := hb.eq_of_error
    exact absurd rfl (hfault List.mem_cons_self)
  | stopped => exact absurd rfl (hfault (List.mem_append_right _ (List.mem_singleton_self _)))
  | failed => exact absurd rfl (hfault (List.mem_append_right _ List.mem_cons_self))
  | leftOpen _ hb hcommits =>
    obtain ⟨rfl, -⟩ := hb.eq_of_idle hi
    exact ⟨_, by simp [transactionCalls, hcommits], rfl⟩
  | committed _ hb hcommits he =>
    obtain ⟨rfl, rfl⟩ := hb.eq_of_idle hi
    obtain ⟨o, rfl, rfl, -⟩ := he.called_of_open hl rfl hc
    rcases o with f | ⟨⟩
    · exact absurd rfl (hfault (e := .control c .commit (.error f)) (by simp))
    · exact ⟨_, by simp [transactionCalls, hcommits], rfl⟩

/-- A statement of a transaction that finds a loss reports it. -/
theorem Transacts.outcome_of_lost {r : Except Fault (Except Fault Yield)}
    (h : Transacts read sql params commits c s events r s') (hl : s.transactionLost = true) :
    r = .ok (.error (.transactionLost sql)) := by
  obtain ⟨sql', rfl⟩ := h.reports_iff.mpr hl
  generalize hr : (Except.ok (.error (.transactionLost sql')) : Except Fault (Except Fault Yield))
    = r at h
  cases h with
  | lost => rfl
  | beginStopped hl' => exact absurd (hl'.symm.trans hl) nofun
  | unbegun hl' => exact absurd (hl'.symm.trans hl) nofun
  | stopped hl' => exact absurd (hl'.symm.trans hl) nofun
  | failed hl' => exact absurd (hl'.symm.trans hl) nofun
  | leftOpen hl' => exact absurd (hl'.symm.trans hl) nofun
  | committed hl' => exact absurd (hl'.symm.trans hl) nofun

end Session

/-! ### The statement after a teardown -/

namespace Operation

variable (d : Driver σ) {link : Link σ} (sql params : Value) (commits : Bool)

/-- A statement of a transaction on a session without a connection connects, if no call fails, and
goes on from there. -/
theorem step_of_unheld (hs : link.session.held = none)
    (hok : ∀ e ∈ ((runTransaction sql params commits).step d link).1.events, e.fault? = none) :
    ∃ c course, ((runTransaction sql params commits).step d link).1.events =
        openingCalls (link.session.settings.map (link.read none)) c ++ course ∧
      Session.Transacts link.read sql params commits c
        (link.session.connectedTo link.session.settings c) course
        ((runTransaction sql params commits).step d link).1.outcome
        ((runTransaction sql params commits).step d link).2.session := by
  obtain ⟨r, course, hl, -, hevents, hp⟩ := step_runTransaction d sql params commits link
  rw [hevents] at hok
  obtain ⟨c, hopening, rfl, hconnected⟩ :=
    (hl.opens_of_unheld hs).of_faultless fun e he => hok e (List.mem_append_left course he)
  rw [hconnected] at hp
  rw [hs] at hopening
  cases hp with
  | connected _ ht => exact ⟨c, course, hevents.trans (by rw [hopening]; rfl), ht⟩

variable {settings : Settings}

/-- On a session such as a new one, a statement of a transaction is run, if no call fails. -/
theorem step_runs_afresh (hlink : link.session = { settings })
    (hok : ∀ e ∈ ((runTransaction sql params commits).step d link).1.events, e.fault? = none) :
    ((runTransaction sql params commits).step d link).1.RunsAfresh link.read settings sql params
      commits := by
  obtain ⟨c, course, hevents, ht⟩ := step_of_unheld d sql params commits (by rw [hlink]) hok
  rw [hlink] at hevents ht
  rw [hevents] at hok
  obtain ⟨rows, rfl, houtcome⟩ :=
    ht.of_faultless (fun e he => hok e (List.mem_append_right _ he)) rfl rfl rfl
  exact ⟨c, rows, hevents, houtcome⟩

/-- A loss that is left is reported by the next statement of a transaction, which connects and does
nothing else. -/
theorem step_reports_loss (hlink : link.session = { settings, transactionLost := true })
    (hok : ∀ e ∈ ((runTransaction sql params commits).step d link).1.events, e.fault? = none) :
    ((runTransaction sql params commits).step d link).1.outcome =
        .ok (.error (.transactionLost sql)) ∧
      ∃ c, ((runTransaction sql params commits).step d link).1.events =
        openingCalls (settings.map (link.read none)) c := by
  obtain ⟨c, course, hevents, ht⟩ := step_of_unheld d sql params commits (by rw [hlink]) hok
  rw [hlink] at hevents ht
  obtain ⟨rfl, -⟩ := ht.eq_of_lost rfl
  exact ⟨ht.outcome_of_lost rfl, c, hevents.trans (List.append_nil _)⟩

end Operation

/-! ### Histories -/

section History

variable (d : Driver σ) (settings : Settings) (world : σ) (log : List LogLine)
  (read : Option Connection → Value → Value) (ops : List Operation)

/-- **A teardown makes a session like new.** Take any operations on a fresh session, any driver, and
then a closing or a destruction, however its calls turn out. It leaves the session that would be
created with the settings it has by then, and a statement of a transaction that comes next is run
afresh, if none of its calls fails.

The exception is a closing that has no connection to close, while a loss waits: it leaves the loss,
and the next statement of a transaction connects, reports the loss and is not run. -/
theorem teardown_renews {op : Operation} (hop : op = .close ∨ op = .destroy) :
    let link := Link.after d ops ⟨{ settings }, world, log, read⟩
    let before := turns d ops ⟨{ settings }, world, log, read⟩
    let after := (op.step d link).2
    (¬ op.LeavesLoss d link.session before →
      after.session = { settings := link.session.settings } ∧
      ∀ sql params commits,
        let next := ((Operation.runTransaction sql params commits).step d after).1
        (∀ e ∈ next.events, e.fault? = none) →
          next.RunsAfresh read link.session.settings sql params commits) ∧
    (op.LeavesLoss d link.session before →
      after.session = { settings := link.session.settings, transactionLost := true } ∧
      ∀ sql params commits,
        let next := ((Operation.runTransaction sql params commits).step d after).1
        (∀ e ∈ next.events, e.fault? = none) →
          next.outcome = .ok (.error (.transactionLost sql)) ∧
          ∃ c, next.events = openingCalls (link.session.settings.map (read none)) c) := by
  intro link before after
  have htracks := (history_tracks d settings world log read ops).1
  have hread : after.read = read :=
    (op.step_read d link).trans (Link.after_read d ops ⟨{ settings }, world, log, read⟩)
  have hperforms := op.step_performs d link
  obtain ⟨lost, hsession⟩ := hperforms.eq_of_teardown hop htracks.idle_of_unheld
  have hlost : lost = true ↔ op.LeavesLoss d link.session before := by
    have hleft := hperforms.lost_iff_of_teardown hop
    rwa [hsession, after_lost_iff] at hleft
  rw [← hread]
  constructor
  · intro hnone
    obtain rfl : lost = false := by simpa [hnone] using hlost
    exact ⟨hsession, fun _ _ _ => Operation.step_runs_afresh d _ _ _ hsession⟩
  · intro hleaves
    obtain rfl := hlost.mpr hleaves
    exact ⟨hsession, fun _ _ _ => Operation.step_reports_loss d _ _ _ hsession⟩

end History

/-- A closing in the middle of a transaction. -/
theorem teardown_renews_after_close :
    let link := Rehearsal.link {} []
    let ops := [Operation.runTransaction (.text "A") .null false]
    let closed := (Operation.close.step Rehearsal.driver (Link.after Rehearsal.driver ops link)).2
    closed.session = {} ∧
      ((Operation.runTransaction (.text "B") .null true).step Rehearsal.driver closed).1.RunsAfresh
        (fun _ v => v) {} (.text "B") .null true := by
  have h := (teardown_renews Rehearsal.driver {} {} [] (fun _ v => v)
    [.runTransaction (.text "A") .null false] (.inl rfl)).1 fun h => Option.some_ne_none 1 h.2.1
  exact ⟨h.1, h.2 _ _ _ (Event.faultless_of_all rfl)⟩

/-- A session that lost its connection and found no other is not made like new by closing it: it
reports the loss afterwards, though no call fails. -/
theorem closing_keeps_unreported_loss :
    let link := Rehearsal.link {} [("ping", [.fault .os "gone"]),
      ("connect", [.answer {}, .fault .os "refused"])]
    let ops := [Operation.runTransaction (.text "A") .null false,
      .ensureConnected .null .null .null]
    let closed := (Operation.close.step Rehearsal.driver (Link.after Rehearsal.driver ops link)).2
    let next :=
      ((Operation.runTransaction (.text "B") .null false).step Rehearsal.driver closed).1
    closed.session ≠ { settings := closed.session.settings } ∧
      (∀ e ∈ next.events, e.fault? = none) ∧
      next.outcome = .ok (.error (.transactionLost (.text "B"))) := by
  refine ⟨fun h => ?_, Event.faultless_of_all rfl, rfl⟩
  exact Bool.false_ne_true (congrArg Session.transactionLost h).symm

end FluentSql
