import Mathlib.Data.List.DropRight
import Mathlib.Data.List.Forall2
import FluentSql.Proofs.Session.Steps
import FluentSql.Rehearsal

/-!
# Chains are committed whole

Statements that run in a transaction without committing it are a **chain**. A chain ends when it is
committed, rolled back, given up by the session, or reported as failed. The main result: whenever a
session reports that it committed, every statement of the chain that it reported as run was sent on
one connection, behind one `begin` and before the `commit`, with no other call in between that
begins or ends a transaction.

`Chained` is the invariant. It speaks of the session as it is, the statements of the chain that ran,
and the calls since the chain started. `Performs.advances` is its step, and by
`Session.ChainedAfter.concat` it holds throughout a history.
-/

namespace FluentSql

/-! ### Chains -/

/-- The faults by which an operation reports that a chain is over. -/
def Fault.endsChain : Fault → Bool
  | aborted .. | transactionLost .. | commitFailed .. => true
  | _ => false

/-- Whether a call ends a transaction, or tried to. -/
def Event.isEnding : Event → Bool
  | .control _ .commit _ | .control _ .rollback _ => true
  | _ => false

namespace Step

/-- Whether a step reports that a transaction was committed. -/
def commits (step : Step) : Bool :=
  match step.operation, step.outcome with
  | .commit, .ok (.ok _) => true
  | .runTransaction _ _ true, .ok (.ok _) => true
  | _, _ => false

/-- Whether a step reports that it ran a statement of a transaction. -/
def ranStatement (step : Step) : Bool :=
  match step.operation, step.outcome with
  | .runTransaction .., .ok (.ok _) => true
  | _, _ => false

/-- Whether a chain is over after a step. A step that was cancelled ends its chain only if it had
already called for the end of the transaction: whether that took place is then known to nobody. -/
def endsChain (step : Step) : Bool :=
  match step.operation, step.outcome with
  | .rollback, _ => true
  | .close, _ => true
  | .destroy, _ => true
  | _, .ok (.error f) => f.endsChain
  | _, .ok (.ok _) => step.commits
  | _, .error _ => step.events.any (·.isEnding)

/-- The call by which a step ran its statement on a connection. -/
def Sent (read : Option Connection → Value → Value) (c : Connection) (step : Step) (e : Event) :
    Prop :=
  e ∈ step.events ∧ ∃ sql params commits rows, step.operation = .runTransaction sql params commits ∧
    step.outcome = .ok (.ok (.rows rows)) ∧ e = .statement read c sql params (.ok rows)

/-- The steps since the last one that ended a chain. -/
def sinceBoundary (steps : List Step) : List Step :=
  steps.rtakeWhile fun step => !step.endsChain

end Step

/-- The calls end within a transaction that was begun on `c`, and whose statements are those of the
steps `ran`, in this order. -/
def WithinTransaction (read : Option Connection → Value → Value) (c : Connection)
    (ran : List Step) (events : List Event) : Prop :=
  ∃ before within statements, events = before ++ .control c .begin (.ok ()) :: within ∧
    (∀ e ∈ within, e.isTransactional = false) ∧ statements.Sublist within ∧
    List.Forall₂ (Step.Sent read c) ran statements

/-- The chain that `last` committed was committed as a whole: all its statements ran within one
transaction, up to the `commit` that is the last call of `last`. -/
def CommittedWhole (read : Option Connection → Value → Value) (chain : List Step) (last : Step) :
    Prop :=
  (chain ++ [last]).filter (·.ranStatement) ≠ [] →
    ∃ c before own, WithinTransaction read c ((chain ++ [last]).filter (·.ranStatement)) before ∧
      Step.allEvents (chain ++ [last]) = before ++ [.control c .commit (.ok ())] ∧
      last.events = own ++ [.control c .commit (.ok ())]

variable {σ : Type} {read : Option Connection → Value → Value} {c : Connection} {ran : List Step}
  {events more : List Event}

theorem Event.isTransactional_of_isEnding {e : Event} (h : e.isEnding = true) :
    e.isTransactional = true := by
  rcases e with _ | ⟨_, call, _⟩ | _ <;> try cases h
  cases call <;> first | rfl | cases h

theorem any_isEnding_of_quiet (h : ∀ e ∈ events, e.isTransactional = false) :
    events.any (·.isEnding) = false := by
  rw [List.any_eq_false]
  intro e he hending
  exact absurd (Event.isTransactional_of_isEnding hending) (by rw [h e he]; nofun)

namespace WithinTransaction

theorem begun (read : Option Connection → Value → Value) (c : Connection) (events : List Event) :
    WithinTransaction read c [] (events ++ [.control c .begin (.ok ())]) :=
  ⟨events, [], [], rfl, nofun, List.Sublist.refl [], .nil⟩

/-- A transaction goes on while no call begins or ends one. -/
theorem append (h : WithinTransaction read c ran events)
    (hmore : ∀ e ∈ more, e.isTransactional = false) :
    WithinTransaction read c ran (events ++ more) := by
  obtain ⟨before, within, statements, rfl, hquiet, hsub, hsent⟩ := h
  refine ⟨before, within ++ more, statements, by simp, ?_, ?_, hsent⟩
  · intro e he
    rcases List.mem_append.mp he with he | he
    · exact hquiet e he
    · exact hmore e he
  · exact hsub.trans (List.sublist_append_left within more)

/-- A statement that runs is one more of the transaction. -/
theorem sent (h : WithinTransaction read c ran events) {step : Step} {e : Event}
    (hs : step.Sent read c e) : WithinTransaction read c (ran ++ [step]) (events ++ [e]) := by
  obtain ⟨before, within, statements, rfl, hquiet, hsub, hsent⟩ := h
  refine ⟨before, within ++ [e], statements ++ [e], by simp, ?_, ?_, ?_⟩
  · intro e' he'
    rcases List.mem_append.mp he' with he' | he'
    · exact hquiet e' he'
    · obtain ⟨_, _, _, _, _, _, _, rfl⟩ := hs
      rw [List.mem_singleton.mp he']
      rfl
  · exact hsub.append (List.Sublist.refl [e])
  · exact List.rel_append hsent (.cons hs .nil)

end WithinTransaction

namespace Session

variable {s s' : Session}

/-! ### Which operations leave a transaction alone -/

/-- Making sure of a connection neither begins nor ends a transaction by a call. -/
theorem Lives.quiet {user password schema : Value} {r : Except Fault (Except Fault Connection)}
    (h : Lives read user password schema s events r s') :
    ∀ e ∈ events, e.isTransactional = false :=
  fun e he => Event.isTransactional_of_isUpkeep (h.upkeep e he)

theorem Opens.eq_or_connectedTo {settings : Settings} {r : Except Fault (Except Fault Connection)}
    (h : Opens read settings s events r s') : s' = s ∨ ∃ c, s' = s.connectedTo settings c := by
  cases h with
  | opened => exact .inr ⟨_, rfl⟩
  | _ => exact .inl rfl

/-- Making sure of a connection leaves the session as it is, or without a transaction. A transaction
that was open is then lost. -/
theorem Lives.same_or_cutOff {user password schema : Value}
    {r : Except Fault (Except Fault Connection)} (h : Lives read user password schema s events r s')
    (hs : s.held = none → s.inTransaction = false) :
    s' = s ∨ s'.inTransaction = false ∧
      s'.transactionLost = (s.transactionLost || s.inTransaction) := by
  cases h with
  | alive => exact .inl rfl
  | stopped => exact .inl rfl
  | dropStopped => exact .inr ⟨rfl, rfl⟩
  | replaced _ _ _ ho =>
    rcases ho.eq_or_connectedTo with rfl | ⟨c, rfl⟩
    · exact .inr ⟨rfl, rfl⟩
    · exact .inr ⟨rfl, rfl⟩
  -- without a connection there is no transaction that could be lost
  | opened hnone ho =>
    rcases ho.eq_or_connectedTo with rfl | ⟨c, rfl⟩
    · exact .inl rfl
    · exact .inr ⟨rfl, by rw [hs hnone, Bool.or_false]; rfl⟩

/-- A connection that could not be made sure of is not reported as the end of a chain. -/
theorem Lives.goes_on {user password schema : Value} {f : Fault}
    (h : Lives read user password schema s events (.ok (.error f)) s') : f.endsChain = false := by
  -- the only failure to report is that of a new connection, which comes behind the loss of the old
  have hopens : ∀ {settings s events s'}, Opens read settings s events (.ok (.error f)) s' →
      f.endsChain = false := by
    intro settings s events s' ho
    obtain ⟨-, ⟨cause, rfl, -⟩ | ⟨c, cause, setup, dropping, rfl, -⟩⟩ := ho.failed_cases
    · rfl
    · rfl
  cases h with
  | replaced _ _ _ ho => exact hopens ho
  | opened _ ho => exact hopens ho

theorem Fetches.quiet {sql params : Value} {r : Except Fault (Except Fault Rows)}
    (h : Fetches read sql params s events r s') : ∀ e ∈ events, e.isTransactional = false := by
  intro e he
  cases h with
  | stopped hl => exact hl.quiet e he
  | unconnected hl => exact hl.quiet e he
  | sent hl =>
    rcases List.mem_append.mp he with he | he
    · exact hl.quiet e he
    · rw [List.mem_singleton.mp he]
      rfl

theorem Fetches.goes_on {sql params : Value} {f : Fault}
    (h : Fetches read sql params s events (.ok (.error f)) s') : f.endsChain = false := by
  generalize hr : (Except.ok (.error f) : Except Fault (Except Fault Rows)) = r at h
  cases h with
  | stopped => cases hr
  | unconnected hl =>
    cases hr
    exact hl.goes_on
  | @sent _ _ _ r =>
    rcases r with g | rows
    · cases eq_of_passedOn hr.symm
      rfl
    · cases hr

/-! ### The invariant -/

/-- The invariant of a session whose chain ran the statements of `ran` in the calls `events`. A
transaction that is open is the one of the chain; without one, and without a loss to report, the
chain is empty. -/
structure Chained (read : Option Connection → Value → Value) (s : Session) (ran : List Step)
    (events : List Event) : Prop where
  idle_of_lost : s.transactionLost = true → s.inTransaction = false
  empty : s.transactionLost = false → s.inTransaction = false → ran = []
  within : s.inTransaction = true → ∃ c, s.held = some c ∧ WithinTransaction read c ran events

namespace Chained

/-- A session without a transaction starts a chain. -/
theorem start (hi : s.inTransaction = false) (events : List Event) :
    Chained read s [] events where
  idle_of_lost _ := hi
  empty _ _ := rfl
  within ht := absurd (hi.symm.trans ht) nofun

/-- Without a transaction it does not matter which calls are made. -/
theorem of_idle (h : Chained read s ran events) (hi : s.inTransaction = false)
    (others : List Event) : Chained read s ran others where
  idle_of_lost := h.idle_of_lost
  empty := h.empty
  within ht := absurd (hi.symm.trans ht) nofun

theorem idle_of_unheld (h : Chained read s ran events) (hs : s.held = none) :
    s.inTransaction = false := by
  rw [Bool.eq_false_iff]
  intro ht
  obtain ⟨c, hc, _⟩ := h.within ht
  rw [hs] at hc
  cases hc

theorem within_held (h : Chained read s ran events) (hi : s.inTransaction = true)
    (hc : s.held = some c) : WithinTransaction read c ran events := by
  obtain ⟨c', hc', hw⟩ := h.within hi
  obtain rfl := Option.some.inj (hc'.symm.trans hc)
  exact hw

theorem append (h : Chained read s ran events) (hmore : ∀ e ∈ more, e.isTransactional = false) :
    Chained read s ran (events ++ more) where
  idle_of_lost := h.idle_of_lost
  empty := h.empty
  within ht := by
    obtain ⟨c, hc, hw⟩ := h.within ht
    exact ⟨c, hc, hw.append hmore⟩

theorem of_within (hl : s.transactionLost = false) (hi : s.inTransaction = true)
    (hc : s.held = some c) (hw : WithinTransaction read c ran events) :
    Chained read s ran events where
  idle_of_lost ht := absurd (hl.symm.trans ht) nofun
  empty _ hidle := absurd (hi.symm.trans hidle) nofun
  within _ := ⟨c, hc, hw⟩

/-- Making sure of a connection keeps the invariant: a transaction either goes on, or is lost and
the loss waits to be reported. -/
theorem lives {user password schema : Value} {r : Except Fault (Except Fault Connection)}
    (h : Chained read s ran events) (hl : Lives read user password schema s more r s') :
    Chained read s' ran (events ++ more) := by
  rcases hl.same_or_cutOff h.idle_of_unheld with rfl | ⟨hi, hlost⟩
  · exact h.append hl.quiet
  -- an open transaction is lost; with no loss to report there was none, and nothing had run
  · refine ⟨fun _ => hi, fun hnone _ => ?_, fun ht => absurd (hi.symm.trans ht) nofun⟩
    rw [hlost, Bool.or_eq_false_iff] at hnone
    exact h.empty hnone.1 hnone.2

theorem fetches {sql params : Value} {r : Except Fault (Except Fault Rows)}
    (h : Chained read s ran events) (hf : Fetches read sql params s more r s') :
    Chained read s' ran (events ++ more) := by
  have hquiet := hf.quiet
  cases hf with
  | stopped hl => exact h.lives hl
  | unconnected hl => exact h.lives hl
  | sent hl =>
    rw [← List.append_assoc]
    refine (h.lives hl).append ?_
    intro e he
    exact hquiet e (List.mem_append_right _ he)

/-- Behind a `begin` the calls are within the transaction of the chain. -/
theorem begins {sql : Value} (h : Chained read s ran events) (hl : s.transactionLost = false)
    (hc : s.held = some c) (hb : Begins c sql s more (.ok (.ok ())) s') :
    s'.transactionLost = false ∧ s'.inTransaction = true ∧ s'.held = some c ∧
      WithinTransaction read c ran (events ++ more) := by
  generalize hr : (Except.ok (.ok ()) : Except Fault (Except Fault Unit)) = r at hb
  cases hb with
  | joined hi =>
    rw [List.append_nil]
    exact ⟨hl, hi, hc, h.within_held hi hc⟩
  | failed => cases eq_of_passedOn hr.symm
  | begun hi =>
    -- a `begin` is sent only if no transaction is open, and then the chain is empty
    obtain rfl := h.empty hl hi
    exact ⟨hl, rfl, hc, .begun read c events⟩

end Chained

/-! ### The begin and the end of a transaction -/

theorem Begins.any_isEnding {sql : Value} {r : Except Fault (Except Fault Unit)}
    (h : Begins c sql s events r s') : events.any (·.isEnding) = false := by
  cases h <;> rfl

/-- A `begin` that failed leaves the session as it was, and is no end of a chain. -/
theorem Begins.eq_of_failed {sql : Value} {r : Except Fault (Except Fault Unit)}
    (h : Begins c sql s events r s') (hr : r ≠ .ok (.ok ())) :
    s' = s ∧ s.inTransaction = false ∧ ∀ f, r = .ok (.error f) → f.endsChain = false := by
  cases h with
  | joined => exact absurd rfl hr
  | @failed f hi =>
    refine ⟨rfl, hi, ?_⟩
    intro g hg
    cases eq_of_passedOn hg
    rfl
  | begun => exact absurd rfl hr

theorem RollsBack.inTransaction_eq {r : Except Fault (Except Fault Yield)}
    (h : RollsBack s events r s')
    (hs : s.held = none → s.inTransaction = false) : s'.inTransaction = false := by
  cases h with
  | idle hi => exact hi.elim id hs
  | called => rfl

/-- The rollback of an open transaction calls for it, and reports how that went. -/
theorem RollsBack.called_of_open {r : Except Fault (Except Fault Yield)}
    (h : RollsBack s events r s') (hi : s.inTransaction = true) (hc : s.held = some c) :
    ∃ o, events = [.control c .rollback o] ∧
      r = (passedOn .rollbackFailed o).map (·.map fun _ => .nothing) ∧
      s' = s.settledLoss.ended := by
  cases h with
  | idle hidle =>
    rcases hidle with hidle | hidle
    · exact absurd (hidle.symm.trans hi) nofun
    · exact absurd (hidle.symm.trans hc) nofun
  | @called c' o _ hc' =>
    obtain rfl := Option.some.inj (hc'.symm.trans hc)
    exact ⟨o, rfl, rfl, rfl⟩

/-- A failed statement of an open transaction ends it, with a call or more. -/
theorem Recovers.ends {r : Except Fault Unit} (h : Recovers s events r s')
    (hi : s.inTransaction = true) (hc : s.held = some c) :
    s'.inTransaction = false ∧ events.any (·.isEnding) = true := by
  -- a rollback saves its call only where there is nothing to roll back
  have hcalled : ∀ {events r s'}, RollsBack s events r s' →
      s'.inTransaction = false ∧ events.any (·.isEnding) = true := by
    intro events r s' hr
    obtain ⟨o, rfl, -, rfl⟩ := hr.called_of_open hi hc
    exact ⟨rfl, rfl⟩
  cases h with
  | rolledBack hr => exact hcalled hr
  | stopped hr => exact hcalled hr
  | dropped hr hd =>
    rw [hd.eq_released, List.any_append, (hcalled hr).2]
    exact ⟨rfl, rfl⟩

/-- The commit of an open transaction calls for it, and reports how that went. -/
theorem Commits.called_of_open {r : Except Fault (Except Fault Yield)} (h : Commits s events r s')
    (hl : s.transactionLost = false) (hi : s.inTransaction = true) (hc : s.held = some c) :
    ∃ o, events = [.control c .commit o] ∧
      r = (passedOn .commitFailed o).map (·.map fun _ => .nothing) ∧ s'.inTransaction = false := by
  cases h with
  | lost hl' => exact absurd (hl.symm.trans hl') nofun
  | idle _ hidle =>
    rcases hidle with hidle | hidle
    · exact absurd (hidle.symm.trans hi) nofun
    · exact absurd (hidle.symm.trans hc) nofun
  | @called c' o _ _ hc' =>
    obtain rfl := Option.some.inj (hc'.symm.trans hc)
    exact ⟨o, rfl, rfl, rfl⟩

/-! ### Steps -/

/-- What a step does to its chain: it ends it, or takes it further. A step that reports a commit
committed the chain whole. -/
structure Advances (read : Option Connection → Value → Value) (s' : Session) (chain : List Step)
    (step : Step) : Prop where
  chained : (step.endsChain = true ∧ s'.inTransaction = false) ∨
    (step.endsChain = false ∧ Chained read s' ((chain ++ [step]).filter (·.ranStatement))
      (Step.allEvents (chain ++ [step])))
  whole : step.commits = true → CommittedWhole read chain step

variable {chain : List Step} {step : Step}

theorem filter_concat_ran (hr : step.ranStatement = true) :
    (chain ++ [step]).filter (·.ranStatement) = chain.filter (·.ranStatement) ++ [step] := by
  rw [List.filter_append, List.filter_cons_of_pos hr, List.filter_nil]

theorem filter_concat_other (hr : step.ranStatement = false) :
    (chain ++ [step]).filter (·.ranStatement) = chain.filter (·.ranStatement) := by
  rw [List.filter_append, List.filter_cons_of_neg (by rw [hr]; nofun), List.filter_nil,
    List.append_nil]

theorem Advances.of_end (he : step.endsChain = true) (hi : s'.inTransaction = false)
    (hc : step.commits = false) : Advances read s' chain step where
  chained := .inl ⟨he, hi⟩
  whole ht := absurd (hc.symm.trans ht) nofun

theorem Advances.of_other (he : step.endsChain = false) (hr : step.ranStatement = false)
    (hc : step.commits = false)
    (h : Chained read s' (chain.filter (·.ranStatement)) (Step.allEvents chain ++ step.events)) :
    Advances read s' chain step where
  chained := by
    refine .inr ⟨he, ?_⟩
    rw [filter_concat_other hr, Step.allEvents_append, Step.allEvents_singleton]
    exact h
  whole ht := absurd (hc.symm.trans ht) nofun

/-- A statement of a transaction takes its chain further, unless it fails or commits. -/
theorem Transacts.advances {sql params : Value} {commits : Bool} {course : List Event}
    {r : Except Fault (Except Fault Yield)}
    (h : Chained read s (chain.filter (·.ranStatement)) (Step.allEvents chain ++ events))
    (hquiet : ∀ e ∈ events, e.isTransactional = false) (hc : s.held = some c)
    (ht : Transacts read sql params commits c s course r s') :
    Advances read s' chain ⟨.runTransaction sql params commits, events ++ course, r⟩ := by
  have hends : events.any (·.isEnding) = false := any_isEnding_of_quiet hquiet
  cases ht with
  | lost hl => exact .of_end rfl (h.idle_of_lost hl) (by cases commits <;> rfl)
  -- without a `begin` that succeeded the chain is empty as before
  | beginStopped hl hb =>
    obtain ⟨rfl, hi, -⟩ := hb.eq_of_failed nofun
    refine .of_other ?_ rfl (by cases commits <;> rfl) (h.of_idle hi _)
    change (events ++ course).any (·.isEnding) = false
    rw [List.any_append, hends, hb.any_isEnding]
    rfl
  | unbegun hl hb =>
    obtain ⟨rfl, hi, hf⟩ := hb.eq_of_failed nofun
    exact .of_other (hf _ rfl) rfl (by cases commits <;> rfl) (h.of_idle hi _)
  -- a statement that was cancelled leaves its transaction open, and the chain goes on without it
  | @stopped begun f _ hl hb hf =>
    obtain ⟨hl', hi, hc', hw⟩ := h.begins hl hc hb
    refine .of_other ?_ rfl (by cases commits <;> rfl) ?_
    · change (events ++ (begun ++ [Event.statement read c sql params (.error f)])).any
        (·.isEnding) = false
      rw [List.any_append, List.any_append, hends, hb.any_isEnding]
      rfl
    · have hstatement : ∀ e ∈ [Event.statement read c sql params (.error f)],
          e.isTransactional = false := by
        intro e he
        rw [List.mem_singleton.mp he]
        rfl
      have hw' := hw.append hstatement
      rw [List.append_assoc, List.append_assoc] at hw'
      exact .of_within hl' hi hc' hw'
  -- a statement that failed takes the transaction with it, whether or not the recovery succeeds
  | @failed begun recovery f _ _ r hl hb hf hr =>
    obtain ⟨hl', hi, hc', hw⟩ := h.begins hl hc hb
    obtain ⟨hidle, hends'⟩ := hr.ends hi hc'
    rcases r with g | ⟨⟩
    · refine .of_end ?_ hidle (by cases commits <;> rfl)
      change (events ++ (begun ++ .statement read c sql params (.error f) :: recovery)).any
        (·.isEnding) = true
      rw [List.any_append, List.any_append, List.any_cons, hends', Bool.or_true, Bool.or_true,
        Bool.or_true]
    · exact .of_end rfl hidle (by cases commits <;> rfl)
  -- the statement is one more of the chain
  | @leftOpen begun rows _ hl hb hcommits =>
    obtain ⟨hl', hi, hc', hw⟩ := h.begins hl hc hb
    subst hcommits
    have hsent : Step.Sent read c ⟨.runTransaction sql params false,
        events ++ (begun ++ [.statement read c sql params (.ok rows)]), .ok (.ok (.rows rows))⟩
        (.statement read c sql params (.ok rows)) :=
      ⟨by simp, sql, params, false, rows, rfl, rfl, rfl⟩
    have hw' := hw.sent hsent
    rw [List.append_assoc, List.append_assoc] at hw'
    refine ⟨.inr ⟨rfl, ?_⟩, nofun⟩
    rw [filter_concat_ran rfl, Step.allEvents_append, Step.allEvents_singleton]
    exact .of_within hl' hi hc' hw'
  -- the transaction ends here in any case; only a commit that succeeded is reported as one
  | @committed begun ending rows _ _ r hl hb hcommits he =>
    obtain ⟨hl', hi, hc', hw⟩ := h.begins hl hc hb
    obtain ⟨o, rfl, rfl, hidle⟩ := he.called_of_open hl' hi hc'
    subst hcommits
    rcases o with f | ⟨⟩
    · by_cases hf : f.isCancellation = true
      · rw [passedOn_of_cancelled _ hf]
        refine .of_end ?_ hidle rfl
        change (events ++ (begun ++ Event.statement read c sql params (.ok rows) ::
          [Event.control c .commit (.error f)])).any (·.isEnding) = true
        simp [Event.isEnding]
      · rw [passedOn_of_handled _ (by simpa using hf)]
        exact .of_end rfl hidle rfl
    · have hsent : Step.Sent read c ⟨.runTransaction sql params true,
          events ++ (begun ++ .statement read c sql params (.ok rows) ::
            [.control c .commit (.ok ())]), .ok (.ok (.rows rows))⟩
          (.statement read c sql params (.ok rows)) :=
        ⟨by simp, sql, params, true, rows, rfl, rfl, rfl⟩
      have hw' := hw.sent hsent
      refine ⟨.inl ⟨rfl, hidle⟩, fun _ _ => ?_⟩
      refine ⟨c,
        Step.allEvents chain ++ events ++ begun ++ [.statement read c sql params (.ok rows)],
        events ++ (begun ++ [.statement read c sql params (.ok rows)]), ?_, ?_, ?_⟩
      · rw [filter_concat_ran rfl]
        exact hw'
      · simp
      · simp

theorem Commits.advances {r : Except Fault (Except Fault Yield)}
    (h : Chained read s (chain.filter (·.ranStatement)) (Step.allEvents chain))
    (hc : Commits s events r s') : Advances read s' chain ⟨.commit, events, r⟩ := by
  cases hc with
  | lost hl => exact .of_end rfl (h.idle_of_lost hl) rfl
  | idle hl hi =>
    -- there is nothing to commit, since no statement ran
    have hi' : s.inTransaction = false := hi.elim id h.idle_of_unheld
    refine ⟨.inl ⟨rfl, hi'⟩, fun _ hran => absurd ?_ hran⟩
    rw [filter_concat_other rfl]
    exact h.empty hl hi'
  | @called c r hl hi hs =>
    rcases r with f | ⟨⟩
    · by_cases hf : f.isCancellation = true
      · rw [passedOn_of_cancelled _ hf]
        exact .of_end rfl rfl rfl
      · rw [passedOn_of_handled _ (by simpa using hf)]
        exact .of_end rfl rfl rfl
    · refine ⟨.inl ⟨rfl, rfl⟩, fun _ _ => ⟨c, Step.allEvents chain, [], ?_, ?_, rfl⟩⟩
      · rw [filter_concat_other rfl]
        exact h.within_held hi hs
      · simp

/-- **The step of the invariant.** Every operation takes its chain further, or ends it. -/
theorem Performs.advances {op : Operation} {r : Except Fault (Except Fault Yield)}
    (h : Chained read s (chain.filter (·.ranStatement)) (Step.allEvents chain))
    (hp : Performs read s op events r s') : Advances read s' chain ⟨op, events, r⟩ := by
  cases hp with
  | @ensureConnected _ _ _ _ r _ hl =>
    have hchained := h.lives hl
    rcases r with f | f | c
    · exact .of_other (any_isEnding_of_quiet hl.quiet) rfl rfl hchained
    · exact .of_other hl.goes_on rfl rfl hchained
    · exact .of_other rfl rfl rfl hchained
  | executeStopped hf => exact .of_other (any_isEnding_of_quiet hf.quiet) rfl rfl (h.fetches hf)
  | @execute _ _ index column _ r _ hf =>
    have hchained := h.fetches hf
    rcases r with f | rows
    · exact .of_other hf.goes_on rfl rfl hchained
    · rcases hn : narrow (.list rows.rows) (read s'.held index) (read s'.held column) with f | found
      · simp only [narrowed, hn]
        exact .of_other (any_isEnding_of_quiet hf.quiet) rfl rfl hchained
      · simp only [narrowed, hn]
        exact .of_other rfl rfl rfl hchained
  | @transactionStopped _ _ commits _ _ _ hl =>
    exact .of_other (any_isEnding_of_quiet hl.quiet) rfl (by cases commits <;> rfl) (h.lives hl)
  | @transactionUnconnected _ _ commits _ _ _ hl =>
    exact .of_other hl.goes_on rfl (by cases commits <;> rfl) (h.lives hl)
  | transaction hl hs ht => exact ht.advances (h.lives hl) hl.quiet hs
  | commit hc => exact hc.advances h
  | rollback hr =>
    exact .of_end rfl (hr.inTransaction_eq h.idle_of_unheld) rfl
  | close hc =>
    refine .of_end rfl ?_ rfl
    cases hc with
    | nothing hs => exact h.idle_of_unheld hs
    | done => rfl
    | stopped => rfl
  | destroy hd =>
    refine .of_end rfl ?_ rfl
    rw [hd.eq_released]
    rfl

end Session

/-! ### Histories -/

/-- The invariant, of a session and the steps that led to it. -/
def Session.ChainedAfter (read : Option Connection → Value → Value) (seen : List Step)
    (s : Session) : Prop :=
  Session.Chained read s ((Step.sinceBoundary seen).filter (·.ranStatement))
    (Step.allEvents (Step.sinceBoundary seen))

theorem Session.ChainedAfter.concat {seen : List Step} {s s' : Session} {op : Operation}
    {r : Except Fault (Except Fault Yield)} (h : Session.ChainedAfter read seen s)
    (hp : Session.Performs read s op events r s') :
    Session.ChainedAfter read (seen ++ [⟨op, events, r⟩]) s' := by
  rcases (hp.advances h).chained with ⟨he, hi⟩ | ⟨he, hchained⟩
  -- a chain that ended starts anew, of no steps
  · rw [ChainedAfter, Step.sinceBoundary, List.rtakeWhile_concat, he, if_neg (by decide)]
    exact .start hi _
  · rw [ChainedAfter, Step.sinceBoundary, List.rtakeWhile_concat, he, if_pos (by decide)]
    exact hchained

/-- **A chain is never committed in part.** Take any operations on a fresh session, in any order,
and any driver. Whenever a step reports that it committed, then all the statements that were
reported as run since the chain started were sent, in order, on one connection, between one
successful `begin` and the successful `commit` that is the last call of that step. No other call in
between begins or ends a transaction. -/
theorem commits_whole_chain (d : Driver σ) (settings : Settings) (world : σ) (log : List LogLine)
    (read : Option Connection → Value → Value) (ops : List Operation) {before after : List Step}
    {last : Step} (h : history d ops ⟨{ settings }, world, log, read⟩ = before ++ last :: after)
    (hlast : last.commits = true) : CommittedWhole read (Step.sinceBoundary before) last := by
  obtain ⟨s, s', hchained, hp⟩ := history_performs d (Session.ChainedAfter read)
    Session.ChainedAfter.concat ops [] rfl (.start rfl []) h
  exact (hp.advances hchained).whole hlast

/-- Two statements, of which the second commits. -/
theorem commits_whole_chain_pair :
    ∃ first last, history Rehearsal.driver
        [.runTransaction (.text "A") .null false, .runTransaction (.text "B") .null true]
        ⟨{}, {}, [], fun _ v => v⟩ = [first] ++ last :: [] ∧ last.commits = true ∧
      Step.sinceBoundary [first] = [first] ∧ first.ranStatement = true ∧
      CommittedWhole (fun _ v => v) (Step.sinceBoundary [first]) last :=
  ⟨_, _, rfl, rfl, rfl, rfl, commits_whole_chain Rehearsal.driver {} {} [] (fun _ v => v)
    [.runTransaction (.text "A") .null false, .runTransaction (.text "B") .null true] rfl rfl⟩

end FluentSql
