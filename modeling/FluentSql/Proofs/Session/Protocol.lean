import FluentSql.Proofs.Session.Bracketing

/-!
# The protocol of calls

What a driver can rely on, whatever its calls come to: on each connection, `begin` and the calls
that end a transaction take turns; every statement comes right behind a sign that its connection is
alive; and operations that are no part of a transaction leave transactions alone.

`FollowsProtocol` puts this together, with what the flags of a session say between its operations.
`history_follows_protocol` is the main result. The turns are taken from the invariant
`FluentSql.Session.Tracks`; the rest holds of every step by itself.
-/

namespace FluentSql

/-- Whether a call sends a statement. -/
def Event.isStatement : Event → Bool
  | .query .. => true
  | _ => false

theorem Event.isStatement_of_isUpkeep {e : Event} (h : e.isUpkeep = true) :
    e.isStatement = false := by
  rcases e with _ | _ | _
  · rfl
  · rfl
  · cases h

/-- The operations that leave transactions alone. -/
def Operation.isPlain : Operation → Bool
  | ensureConnected .. | execute .. => true
  | _ => false

/-- The calls that show that a connection is alive: a probe that succeeded, or its opening and
everything that prepares it. -/
inductive ShowsAlive (c : Connection) : List Event → Prop where
  | probed : ShowsAlive c [.control c .ping (.ok ())]
  | opened (settings : Settings) :
      ShowsAlive c (.connect settings (.ok c) ::
        (Session.schemaCalls c settings ++ Session.timeoutCalls c settings))

/-- Whether a statement may follow on a connection: it was just shown to be alive, and at most a
transaction was begun on it since. -/
def ReadyFor (c : Connection) (before : List Event) : Prop :=
  ∃ earlier shown begun, before = earlier ++ (shown ++ begun) ∧ ShowsAlive c shown ∧
    (begun = [] ∨ begun = [.control c .begin (.ok ())])

/-- The protocol of the calls of several steps, which left the session `s`. -/
structure FollowsProtocol (s : Session) (steps : List Step) : Prop where
  /-- A transaction is begun only on a connection where none is unended. -/
  begins : ∀ {before after c r},
    Step.allEvents steps = before ++ .control c .begin r :: after → ¬ Unended c before
  /-- A transaction is ended only on a connection where one is unended. -/
  ends : ∀ {before after c call r}, call = .commit ∨ call = .rollback →
    Step.allEvents steps = before ++ .control c call r :: after → Unended c before
  /-- No transaction is ended twice. -/
  ends_once : ∀ {before between after first second c},
    Step.allEvents steps = before ++ first :: (between ++ second :: after) →
    first.isEnding = true → first.connection? = some c → second.isEnding = true →
    second.connection? = some c → .control c .begin (.ok ()) ∈ between
  /-- A statement is sent on a connection that the same step found alive or opened. -/
  statements : ∀ step ∈ steps, ∀ {before after c sql params r},
    step.events = before ++ .query c sql params r :: after → ReadyFor c before
  plain : ∀ step ∈ steps, step.operation.isPlain = true →
    ∀ e ∈ step.events, e.isTransactional = false
  held_of_open : s.inTransaction = true → ∃ c, s.held = some c
  idle_of_lost : s.transactionLost = true → s.inTransaction = false

namespace Session

variable {read : Option Connection → Value → Value} {s s' : Session} {c : Connection}
  {events : List Event}

/-! ### Where statements are sent -/

theorem Lives.no_statement {user password schema : Value}
    {r : Except Fault (Except Fault Connection)}
    (h : Lives read user password schema s events r s') : ∀ e ∈ events, e.isStatement = false :=
  fun e he => Event.isStatement_of_isUpkeep (h.upkeep e he)

theorem Discards.no_statement {r : Except Fault Unit} (h : Discards s events r s') :
    ∀ e ∈ events, e.isStatement = false := by
  cases h with
  | nothing => nofun
  | dropped _ hd => exact fun e he => Event.isStatement_of_isUpkeep (hd.upkeep e he)

theorem Closes.no_statement {r : Except Fault Unit} (h : Closes s events r s') :
    ∀ e ∈ events, e.isStatement = false := by
  cases h <;> simp [Event.isStatement]

theorem Commits.no_statement {r : Except Fault (Except Fault Yield)} (h : Commits s events r s') :
    ∀ e ∈ events, e.isStatement = false := by
  cases h <;> simp [Event.isStatement]

theorem RollsBack.no_statement {r : Except Fault (Except Fault Yield)}
    (h : RollsBack s events r s') : ∀ e ∈ events, e.isStatement = false := by
  cases h <;> simp [Event.isStatement]

theorem Recovers.no_statement {r : Except Fault Unit} (h : Recovers s events r s') :
    ∀ e ∈ events, e.isStatement = false := by
  cases h with
  | rolledBack hr => exact hr.no_statement
  | stopped hr => exact hr.no_statement
  | dropped hr hd =>
    intro e he
    exact (List.mem_append.mp he).elim (hr.no_statement e) (hd.no_statement e)

theorem Begins.no_statement {sql : Value} {r : Except Fault (Except Fault Unit)}
    (h : Begins c sql s events r s') : ∀ e ∈ events, e.isStatement = false := by
  cases h <;> simp [Event.isStatement]

/-- Behind a transaction that is open, at most a `begin` was called. -/
theorem Begins.eq_of_ok {sql : Value} (h : Begins c sql s events (.ok (.ok ())) s') :
    (events = [] ∨ events = [.control c .begin (.ok ())]) ∧
      s' = { s with inTransaction := true } := by
  generalize hr : (Except.ok (.ok ()) : Except Fault (Except Fault Unit)) = r at h
  cases h with
  | joined hi => exact ⟨.inl rfl, by rw [← hi]⟩
  | failed => cases eq_of_passedOn hr.symm
  | begun => exact ⟨.inr rfl, rfl⟩

theorem Opens.showsAlive {settings : Settings}
    (h : Opens read settings s events (.ok (.ok c)) s') : ShowsAlive c events := by
  obtain ⟨setup, rfl, hs, -⟩ := h.exists_setup
  cases hs
  exact .opened _

/-- A connection that was made sure of is ready for a statement. -/
theorem Lives.readyFor {user password schema : Value} {begun : List Event}
    (h : Lives read user password schema s events (.ok (.ok c)) s')
    (hb : begun = [] ∨ begun = [.control c .begin (.ok ())]) : ReadyFor c (events ++ begun) := by
  cases h with
  | alive => exact ⟨[], _, begun, rfl, .probed, hb⟩
  | @replaced dead f dropping opening _ _ _ _ _ ho =>
    refine ⟨.control dead .ping (.error f) :: dropping, opening, begun, ?_, ho.showsAlive, hb⟩
    simp
  | opened _ ho => exact ⟨[], _, begun, rfl, ho.showsAlive, hb⟩

/-- A single statement among calls is where it is found. -/
theorem split_at_statement {earlier later before after : List Event} {e e' : Event}
    (hearlier : ∀ e ∈ earlier, e.isStatement = false) (hlater : ∀ e ∈ later, e.isStatement = false)
    (hsplit : earlier ++ e :: later = before ++ e' :: after) (he' : e'.isStatement = true) :
    earlier = before ∧ e = e' := by
  have hnot : ∀ {es : List Event}, (∀ e ∈ es, e.isStatement = false) → e' ∉ es := by
    intro es hes hmem
    exact absurd ((hes e' hmem).symm.trans he') nofun
  obtain ⟨hbefore, he, -⟩ :=
    (List.append_cons_inj_of_notMem (hnot hearlier) (hnot hlater)).mp hsplit
  exact ⟨hbefore, he⟩

variable {sql params : Value} {before after : List Event} {text bound : Value}
  {o : Except Fault Rows}

theorem Fetches.readyFor {r : Except Fault (Except Fault Rows)}
    (h : Fetches read sql params s events r s')
    (hsplit : events = before ++ .query c text bound o :: after) : ReadyFor c before := by
  have hmem : .query c text bound o ∈ events := by simp [hsplit]
  cases h with
  | stopped hl => exact absurd (hl.no_statement _ hmem) nofun
  | unconnected hl => exact absurd (hl.no_statement _ hmem) nofun
  | @sent lives _ _ _ hl =>
    have hlater : ∀ e ∈ ([] : List Event), e.isStatement = false := nofun
    obtain ⟨rfl, he⟩ := split_at_statement hl.no_statement hlater hsplit rfl
    obtain ⟨rfl, -, -, -⟩ := Event.query.inj he
    rw [← List.append_nil lives]
    exact hl.readyFor (.inl rfl)

/-- The statement of a transaction, if it is sent, is the only one, and follows on what made the
transaction open. -/
theorem Transacts.sent_cases {commits : Bool} {r : Except Fault (Except Fault Yield)}
    (h : Transacts read sql params commits c s events r s') :
    (∀ e ∈ events, e.isStatement = false) ∨
      ∃ begun o later, events = begun ++ .statement read c sql params o :: later ∧
        (begun = [] ∨ begun = [.control c .begin (.ok ())]) ∧
        (∀ e ∈ later, e.isStatement = false) := by
  cases h with
  | lost => exact .inl nofun
  | beginStopped _ hb => exact .inl hb.no_statement
  | unbegun _ hb => exact .inl hb.no_statement
  | stopped _ hb => exact .inr ⟨_, _, [], rfl, hb.eq_of_ok.1, nofun⟩
  | failed _ hb _ hr => exact .inr ⟨_, _, _, rfl, hb.eq_of_ok.1, hr.no_statement⟩
  | leftOpen _ hb => exact .inr ⟨_, _, [], rfl, hb.eq_of_ok.1, nofun⟩
  | committed _ hb _ he => exact .inr ⟨_, _, _, rfl, hb.eq_of_ok.1, he.no_statement⟩

/-- Every statement is sent where it may be. -/
theorem Performs.readyFor {op : Operation} {r : Except Fault (Except Fault Yield)}
    (h : Performs read s op events r s')
    (hsplit : events = before ++ .query c text bound o :: after) : ReadyFor c before := by
  have hmem : .query c text bound o ∈ events := by simp [hsplit]
  cases h with
  | ensureConnected hl => exact absurd (hl.no_statement _ hmem) nofun
  | executeStopped hf => exact hf.readyFor hsplit
  | execute hf => exact hf.readyFor hsplit
  | transactionStopped hl => exact absurd (hl.no_statement _ hmem) nofun
  | transactionUnconnected hl => exact absurd (hl.no_statement _ hmem) nofun
  | @transaction _ _ _ lives _ c' _ _ _ hl _ ht =>
    rcases ht.sent_cases with hnone | ⟨begun, o', later, rfl, hbegun, hlater⟩
    · have hno : ∀ e ∈ lives ++ _, e.isStatement = false := fun e he =>
        (List.mem_append.mp he).elim (hl.no_statement e) (hnone e)
      exact absurd (hno _ hmem) nofun
    · have hearlier : ∀ e ∈ lives ++ begun, e.isStatement = false := by
        intro e he
        rcases List.mem_append.mp he with he | he
        · exact hl.no_statement e he
        · rcases hbegun with rfl | rfl
          · cases he
          · rw [List.mem_singleton.mp he]
            rfl
      rw [← List.append_assoc] at hsplit
      obtain ⟨rfl, he⟩ := split_at_statement hearlier hlater hsplit rfl
      obtain ⟨rfl, -, -, -⟩ := Event.query.inj he
      exact hl.readyFor hbegun
  | commit hc => exact absurd (hc.no_statement _ hmem) nofun
  | rollback hr => exact absurd (hr.no_statement _ hmem) nofun
  | close hc => exact absurd (hc.no_statement _ hmem) nofun
  | destroy hd => exact absurd (hd.no_statement _ hmem) nofun

theorem Performs.plain {op : Operation} {r : Except Fault (Except Fault Yield)}
    (h : Performs read s op events r s') (hop : op.isPlain = true) :
    ∀ e ∈ events, e.isTransactional = false := by
  cases h with
  | ensureConnected hl => exact hl.quiet
  | executeStopped hf => exact hf.quiet
  | execute hf => exact hf.quiet
  | _ => cases hop

end Session

/-- **The calls of a session follow the protocol.** Take any operations on a fresh session, in any
order, and any driver. On each connection `begin` and the calls that end a transaction take turns;
every statement follows in the same step on a probe that succeeded, or on the opening of its
connection, with at most a `begin` in between; and the flags of the session agree with each
other. -/
theorem history_follows_protocol {σ : Type} (d : Driver σ) (settings : Settings) (world : σ)
    (log : List LogLine) (read : Option Connection → Value → Value) (ops : List Operation) :
    FollowsProtocol (Link.after d ops ⟨{ settings }, world, log, read⟩).session
      (history d ops ⟨{ settings }, world, log, read⟩) := by
  obtain ⟨htracks, hbracketed⟩ := history_tracks d settings world log read ops
  refine ⟨fun hsplit => hbracketed.fits hsplit, ?_, ?_, ?_, ?_, ?_, htracks.idle_of_lost⟩
  · intro before after c call r hcall hsplit
    have hfits := hbracketed.fits hsplit
    rcases hcall with rfl | rfl <;> exact hfits
  · intro before between after first second c hsplit hfirst hc hsecond hc'
    rw [hsplit] at hbracketed
    exact hbracketed.begin_between hfirst hc hsecond hc'
  · intro step hstep before after c sql params r hsplit
    obtain ⟨s, s', hp⟩ := performs_of_mem_history d hstep
    exact hp.readyFor hsplit
  · intro step hstep hplain
    obtain ⟨s, s', hp⟩ := performs_of_mem_history d hstep
    exact hp.plain hplain
  · intro hi
    refine Option.ne_none_iff_exists'.mp fun hnone => ?_
    exact absurd ((htracks.idle_of_unheld hnone).symm.trans hi) nofun

end FluentSql
