import FluentSql.Proofs.Session.Outcome

/-!
# Lost transactions are reported once

A transaction is **lost** if the probe of its connection fails while it is open. A loss waits until
an operation asks for it: a commit, or a statement of a transaction whose connection is made sure
of. That operation reports the loss, and does nothing else. A rollback, a destruction, and the
closing of a connection that is held give the loss up; everything else leaves it waiting, also an
operation that cannot connect.

`LossPending` says this of the operations so far and of what they came to, and the session has a
flag of its own. `after_lost_iff` is the invariant that the two agree, and
`losses_reported_once` is the main result.
-/

namespace FluentSql

variable {σ : Type}

/-! ### Turns -/

/-- An operation, and the link that it is performed on. -/
structure Turn (σ : Type) where
  link : Link σ
  operation : Operation

/-- The operations that are performed one after the other, each with the link that those before it
led to. -/
def turns (d : Driver σ) : List Operation → Link σ → List (Turn σ)
  | [], _ => []
  | op :: ops, link => ⟨link, op⟩ :: turns d ops (op.step d link).2

/-- Whether a call is a probe that failed. A probe that is cancelled tells nothing about its
connection. -/
def Event.isDeadProbe : Event → Bool
  | .control _ .ping (.error f) => !f.isCancellation
  | _ => false

/-- Whether an operation gives up a loss. Without a connection there is nothing to close. -/
def Operation.GivesUp (s : Session) : Operation → Prop
  | .rollback | .destroy => True
  | .close => s.held ≠ none
  | _ => False

namespace Turn

/-- What the operation does. -/
def step (d : Driver σ) (t : Turn σ) : Step :=
  (t.operation.step d t.link).1

/-- The session that the operation leaves. -/
def after (d : Driver σ) (t : Turn σ) : Session :=
  (t.operation.step d t.link).2.session

/-- An open transaction is lost: the probe of its connection failed. -/
def Loses (d : Driver σ) (t : Turn σ) : Prop :=
  t.link.session.inTransaction = true ∧ ∃ e ∈ (t.step d).events, e.isDeadProbe = true

/-- The operation asks for a loss: it commits, or runs a statement of a transaction from a session
from which a connection can be made sure of. -/
def Asks (d : Driver σ) (t : Turn σ) : Prop :=
  match t.operation with
  | .commit => True
  | .runTransaction .. =>
    ((Operation.ensureConnected .null .null .null).step d t.link).1.outcome = .ok (.ok .nothing)
  | _ => False

/-- The operation gives up a loss. -/
def GivesUp (t : Turn σ) : Prop :=
  t.operation.GivesUp t.link.session

/-- The operation reports that a transaction was aborted, and names no fault of the driver. -/
def Reports (d : Driver σ) (t : Turn σ) : Prop :=
  ∃ result, (t.step d).outcome = .ok result ∧
    reported? result = some ("TransactionAbort", none)

end Turn

/-- A loss is waiting to be reported: an operation lost a transaction, and since then, and by this
operation itself, nothing asked for the loss and nothing gave it up. -/
def LossPending (d : Driver σ) (ts : List (Turn σ)) : Prop :=
  ∃ before t after, ts = before ++ t :: after ∧ t.Loses d ∧
    ∀ u ∈ t :: after, ¬ u.Asks d ∧ ¬ u.GivesUp

/-- A session such as a fresh one is led to by operations that lose no transaction. -/
def Session.Unscathed (s : Session) : Prop :=
  ∃ (τ : Type) (d : Driver τ) (settings : Settings) (world : τ) (ops : List Operation),
    (Link.after d ops ⟨{ settings }, world, [], fun _ v => v⟩).session = s ∧
      ∀ t ∈ turns d ops ⟨{ settings }, world, [], fun _ v => v⟩, ¬ t.Loses d

theorem turns_concat (d : Driver σ) (ops : List Operation) (op : Operation) (link : Link σ) :
    turns d (ops ++ [op]) link = turns d ops link ++ [⟨Link.after d ops link, op⟩] := by
  induction ops generalizing link with
  | nil => rfl
  | cons first ops ih => rw [List.cons_append, turns, ih, turns, List.cons_append, Link.after]

/-- Before each turn stand the turns of the operations that led to its link. -/
theorem exists_of_turns_eq {d : Driver σ} {ops : List Operation} {link : Link σ}
    {before after : List (Turn σ)} {t : Turn σ} (h : turns d ops link = before ++ t :: after) :
    ∃ earlier, before = turns d earlier link ∧ t.link = Link.after d earlier link := by
  induction before generalizing ops link with
  | nil =>
    rcases ops with _ | ⟨op, ops⟩
    · cases h
    · obtain ⟨rfl, -⟩ := List.cons.inj h
      exact ⟨[], rfl, rfl⟩
  | cons first before ih =>
    rcases ops with _ | ⟨op, ops⟩
    · cases h
    · obtain ⟨rfl, hrest⟩ := List.cons.inj h
      obtain ⟨earlier, rfl, hlink⟩ := ih hrest
      exact ⟨op :: earlier, rfl, hlink⟩

/-- A loss waits behind one more turn if that neither asks for it nor gives it up. -/
theorem lossPending_concat_iff {d : Driver σ} {ts : List (Turn σ)} {t : Turn σ} :
    LossPending d (ts ++ [t]) ↔
      (LossPending d ts ∨ t.Loses d) ∧ ¬ t.Asks d ∧ ¬ t.GivesUp := by
  constructor
  · rintro ⟨before, u, after, hsplit, hu, hquiet⟩
    rcases List.eq_nil_or_concat' after with rfl | ⟨after, last, rfl⟩
    · obtain ⟨rfl, hlast⟩ := List.append_inj' hsplit rfl
      obtain rfl := List.singleton_inj.mp hlast
      exact ⟨.inr hu, hquiet t List.mem_cons_self⟩
    · rw [← List.cons_append, ← List.append_assoc] at hsplit
      obtain ⟨rfl, hlast⟩ := List.append_inj' hsplit rfl
      obtain rfl := List.singleton_inj.mp hlast
      refine ⟨.inl ⟨before, u, after, rfl, hu, fun v hv => hquiet v ?_⟩, hquiet t (by simp)⟩
      exact List.mem_append_left [t] hv
  · rintro ⟨⟨before, u, after, rfl, hu, hquiet⟩ | ht, hlast⟩
    · refine ⟨before, u, after ++ [t], by simp, hu, fun v hv => ?_⟩
      rcases List.mem_append.mp (List.cons_append ▸ hv) with hv | hv
      · exact hquiet v hv
      · rwa [List.mem_singleton.mp hv]
    · refine ⟨ts, t, [], rfl, ht, fun v hv => ?_⟩
      rwa [List.mem_singleton.mp hv]

/-! ### What courses do to a loss -/

theorem reported?_eq_iff {result : Except Fault Yield} :
    reported? result = some ("TransactionAbort", none) ↔
      ∃ sql, result = .error (.transactionLost sql) := by
  constructor
  · intro h
    rcases result with f | y
    · cases f <;> simp [reported?, Fault.title, Fault.cause?] at h
      exact ⟨_, rfl⟩
    · cases h
  · rintro ⟨sql, rfl⟩
    rfl

/-- Among the calls of upkeep, only a probe shows that a connection is dead. -/
theorem Event.isDeadProbe_of_ne {c : Connection} {call : Control} {o : Except Fault Unit}
    (h : call ≠ .ping) : (Event.control c call o).isDeadProbe = false := by
  cases call <;> first | rfl | exact absurd rfl h

/-- Work on a connection does not probe it. -/
theorem not_exists_isDeadProbe {events : List Event} (h : ∀ e ∈ events, e.isWork = true) :
    ¬ ∃ e ∈ events, e.isDeadProbe = true := by
  rintro ⟨e, he, hprobe⟩
  have hwork := h e he
  rcases e with _ | ⟨_, call, _⟩ | _
  · cases hprobe
  · rw [Event.isDeadProbe_of_ne fun hping => by rw [hping] at hwork; cases hwork] at hprobe
    cases hprobe
  · cases hprobe

namespace Session

variable {read : Option Connection → Value → Value} {s s' : Session} {c : Connection}
  {events : List Event} {sql params : Value} {commits : Bool}

theorem Opens.no_deadProbe {settings : Settings} {r : Except Fault (Except Fault Connection)}
    (h : Opens read settings s events r s') : ∀ e ∈ events, e.isDeadProbe = false := by
  have hsetup : ∀ {c settings events r}, SetsUp c settings events r →
      ∀ e ∈ events, e.isDeadProbe = false := by
    intro c settings events r hs e he
    obtain ⟨call, o, hcall, rfl⟩ := hs.exists_setup he
    exact Event.isDeadProbe_of_ne fun hping => by rw [hping] at hcall; cases hcall
  intro e he
  cases h with
  | unconnected =>
    rw [List.mem_singleton.mp he]
    rfl
  | setupStopped hs =>
    rcases List.mem_cons.mp he with rfl | he
    · rfl
    · exact hsetup hs e he
  | setupFailed hs _ hd =>
    obtain ⟨o, rfl⟩ := hd.exists_destroy
    rcases List.mem_cons.mp he with rfl | he
    · rfl
    · rcases List.mem_append.mp he with he | he
      · exact hsetup hs e he
      · rw [List.mem_singleton.mp he]
        rfl
  | opened hs =>
    rcases List.mem_cons.mp he with rfl | he
    · rfl
    · exact hsetup hs e he

/-- **A loss is noticed where a connection is made sure of.** It waits afterwards if it was waiting
before, or if the probe failed with a transaction open. -/
theorem Lives.lost_iff {user password schema : Value} {r : Except Fault (Except Fault Connection)}
    (h : Lives read user password schema s events r s') :
    s'.transactionLost = true ↔ s.transactionLost = true ∨
      s.inTransaction = true ∧ ∃ e ∈ events, e.isDeadProbe = true := by
  have hopened : ∀ {settings t events r t'}, Opens read settings t events r t' →
      t'.transactionLost = t.transactionLost := by
    intro settings t events r t' ho
    rcases ho.eq_or_connectedTo with rfl | ⟨c, rfl⟩ <;> rfl
  have hdead : ∀ {c f}, f.isCancellation = false →
      (Event.control c .ping (.error f)).isDeadProbe = true := by
    intro c f hf
    rw [Event.isDeadProbe, hf]
    rfl
  cases h with
  | alive => simp [Event.isDeadProbe]
  | stopped _ hf => simp [Event.isDeadProbe, hf]
  | dropStopped _ hf => simp [cutOff, hdead hf]
  | replaced _ hf _ ho => simp [hopened ho, cutOff, hdead hf]
  | opened _ ho =>
    rw [hopened ho]
    have hnone : ¬ ∃ e ∈ events, e.isDeadProbe = true := by
      rintro ⟨e, he, hprobe⟩
      exact Bool.false_ne_true ((ho.no_deadProbe e he).symm.trans hprobe)
    simp [hnone]

theorem Lives.idle_of_lost {user password schema : Value}
    {r : Except Fault (Except Fault Connection)} (h : Lives read user password schema s events r s')
    (hlost : s.transactionLost = true → s.inTransaction = false)
    (hunheld : s.held = none → s.inTransaction = false) :
    s'.transactionLost = true → s'.inTransaction = false := by
  rcases h.same_or_cutOff hunheld with rfl | ⟨hi, -⟩
  · exact hlost
  · exact fun _ => hi

theorem Fetches.lost_iff {r : Except Fault (Except Fault Rows)}
    (h : Fetches read sql params s events r s') :
    s'.transactionLost = true ↔ s.transactionLost = true ∨
      s.inTransaction = true ∧ ∃ e ∈ events, e.isDeadProbe = true := by
  cases h with
  | stopped hl => exact hl.lost_iff
  | unconnected hl => exact hl.lost_iff
  | sent hl => simp [hl.lost_iff, Event.statement, Event.isDeadProbe]

theorem Begins.transactionLost_eq {r : Except Fault (Except Fault Unit)}
    (h : Begins c sql s events r s') : s'.transactionLost = s.transactionLost := by
  cases h <;> rfl

theorem Commits.settles {r : Except Fault (Except Fault Yield)} (h : Commits s events r s') :
    s'.transactionLost = false := by
  cases h with
  | lost => rfl
  | idle hl => exact hl
  | called hl => exact hl

theorem RollsBack.settles {r : Except Fault (Except Fault Yield)} (h : RollsBack s events r s') :
    s'.transactionLost = false := by
  cases h <;> rfl

theorem Recovers.settles {r : Except Fault Unit} (h : Recovers s events r s') :
    s'.transactionLost = false := by
  cases h with
  | rolledBack hr => exact hr.settles
  | stopped hr => exact hr.settles
  | dropped hr hd => exact hd.eq_released ▸ hr.settles

/-- A statement of a transaction that finds a live connection leaves no loss behind. -/
theorem Transacts.settles {r : Except Fault (Except Fault Yield)}
    (h : Transacts read sql params commits c s events r s') : s'.transactionLost = false := by
  cases h with
  | lost => rfl
  | beginStopped hl hb => exact hb.transactionLost_eq.trans hl
  | unbegun hl hb => exact hb.transactionLost_eq.trans hl
  | stopped hl hb => exact hb.transactionLost_eq.trans hl
  | failed _ _ _ hr => exact hr.settles
  | leftOpen hl hb => exact hb.transactionLost_eq.trans hl
  | committed _ _ _ he => exact he.settles

/-- A statement of a transaction reports what its own upkeep lost, as what was lost before. -/
theorem Proceeds.lost_iff {lives course : List Event} {r : Except Fault (Except Fault Connection)}
    {o : Except Fault (Except Fault Yield)} {s'' : Session}
    (h : Proceeds read sql params commits r s' course o s'')
    (hl : Lives read .null .null .null s lives r s') :
    s''.transactionLost = true ↔ (s.transactionLost = true ∨
      s.inTransaction = true ∧ ∃ e ∈ lives ++ course, e.isDeadProbe = true) ∧
        ¬ ∃ c, r = .ok (.ok c) := by
  cases h with
  | stopped => simp [hl.lost_iff]
  | unconnected => simp [hl.lost_iff]
  | connected _ ht => simp [ht.settles]

theorem Closes.lost_iff {r : Except Fault Unit} (h : Closes s events r s') :
    s'.transactionLost = true ↔ s.transactionLost = true ∧ s.held = none := by
  cases h with
  | nothing hs => simp [hs]
  | done hs => simp [hs, settledLoss]
  | stopped hs => simp [hs, settledLoss]

/-- What an operation that runs no statement of a transaction does to a loss. -/
theorem Performs.lost_iff {op : Operation} {r : Except Fault (Except Fault Yield)}
    (h : Performs read s op events r s')
    (hop : ∀ {sql params commits}, op ≠ .runTransaction sql params commits) :
    s'.transactionLost = true ↔ (s.transactionLost = true ∨
      s.inTransaction = true ∧ ∃ e ∈ events, e.isDeadProbe = true) ∧
        op ≠ .commit ∧ ¬ op.GivesUp s := by
  cases h with
  | ensureConnected hl => simp [Operation.GivesUp, hl.lost_iff]
  | executeStopped hf => simp [Operation.GivesUp, hf.lost_iff]
  | execute hf => simp [Operation.GivesUp, hf.lost_iff]
  | transactionStopped => exact absurd rfl hop
  | transactionUnconnected => exact absurd rfl hop
  | transaction => exact absurd rfl hop
  | commit hc => simp [hc.settles]
  | rollback hr => simp [Operation.GivesUp, hr.settles]
  | close hc =>
    simp [Operation.GivesUp, hc.lost_iff, not_exists_isDeadProbe hc.work]
  | destroy hd => simp [Operation.GivesUp, hd.eq_released, released, settledLoss]

/-! ### Who reports a loss -/

theorem Commits.reports_iff {r : Except Fault (Except Fault Yield)} (h : Commits s events r s') :
    (∃ sql, r = .ok (.error (.transactionLost sql))) ↔ s.transactionLost = true := by
  cases h with
  | lost hl => exact iff_of_true ⟨_, rfl⟩ hl
  | idle hl => exact iff_of_false nofun (by simp [hl])
  | called hl =>
    refine iff_of_false ?_ (by simp [hl])
    rintro ⟨sql, hr⟩
    obtain ⟨cause, -, hcause⟩ := eq_error_of_passedOn hr
    cases hcause

theorem Commits.eq_of_lost {r : Except Fault (Except Fault Yield)} (h : Commits s events r s')
    (hl : s.transactionLost = true) : events = [] ∧ s' = s.settledLoss := by
  cases h with
  | lost => exact ⟨rfl, rfl⟩
  | idle hl' => exact absurd (hl'.symm.trans hl) nofun
  | called hl' => exact absurd (hl'.symm.trans hl) nofun

theorem Transacts.reports_iff {r : Except Fault (Except Fault Yield)}
    (h : Transacts read sql params commits c s events r s') :
    (∃ sql, r = .ok (.error (.transactionLost sql))) ↔ s.transactionLost = true := by
  cases h with
  | lost hl => exact iff_of_true ⟨_, rfl⟩ hl
  | beginStopped hl => exact iff_of_false nofun (by simp [hl])
  | unbegun hl hb =>
    obtain ⟨cause, -, rfl, -⟩ := hb.eq_of_error
    exact iff_of_false nofun (by simp [hl])
  | stopped hl => exact iff_of_false nofun (by simp [hl])
  | @failed _ _ _ _ _ r hl =>
    refine iff_of_false ?_ (by simp [hl])
    rcases r with f | _ <;> nofun
  | leftOpen hl => exact iff_of_false nofun (by simp [hl])
  | @committed _ _ _ _ _ r hl hb _ he =>
    refine iff_of_false ?_ (by simp [hl])
    -- the commit behind the statement has no loss to report either
    rintro ⟨sql', hr⟩
    rcases r with f | f | y <;> cases hr
    have hlost := he.reports_iff.mp ⟨_, rfl⟩
    exact absurd ((hb.transactionLost_eq.trans hl).symm.trans hlost) nofun

theorem Transacts.eq_of_lost {r : Except Fault (Except Fault Yield)}
    (h : Transacts read sql params commits c s events r s') (hl : s.transactionLost = true) :
    events = [] ∧ s' = s.settledLoss := by
  cases h with
  | lost => exact ⟨rfl, rfl⟩
  | beginStopped hl' => exact absurd (hl'.symm.trans hl) nofun
  | unbegun hl' => exact absurd (hl'.symm.trans hl) nofun
  | stopped hl' => exact absurd (hl'.symm.trans hl) nofun
  | failed hl' => exact absurd (hl'.symm.trans hl) nofun
  | leftOpen hl' => exact absurd (hl'.symm.trans hl) nofun
  | committed hl' => exact absurd (hl'.symm.trans hl) nofun

/-- A statement of a transaction reports a loss where its connection was made sure of, and a loss
was waiting or is noticed by its own probe. -/
theorem Proceeds.reports_iff {lives course : List Event}
    {r : Except Fault (Except Fault Connection)} {o : Except Fault (Except Fault Yield)}
    {s'' : Session} (h : Proceeds read sql params commits r s' course o s'')
    (hl : Lives read .null .null .null s lives r s') :
    (∃ sql, o = .ok (.error (.transactionLost sql))) ↔ (∃ c, r = .ok (.ok c)) ∧
      (s.transactionLost = true ∨
        s.inTransaction = true ∧ ∃ e ∈ lives ++ course, e.isDeadProbe = true) := by
  cases h with
  | stopped => simp
  | unconnected =>
    refine iff_of_false ?_ (by simp)
    rintro ⟨sql', ho⟩
    cases ho
    exact absurd hl.goes_on nofun
  | connected _ ht =>
    simp [ht.reports_iff, hl.lost_iff, or_and_right, exists_or, not_exists_isDeadProbe ht.work]

theorem Proceeds.eq_of_reports {lives course : List Event}
    {r : Except Fault (Except Fault Connection)} {o : Except Fault (Except Fault Yield)}
    {s'' : Session} (h : Proceeds read sql params commits r s' course o s'')
    (hl : Lives read .null .null .null s lives r s')
    (ho : ∃ sql, o = .ok (.error (.transactionLost sql))) :
    course = [] ∧ s'.transactionLost = true ∧ s'' = s'.settledLoss := by
  obtain ⟨⟨c, rfl⟩, -⟩ := (h.reports_iff hl).mp ho
  cases h with
  | connected _ ht =>
    have hlost := ht.reports_iff.mp ho
    obtain ⟨hcourse, hs⟩ := ht.eq_of_lost hlost
    exact ⟨hcourse, hlost, hs⟩

theorem Performs.course_of_commit {r : Except Fault (Except Fault Yield)}
    (h : Performs read s .commit events r s') : Commits s events r s' := by
  cases h with
  | commit hc => exact hc

/-- To narrow rows is to lose nothing. -/
theorem narrowed_ne_lost {held : Option Connection} {index column sql : Value} {rows : Rows} :
    narrowed read held index column (.ok rows) ≠ .ok (.error (.transactionLost sql)) := by
  intro h
  rw [narrowed] at h
  split at h <;> cases h

/-- Of the operations that run no statement of a transaction, only a commit reports a loss. -/
theorem Performs.reports_iff {op : Operation} {r : Except Fault (Except Fault Yield)}
    (h : Performs read s op events r s')
    (hop : ∀ {sql params commits}, op ≠ .runTransaction sql params commits) :
    (∃ sql, r = .ok (.error (.transactionLost sql))) ↔
      op = .commit ∧ s.transactionLost = true := by
  cases h with
  | @ensureConnected _ _ _ _ r _ hl =>
    refine iff_of_false ?_ nofun
    rintro ⟨sql, hr⟩
    rcases r with f | f | c <;> cases hr
    exact absurd hl.goes_on nofun
  | executeStopped => exact iff_of_false nofun nofun
  | @execute _ _ index column _ r _ hf =>
    refine iff_of_false ?_ nofun
    rintro ⟨sql, hr⟩
    rcases r with f | rows
    · cases hr
      exact absurd hf.goes_on nofun
    · exact narrowed_ne_lost hr
  | transactionStopped => exact absurd rfl hop
  | transactionUnconnected => exact absurd rfl hop
  | transaction => exact absurd rfl hop
  | commit hc => simp [hc.reports_iff]
  | rollback hr =>
    refine iff_of_false ?_ nofun
    rintro ⟨sql, ho⟩
    cases hr with
    | idle => cases ho
    | called =>
      obtain ⟨cause, -, hcause⟩ := eq_error_of_passedOn ho
      cases hcause
  | @close _ r _ _ =>
    refine iff_of_false ?_ nofun
    rcases r with f | _ <;> nofun
  | @destroy _ r _ _ =>
    refine iff_of_false ?_ nofun
    rcases r with f | _ <;> nofun

end Session

/-! ### What turns do to a loss -/

/-- A connection was made sure of if that yielded nothing, and only then. -/
theorem map_nothing_eq_iff {r : Except Fault (Except Fault Connection)} :
    r.map (·.map fun _ => Yield.nothing) = .ok (.ok .nothing) ↔ ∃ c, r = .ok (.ok c) := by
  rcases r with f | f | c <;> simp [Except.map]

namespace Turn

variable (d : Driver σ) (t : Turn σ)

/-- **A loss waits until it is asked for or given up.** -/
theorem after_transactionLost_iff : (t.after d).transactionLost = true ↔
    (t.link.session.transactionLost = true ∨ t.Loses d) ∧ ¬ t.Asks d ∧ ¬ t.GivesUp := by
  obtain ⟨link, op⟩ := t
  have h := op.step_performs d link
  cases op with
  | runTransaction sql params commits =>
    obtain ⟨r, course, hl, hfirst, hevents, hp⟩ :=
      Operation.step_runTransaction d sql params commits link
    rw [Turn.after, Turn.Loses, Turn.step, hevents, hp.lost_iff hl, Turn.Asks, hfirst,
      map_nothing_eq_iff]
    simp [Turn.GivesUp, Operation.GivesUp]
  | _ =>
    rw [Turn.after, h.lost_iff nofun]
    simp [Turn.Asks, Turn.Loses, Turn.step, Turn.GivesUp]

theorem reports_iff_outcome : t.Reports d ↔
    ∃ sql, (t.step d).outcome = .ok (.error (.transactionLost sql)) := by
  constructor
  · rintro ⟨result, hresult, hreported⟩
    obtain ⟨sql, rfl⟩ := reported?_eq_iff.mp hreported
    exact ⟨sql, hresult⟩
  · rintro ⟨sql, hresult⟩
    exact ⟨_, hresult, reported?_eq_iff.mpr ⟨sql, rfl⟩⟩

/-- **A loss is reported where it is asked for**, and nowhere else. -/
theorem reports_iff : t.Reports d ↔
    t.Asks d ∧ (t.link.session.transactionLost = true ∨ t.Loses d) := by
  rw [reports_iff_outcome]
  obtain ⟨link, op⟩ := t
  have h := op.step_performs d link
  cases op with
  | runTransaction sql params commits =>
    obtain ⟨r, course, hl, hfirst, hevents, hp⟩ :=
      Operation.step_runTransaction d sql params commits link
    rw [Turn.Loses, Turn.step, hevents, hp.reports_iff hl, Turn.Asks, hfirst, map_nothing_eq_iff]
  | commit =>
    -- a commit probes nothing, so what it reports was waiting before it
    have hnone : ¬ Turn.Loses d ⟨link, .commit⟩ :=
      fun hloses => not_exists_isDeadProbe h.course_of_commit.work hloses.2
    rw [Turn.step, h.reports_iff nofun]
    simp [Turn.Asks, hnone]
  | _ =>
    rw [Turn.step, h.reports_iff nofun]
    simp [Turn.Asks]

variable {d t}

/-- An operation that reports a loss does nothing else, and leaves no trace of it. -/
theorem Reports.quiet {events : List Event} (ht : t.link.session.Tracks events)
    (hr : t.Reports d) : (∀ e ∈ (t.step d).events, e.isUpkeep = true) ∧
      (t.after d).inTransaction = false ∧ (t.after d).transactionLost = false := by
  have hasks := ((reports_iff d t).mp hr).1
  have hsettled : (t.after d).transactionLost = false := by
    rw [Bool.eq_false_iff]
    exact fun hlost => ((after_transactionLost_iff d t).mp hlost).2.1 hasks
  rw [← and_assoc]
  refine ⟨?_, hsettled⟩
  rw [reports_iff_outcome] at hr
  obtain ⟨link, op⟩ := t
  have h := op.step_performs d link
  cases op with
  | runTransaction sql params commits =>
    obtain ⟨r, course, hl, -, hevents, hp⟩ :=
      Operation.step_runTransaction d sql params commits link
    obtain ⟨rfl, hlost, hs⟩ := hp.eq_of_reports hl hr
    rw [Turn.step, Turn.after, hevents, hs, List.append_nil]
    exact ⟨hl.upkeep, hl.idle_of_lost ht.idle_of_lost ht.idle_of_unheld hlost⟩
  | commit =>
    have hc := h.course_of_commit
    have hlost := hc.reports_iff.mp hr
    obtain ⟨hevents, hs⟩ := hc.eq_of_lost hlost
    rw [Turn.step, Turn.after, hevents, hs]
    exact ⟨nofun, ht.idle_of_lost hlost⟩
  | _ => exact hasks.elim

end Turn

/-! ### Sessions that never lost a transaction -/

/-- A driver that opens the connection `c`, and whose calls all succeed. -/
def Driver.faultless (c : Connection) : Driver Unit where
  connect _ := pure c
  control _ _ := pure ()
  query _ _ _ := pure ⟨[], [], .null, .null⟩

namespace Session

theorem setup_faultless (c : Connection) (settings : Settings) (j : Journal Unit) :
    (setup (Driver.faultless c).recorded c settings j).1 = .ok () := by
  rw [setup]
  cases settings.schema.truthy <;> cases settings.waitTimeout.truthy <;> rfl

theorem openConnection_faultless (c : Connection) (settings : Settings)
    (link : Link (Journal Unit)) :
    ∃ events after, Runs (openConnection (Driver.faultless c).recorded settings) link events
      (.ok (.ok c)) after ∧ after.session = link.session.connectedTo settings c := by
  let present := settings.map (link.read link.session.held)
  let opened : Journal Unit := ⟨(), link.world.events ++ [.connect present (.ok c)]⟩
  have hconnect : Runs (Work.attempt ((Driver.faultless c).recorded.connect present)) link
      [.connect present (.ok c)] (.ok (.ok c)) { link with world := opened } :=
    Runs.attempt link (o := .ok c) rfl rfl
  obtain ⟨events, he, -⟩ := setup_follows (Driver.faultless c) c present opened
  have hsetup := Runs.attempt { link with world := opened }
    (Prod.ext (setup_faultless c present opened) rfl) he
  obtain ⟨lines, hl⟩ := Runs.exists_logSettings .info settings ("Connected: " ++ ·) _
  exact ⟨_, _, (Runs.readSettings settings link).quiet_bind (hconnect.bind (hsetup.bind_quiet
    ((Runs.update _ _).quiet_bind (hl.quiet_bind (Runs.pure ..))))), rfl⟩

/-- A session without a transaction, and without a loss to report, might as well be one that never
lost any. -/
theorem Unscathed.of_idle {s : Session} (hi : s.inTransaction = false)
    (hlost : s.transactionLost = false) : s.Unscathed := by
  obtain ⟨settings, held, inTransaction, transactionLost⟩ := s
  obtain rfl : inTransaction = false := hi
  obtain rfl : transactionLost = false := hlost
  rcases held with _ | c
  · exact ⟨Unit, .faultless 0, settings, (), [], rfl, nofun⟩
  -- a driver that always succeeds opens the connection with these settings
  · let link : Link Unit := ⟨{ settings }, (), [], fun _ v => v⟩
    obtain ⟨events, after, hrun, hafter⟩ := openConnection_faultless c settings link.recorded
    have hlive : Runs (liveConnection (Driver.faultless c).recorded .null .null .null)
        link.recorded events (.ok (.ok c)) after := (Runs.session _).quiet_bind hrun
    have hstep : Operation.step (.faultless c) (.ensureConnected .null .null .null) link = _ :=
      Operation.step_eq (ensureConnected_runs hlive)
    refine ⟨Unit, .faultless c, settings, (), [.ensureConnected .null .null .null], ?_, ?_⟩
    · rw [Link.after, hstep]
      exact hafter
    · intro t ht hloses
      rw [List.mem_singleton.mp ht] at hloses
      cases hloses.1

end Session

/-- An element that stands behind another one, in one list and in no other place. -/
theorem mem_between {α : Type} {earlier between others rest : List α} {first a : α}
    (h : earlier ++ first :: between = others ++ a :: rest) (hfirst : first ∉ a :: rest) :
    a ∈ between := by
  rcases List.append_eq_append_iff.mp h with ⟨more, -, hmore⟩ | ⟨more, -, hmore⟩
  · rcases more with _ | ⟨x, more⟩
    · obtain ⟨rfl, -⟩ := List.cons.inj hmore
      exact absurd List.mem_cons_self hfirst
    · obtain ⟨-, rfl⟩ := List.cons.inj hmore
      simp
  · exact absurd (by simp [hmore]) hfirst

section History

variable (d : Driver σ) (settings : Settings) (world : σ) (log : List LogLine)
  (read : Option Connection → Value → Value) (ops : List Operation)

/-- **The flag of a session tells that a loss waits.** This is the invariant of every history. -/
theorem after_lost_iff :
    (Link.after d ops ⟨{ settings }, world, log, read⟩).session.transactionLost = true ↔
      LossPending d (turns d ops ⟨{ settings }, world, log, read⟩) := by
  -- from the last operation back, since a loss is asked for after the operation that lost it
  induction ops using List.reverseRecOn with
  | nil => simp [Link.after, turns, LossPending]
  | append_singleton ops op ih =>
    rw [turns_concat, lossPending_concat_iff, Link.after_concat, ← ih]
    exact Turn.after_transactionLost_iff d ⟨_, op⟩

/-- **A lost transaction is reported once, and never without cause.** Take any operations on a
fresh session, and any driver. An operation reports that a transaction was aborted, and names no
fault of the driver, exactly if it asks for a loss and one waits, or is noticed by its own probe.
Such an operation does nothing but the upkeep of its connection, and leaves a session like one that
never lost a transaction. Between two such reports, a transaction was lost. -/
theorem losses_reported_once {before after : List (Turn σ)} {turn : Turn σ}
    (h : turns d ops ⟨{ settings }, world, log, read⟩ = before ++ turn :: after) :
    (turn.Reports d ↔ turn.Asks d ∧ (LossPending d before ∨ turn.Loses d)) ∧
    (turn.Reports d →
      (∀ e ∈ (turn.step d).events, e.isUpkeep = true) ∧ (turn.after d).Unscathed) ∧
    ∀ {earlier between first}, before = earlier ++ first :: between → first.Reports d →
      turn.Reports d → ∃ t ∈ between ++ [turn], t.Loses d := by
  obtain ⟨earlier, rfl, hlink⟩ := exists_of_turns_eq h
  have hpending := after_lost_iff d settings world log read earlier
  have hreports : turn.Reports d ↔ turn.Asks d ∧ (LossPending d (turns d earlier
      ⟨{ settings }, world, log, read⟩) ∨ turn.Loses d) := by
    rw [← hpending, ← hlink]
    exact Turn.reports_iff d turn
  refine ⟨hreports, fun hr => ?_, ?_⟩
  · have htracks := (history_tracks d settings world log read earlier).1
    rw [← hlink] at htracks
    obtain ⟨hupkeep, hi, hlost⟩ := hr.quiet htracks
    exact ⟨hupkeep, .of_idle hi hlost⟩
  · intro earlier' between first hsplit hfirst hr
    rcases (hreports.mp hr).2 with ⟨others, t, quiet, hbefore, ht, hquiet⟩ | hloses
    -- the loss that waits is not from before the first report, which would have had it
    · have hasks := ((Turn.reports_iff d first).mp hfirst).1
      have hfirst' : first ∉ t :: quiet := fun hmem => (hquiet first hmem).1 hasks
      have hbetween := mem_between (hsplit.symm.trans hbefore) hfirst'
      exact ⟨t, List.mem_append_left [turn] hbetween, ht⟩
    · exact ⟨turn, by simp, hloses⟩

end History

/-- A loss that is noticed by a statement outside of the transaction, which cannot reconnect, is
reported by the commit. -/
theorem losses_reported_once_by_commit :
    let link := Rehearsal.link {} [("ping", [.fault .os "gone"]),
      ("connect", [.answer {}, .fault .os "refused"])]
    let ops := [Operation.runTransaction (.text "A") .null false,
      .execute (.text "B") .null .null .null, .commit]
    ∃ before turn, turns Rehearsal.driver ops link = before ++ turn :: [] ∧
      turn.Reports Rehearsal.driver ∧
      (turn.Reports Rehearsal.driver ↔ turn.Asks Rehearsal.driver ∧
        (LossPending Rehearsal.driver before ∨ turn.Loses Rehearsal.driver)) ∧
      (turn.after Rehearsal.driver).Unscathed := by
  intro link ops
  have hturns : turns Rehearsal.driver ops link = [_, _] ++ _ :: [] := rfl
  have h := losses_reported_once Rehearsal.driver {} link.world [] (fun _ v => v) ops hturns
  have hreports : Turn.Reports Rehearsal.driver
      ⟨Link.after Rehearsal.driver (ops.take 2) link, .commit⟩ :=
    ⟨.error (.transactionLost .null), rfl, rfl⟩
  exact ⟨_, _, rfl, hreports, h.1, (h.2.1 hreports).2⟩

end FluentSql
