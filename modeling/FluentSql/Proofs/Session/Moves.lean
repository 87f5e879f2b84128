import FluentSql.Proofs.Session.Steps
import FluentSql.Rehearsal

/-!
# The moves of a session

A course of an operation is made of **moves**: changes of the session that go with one call on the
connection that is held, or with none, and the opening of a connection while none is held.
`Performs.path` says so for all operations at once.

So an invariant that relates a session to the calls made so far has to be checked for the ten moves
and for nothing else: `history_keeps` carries it through every history.
-/

namespace FluentSql

/-- The connection that a call is made on. A connection is opened on none. -/
def Event.connection? : Event → Option Connection
  | .connect .. => none
  | .control c .. | .query c .. => some c

/-- The connection that a call opens. -/
def Event.opened? : Event → Option Connection
  | .connect _ (.ok c) => some c
  | _ => none

/-- The calls that work on a connection or part with it: all but those that open it, prepare it
or probe it. -/
def Event.isWork : Event → Bool
  | .query .. => true
  | .control _ .ping _ => false
  | .control _ call _ => !call.isSetup
  | .connect .. => false

namespace Session

variable {read : Option Connection → Value → Value} {s s' s'' : Session} {c : Connection}
  {events more : List Event}

/-- The moves of a session, with the calls that go with them. How a call turns out matters to the
session only where it opens a connection or begins a transaction. -/
inductive Move (s : Session) : List Event → Session → Prop where
  | probed {c : Connection} {r : Except Fault Unit} (hs : s.held = some c) :
      Move s [.control c .ping r] s
  | sent {c : Connection} {sql params : Value} {r : Except Fault Rows} (hs : s.held = some c) :
      Move s [.query c sql params r] s
  | unbegun {c : Connection} {f : Fault} (hs : s.held = some c) (hi : s.inTransaction = false) :
      Move s [.control c .begin (.error f)] s
  | begun {c : Connection} (hs : s.held = some c) (hl : s.transactionLost = false)
      (hi : s.inTransaction = false) :
      Move s [.control c .begin (.ok ())] { s with inTransaction := true }
  | ended {c : Connection} {call : Control} {r : Except Fault Unit} (hs : s.held = some c)
      (hi : s.inTransaction = true) (hcall : call = .commit ∨ call = .rollback) :
      Move s [.control c call r] s.ended
  | cutOff {c : Connection} {r : Except Fault Unit} (hs : s.held = some c) :
      Move s [.control c .destroy r] s.cutOff
  | released {c : Connection} {call : Control} {r : Except Fault Unit} (hs : s.held = some c)
      (hcall : call = .finish ∨ call = .destroy) : Move s [.control c call r] s.released
  | opening {read : Option Connection → Value → Value} {settings : Settings} {events : List Event}
      {r : Except Fault (Except Fault Connection)} {s' : Session} (hs : s.held = none)
      (ho : Opens read settings s events r s') : Move s events s'
  | settled : Move s [] s.settledLoss
  | idle (hs : s.held = none) : Move s [] s.released

/-- Moves one after the other, with their calls in order. -/
inductive Path : Session → List Event → Session → Prop where
  | nil (s : Session) : Path s [] s
  | cons {s s' s'' : Session} {events more : List Event} (h : Move s events s')
      (hp : Path s' more s'') : Path s (events ++ more) s''

theorem Move.path (h : Move s events s') : Path s events s' :=
  (List.append_nil events) ▸ .cons h (.nil s')

theorem Path.append (h : Path s events s') (hp : Path s' more s'') :
    Path s (events ++ more) s'' := by
  induction h with
  | nil => exact hp
  | cons hm _ ih =>
    rw [List.append_assoc]
    exact .cons hm (ih hp)

/-- What every move keeps, a path keeps. -/
theorem Path.keeps (invariant : List Event → Session → Prop)
    (hmove : ∀ {seen s more s'}, invariant seen s → Move s more s' → invariant (seen ++ more) s')
    {seen : List Event} (hi : invariant seen s) (hp : Path s events s') :
    invariant (seen ++ events) s' := by
  induction hp generalizing seen with
  | nil => rwa [List.append_nil]
  | cons hm _ ih =>
    rw [← List.append_assoc]
    exact ih (hmove hi hm)

/-! ### Courses are paths -/

/-- A connection that is destroyed was held until then, and is not afterwards. -/
theorem Destroys.path_cutOff {r : Except Fault Unit} (h : Destroys c events r)
    (hs : s.held = some c) : Path s events s.cutOff := by
  cases h <;> exact (Move.cutOff hs).path

theorem Discards.path {r : Except Fault Unit} (h : Discards s events r s') : Path s events s' := by
  cases h with
  | nothing hs => exact (Move.idle hs).path
  | dropped hs hd => cases hd <;> exact (Move.released hs (.inr rfl)).path

theorem Closes.path {r : Except Fault Unit} (h : Closes s events r s') : Path s events s' := by
  cases h with
  | nothing => exact .nil s
  | done hs => exact .cons (.released hs (.inl rfl)) Move.settled.path
  | stopped hs => exact .cons (.released hs (.inl rfl)) Move.settled.path

theorem Lives.path {user password schema : Value} {r : Except Fault (Except Fault Connection)}
    (h : Lives read user password schema s events r s') : Path s events s' := by
  cases h with
  | alive hs => exact (Move.probed hs).path
  | stopped hs => exact (Move.probed hs).path
  | dropStopped hs _ hd => exact .cons (.probed hs) (hd.path_cutOff hs)
  -- the new connection is opened from a session that holds none any more
  | replaced hs _ hd ho =>
    exact .cons (.probed hs) ((hd.path_cutOff hs).append (Move.opening rfl ho).path)
  | opened hs ho => exact (Move.opening hs ho).path

theorem Fetches.path {sql params : Value} {r : Except Fault (Except Fault Rows)}
    (h : Fetches read sql params s events r s') : Path s events s' := by
  cases h with
  | stopped hl => exact hl.path
  | unconnected hl => exact hl.path
  | sent hl hs => exact hl.path.append (Move.sent hs).path

theorem Commits.path {r : Except Fault (Except Fault Yield)} (h : Commits s events r s') :
    Path s events s' := by
  cases h with
  | lost => exact Move.settled.path
  | idle => exact .nil s
  | called _ hi hs => exact (Move.ended hs hi (.inl rfl)).path

theorem RollsBack.path {r : Except Fault (Except Fault Yield)} (h : RollsBack s events r s') :
    Path s events s' := by
  cases h with
  | idle => exact Move.settled.path
  | @called c r hi hs =>
    have hended : Move s.settledLoss [.control c .rollback r] s.settledLoss.ended :=
      .ended hs hi (.inr rfl)
    exact .cons .settled hended.path

theorem Recovers.path {r : Except Fault Unit} (h : Recovers s events r s') : Path s events s' := by
  cases h with
  | rolledBack hr => exact hr.path
  | stopped hr => exact hr.path
  | dropped hr hd => exact hr.path.append hd.path

theorem Begins.path {sql : Value} {r : Except Fault (Except Fault Unit)}
    (h : Begins c sql s events r s') (hl : s.transactionLost = false) (hs : s.held = some c) :
    Path s events s' := by
  cases h with
  | joined => exact .nil s
  | failed hi => exact (Move.unbegun hs hi).path
  | begun hi => exact (Move.begun hs hl hi).path

theorem Transacts.path {sql params : Value} {commits : Bool}
    {r : Except Fault (Except Fault Yield)} (h : Transacts read sql params commits c s events r s')
    (hs : s.held = some c) : Path s events s' := by
  cases h with
  | lost => exact Move.settled.path
  | beginStopped hl hb => exact hb.path hl hs
  | unbegun hl hb => exact hb.path hl hs
  | stopped hl hb =>
    exact (hb.path hl hs).append (Move.sent (hb.held_eq.trans hs)).path
  | failed hl hb _ hr =>
    exact (hb.path hl hs).append (.cons (.sent (hb.held_eq.trans hs)) hr.path)
  | leftOpen hl hb =>
    exact (hb.path hl hs).append (Move.sent (hb.held_eq.trans hs)).path
  | committed hl hb _ he =>
    exact (hb.path hl hs).append (.cons (.sent (hb.held_eq.trans hs)) he.path)

/-! ### Work on a connection -/

theorem Discards.work {r : Except Fault Unit} (h : Discards s events r s') :
    ∀ e ∈ events, e.isWork = true := by
  cases h with
  | nothing => nofun
  | dropped _ hd =>
    obtain ⟨o, rfl⟩ := hd.exists_destroy
    simp [Event.isWork, Control.isSetup]

theorem Closes.work {r : Except Fault Unit} (h : Closes s events r s') :
    ∀ e ∈ events, e.isWork = true := by
  cases h <;> simp [Event.isWork, Control.isSetup]

theorem Begins.work {sql : Value} {r : Except Fault (Except Fault Unit)}
    (h : Begins c sql s events r s') : ∀ e ∈ events, e.isWork = true := by
  cases h <;> simp [Event.isWork, Control.isSetup]

theorem Commits.work {r : Except Fault (Except Fault Yield)} (h : Commits s events r s') :
    ∀ e ∈ events, e.isWork = true := by
  cases h <;> simp [Event.isWork, Control.isSetup]

theorem RollsBack.work {r : Except Fault (Except Fault Yield)} (h : RollsBack s events r s') :
    ∀ e ∈ events, e.isWork = true := by
  cases h <;> simp [Event.isWork, Control.isSetup]

theorem Recovers.work {r : Except Fault Unit} (h : Recovers s events r s') :
    ∀ e ∈ events, e.isWork = true := by
  cases h with
  | rolledBack hr => exact hr.work
  | stopped hr => exact hr.work
  | dropped hr hd =>
    intro e he
    exact (List.mem_append.mp he).elim (hr.work e) (hd.work e)

/-- A connection is opened and probed before a statement of a transaction works on it, and not
while it does. -/
theorem Transacts.work {sql params : Value} {commits : Bool}
    {r : Except Fault (Except Fault Yield)}
    (h : Transacts read sql params commits c s events r s') : ∀ e ∈ events, e.isWork = true := by
  have hbehind : ∀ {begun more : List Event} {o : Except Fault Rows},
      (∀ e ∈ begun, e.isWork = true) → (∀ e ∈ more, e.isWork = true) →
      ∀ e ∈ begun ++ .statement read c sql params o :: more, e.isWork = true := by
    intro begun more o hbegun hmore e he
    rcases List.mem_append.mp he with he | he
    · exact hbegun e he
    · rcases List.mem_cons.mp he with rfl | he
      · rfl
      · exact hmore e he
  cases h with
  | lost => nofun
  | beginStopped _ hb => exact hb.work
  | unbegun _ hb => exact hb.work
  | stopped _ hb => exact hbehind hb.work nofun
  | failed _ hb _ hr => exact hbehind hb.work hr.work
  | leftOpen _ hb => exact hbehind hb.work nofun
  | committed _ hb _ he => exact hbehind hb.work he.work

/-- Every operation moves along a path. -/
theorem Performs.path {op : Operation} {r : Except Fault (Except Fault Yield)}
    (h : Performs read s op events r s') : Path s events s' := by
  cases h with
  | ensureConnected hl => exact hl.path
  | executeStopped hf => exact hf.path
  | execute hf => exact hf.path
  | transactionStopped hl => exact hl.path
  | transactionUnconnected hl => exact hl.path
  | transaction hl hs ht => exact hl.path.append (ht.path hs)
  | commit hc => exact hc.path
  | rollback hr => exact hr.path
  | close hc => exact hc.path
  | destroy hd => exact .cons .settled hd.path

end Session

/-! ### Histories -/

variable {σ : Type}

/-- The link that several operations lead to. -/
def Link.after (d : Driver σ) : List Operation → Link σ → Link σ
  | [], link => link
  | op :: ops, link => after d ops (op.step d link).2

theorem Link.after_concat (d : Driver σ) (ops : List Operation) (op : Operation) (link : Link σ) :
    Link.after d (ops ++ [op]) link = (op.step d (Link.after d ops link)).2 := by
  induction ops generalizing link with
  | nil => rfl
  | cons first ops ih => rw [List.cons_append, Link.after, ih, Link.after]

theorem history_concat (d : Driver σ) (ops : List Operation) (op : Operation) (link : Link σ) :
    history d (ops ++ [op]) link =
      history d ops link ++ [(op.step d (Link.after d ops link)).1] := by
  induction ops generalizing link with
  | nil => rfl
  | cons first ops ih => rw [List.cons_append, history, ih, history, List.cons_append, Link.after]

theorem Link.after_read (d : Driver σ) (ops : List Operation) (link : Link σ) :
    (Link.after d ops link).read = link.read := by
  induction ops generalizing link with
  | nil => rfl
  | cons op ops ih => exact (ih _).trans (op.step_read d link)

/-- A fresh session that is rehearsed, with the outcomes of its calls laid out. -/
def Rehearsal.link (settings : Settings) (outcomes : List (String × List Outcome)) :
    Link Rehearsal :=
  ⟨{ settings }, { outcomes }, [], fun _ v => v⟩

/-- What every move keeps, a history keeps. -/
theorem history_keeps (d : Driver σ) (invariant : List Event → Session → Prop)
    (hmove : ∀ {seen s more s'}, invariant seen s → Session.Move s more s' →
      invariant (seen ++ more) s')
    (ops : List Operation) (seen : List Event) (link : Link σ) (hi : invariant seen link.session) :
    invariant (seen ++ Step.allEvents (history d ops link)) (Link.after d ops link).session := by
  -- by induction on the operations, with the calls that were made before them
  induction ops generalizing seen link with
  | nil => rwa [history, Step.allEvents, List.flatMap_nil, List.append_nil]
  | cons op ops ih =>
    have hstep := (op.step_performs d link).path.keeps invariant hmove hi
    have hrest := ih _ _ hstep
    rwa [List.append_assoc] at hrest

/-- Every step of a history takes one of the courses of its operation. -/
theorem performs_of_mem_history (d : Driver σ) {ops : List Operation} {link : Link σ} {step : Step}
    (h : step ∈ history d ops link) :
    ∃ s s', Session.Performs link.read s step.operation step.events step.outcome s' := by
  obtain ⟨before, after, hsplit⟩ := List.append_of_mem h
  obtain ⟨s, s', -, hp⟩ :=
    history_performs d (fun _ _ => True) (fun _ _ => trivial) ops [] rfl trivial hsplit
  exact ⟨s, s', hp⟩

end FluentSql
