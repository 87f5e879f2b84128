import FluentSql.Proofs.Session.Journal

/-!
# The courses of a session's operations

What an operation does is said here once, as a relation between the session before it, the calls
that it makes, its outcome and the session after it. A relation has one constructor for each course
that the operation can take, and says nothing about the driver: how a call turns out is part of the
course. The relations follow the parts of the operations, and `Performs` puts them together.

What is proved by cases on the courses holds for every pattern of success and failure of the calls.

A call that is cancelled stops the operation, so a course ends with the cancellation as its outcome
(`Except.error` outside); every other fault of a call is reported (`Except.error` inside).
-/

namespace FluentSql

/-- How the outcome of a call is passed on: a cancellation stops the work, and any other fault is
reported under a name. -/
def passedOn {α : Type} (name : Fault → Fault) : Except Fault α → Except Fault (Except Fault α)
  | .ok a => .ok (.ok a)
  | .error f => if f.isCancellation then .error f else .ok (.error (name f))

theorem passedOn_of_cancelled {α : Type} (name : Fault → Fault) {f : Fault}
    (hf : f.isCancellation = true) :
    (passedOn name (.error f) : Except Fault (Except Fault α)) = .error f := by
  rw [passedOn, if_pos hf]

theorem passedOn_of_handled {α : Type} (name : Fault → Fault) {f : Fault}
    (hf : f.isCancellation = false) :
    (passedOn name (.error f) : Except Fault (Except Fault α)) = .ok (.error (name f)) := by
  rw [passedOn, hf, if_neg Bool.false_ne_true]

/-- An outcome that lets the work go on is passed on as it is, up to the name of its fault. -/
theorem eq_of_passedOn {α : Type} {name : Fault → Fault} {o r : Except Fault α}
    (h : passedOn name o = .ok r) : r = o.mapError name := by
  rcases o with f | a
  · rw [passedOn] at h
    split at h <;> cases h
    rfl
  · cases h
    rfl

theorem eq_ok_of_passedOn {α β : Type} {name : Fault → Fault} {o : Except Fault α} {g : α → β}
    {b : β} (h : (passedOn name o).map (·.map g) = .ok (.ok b)) : ∃ a, o = .ok a ∧ g a = b := by
  rcases hr : passedOn name o with f | r
  · rw [hr] at h
    cases h
  · obtain rfl := eq_of_passedOn hr
    rw [hr] at h
    rcases o with f | a <;> cases h
    exact ⟨a, rfl, rfl⟩

theorem eq_error_of_passedOn {α β : Type} {name : Fault → Fault} {o : Except Fault α}
    {g : α → β} {f : Fault} (h : (passedOn name o).map (·.map g) = .ok (.error f)) :
    ∃ cause, o = .error cause ∧ f = name cause := by
  rcases hr : passedOn name o with f' | r
  · rw [hr] at h
    cases h
  · obtain rfl := eq_of_passedOn hr
    rw [hr] at h
    rcases o with cause | a <;> cases h
    exact ⟨cause, rfl, rfl⟩

/-- Whether the outcome of a call lets the work go on: it did not fail, or it failed with a fault
that can be handled. -/
def isHandled {α : Type} : Except Fault α → Bool
  | .ok _ => true
  | .error f => !f.isCancellation

/-- The calls that prepare a new connection. -/
def Control.isSetup : Control → Bool
  | selectSchema _ | setWaitTimeout _ => true
  | _ => false

/-- The calls that open connections, prepare, probe and drop them, and neither run a statement nor
begin or end a transaction. -/
def Event.isUpkeep : Event → Bool
  | .connect .. | .control _ .ping _ | .control _ .destroy _ => true
  | .control _ call _ => call.isSetup
  | .query .. => false

theorem Event.isTransactional_of_isUpkeep {e : Event} (h : e.isUpkeep = true) :
    e.isTransactional = false := by
  rcases e with _ | ⟨_, call, _⟩ | _
  · rfl
  · cases call <;> first | rfl | cases h
  · rfl

/-- The call that sends a statement on a connection, with the values as they read at present. -/
def Event.statement (read : Option Connection → Value → Value) (c : Connection)
    (sql params : Value) (outcome : Except Fault Rows) : Event :=
  .query c (read (some c) sql) ((read (some c) params).orElse (.list [])) outcome

namespace Session

/-! ### Sessions after a change -/

/-- A session that let go of its connection, and of the transaction on it. -/
def released (s : Session) : Session :=
  { s with held := none, inTransaction := false }

/-- A session whose connection died, and with it the transaction on it. -/
def cutOff (s : Session) : Session :=
  { s with held := none, inTransaction := false,
           transactionLost := s.transactionLost || s.inTransaction }

/-- A session that reported a lost transaction, or gave it up. -/
def settledLoss (s : Session) : Session :=
  { s with transactionLost := false }

/-- A session whose transaction is over. -/
def ended (s : Session) : Session :=
  { s with inTransaction := false }

/-- A session that holds a new connection. -/
def connectedTo (s : Session) (settings : Settings) (c : Connection) : Session :=
  { s with settings, held := some c, inTransaction := false }

/-- Either there is a transaction to end on a connection that is held, or there is none. -/
theorem idle_or_open (s : Session) :
    (s.inTransaction = false ∨ s.held = none) ∨
      ∃ c, s.inTransaction = true ∧ s.held = some c := by
  rcases hi : s.inTransaction with _ | _
  · exact .inl (.inl rfl)
  · rcases hs : s.held with _ | c
    · exact .inl (.inr rfl)
    · exact .inr ⟨c, rfl, rfl⟩

/-! ### Teardown -/

/-- The courses of destroying a connection. -/
inductive Destroys (c : Connection) : List Event → Except Fault Unit → Prop where
  | done {r : Except Fault Unit} (hr : isHandled r = true) :
      Destroys c [.control c .destroy r] (.ok ())
  | stopped {f : Fault} (hf : f.isCancellation = true) :
      Destroys c [.control c .destroy (.error f)] (.error f)

/-- A connection is destroyed by one call. -/
theorem Destroys.exists_destroy {c : Connection} {events : List Event} {r : Except Fault Unit}
    (h : Destroys c events r) : ∃ o, events = [.control c .destroy o] := by
  cases h <;> exact ⟨_, rfl⟩

/-- The courses of letting go of the connection and destroying it. -/
inductive Discards (s : Session) : List Event → Except Fault Unit → Session → Prop where
  | nothing (hs : s.held = none) : Discards s [] (.ok ()) s.released
  | dropped {c : Connection} {events : List Event} {r : Except Fault Unit}
      (hs : s.held = some c) (hd : Destroys c events r) : Discards s events r s.released

theorem Discards.eq_released {s s' : Session} {events : List Event} {r : Except Fault Unit}
    (h : Discards s events r s') : s' = s.released := by
  cases h <;> rfl

theorem Discards.destroys {s s' : Session} {events : List Event} {r : Except Fault Unit}
    {c : Connection} (h : Discards s events r s') (hs : s.held = some c) :
    Destroys c events r := by
  cases h with
  | nothing hnone => exact absurd (hnone.symm.trans hs) nofun
  | dropped hsome hd =>
    obtain rfl := Option.some.inj (hs.symm.trans hsome)
    exact hd

/-- The courses of closing the connection in good order. -/
inductive Closes (s : Session) : List Event → Except Fault Unit → Session → Prop where
  | nothing (hs : s.held = none) : Closes s [] (.ok ()) s
  | done {c : Connection} {r : Except Fault Unit} (hs : s.held = some c)
      (hr : isHandled r = true) :
      Closes s [.control c .finish r] (.ok ()) s.released.settledLoss
  | stopped {c : Connection} {f : Fault} (hs : s.held = some c) (hf : f.isCancellation = true) :
      Closes s [.control c .finish (.error f)] (.error f) s.released.settledLoss

/-! ### Connecting -/

/-- The call that selects the schema of a new connection, if there is one to select. -/
def schemaCalls (c : Connection) (settings : Settings) : List Event :=
  if settings.schema.truthy then [.control c (.selectSchema settings.schema) (.ok ())] else []

/-- The call that sets the idle timeout of a new connection, if there is one to set. -/
def timeoutCalls (c : Connection) (settings : Settings) : List Event :=
  if settings.waitTimeout.truthy then [.control c (.setWaitTimeout settings.waitTimeout) (.ok ())]
  else []

/-- The courses of setting up a new connection. -/
inductive SetsUp (c : Connection) (settings : Settings) :
    List Event → Except Fault Unit → Prop where
  | done : SetsUp c settings (schemaCalls c settings ++ timeoutCalls c settings) (.ok ())
  | schemaFailed {f : Fault} (h : settings.schema.truthy = true) :
      SetsUp c settings [.control c (.selectSchema settings.schema) (.error f)] (.error f)
  | timeoutFailed {f : Fault} (h : settings.waitTimeout.truthy = true) :
      SetsUp c settings
        (schemaCalls c settings ++ [.control c (.setWaitTimeout settings.waitTimeout) (.error f)])
        (.error f)

/-- The courses of opening a connection and holding it. -/
inductive Opens (read : Option Connection → Value → Value) (settings : Settings) (s : Session) :
    List Event → Except Fault (Except Fault Connection) → Session → Prop where
  | unconnected {f : Fault} :
      Opens read settings s [.connect (settings.map (read s.held)) (.error f)]
        (passedOn .connectFailed (.error f)) s
  | setupStopped {c : Connection} {events : List Event} {f : Fault}
      (hs : SetsUp c (settings.map (read s.held)) events (.error f))
      (hf : f.isCancellation = true) :
      Opens read settings s (.connect (settings.map (read s.held)) (.ok c) :: events) (.error f) s
  | setupFailed {c : Connection} {events dropping : List Event} {f : Fault}
      {r : Except Fault Unit} (hs : SetsUp c (settings.map (read s.held)) events (.error f))
      (hf : f.isCancellation = false) (hd : Destroys c dropping r) :
      Opens read settings s
        (.connect (settings.map (read s.held)) (.ok c) :: (events ++ dropping))
        (r.map fun _ => .error (.setupFailed f)) s
  | opened {c : Connection} {events : List Event}
      (hs : SetsUp c (settings.map (read s.held)) events (.ok ())) :
      Opens read settings s (.connect (settings.map (read s.held)) (.ok c) :: events)
        (.ok (.ok c)) (s.connectedTo settings c)

/-- The courses of making sure that a live connection is held. -/
inductive Lives (read : Option Connection → Value → Value) (user password schema : Value)
    (s : Session) : List Event → Except Fault (Except Fault Connection) → Session → Prop where
  | alive {c : Connection} (hs : s.held = some c) :
      Lives read user password schema s [.control c .ping (.ok ())] (.ok (.ok c)) s
  | stopped {c : Connection} {f : Fault} (hs : s.held = some c) (hf : f.isCancellation = true) :
      Lives read user password schema s [.control c .ping (.error f)] (.error f) s
  | dropStopped {c : Connection} {f g : Fault} {dropping : List Event} (hs : s.held = some c)
      (hf : f.isCancellation = false) (hd : Destroys c dropping (.error g)) :
      Lives read user password schema s (.control c .ping (.error f) :: dropping) (.error g)
        s.cutOff
  | replaced {c : Connection} {f : Fault} {dropping events : List Event}
      {r : Except Fault (Except Fault Connection)} {s' : Session} (hs : s.held = some c)
      (hf : f.isCancellation = false) (hd : Destroys c dropping (.ok ()))
      (ho : Opens read (withCredentials s.settings user password schema) s.cutOff events r s') :
      Lives read user password schema s (.control c .ping (.error f) :: (dropping ++ events)) r s'
  | opened {events : List Event} {r : Except Fault (Except Fault Connection)} {s' : Session}
      (hs : s.held = none)
      (ho : Opens read (withCredentials s.settings user password schema) s events r s') :
      Lives read user password schema s events r s'

/-- A connection that is opened was set up, and is held. -/
theorem Opens.exists_setup {read : Option Connection → Value → Value} {settings : Settings}
    {s s' : Session} {events : List Event} {c : Connection}
    (h : Opens read settings s events (.ok (.ok c)) s') :
    ∃ setup, events = .connect (settings.map (read s.held)) (.ok c) :: setup ∧
      SetsUp c (settings.map (read s.held)) setup (.ok ()) ∧ s' = s.connectedTo settings c := by
  generalize hr : (Except.ok (.ok c) : Except Fault (Except Fault Connection)) = r at h
  cases h with
  | unconnected => cases eq_of_passedOn hr.symm
  | setupStopped => cases hr
  | @setupFailed _ _ _ _ r => rcases r with _ | _ <;> cases hr
  | opened hs =>
    cases hr
    exact ⟨_, rfl, hs, rfl⟩

/-- Where no connection is opened, a call for one failed, or a call to set it up. -/
theorem Opens.failed_cases {read : Option Connection → Value → Value} {settings : Settings}
    {s s' : Session} {events : List Event} {f : Fault}
    (h : Opens read settings s events (.ok (.error f)) s') :
    s' = s ∧ ((∃ cause, f = .connectFailed cause ∧
        events = [.connect (settings.map (read s.held)) (.error cause)]) ∨
      ∃ c cause setup dropping, f = .setupFailed cause ∧
        events = .connect (settings.map (read s.held)) (.ok c) :: (setup ++ dropping) ∧
        SetsUp c (settings.map (read s.held)) setup (.error cause)) := by
  generalize hr : (Except.ok (.error f) : Except Fault (Except Fault Connection)) = r at h
  cases h with
  | unconnected =>
    cases eq_of_passedOn hr.symm
    exact ⟨rfl, .inl ⟨_, rfl, rfl⟩⟩
  | setupStopped => cases hr
  | @setupFailed _ _ _ _ r hs =>
    rcases r with _ | _ <;> cases hr
    exact ⟨rfl, .inr ⟨_, _, _, _, rfl, rfl, hs⟩⟩
  | opened => cases hr

/-- A connection that is opened is held, under the settings that it was opened with. -/
theorem Opens.eq_connectedTo {read : Option Connection → Value → Value} {settings : Settings}
    {s s' : Session} {events : List Event} {c : Connection}
    (h : Opens read settings s events (.ok (.ok c)) s') : s' = s.connectedTo settings c := by
  obtain ⟨-, -, -, hs⟩ := h.exists_setup
  exact hs

/-- A live connection is held. -/
theorem Lives.held_eq {read : Option Connection → Value → Value} {user password schema : Value}
    {s s' : Session} {events : List Event} {c : Connection}
    (h : Lives read user password schema s events (.ok (.ok c)) s') : s'.held = some c := by
  cases h with
  | alive hs => exact hs
  | replaced _ _ _ ho => rw [ho.eq_connectedTo]; rfl
  | opened _ ho => rw [ho.eq_connectedTo]; rfl

/-- The calls that set a connection up all succeeded, up to the last one if the set-up failed. -/
theorem SetsUp.split {c : Connection} {settings : Settings} {events : List Event}
    {r : Except Fault Unit} (h : SetsUp c settings events r) :
    ∃ done, (∀ e ∈ done, ∃ call, call.isSetup = true ∧ e = .control c call (.ok ())) ∧
      (events = done ∧ r = .ok () ∨ ∃ call f, call.isSetup = true ∧
        events = done ++ [.control c call (.error f)] ∧ r = .error f) := by
  have hschema : ∀ e ∈ schemaCalls c settings,
      ∃ call, call.isSetup = true ∧ e = .control c call (.ok ()) := by
    intro e he
    rw [schemaCalls] at he
    split at he
    · exact ⟨_, rfl, List.mem_singleton.mp he⟩
    · cases he
  have htimeout : ∀ e ∈ timeoutCalls c settings,
      ∃ call, call.isSetup = true ∧ e = .control c call (.ok ()) := by
    intro e he
    rw [timeoutCalls] at he
    split at he
    · exact ⟨_, rfl, List.mem_singleton.mp he⟩
    · cases he
  cases h with
  | done =>
    exact ⟨_, fun e he => (List.mem_append.mp he).elim (hschema e) (htimeout e), .inl ⟨rfl, rfl⟩⟩
  | schemaFailed => exact ⟨[], nofun, .inr ⟨_, _, rfl, rfl, rfl⟩⟩
  | timeoutFailed => exact ⟨_, hschema, .inr ⟨_, _, rfl, rfl, rfl⟩⟩

theorem SetsUp.exists_setup {c : Connection} {settings : Settings} {events : List Event}
    {r : Except Fault Unit} (h : SetsUp c settings events r) {e : Event} (he : e ∈ events) :
    ∃ call o, call.isSetup = true ∧ e = .control c call o := by
  obtain ⟨done, hdone, ⟨rfl, -⟩ | ⟨call, f, hcall, rfl, -⟩⟩ := h.split
  · obtain ⟨call, hcall, rfl⟩ := hdone e he
    exact ⟨call, _, hcall, rfl⟩
  · rcases List.mem_append.mp he with he | he
    · obtain ⟨call, hcall, rfl⟩ := hdone e he
      exact ⟨call, _, hcall, rfl⟩
    · exact ⟨call, _, hcall, List.mem_singleton.mp he⟩

theorem SetsUp.upkeep {c : Connection} {settings : Settings} {events : List Event}
    {r : Except Fault Unit} (h : SetsUp c settings events r) :
    ∀ e ∈ events, e.isUpkeep = true := by
  intro e he
  obtain ⟨call, o, hcall, rfl⟩ := h.exists_setup he
  cases call <;> first | rfl | cases hcall

theorem Destroys.upkeep {c : Connection} {events : List Event} {r : Except Fault Unit}
    (h : Destroys c events r) : ∀ e ∈ events, e.isUpkeep = true := by
  obtain ⟨o, rfl⟩ := h.exists_destroy
  intro e he
  rw [List.mem_singleton.mp he]
  rfl

theorem Opens.upkeep {read : Option Connection → Value → Value} {settings : Settings}
    {s s' : Session} {events : List Event} {r : Except Fault (Except Fault Connection)}
    (h : Opens read settings s events r s') : ∀ e ∈ events, e.isUpkeep = true := by
  intro e he
  cases h with
  | unconnected =>
    rw [List.mem_singleton.mp he]
    rfl
  | setupStopped hs =>
    rcases List.mem_cons.mp he with rfl | he
    · rfl
    · exact hs.upkeep e he
  | setupFailed hs _ hd =>
    rcases List.mem_cons.mp he with rfl | he
    · rfl
    · exact (List.mem_append.mp he).elim (hs.upkeep e) (hd.upkeep e)
  | opened hs =>
    rcases List.mem_cons.mp he with rfl | he
    · rfl
    · exact hs.upkeep e he

/-- Making sure of a connection takes no other calls than those of its upkeep. -/
theorem Lives.upkeep {read : Option Connection → Value → Value} {user password schema : Value}
    {s s' : Session} {events : List Event} {r : Except Fault (Except Fault Connection)}
    (h : Lives read user password schema s events r s') : ∀ e ∈ events, e.isUpkeep = true := by
  intro e he
  cases h with
  | alive =>
    rw [List.mem_singleton.mp he]
    rfl
  | stopped =>
    rw [List.mem_singleton.mp he]
    rfl
  | dropStopped _ _ hd =>
    rcases List.mem_cons.mp he with rfl | he
    · rfl
    · exact hd.upkeep e he
  | replaced _ _ hd ho =>
    rcases List.mem_cons.mp he with rfl | he
    · rfl
    · exact (List.mem_append.mp he).elim (hd.upkeep e) (ho.upkeep e)
  | opened _ ho => exact ho.upkeep e he

/-! ### Statements and transactions -/

/-- The courses of running one statement outside of a transaction. -/
inductive Fetches (read : Option Connection → Value → Value) (sql params : Value) (s : Session) :
    List Event → Except Fault (Except Fault Rows) → Session → Prop where
  | stopped {events : List Event} {f : Fault} {s' : Session}
      (hl : Lives read .null .null .null s events (.error f) s') :
      Fetches read sql params s events (.error f) s'
  | unconnected {events : List Event} {f : Fault} {s' : Session}
      (hl : Lives read .null .null .null s events (.ok (.error f)) s') :
      Fetches read sql params s events (.ok (.error f)) s'
  | sent {events : List Event} {c : Connection} {s' : Session} {r : Except Fault Rows}
      (hl : Lives read .null .null .null s events (.ok (.ok c)) s') (hs : s'.held = some c) :
      Fetches read sql params s (events ++ [.statement read c sql params r])
        (passedOn (.statementFailed sql) r) s'

/-- The courses of committing. -/
inductive Commits (s : Session) :
    List Event → Except Fault (Except Fault Yield) → Session → Prop where
  | lost (hl : s.transactionLost = true) :
      Commits s [] (.ok (.error (.transactionLost .null))) s.settledLoss
  | idle (hl : s.transactionLost = false) (hi : s.inTransaction = false ∨ s.held = none) :
      Commits s [] (.ok (.ok .nothing)) s
  | called {c : Connection} {r : Except Fault Unit} (hl : s.transactionLost = false)
      (hi : s.inTransaction = true) (hs : s.held = some c) :
      Commits s [.control c .commit r]
        ((passedOn .commitFailed r).map (·.map fun _ => .nothing)) s.ended

/-- The courses of rolling back. -/
inductive RollsBack (s : Session) :
    List Event → Except Fault (Except Fault Yield) → Session → Prop where
  | idle (hi : s.inTransaction = false ∨ s.held = none) :
      RollsBack s [] (.ok (.ok .nothing)) s.settledLoss
  | called {c : Connection} {r : Except Fault Unit} (hi : s.inTransaction = true)
      (hs : s.held = some c) :
      RollsBack s [.control c .rollback r]
        ((passedOn .rollbackFailed r).map (·.map fun _ => .nothing)) s.settledLoss.ended

/-- The courses of rolling back after a failed statement. -/
inductive Recovers (s : Session) : List Event → Except Fault Unit → Session → Prop where
  | rolledBack {events : List Event} {y : Yield} {s' : Session}
      (hr : RollsBack s events (.ok (.ok y)) s') : Recovers s events (.ok ()) s'
  | stopped {events : List Event} {f : Fault} {s' : Session}
      (hr : RollsBack s events (.error f) s') : Recovers s events (.error f) s'
  | dropped {events dropping : List Event} {f : Fault} {r : Except Fault Unit} {s' s'' : Session}
      (hr : RollsBack s events (.ok (.error f)) s') (hd : Discards s' dropping r s'') :
      Recovers s (events ++ dropping) r s''

/-- The courses of opening a transaction on a connection, unless one is open. -/
inductive Begins (c : Connection) (sql : Value) (s : Session) :
    List Event → Except Fault (Except Fault Unit) → Session → Prop where
  | joined (hi : s.inTransaction = true) : Begins c sql s [] (.ok (.ok ())) s
  | failed {f : Fault} (hi : s.inTransaction = false) :
      Begins c sql s [.control c .begin (.error f)] (passedOn (.beginFailed sql) (.error f)) s
  | begun (hi : s.inTransaction = false) :
      Begins c sql s [.control c .begin (.ok ())] (.ok (.ok ())) { s with inTransaction := true }

/-- The courses of a statement of a transaction on a live connection. -/
inductive Transacts (read : Option Connection → Value → Value) (sql params : Value)
    (commits : Bool) (c : Connection) (s : Session) :
    List Event → Except Fault (Except Fault Yield) → Session → Prop where
  | lost (hl : s.transactionLost = true) :
      Transacts read sql params commits c s [] (.ok (.error (.transactionLost sql)))
        s.settledLoss
  | beginStopped {events : List Event} {f : Fault} {s' : Session}
      (hl : s.transactionLost = false) (hb : Begins c sql s events (.error f) s') :
      Transacts read sql params commits c s events (.error f) s'
  | unbegun {events : List Event} {f : Fault} {s' : Session} (hl : s.transactionLost = false)
      (hb : Begins c sql s events (.ok (.error f)) s') :
      Transacts read sql params commits c s events (.ok (.error f)) s'
  | stopped {events : List Event} {f : Fault} {s' : Session} (hl : s.transactionLost = false)
      (hb : Begins c sql s events (.ok (.ok ())) s') (hf : f.isCancellation = true) :
      Transacts read sql params commits c s
        (events ++ [.statement read c sql params (.error f)]) (.error f) s'
  | failed {events recovery : List Event} {f : Fault} {s' s'' : Session} {r : Except Fault Unit}
      (hl : s.transactionLost = false) (hb : Begins c sql s events (.ok (.ok ())) s')
      (hf : f.isCancellation = false) (hr : Recovers s' recovery r s'') :
      Transacts read sql params commits c s
        (events ++ .statement read c sql params (.error f) :: recovery)
        (r.map fun _ => .error (.aborted sql f)) s''
  | leftOpen {events : List Event} {rows : Rows} {s' : Session} (hl : s.transactionLost = false)
      (hb : Begins c sql s events (.ok (.ok ())) s') (hc : commits = false) :
      Transacts read sql params commits c s
        (events ++ [.statement read c sql params (.ok rows)]) (.ok (.ok (.rows rows))) s'
  | committed {events ending : List Event} {rows : Rows} {s' s'' : Session}
      {r : Except Fault (Except Fault Yield)} (hl : s.transactionLost = false)
      (hb : Begins c sql s events (.ok (.ok ())) s') (hc : commits = true)
      (he : Commits s' ending r s'') :
      Transacts read sql params commits c s
        (events ++ .statement read c sql params (.ok rows) :: ending)
        (r.map (·.map fun _ => .rows rows)) s''

/-- How a statement of a transaction goes on from what making sure of its connection came to. -/
inductive Proceeds (read : Option Connection → Value → Value) (sql params : Value)
    (commits : Bool) : Except Fault (Except Fault Connection) → Session →
    List Event → Except Fault (Except Fault Yield) → Session → Prop where
  | stopped (f : Fault) (s : Session) :
      Proceeds read sql params commits (.error f) s [] (.error f) s
  | unconnected (f : Fault) (s : Session) :
      Proceeds read sql params commits (.ok (.error f)) s [] (.ok (.error f)) s
  | connected {c : Connection} {s s' : Session} {events : List Event}
      {r : Except Fault (Except Fault Yield)} (hs : s.held = some c)
      (ht : Transacts read sql params commits c s events r s') :
      Proceeds read sql params commits (.ok (.ok c)) s events r s'

/-! ### Operations -/

/-- What the rows of a statement are narrowed to. An index that cannot be compared stops the
operation. -/
def narrowed (read : Option Connection → Value → Value) (held : Option Connection)
    (index column : Value) : Except Fault Rows → Except Fault (Except Fault Yield)
  | .error f => .ok (.error f)
  | .ok rows =>
    match narrow (.list rows.rows) (read held index) (read held column) with
    | .ok found => .ok (.ok (found.elim (.rows rows) .item))
    | .error f => .error f

/-- The courses of the operations. -/
inductive Performs (read : Option Connection → Value → Value) (s : Session) :
    Operation → List Event → Except Fault (Except Fault Yield) → Session → Prop where
  | ensureConnected {user password schema : Value} {events : List Event}
      {r : Except Fault (Except Fault Connection)} {s' : Session}
      (hl : Lives read user password schema s events r s') :
      Performs read s (.ensureConnected user password schema) events
        (r.map (·.map fun _ => .nothing)) s'
  | executeStopped {sql params index column : Value} {events : List Event} {f : Fault}
      {s' : Session} (hf : Fetches read sql params s events (.error f) s') :
      Performs read s (.execute sql params index column) events (.error f) s'
  | execute {sql params index column : Value} {events : List Event} {r : Except Fault Rows}
      {s' : Session} (hf : Fetches read sql params s events (.ok r) s') :
      Performs read s (.execute sql params index column) events
        (narrowed read s'.held index column r) s'
  | transactionStopped {sql params : Value} {commits : Bool} {events : List Event} {f : Fault}
      {s' : Session} (hl : Lives read .null .null .null s events (.error f) s') :
      Performs read s (.runTransaction sql params commits) events (.error f) s'
  | transactionUnconnected {sql params : Value} {commits : Bool} {events : List Event} {f : Fault}
      {s' : Session} (hl : Lives read .null .null .null s events (.ok (.error f)) s') :
      Performs read s (.runTransaction sql params commits) events (.ok (.error f)) s'
  | transaction {sql params : Value} {commits : Bool} {events course : List Event}
      {c : Connection} {r : Except Fault (Except Fault Yield)} {s' s'' : Session}
      (hl : Lives read .null .null .null s events (.ok (.ok c)) s') (hs : s'.held = some c)
      (ht : Transacts read sql params commits c s' course r s'') :
      Performs read s (.runTransaction sql params commits) (events ++ course) r s''
  | commit {events : List Event} {r : Except Fault (Except Fault Yield)} {s' : Session}
      (hc : Commits s events r s') : Performs read s .commit events r s'
  | rollback {events : List Event} {r : Except Fault (Except Fault Yield)} {s' : Session}
      (hr : RollsBack s events r s') : Performs read s .rollback events r s'
  | close {events : List Event} {r : Except Fault Unit} {s' : Session}
      (hc : Closes s events r s') :
      Performs read s .close events (r.map fun _ => .ok .nothing) s'
  | destroy {events : List Event} {r : Except Fault Unit} {s' : Session}
      (hd : Discards s.settledLoss events r s') :
      Performs read s .destroy events (r.map fun _ => .ok .nothing) s'

theorem Proceeds.performs {read : Option Connection → Value → Value} {sql params : Value}
    {commits : Bool} {s s' s'' : Session} {lives course : List Event}
    {r : Except Fault (Except Fault Connection)} {o : Except Fault (Except Fault Yield)}
    (h : Proceeds read sql params commits r s' course o s'')
    (hl : Lives read .null .null .null s lives r s') :
    Performs read s (.runTransaction sql params commits) (lives ++ course) o s'' := by
  cases h with
  | stopped =>
    rw [List.append_nil]
    exact .transactionStopped hl
  | unconnected =>
    rw [List.append_nil]
    exact .transactionUnconnected hl
  | connected hs ht => exact .transaction hl hs ht

end Session

end FluentSql
