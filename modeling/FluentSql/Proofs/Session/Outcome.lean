import FluentSql.Proofs.Session.Protocol

/-!
# What an outcome tells

The outcome of a statement of a transaction tells which calls were made for it and how they turned
out. It stops with a cancellation exactly if one of its calls was cancelled. Otherwise it reports a
result, and `Tells` reads the result: each kind of fault, and success, is reported in exactly one
situation.

`runTransaction_tells` has this for every session that operations can lead to. It rests on
`Tracks`: a session without a connection has no transaction, and one that has lost its
transaction has none.
-/

namespace FluentSql

/-- The fault that a call came to. -/
def faultOf {α : Type} : Except Fault α → Option Fault
  | .ok _ => none
  | .error f => some f

namespace Event

/-- The fault of a call that failed. -/
def fault? : Event → Option Fault
  | .connect _ r => faultOf r
  | .control _ _ r => faultOf r
  | .query _ _ _ r => faultOf r

/-- The cancellation of a call that was cancelled. -/
def cancellation? (e : Event) : Option Fault :=
  e.fault?.filter (·.isCancellation)

/-- The calls that open a connection and prepare it. -/
def isConnecting : Event → Bool
  | .connect .. => true
  | .control _ call _ => call.isSetup
  | .query .. => false

end Event

/-- The driver's own fault behind a fault that a session reports. -/
def Fault.cause? : Fault → Option Fault
  | connectFailed cause | setupFailed cause | statementFailed _ cause | beginFailed _ cause
  | commitFailed cause | rollbackFailed cause | aborted _ cause => some cause
  | _ => none

/-- The kind of the fault that a result reports, with its cause. -/
def reported? : Except Fault Yield → Option (String × Option Fault)
  | .ok _ => none
  | .error f => some (f.title, f.cause?)

/-- Whether one of the calls was to open a connection or to prepare it, and failed. -/
def ConnectingFailed (events : List Event) : Prop :=
  ∃ e ∈ events, e.isConnecting = true ∧ e.fault? ≠ none

/-- What the result of a statement of a transaction tells about the calls that were made for it, and
about the session after it. -/
structure Tells (sql : Value) (commits : Bool) (lossPending : Prop) (events : List Event)
    (result : Except Fault Yield) (s : Session) : Prop where
  unconnected_iff : (∃ cause, reported? result = some ("ConnectionError", cause)) ↔
    ConnectingFailed events
  unconnected : ConnectingFailed events → ∀ e ∈ events, e.isUpkeep = true
  lost_iff : reported? result = some ("TransactionAbort", none) ↔ lossPending
  lost : lossPending → ∀ e ∈ events, e.isUpkeep = true
  aborted_iff : ∀ {f}, reported? result = some ("TransactionAbort", some f) ↔
    ∃ c text params, .query c text params (.error f) ∈ events
  /-- A failed statement is rolled back, once, and its connection dropped if that fails. -/
  aborted : ∀ {c text params f}, .query c text params (.error f) ∈ events →
    result = .error (.aborted sql f) ∧ ∃ earlier r dropping,
      events = earlier ++ .query c text params (.error f) :: .control c .rollback r :: dropping ∧
      (∀ e ∈ earlier, e.isEnding = false) ∧
      (r = .ok () ∧ dropping = [] ∨
        ∃ g o, r = .error g ∧ dropping = [.control c .destroy o] ∧ s.held = none)
  refused_iff : (∃ cause, reported? result = some ("DriverError", cause)) ↔
    (∃ c f, .control c .begin (.error f) ∈ events) ∨
      ∃ c text params rows f, .query c text params (.ok rows) ∈ events ∧
        .control c .commit (.error f) ∈ events
  unbegun : ∀ {c f}, .control c .begin (.error f) ∈ events → ∀ e ∈ events, e.isStatement = false
  uncommitted : ∀ {c f}, .control c .commit (.error f) ∈ events →
    ∀ {c' o}, .control c' .rollback o ∉ events
  success_iff : ∀ {y}, result = .ok y ↔ ∃ c text params rows, y = .rows rows ∧
    .query c text params (.ok rows) ∈ events ∧
    (commits = true → .control c .commit (.ok ()) ∈ events)
  open_iff : s.inTransaction = true ↔ (∃ y, result = .ok y) ∧ commits = false

/-! ### Stopping -/

/-- Calls after which work is stopped by a cancellation exactly if one of them was cancelled. -/
def StopsAt {α : Type} (events : List Event) (r : Except Fault α) : Prop :=
  ∀ f, r = .error f ↔ ∃ e ∈ events, e.cancellation? = some f

namespace StopsAt

variable {α β : Type} {events more : List Event} {e : Event} {r : Except Fault α} {f : Fault}

theorem of_ok (h : ∀ e ∈ events, e.fault? = none) (a : α) : StopsAt events (.ok a) := by
  intro f
  refine iff_of_false nofun ?_
  rintro ⟨e, he, hf⟩
  rw [Event.cancellation?, h e he] at hf
  cases hf

theorem nil (a : α) : StopsAt [] (.ok a) :=
  of_ok (by simp) a

theorem one_ok (he : e.fault? = none) (a : α) : StopsAt [e] (.ok a) :=
  of_ok (fun e' he' => by rwa [List.mem_singleton.mp he']) a

theorem handled (he : e.fault? = some f) (hf : f.isCancellation = false) (a : α) :
    StopsAt [e] (.ok a) := by
  intro g
  have hnone : e.cancellation? = none := by
    rw [Event.cancellation?, he]
    exact Option.filter_some_neg hf
  simp [hnone]

theorem stopped (he : e.fault? = some f) (hf : f.isCancellation = true) :
    StopsAt [e] (.error f : Except Fault α) := by
  intro g
  have hsome : e.cancellation? = some f := by
    rw [Event.cancellation?, he, Option.filter_some_pos hf]
  simp [hsome]

/-- A call whose outcome is passed on. -/
theorem passedOn {o : Except Fault α} (he : e.fault? = faultOf o) (name : Fault → Fault) :
    StopsAt [e] (passedOn name o) := by
  rcases o with f | a
  · rcases hf : f.isCancellation with _ | _
    · rw [passedOn_of_handled name hf]
      exact handled he hf _
    · rw [passedOn_of_cancelled name hf]
      exact stopped he hf
  · exact one_ok he _

theorem map (h : StopsAt events r) (g : α → β) : StopsAt events (r.map g) := by
  intro f
  rw [← h f]
  rcases r with f' | a
  · exact ⟨fun h => congrArg _ (Except.error.inj h), fun h => congrArg _ (Except.error.inj h)⟩
  · exact iff_of_false nofun nofun

/-- What work gives where it is not stopped does not matter. -/
theorem ok {a : α} (h : StopsAt events (.ok a)) (b : β) : StopsAt events (.ok b) :=
  h.map fun _ => b

theorem error (h : StopsAt events (.error f : Except Fault α)) :
    StopsAt events (.error f : Except Fault β) := by
  intro g
  rw [← h g]
  exact ⟨fun h => congrArg _ (Except.error.inj h), fun h => congrArg _ (Except.error.inj h)⟩

theorem append {b : β} (h : StopsAt events (.ok b)) (hm : StopsAt more r) :
    StopsAt (events ++ more) r := by
  intro f
  have hnone : ¬ ∃ e ∈ events, e.cancellation? = some f := (h f).not.mp nofun
  simp only [List.mem_append, or_and_right, exists_or, hnone, false_or]
  exact hm f

theorem cons {b : β} (h : StopsAt [e] (.ok b)) (hm : StopsAt more r) : StopsAt (e :: more) r :=
  h.append hm

end StopsAt

namespace Session

variable {read : Option Connection → Value → Value} {settings : Settings} {sql params : Value}
  {commits : Bool} {s s' : Session} {c : Connection} {events : List Event}

theorem Destroys.stopsAt {r : Except Fault Unit} (h : Destroys c events r) : StopsAt events r := by
  cases h with
  | @done r hr =>
    rcases r with f | ⟨⟩
    · exact .handled rfl (by simpa [isHandled] using hr) ()
    · exact .one_ok rfl ()
  | stopped hf => exact .stopped rfl hf

theorem Discards.stopsAt {r : Except Fault Unit} (h : Discards s events r s') :
    StopsAt events r := by
  cases h with
  | nothing => exact .nil ()
  | dropped _ hd => exact hd.stopsAt

theorem SetsUp.stopsAt {r : Except Fault Unit} (h : SetsUp c settings events r)
    (name : Fault → Fault) : StopsAt events (passedOn name r) := by
  obtain ⟨done, hdone, hsplit⟩ := h.split
  have hok : ∀ e ∈ done, e.fault? = none := by
    intro e he
    obtain ⟨call, -, rfl⟩ := hdone e he
    rfl
  obtain ⟨rfl, rfl⟩ | ⟨call, f, -, rfl, rfl⟩ := hsplit
  · exact .of_ok hok _
  · exact (StopsAt.of_ok hok ()).append (.passedOn rfl name)

theorem Opens.stopsAt {r : Except Fault (Except Fault Connection)}
    (h : Opens read settings s events r s') : StopsAt events r := by
  have hconnect : ∀ c, StopsAt [.connect (settings.map (read s.held)) (.ok c)] (.ok ()) :=
    fun c => .one_ok rfl ()
  cases h with
  | unconnected => exact .passedOn rfl _
  | setupStopped hs hf =>
    have hsetup := hs.stopsAt id
    rw [passedOn_of_cancelled id hf] at hsetup
    exact (hconnect _).cons hsetup.error
  | setupFailed hs hf hd =>
    have hsetup := hs.stopsAt id
    rw [passedOn_of_handled id hf] at hsetup
    exact (hconnect _).cons (hsetup.append (hd.stopsAt.map _))
  | opened hs => exact (hconnect _).cons ((hs.stopsAt id).ok _)

theorem Lives.stopsAt {user password schema : Value} {r : Except Fault (Except Fault Connection)}
    (h : Lives read user password schema s events r s') : StopsAt events r := by
  cases h with
  | alive => exact .one_ok rfl _
  | stopped _ hf => exact .stopped rfl hf
  | dropStopped _ hf hd => exact (StopsAt.handled rfl hf ()).cons hd.stopsAt.error
  | replaced _ hf hd ho =>
    exact (StopsAt.handled rfl hf ()).cons (hd.stopsAt.append ho.stopsAt)
  | opened _ ho => exact ho.stopsAt

theorem Begins.stopsAt {r : Except Fault (Except Fault Unit)}
    (h : Begins c sql s events r s') : StopsAt events r := by
  cases h with
  | joined => exact .nil _
  | failed => exact .passedOn rfl _
  | begun => exact .one_ok rfl _

theorem Commits.stopsAt {r : Except Fault (Except Fault Yield)} (h : Commits s events r s') :
    StopsAt events r := by
  cases h with
  | lost => exact .nil _
  | idle => exact .nil _
  | called => exact (StopsAt.passedOn rfl _).map _

theorem RollsBack.stopsAt {r : Except Fault (Except Fault Yield)} (h : RollsBack s events r s') :
    StopsAt events r := by
  cases h with
  | idle => exact .nil _
  | called => exact (StopsAt.passedOn rfl _).map _

theorem Recovers.stopsAt {r : Except Fault Unit} (h : Recovers s events r s') :
    StopsAt events r := by
  cases h with
  | rolledBack hr => exact hr.stopsAt.ok ()
  | stopped hr => exact hr.stopsAt.error
  | dropped hr hd => exact hr.stopsAt.append hd.stopsAt

theorem Transacts.stopsAt {r : Except Fault (Except Fault Yield)}
    (h : Transacts read sql params commits c s events r s') : StopsAt events r := by
  cases h with
  | lost => exact .nil _
  | beginStopped _ hb => exact hb.stopsAt.error
  | unbegun _ hb => exact hb.stopsAt.ok _
  | stopped _ hb hf => exact hb.stopsAt.append (.stopped rfl hf)
  | failed _ hb hf hr =>
    exact hb.stopsAt.append ((StopsAt.handled rfl hf ()).cons (hr.stopsAt.map _))
  | leftOpen _ hb => exact hb.stopsAt.append (.one_ok rfl _)
  | committed _ hb _ he =>
    exact hb.stopsAt.append ((StopsAt.one_ok rfl ()).cons (he.stopsAt.map _))

theorem Fetches.stopsAt {r : Except Fault (Except Fault Rows)}
    (h : Fetches read sql params s events r s') : StopsAt events r := by
  cases h with
  | stopped hl => exact hl.stopsAt.error
  | unconnected hl => exact hl.stopsAt.ok _
  | sent hl => exact hl.stopsAt.append (.passedOn rfl _)

/-- A statement of a transaction stops exactly where one of its calls is cancelled. -/
theorem Proceeds.stopsAt {lives : List Event} {r : Except Fault (Except Fault Connection)}
    {o : Except Fault (Except Fault Yield)}
    (h : Proceeds read sql params commits r s events o s') (hl : StopsAt lives r) :
    StopsAt (lives ++ events) o := by
  cases h with
  | stopped =>
    rw [List.append_nil]
    exact hl.error
  | unconnected =>
    rw [List.append_nil]
    exact hl.ok _
  | connected _ ht => exact hl.append ht.stopsAt

end Session

/-! ### Telling -/

/-- Calls that lead up to a statement: a connection was made sure of, and at most a transaction
begun on it. -/
structure Leads (events : List Event) : Prop where
  connected : ∀ e ∈ events, e.isConnecting = true → e.fault? = none
  no_statement : ∀ e ∈ events, e.isStatement = false
  no_ending : ∀ e ∈ events, e.isEnding = false
  begun : ∀ {c f}, .control c .begin (.error f) ∉ events

variable {sql : Value} {commits : Bool} {lossPending : Prop} {events before more : List Event}
  {s : Session} {c : Connection} {text params : Value} {f : Fault}

theorem query_not_mem (hu : ∀ e ∈ events, e.isUpkeep = true) {o : Except Fault Rows} :
    .query c text params o ∉ events :=
  fun hmem => absurd (hu _ hmem) nofun

theorem control_not_mem (hu : ∀ e ∈ events, e.isUpkeep = true) {call : Control}
    {o : Except Fault Unit} (hcall : call.isTransactional = true) :
    .control c call o ∉ events := by
  intro hmem
  exact absurd ((Event.isTransactional_of_isUpkeep (hu _ hmem)).symm.trans hcall) nofun

namespace Leads

theorem not_connectingFailed (h : Leads before) (hmore : ∀ e ∈ more, e.isConnecting = false) :
    ¬ ConnectingFailed (before ++ more) := by
  rintro ⟨e, he, hconnecting, hfault⟩
  rcases List.mem_append.mp he with he | he
  · exact hfault (h.connected e he hconnecting)
  · exact absurd ((hmore e he).symm.trans hconnecting) nofun

theorem no_query (h : Leads before) {o : Except Fault Rows} : .query c text params o ∉ before :=
  fun hmem => absurd (h.no_statement _ hmem) nofun

theorem no_commit (h : Leads before) {o : Except Fault Unit} : .control c .commit o ∉ before :=
  fun hmem => absurd (h.no_ending _ hmem) nofun

theorem no_rollback (h : Leads before) {o : Except Fault Unit} :
    .control c .rollback o ∉ before :=
  fun hmem => absurd (h.no_ending _ hmem) nofun

end Leads

namespace Tells

/-- Without a statement, and calls that begin or end a transaction, only a fault is to report. -/
theorem of_unconnected (hu : ∀ e ∈ events, e.isUpkeep = true) (hfailed : ConnectingFailed events)
    (hlost : ¬ lossPending) (hf : f.title = "ConnectionError") (hi : s.inTransaction = false) :
    Tells sql commits lossPending events (.error f) s := by
  have hquery : ∀ {c text params o}, .query c text params o ∉ events := query_not_mem hu
  have hbegin : ∀ {c o}, .control c .begin o ∉ events := control_not_mem hu rfl
  have hcommit : ∀ {c o}, .control c .commit o ∉ events := control_not_mem hu rfl
  exact {
    unconnected_iff := iff_of_true ⟨f.cause?, by rw [reported?, hf]⟩ hfailed
    unconnected := fun _ => hu
    lost_iff := iff_of_false (by simp [reported?, hf]) hlost
    lost := fun _ => hu
    aborted_iff := iff_of_false (by simp [reported?, hf]) (by simp [hquery])
    aborted := by simp [hquery]
    refused_iff := iff_of_false (by simp [reported?, hf]) (by simp [hquery, hbegin])
    unbegun := by simp [hbegin]
    uncommitted := by simp [hcommit]
    success_iff := by simp [hquery]
    open_iff := by simp [hi] }

theorem of_lost (hl : Leads events) (hu : ∀ e ∈ events, e.isUpkeep = true) (hlost : lossPending)
    (hi : s.inTransaction = false) :
    Tells sql commits lossPending events (.error (.transactionLost sql)) s := by
  have hconnected : ¬ ConnectingFailed events := by
    rintro ⟨e, he, hconnecting, hfault⟩
    exact hfault (hl.connected e he hconnecting)
  exact {
    unconnected_iff := iff_of_false (by simp [reported?, Fault.title]) hconnected
    unconnected := fun _ => hu
    lost_iff := iff_of_true rfl hlost
    lost := fun _ => hu
    aborted_iff := iff_of_false (by simp [reported?, Fault.cause?]) (by simp [hl.no_query])
    aborted := by simp [hl.no_query]
    refused_iff := iff_of_false (by simp [reported?, Fault.title]) (by simp [hl.no_query, hl.begun])
    unbegun := by simp [hl.begun]
    uncommitted := by simp [hl.no_commit]
    success_iff := by simp [hl.no_query]
    open_iff := by simp [hi] }

theorem of_begin_failed (hl : Leads before) (hlost : ¬ lossPending)
    (hi : s.inTransaction = false) :
    Tells sql commits lossPending (before ++ [.control c .begin (.error f)])
      (.error (.beginFailed sql f)) s := by
  have hconnected : ¬ ConnectingFailed (before ++ [.control c .begin (.error f)]) :=
    hl.not_connectingFailed (by simp [Event.isConnecting, Control.isSetup])
  have hstatement : ∀ e ∈ before ++ [.control c .begin (.error f)], e.isStatement = false := by
    simpa [or_imp, forall_and, Event.isStatement] using hl.no_statement
  exact {
    unconnected_iff := iff_of_false (by simp [reported?, Fault.title]) hconnected
    unconnected := fun h => absurd h hconnected
    lost_iff := iff_of_false (by simp [reported?, Fault.title]) hlost
    lost := fun h => absurd h hlost
    aborted_iff := iff_of_false (by simp [reported?, Fault.title]) (by simp [hl.no_query])
    aborted := by simp [hl.no_query]
    refused_iff := iff_of_true ⟨some f, rfl⟩ (.inl ⟨c, f, by simp⟩)
    unbegun := fun _ => hstatement
    uncommitted := by simp [hl.no_commit]
    success_iff := by simp [hl.no_query]
    open_iff := by simp [hi] }

theorem of_statement_failed (hl : Leads before) (hlost : ¬ lossPending)
    (hi : s.inTransaction = false) {r : Except Fault Unit} {dropping : List Event}
    (hd : r = .ok () ∧ dropping = [] ∨
      ∃ g o, r = .error g ∧ dropping = [.control c .destroy o] ∧ s.held = none) :
    Tells sql commits lossPending
      (before ++ .query c text params (.error f) :: .control c .rollback r :: dropping)
      (.error (.aborted sql f)) s := by
  have hu : ∀ e ∈ dropping, e.isUpkeep = true := by
    obtain ⟨-, rfl⟩ | ⟨g, o, -, rfl, -⟩ := hd <;> simp [Event.isUpkeep]
  have hquery : ∀ {c text params o}, .query c text params o ∉ dropping := query_not_mem hu
  have hbegin : ∀ {c o}, .control c .begin o ∉ dropping := control_not_mem hu rfl
  have hcommit : ∀ {c o}, .control c .commit o ∉ dropping := control_not_mem hu rfl
  have hconnected : ¬ ConnectingFailed
      (before ++ .query c text params (.error f) :: .control c .rollback r :: dropping) := by
    refine hl.not_connectingFailed ?_
    obtain ⟨-, rfl⟩ | ⟨g, o, -, rfl, -⟩ := hd <;> simp [Event.isConnecting, Control.isSetup]
  exact {
    unconnected_iff := iff_of_false (by simp [reported?, Fault.title]) hconnected
    unconnected := fun h => absurd h hconnected
    lost_iff := iff_of_false (by simp [reported?, Fault.cause?]) hlost
    lost := fun h => absurd h hlost
    aborted_iff := by simp [reported?, Fault.title, Fault.cause?, hl.no_query, hquery, eq_comm]
    aborted := by
      intro c' text' params' f' hmem
      obtain ⟨rfl, rfl, rfl, rfl⟩ : c' = c ∧ text' = text ∧ params' = params ∧ f' = f := by
        simpa [hl.no_query, hquery] using hmem
      exact ⟨rfl, before, r, dropping, rfl, hl.no_ending, hd⟩
    refused_iff := iff_of_false (by simp [reported?, Fault.title])
      (by simp [hl.no_query, hl.begun, hquery, hbegin])
    unbegun := by simp [hl.begun, hbegin]
    uncommitted := by simp [hl.no_commit, hcommit]
    success_iff := by simp [hl.no_query, hquery]
    open_iff := by simp [hi] }

theorem of_commit_failed (hl : Leads before) (hlost : ¬ lossPending)
    (hi : s.inTransaction = false) (hcommits : commits = true) {rows : Rows} :
    Tells sql commits lossPending
      (before ++ [.query c text params (.ok rows), .control c .commit (.error f)])
      (.error (.commitFailed f)) s := by
  have hconnected : ¬ ConnectingFailed
      (before ++ [.query c text params (.ok rows), .control c .commit (.error f)]) :=
    hl.not_connectingFailed (by simp [Event.isConnecting, Control.isSetup])
  exact {
    unconnected_iff := iff_of_false (by simp [reported?, Fault.title]) hconnected
    unconnected := fun h => absurd h hconnected
    lost_iff := iff_of_false (by simp [reported?, Fault.title]) hlost
    lost := fun h => absurd h hlost
    aborted_iff := iff_of_false (by simp [reported?, Fault.title]) (by simp [hl.no_query])
    aborted := by simp [hl.no_query]
    refused_iff := iff_of_true ⟨some f, rfl⟩ (.inr ⟨c, text, params, rows, f, by simp, by simp⟩)
    unbegun := by simp [hl.begun]
    uncommitted := by simp [hl.no_rollback]
    success_iff := by simp [hl.no_commit, hcommits]
    open_iff := by simp [hi] }

/-- A statement that ran is followed by nothing, or by a commit that succeeded. -/
theorem of_success (hl : Leads before) (hlost : ¬ lossPending) {rows : Rows}
    (hi : s.inTransaction = !commits)
    (hmore : more = if commits then [.control c .commit (.ok ())] else []) :
    Tells sql commits lossPending (before ++ .query c text params (.ok rows) :: more)
      (.ok (.rows rows)) s := by
  have hconnected : ¬ ConnectingFailed (before ++ .query c text params (.ok rows) :: more) := by
    refine hl.not_connectingFailed ?_
    cases commits <;> simp [hmore, Event.isConnecting, Control.isSetup]
  have hquery : ∀ {c text params o}, .query c text params o ∉ more := by
    cases commits <;> simp [hmore]
  have hcontrol : ∀ {c call f}, .control c call (.error f) ∉ more := by
    cases commits <;> simp [hmore]
  exact {
    unconnected_iff := iff_of_false (by simp [reported?]) hconnected
    unconnected := fun h => absurd h hconnected
    lost_iff := iff_of_false (by simp [reported?]) hlost
    lost := fun h => absurd h hlost
    aborted_iff := iff_of_false (by simp [reported?]) (by simp [hl.no_query, hquery])
    aborted := by simp [hl.no_query, hquery]
    refused_iff := iff_of_false (by simp [reported?]) (by simp [hl.begun, hl.no_commit, hcontrol])
    unbegun := by simp [hl.begun, hcontrol]
    uncommitted := by simp [hl.no_commit, hcontrol]
    success_iff := by
      intro y
      constructor
      · rintro ⟨⟩
        exact ⟨c, text, params, rows, rfl, by simp, fun hc => by simp [hmore, hc]⟩
      · rintro ⟨c', text', params', rows', rfl, hmem, -⟩
        obtain ⟨-, -, -, rfl⟩ : c' = c ∧ text' = text ∧ params' = params ∧ rows' = rows := by
          simpa [hl.no_query, hquery] using hmem
        rfl
    open_iff := by simp [hi] }

end Tells

namespace Session

variable {read : Option Connection → Value → Value} {s' s'' : Session}

/-- Where no connection is opened, a call that was to open one or to prepare it has failed. -/
theorem Opens.reports {settings : Settings}
    (h : Opens read settings s events (.ok (.error f)) s') :
    f.title = "ConnectionError" ∧ ConnectingFailed events := by
  obtain ⟨-, ⟨cause, rfl, rfl⟩ | ⟨c, cause, setup, dropping, rfl, rfl, hs⟩⟩ := h.failed_cases
  · exact ⟨rfl, _, List.mem_singleton_self _, rfl, Option.some_ne_none _⟩
  · obtain ⟨done, -, ⟨-, hok⟩ | ⟨call, cause, hcall, rfl, -⟩⟩ := hs.split
    · cases hok
    · exact ⟨rfl, .control c call (.error cause), by simp, hcall, Option.some_ne_none _⟩

theorem Lives.reports {user password schema : Value}
    (h : Lives read user password schema s events (.ok (.error f)) s') :
    f.title = "ConnectionError" ∧ ConnectingFailed events ∧ s'.held = none := by
  cases h with
  | replaced _ _ _ ho =>
    obtain ⟨hf, e, he, hfailed⟩ := ho.reports
    exact ⟨hf, ⟨e, by simp [he], hfailed⟩, by rw [ho.failed_cases.1]; rfl⟩
  | opened hs ho =>
    obtain ⟨hf, hfailed⟩ := ho.reports
    exact ⟨hf, hfailed, by rw [ho.failed_cases.1, hs]⟩

/-- Where a connection is opened, no call failed that was to open it or to prepare it. -/
theorem Opens.connected {settings : Settings}
    (h : Opens read settings s events (.ok (.ok c)) s') :
    ∀ e ∈ events, e.isConnecting = true → e.fault? = none := by
  obtain ⟨setup, rfl, hs, -⟩ := h.exists_setup
  intro e he _
  obtain ⟨done, hdone, ⟨rfl, -⟩ | ⟨call, f, -, -, hf⟩⟩ := hs.split
  · rcases List.mem_cons.mp he with rfl | he
    · rfl
    · obtain ⟨call, -, rfl⟩ := hdone e he
      rfl
  · cases hf

theorem Lives.connected {user password schema : Value}
    (h : Lives read user password schema s events (.ok (.ok c)) s') :
    ∀ e ∈ events, e.isConnecting = true → e.fault? = none := by
  intro e he hconnecting
  cases h with
  | alive =>
    rw [List.mem_singleton.mp he]
    rfl
  | replaced _ _ hd ho =>
    obtain ⟨o, rfl⟩ := hd.exists_destroy
    rcases List.mem_cons.mp he with rfl | he
    · cases hconnecting
    · rcases List.mem_cons.mp he with rfl | he
      · cases hconnecting
      · exact ho.connected e he hconnecting
  | opened _ ho => exact ho.connected e he hconnecting

/-- A live connection leads up to a statement, and so does a transaction that was begun on it. -/
theorem Lives.leads {user password schema : Value} {begun : List Event}
    (h : Lives read user password schema s events (.ok (.ok c)) s')
    (hb : begun = [] ∨ begun = [.control c .begin (.ok ())]) : Leads (events ++ begun) := by
  have hlives : Leads events := by
    refine ⟨h.connected, h.no_statement, fun e he => ?_, control_not_mem h.upkeep rfl⟩
    rw [Bool.eq_false_iff]
    intro hending
    have hquiet := Event.isTransactional_of_isUpkeep (h.upkeep e he)
    exact absurd (hquiet.symm.trans (Event.isTransactional_of_isEnding hending)) nofun
  rcases hb with rfl | rfl
  · rwa [List.append_nil]
  · refine ⟨?_, ?_, ?_, ?_⟩
    · simpa [or_imp, forall_and, Event.fault?, faultOf] using hlives.connected
    · simpa [or_imp, forall_and, Event.isStatement] using hlives.no_statement
    · simpa [or_imp, forall_and, Event.isEnding] using hlives.no_ending
    · exact fun hmem => hlives.begun (by simpa using hmem)

theorem Begins.eq_of_error {sql : Value} (h : Begins c sql s events (.ok (.error f)) s') :
    ∃ cause, events = [.control c .begin (.error cause)] ∧ f = .beginFailed sql cause ∧
      s' = s ∧ s.inTransaction = false := by
  generalize hr : (Except.ok (.error f) : Except Fault (Except Fault Unit)) = r at h
  cases h with
  | joined => cases hr
  | @failed cause hi =>
    cases eq_of_passedOn hr.symm
    exact ⟨cause, rfl, rfl, rfl, hi⟩
  | begun => cases hr

theorem Recovers.rolls_back (h : Recovers s events (.ok ()) s') (hi : s.inTransaction = true)
    (hc : s.held = some c) :
    s'.inTransaction = false ∧ ∃ r dropping, events = .control c .rollback r :: dropping ∧
      (r = .ok () ∧ dropping = [] ∨
        ∃ g o, r = .error g ∧ dropping = [.control c .destroy o] ∧ s'.held = none) := by
  refine ⟨(h.ends hi hc).1, ?_⟩
  generalize hr : (Except.ok () : Except Fault Unit) = r at h
  cases h with
  | rolledBack hback =>
    obtain ⟨o, rfl, ho, -⟩ := hback.called_of_open hi hc
    obtain ⟨a, rfl, -⟩ := eq_ok_of_passedOn ho.symm
    exact ⟨_, [], rfl, .inl ⟨rfl, rfl⟩⟩
  | stopped => cases hr
  | dropped hback hd =>
    obtain ⟨o, rfl, ho, rfl⟩ := hback.called_of_open hi hc
    obtain ⟨g, rfl, -⟩ := eq_error_of_passedOn ho.symm
    obtain ⟨o, rfl⟩ := (hd.destroys hc).exists_destroy
    rw [hd.eq_released]
    exact ⟨_, _, rfl, .inr ⟨g, o, rfl, rfl, rfl⟩⟩

/-- What the result tells of a statement on a live connection. -/
theorem Transacts.tells {lives course : List Event} {result : Except Fault Yield}
    (h : Transacts read sql params commits c s' course (.ok result) s'')
    (hl : Lives read .null .null .null s lives (.ok (.ok c)) s')
    (hidle : s'.transactionLost = true → s'.inTransaction = false) :
    Tells sql commits (s'.transactionLost = true) (lives ++ course) result s'' := by
  have hc := hl.held_eq
  have hleads : Leads lives := List.append_nil lives ▸ hl.leads (.inl rfl)
  generalize hr : Except.ok result = r at h
  cases h with
  | lost hlost =>
    cases hr
    rw [List.append_nil]
    exact .of_lost hleads hl.upkeep hlost (hidle hlost)
  | beginStopped => cases hr
  | unbegun hlost hb =>
    cases hr
    obtain ⟨cause, rfl, rfl, rfl, hi⟩ := hb.eq_of_error
    exact .of_begin_failed hleads (by simp [hlost]) hi
  | stopped => cases hr
  | @failed _ _ _ _ _ r hlost hb _ hrec =>
    rcases r with _ | ⟨⟩ <;> cases hr
    obtain ⟨hbegun, rfl⟩ := hb.eq_of_ok
    obtain ⟨hi, r, dropping, rfl, hd⟩ := hrec.rolls_back rfl hc
    rw [← List.append_assoc]
    exact .of_statement_failed (hl.leads hbegun) (by simp [hlost]) hi hd
  | leftOpen hlost hb hcommits =>
    cases hr
    obtain ⟨hbegun, rfl⟩ := hb.eq_of_ok
    rw [← List.append_assoc]
    exact .of_success (hl.leads hbegun) (by simp [hlost])
      (by rw [hcommits]; rfl) (by rw [hcommits]; rfl)
  | @committed _ _ _ _ _ r hlost hb hcommits he =>
    rcases r with _ | ended <;> cases hr
    obtain ⟨hbegun, rfl⟩ := hb.eq_of_ok
    obtain ⟨o, rfl, ho, hi⟩ := he.called_of_open hlost rfl hc
    rw [← List.append_assoc]
    rcases ended with f | y
    · obtain ⟨cause, rfl, rfl⟩ := eq_error_of_passedOn ho.symm
      exact .of_commit_failed (hl.leads hbegun) (by simp [hlost]) hi hcommits
    · obtain ⟨⟨⟩, rfl, -⟩ := eq_ok_of_passedOn ho.symm
      exact .of_success (hl.leads hbegun) (by simp [hlost])
        (by rw [hi, hcommits]; rfl) (by rw [hcommits]; rfl)

/-- What the result tells, from what making sure of the connection came to. -/
theorem Proceeds.tells {lives course : List Event} {r : Except Fault (Except Fault Connection)}
    {result : Except Fault Yield}
    (h : Proceeds read sql params commits r s' course (.ok result) s'')
    (hl : Lives read .null .null .null s lives r s')
    (hlost : s'.transactionLost = true → s'.inTransaction = false)
    (hunheld : s'.held = none → s'.inTransaction = false) :
    Tells sql commits ((∃ c, r = .ok (.ok c)) ∧ s'.transactionLost = true) (lives ++ course)
      result s'' := by
  cases h with
  | unconnected =>
    obtain ⟨hf, hfailed, hs⟩ := hl.reports
    rw [List.append_nil]
    exact .of_unconnected hl.upkeep hfailed (by simp) hf (hunheld hs)
  | connected _ ht => simpa using ht.tells hl hlost

end Session

/-- **The outcome of a statement of a transaction tells what was done.** Take a session that any
operations led to, through any driver. Then a statement of a transaction stops exactly if one of its
calls is cancelled, with that cancellation, and each of its results tells what was done. A loss is
found if `ensureConnected`, from the same session, succeeds and leaves it to be reported. -/
theorem runTransaction_tells {σ : Type} (d : Driver σ) (settings : Settings) (world : σ)
    (log : List LogLine) (read : Option Connection → Value → Value) (ops : List Operation)
    (sql params : Value) (commits : Bool) :
    let link := Link.after d ops ⟨{ settings }, world, log, read⟩
    let first := (Operation.ensureConnected .null .null .null).step d link
    let step := (Operation.runTransaction sql params commits).step d link
    StopsAt step.1.events step.1.outcome ∧
      ∀ result, step.1.outcome = .ok result →
        Tells sql commits
          (first.1.outcome = .ok (.ok .nothing) ∧ first.2.session.transactionLost = true)
          step.1.events result step.2.session := by
  intro link first step
  obtain ⟨r, course, hl, hfirst, hevents, hp⟩ :=
    Operation.step_runTransaction d sql params commits link
  refine ⟨?_, ?_⟩
  · rw [hevents]
    exact hp.stopsAt hl.stopsAt
  · intro result hresult
    -- the flags of the session agree also after its connection was made sure of
    have htracks := (hl.path.keeps (fun events s => s.Tracks events ∧ Bracketed events)
      (fun h hm => hm.tracks h) (history_tracks d settings world log read ops)).1
    rw [hresult] at hp
    rw [hevents, hfirst]
    have htells := hp.tells hl htracks.idle_of_lost htracks.idle_of_unheld
    have hconnected : r.map (·.map fun _ => Yield.nothing) = .ok (.ok .nothing) ↔
        ∃ c, r = .ok (.ok c) := by
      rcases r with f | f | c <;> simp [Except.map]
    rwa [hconnected]

/-- A statement that fails is rolled back, and reported with what the driver said. -/
theorem runTransaction_tells_failed :
    let link := Rehearsal.link {} [("query", [.fault .runtime "no table"])]
    let first := (Operation.ensureConnected .null .null .null).step Rehearsal.driver link
    let step := (Operation.runTransaction (.text "A") .null true).step Rehearsal.driver link
    let result := Except.error (.aborted (.text "A") (.raised .runtime "no table"))
    step.1.outcome = .ok result ∧
      Tells (.text "A") true
        (first.1.outcome = .ok (.ok .nothing) ∧ first.2.session.transactionLost = true)
        step.1.events result step.2.session := by
  intro link first step result
  have hresult : step.1.outcome = .ok result := rfl
  have htells := runTransaction_tells Rehearsal.driver {} link.world [] (fun _ v => v) []
    (.text "A") .null true
  exact ⟨hresult, htells.2 result hresult⟩

/-- A statement that is cancelled gives no result. -/
theorem cancelled_statement_gives_no_result :
    let link := Rehearsal.link {} [("query", [.fault .cancelled ""])]
    let step := (Operation.runTransaction (.text "A") .null true).step Rehearsal.driver link
    ¬ ∃ result, step.1.outcome = .ok result := by
  intro link step
  have hstopped : step.1.outcome = .error (.raised .cancelled "") := rfl
  rintro ⟨result, h⟩
  cases hstopped.symm.trans h

end FluentSql
