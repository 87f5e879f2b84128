import FluentSql.Proofs.Session.Renewal
import FluentSql.Proofs.Session.Teardown

/-!
# Sessions for one operation

A new session that performs one operation and is closed behind it. If the operation leaves
transactions alone, it opens at most one connection, so nothing has to be asked of the numbers that
the driver gives: the connection is torn down once, however the calls turn out, unless its set-up
was cancelled (`closed_tears_down_once`).

The closing may be cancelled as the operation may, and goes before it then: `StopsAt.closing` says
what both come to.
-/

namespace FluentSql

variable {σ : Type}

/-- A new session, with the world of its driver. -/
def Link.fresh (settings : Settings) (world : σ) : Link σ :=
  { session := { settings }, world, log := [] }

/-- The calls of an operation on a new session, and of its closing. -/
def Operation.closedEvents (d : Driver σ) (op : Operation) (settings : Settings) (world : σ) :
    List Event :=
  Step.allEvents (history d [op, .close] (.fresh settings world))

/-! ### Connections -/

theorem openings_eq_nil {events : List Event} (h : ∀ e ∈ events, e.connection? ≠ none) :
    openings events = [] := by
  refine List.filterMap_eq_nil_iff.mpr fun e he => ?_
  obtain ⟨c, hc⟩ := Option.ne_none_iff_exists'.mp (h e he)
  exact Event.opened?_of_connection hc

namespace Session

variable {read : Option Connection → Value → Value} {s s' : Session} {events : List Event}

theorem SetsUp.openings_eq_nil {c : Connection} {settings : Settings} {r : Except Fault Unit}
    (h : SetsUp c settings events r) : openings events = [] := by
  refine FluentSql.openings_eq_nil fun e he => ?_
  obtain ⟨call, o, -, rfl⟩ := h.exists_setup he
  exact Option.some_ne_none c

/-- To open a connection is to open at most one. -/
theorem Opens.openings_nodup {settings : Settings} {r : Except Fault (Except Fault Connection)}
    (h : Opens read settings s events r s') : (openings events).Nodup := by
  have hone : ∀ (settings : Settings) (c : Connection) {later : List Event},
      openings later = [] → (openings (.connect settings (.ok c) :: later)).Nodup := by
    intro settings c later hlater
    have hopened : openings (.connect settings (.ok c) :: later) = c :: openings later := rfl
    rw [hopened, hlater]
    exact List.nodup_cons.mpr ⟨List.not_mem_nil, List.nodup_nil⟩
  cases h with
  | unconnected => exact List.nodup_nil
  | setupStopped hs => exact hone _ _ hs.openings_eq_nil
  | setupFailed hs _ hd =>
    obtain ⟨o, rfl⟩ := hd.exists_destroy
    refine hone _ _ ?_
    rw [openings_append, hs.openings_eq_nil]
    rfl
  | opened hs => exact hone _ _ hs.openings_eq_nil

theorem Fetches.openings_nodup {sql params : Value} {r : Except Fault (Except Fault Rows)}
    (h : Fetches read sql params s events r s') (hs : s.held = none) : (openings events).Nodup := by
  cases h with
  | stopped hl => exact (hl.opens_of_unheld hs).openings_nodup
  | unconnected hl => exact (hl.opens_of_unheld hs).openings_nodup
  | sent hl =>
    rw [openings_append, openings_singleton rfl, List.append_nil]
    exact (hl.opens_of_unheld hs).openings_nodup

/-- An operation that leaves transactions alone opens at most one connection if none is held. -/
theorem Performs.openings_nodup {op : Operation} {r : Except Fault (Except Fault Yield)}
    (h : Performs read s op events r s') (hop : op.isPlain = true) (hs : s.held = none) :
    (openings events).Nodup := by
  cases h with
  | ensureConnected hl => exact (hl.opens_of_unheld hs).openings_nodup
  | executeStopped hf => exact hf.openings_nodup hs
  | execute hf => exact hf.openings_nodup hs
  | _ => cases hop

theorem Closes.openings_eq_nil {r : Except Fault Unit} (h : Closes s events r s') :
    openings events = [] := by
  cases h <;> rfl

theorem Closes.held_eq {r : Except Fault Unit} (h : Closes s events r s') : s'.held = none := by
  cases h with
  | nothing hs => exact hs
  | done => rfl
  | stopped => rfl

theorem Closes.stopsAt {r : Except Fault Unit} (h : Closes s events r s') : StopsAt events r := by
  cases h with
  | nothing => exact .nil ()
  | @done _ r _ hr =>
    rcases r with f | ⟨⟩
    · exact .handled rfl (by simpa [isHandled] using hr) ()
    · exact .one_ok rfl ()
  | stopped _ hf => exact .stopped rfl hf

end Session

/-- A closing takes one of its courses. -/
theorem Operation.step_close (d : Driver σ) (link : Link σ) :
    ∃ r, Session.Closes link.session (close.step d link).1.events r
        (close.step d link).2.session ∧
      (close.step d link).1.outcome = r.map fun _ => .ok .nothing := by
  have h := close.step_performs d link
  generalize (close.step d link).1.outcome = o at h
  cases h with
  | close hc => exact ⟨_, hc, rfl⟩

theorem Operation.closedEvents_eq (d : Driver σ) (op : Operation) (settings : Settings)
    (world : σ) : op.closedEvents d settings world =
      (op.step d (.fresh settings world)).1.events ++
        (close.step d (op.step d (.fresh settings world)).2).1.events := by
  rw [closedEvents, history, history, history, Step.allEvents, List.flatMap_cons,
    List.flatMap_singleton]

/-- **A session for one operation leaves no connection behind.** The connection that it opened is
torn down once, unless its set-up was cancelled, and not used afterwards. -/
theorem closed_tears_down_once (d : Driver σ) {op : Operation} (hop : op.isPlain = true)
    (settings : Settings) (world : σ) :
    TearsDownOnce none (op.closedEvents d settings world) := by
  obtain ⟨r, hcloses, -⟩ := Operation.step_close d (op.step d (.fresh settings world)).2
  have hperforms := op.step_performs d (.fresh settings world)
  have hfresh : (openings (op.closedEvents d settings world)).Nodup := by
    rw [Operation.closedEvents_eq, openings_append, hcloses.openings_eq_nil, List.append_nil]
    exact hperforms.openings_nodup hop rfl
  have hkeeps : Keeps (Link.after d [op, .close] (.fresh settings world)).session.held
      (op.closedEvents d settings world) :=
    history_keeps d (fun events s => (openings events).Nodup → Keeps s.held events)
      (fun h hm => hm.keeps h) [op, .close] [] (.fresh settings world) (fun _ => .nil) hfresh
  have hheld : (Link.after d [op, .close] (.fresh settings world)).session.held = none :=
    hcloses.held_eq
  rw [hheld] at hkeeps
  exact hkeeps.tearsDownOnce

/-! ### Cancellations -/

/-- Of an operation and its closing, either one was cancelled at a call, or neither was and the
operation came to what it comes to by itself. -/
theorem StopsAt.closing {α β : Type} {events more : List Event} {r : Except Fault α}
    {r' : Except Fault β} (h : StopsAt events r) (h' : StopsAt more r') :
    (∃ e ∈ events ++ more, ∃ f, e.cancellation? = some f ∧ (r' >>= fun _ => r) = .error f) ∨
      ∃ a, r = .ok a ∧ (r' >>= fun _ => r) = .ok a ∧
        ∀ e ∈ events ++ more, e.cancellation? = none := by
  rcases r' with f | b
  · obtain ⟨e, he, hf⟩ := (h' f).mp rfl
    exact .inl ⟨e, List.mem_append_right events he, f, hf, rfl⟩
  rcases r with f | a
  · obtain ⟨e, he, hf⟩ := (h f).mp rfl
    exact .inl ⟨e, List.mem_append_left more he, f, hf, rfl⟩
  · have hboth : StopsAt (events ++ more) (.ok b) := h.append h'
    refine .inr ⟨a, rfl, rfl, fun e he => ?_⟩
    by_contra hsome
    obtain ⟨f, hf⟩ := Option.ne_none_iff_exists'.mp hsome
    cases (hboth f).mpr ⟨e, he, hf⟩

end FluentSql
