import FluentSql.Proofs.Session.Chain
import FluentSql.Proofs.Session.Moves

/-!
# Transactions are bracketed

The calls on a connection leave a transaction **unended** if a `begin` on it succeeded and neither
`commit` nor `rollback` was called on it since. A session tells from its own flag whether the
connection that it holds is in this state: `Tracks` is the invariant, and `Bracketed` says of the
calls that each `begin`, `commit` and `rollback` came at its time. `history_tracks` has both.

A call that was to end a transaction and failed may well leave it open. The session takes it for
ended all the same, so the flag follows the calls and not their success:
`remembered_unless_end_failed` says where this makes a difference.

Connections are numbers. A number that is given again stands for a new connection, so what was
called on it before no longer counts.
-/

namespace FluentSql

/-! ### The latest call of a kind -/

namespace Event

/-- The last of the calls that `p` picks out. -/
def latest? (p : Event → Bool) (events : List Event) : Option Event :=
  (events.filter p).getLast?

variable {p : Event → Bool} {events more : List Event} {e : Event}

theorem latest?_eq_some_iff : latest? p events = some e ↔
    ∃ before after, events = before ++ e :: after ∧ p e = true ∧ ∀ e' ∈ after, p e' = false := by
  rw [latest?, List.getLast?_eq_some_iff]
  constructor
  · rintro ⟨others, h⟩
    obtain ⟨before, rest, rfl, -, hrest⟩ := List.filter_eq_append_iff.mp h
    obtain ⟨between, after, rfl, -, he, hafter⟩ := List.filter_eq_cons_iff.mp hrest
    refine ⟨before ++ between, after, by simp, he, fun e' he' => ?_⟩
    simpa using List.filter_eq_nil_iff.mp hafter e' he'
  · rintro ⟨before, after, rfl, he, hafter⟩
    refine ⟨before.filter p, ?_⟩
    have hnil : after.filter p = [] := List.filter_eq_nil_iff.mpr (by simpa using hafter)
    rw [List.filter_append, List.filter_cons_of_pos he, hnil]

theorem latest?_concat (h : p e = true) : latest? p (events ++ [e]) = some e :=
  latest?_eq_some_iff.mpr ⟨events, [], rfl, h, nofun⟩

theorem latest?_append_of_none (h : ∀ e ∈ more, p e = false) :
    latest? p (events ++ more) = latest? p events := by
  have hmore : more.filter p = [] := List.filter_eq_nil_iff.mpr (by simpa using h)
  rw [latest?, List.filter_append, hmore, List.append_nil, latest?]

/-- The last call of a kind is also the last of every part of that kind that it belongs to. -/
theorem latest?_of_imp {q : Event → Bool} (hqp : ∀ e, q e = true → p e = true)
    (h : latest? p events = some e) (he : q e = true) : latest? q events = some e := by
  obtain ⟨before, after, hsplit, -, hafter⟩ := latest?_eq_some_iff.mp h
  refine latest?_eq_some_iff.mpr ⟨before, after, hsplit, he, fun e' he' => ?_⟩
  rw [Bool.eq_false_iff]
  intro hq
  exact absurd (hqp e' hq) (by rw [hafter e' he']; nofun)

/-- Behind a call that is picked out, the last one of them is this one or comes after it. -/
theorem mem_of_latest?_append {last : Event} (h : p e = true)
    (hl : latest? p (events ++ e :: more) = some last) : last = e ∨ last ∈ more := by
  have hlast : last ∈ (e :: more).filter p := by
    rw [latest?, List.filter_append, List.getLast?_append_of_ne_nil] at hl
    · exact List.mem_of_getLast? hl
    · rw [List.filter_cons_of_pos h]
      exact List.cons_ne_nil _ _
  exact List.mem_cons.mp (List.mem_of_mem_filter hlast)

/-- The calls that settle whether a transaction is unended on a connection: the call that opened
it, a `begin` that succeeded, and every call to end a transaction. -/
def settles (c : Connection) : Event → Bool
  | .connect _ (.ok c') => c' == c
  | .control c' .begin (.ok _) => c' == c
  | .control c' .commit _ | .control c' .rollback _ => c' == c
  | _ => false

/-- The calls that succeeded in opening a connection, or in beginning or ending a transaction
on it. -/
def succeeds (c : Connection) : Event → Bool
  | .connect _ (.ok c') => c' == c
  | .control c' call (.ok _) => call.isTransactional && c' == c
  | _ => false

theorem settles_of_succeeds {c : Connection} {e : Event} (h : e.succeeds c = true) :
    e.settles c = true := by
  rcases e with ⟨_, _ | _⟩ | ⟨c', call, _ | _⟩ | _ <;> try cases h
  · exact h
  · cases call <;> exact h

/-- A call that settles something and did not succeed was to end a transaction, and failed. -/
theorem ending_of_settles {c : Connection} {e : Event} (h : e.settles c = true)
    (hs : e.succeeds c = false) :
    ∃ call f, (call = .commit ∨ call = .rollback) ∧ e = .control c call (.error f) := by
  rcases e with ⟨_, _ | _⟩ | ⟨c', call, f | _⟩ | _ <;> try cases h
  · exact absurd (h.symm.trans hs) nofun
  · cases call with
    | commit => exact ⟨_, f, .inl rfl, by rw [eq_of_beq h]⟩
    | rollback => exact ⟨_, f, .inr rfl, by rw [eq_of_beq h]⟩
    | _ => cases h
  · cases call <;> exact absurd (h.symm.trans hs) nofun

end Event

/-- A transaction was begun on a connection, and no call was made to end it. -/
def Unended (c : Connection) (events : List Event) : Prop :=
  Event.latest? (Event.settles c) events = some (.control c .begin (.ok ()))

/-- Of the calls on a connection that began or ended a transaction with success, the last one is
a `begin`. -/
def LatestIsBegin (c : Connection) (events : List Event) : Prop :=
  Event.latest? (Event.succeeds c) events = some (.control c .begin (.ok ()))

/-- The last call that settles anything about a connection was to end a transaction, and failed. -/
def EndFailed (c : Connection) (events : List Event) : Prop :=
  ∃ call f, (call = .commit ∨ call = .rollback) ∧
    Event.latest? (Event.settles c) events = some (.control c call (.error f))

variable {s s' : Session} {c : Connection} {e : Event} {events more : List Event}

/-- A transaction that was begun, and not ended with success, is unended unless a call failed that
was to end it. -/
theorem LatestIsBegin.unended_iff (h : LatestIsBegin c events) :
    Unended c events ↔ ¬ EndFailed c events := by
  constructor
  · rintro hu ⟨call, f, -, hf⟩
    cases hu.symm.trans hf
  · intro hnot
    -- the `begin` settles something, so there is a last call that does
    obtain ⟨before, after, hsplit, hbegin, -⟩ := Event.latest?_eq_some_iff.mp h
    obtain ⟨last, hlast⟩ : ∃ last, Event.latest? (Event.settles c) events = some last := by
      refine Option.isSome_iff_exists.mp ?_
      rw [Event.latest?, List.getLast?_isSome]
      refine List.ne_nil_of_mem (a := .control c .begin (.ok ())) (List.mem_filter.mpr ⟨?_, ?_⟩)
      · rw [hsplit]
        exact List.mem_append_right before List.mem_cons_self
      · exact Event.settles_of_succeeds hbegin
    obtain ⟨-, -, -, hsettles, -⟩ := Event.latest?_eq_some_iff.mp hlast
    rcases hs : last.succeeds c with _ | _
    · obtain ⟨call, f, hcall, rfl⟩ := Event.ending_of_settles hsettles hs
      exact absurd ⟨call, f, hcall, hlast⟩ hnot
    · have hsame := Event.latest?_of_imp (fun _ => Event.settles_of_succeeds) hlast hs
      rw [Unended, hlast, ← hsame]
      exact h

theorem unended_begin (c : Connection) (events : List Event) :
    Unended c (events ++ [.control c .begin (.ok ())]) :=
  Event.latest?_concat (beq_self_eq_true c)

theorem not_unended_ending {call : Control} {r : Except Fault Unit}
    (hcall : call = .commit ∨ call = .rollback) : ¬ Unended c (events ++ [.control c call r]) := by
  rw [Unended]
  rcases hcall with rfl | rfl
  · rw [Event.latest?_concat (beq_self_eq_true c)]
    nofun
  · rw [Event.latest?_concat (beq_self_eq_true c)]
    nofun

theorem unended_append_iff (h : ∀ e ∈ more, e.settles c = false) :
    Unended c (events ++ more) ↔ Unended c events := by
  rw [Unended, Event.latest?_append_of_none h, Unended]

/-! ### Calls at their time -/

/-- Whether a call comes at its time: a `begin` only while no transaction is unended on its
connection, and a call that ends one only while one is. -/
def Event.Fits (before : List Event) : Event → Prop
  | .control c .begin _ => ¬ Unended c before
  | .control c .commit _ | .control c .rollback _ => Unended c before
  | _ => True

/-- Calls of which each comes at its time. -/
inductive Bracketed : List Event → Prop where
  | nil : Bracketed []
  | concat {events : List Event} {e : Event} (h : Bracketed events) (he : e.Fits events) :
      Bracketed (events ++ [e])

theorem Event.fits_of_quiet (h : e.isTransactional = false) : e.Fits events := by
  rcases e with _ | ⟨_, call, _⟩ | _
  · trivial
  · cases call with
    | begin => cases h
    | commit => cases h
    | rollback => cases h
    | _ => trivial
  · trivial

namespace Bracketed

theorem append_quiet (h : Bracketed events) (hq : ∀ e ∈ more, e.isTransactional = false) :
    Bracketed (events ++ more) := by
  induction more generalizing events with
  | nil => rwa [List.append_nil]
  | cons e more ih =>
    rw [List.append_cons]
    refine ih (h.concat (Event.fits_of_quiet (hq e List.mem_cons_self))) ?_
    intro e' he'
    exact hq e' (List.mem_cons_of_mem e he')

/-- Every call comes at its time. -/
theorem fits {before after : List Event} (h : Bracketed events)
    (hsplit : events = before ++ e :: after) : e.Fits before := by
  induction h generalizing after with
  | nil => exact absurd hsplit (by simp)
  | @concat events last _ hlast ih =>
    -- the call is the last one, or one of those before it
    rcases List.eq_nil_or_concat' after with rfl | ⟨after, x, rfl⟩
    · obtain ⟨rfl, he⟩ := List.append_inj' hsplit rfl
      obtain rfl := List.singleton_inj.mp he
      exact hlast
    · rw [← List.cons_append, ← List.append_assoc] at hsplit
      exact ih (List.append_inj' hsplit rfl).1

/-- Between two calls that end a transaction on a connection there is a `begin` on it that
succeeded. -/
theorem begin_between {before between after : List Event} {first second : Event}
    (h : Bracketed (before ++ first :: (between ++ second :: after)))
    (hfirst : first.isEnding = true) (hc : first.connection? = some c)
    (hsecond : second.isEnding = true) (hc' : second.connection? = some c) :
    .control c .begin (.ok ()) ∈ between := by
  have hsplit : before ++ first :: (between ++ second :: after) =
      (before ++ first :: between) ++ second :: after := by simp
  have hunended : Unended c (before ++ first :: between) := by
    have hfits := h.fits hsplit
    rcases second with _ | ⟨c', call, _⟩ | _ <;> try cases hsecond
    obtain rfl := Option.some.inj hc'
    cases call <;> first | exact hfits | cases hsecond
  have hsettles : first.settles c = true := by
    rcases first with _ | ⟨c', call, _⟩ | _ <;> try cases hfirst
    obtain rfl := Option.some.inj hc
    cases call <;> first | exact beq_self_eq_true _ | cases hfirst
  -- what was unended at the second call was not so at the first
  rcases Event.mem_of_latest?_append hsettles hunended with rfl | hmem
  · cases hfirst
  · exact hmem

end Bracketed

/-! ### The invariant -/

namespace Session

/-- The invariant of a session after some calls: it knows of the transaction on its connection, has
none without a connection, and none while a loss waits to be reported. -/
structure Tracks (s : Session) (events : List Event) : Prop where
  idle_of_lost : s.transactionLost = true → s.inTransaction = false
  idle_of_unheld : s.held = none → s.inTransaction = false
  open_iff : ∀ {c}, s.held = some c → (s.inTransaction = true ↔ Unended c events)

namespace Tracks

/-- A session without a connection has nothing to know. -/
theorem of_unheld (hs : s.held = none) (hi : s.inTransaction = false) (events : List Event) :
    Tracks s events where
  idle_of_lost _ := hi
  idle_of_unheld _ := hi
  open_iff hc := absurd (hs.symm.trans hc) nofun

/-- Calls that settle nothing about the connection that is held leave everything as it was. -/
theorem append (h : Tracks s events)
    (hmore : ∀ {c}, s.held = some c → ∀ e ∈ more, e.settles c = false) :
    Tracks s (events ++ more) where
  idle_of_lost := h.idle_of_lost
  idle_of_unheld := h.idle_of_unheld
  open_iff hc := (h.open_iff hc).trans (unended_append_iff (hmore hc)).symm

theorem append_one (h : Tracks s events) (he : ∀ c, e.settles c = false) :
    Tracks s (events ++ [e]) := by
  refine h.append fun {c} _ e' he' => ?_
  rw [List.mem_singleton.mp he']
  exact he c

theorem begun (hs : s.held = some c) (hl : s.transactionLost = false) :
    Tracks { s with inTransaction := true } (events ++ [.control c .begin (.ok ())]) where
  idle_of_lost ht := absurd (hl.symm.trans ht) nofun
  idle_of_unheld hnone := absurd (hnone.symm.trans hs) nofun
  open_iff hc := by
    obtain rfl := Option.some.inj (hs.symm.trans hc)
    exact iff_of_true rfl (unended_begin _ events)

theorem ended (hs : s.held = some c) {call : Control} {r : Except Fault Unit}
    (hcall : call = .commit ∨ call = .rollback) :
    Tracks s.ended (events ++ [.control c call r]) where
  idle_of_lost _ := rfl
  idle_of_unheld _ := rfl
  open_iff hc := by
    obtain rfl := Option.some.inj (hs.symm.trans hc)
    exact iff_of_false Bool.false_ne_true (not_unended_ending hcall)

/-- A connection that is new has no transaction. -/
theorem opens {read : Option Connection → Value → Value} {settings : Settings}
    {r : Except Fault (Except Fault Connection)} (h : Tracks s events) (hs : s.held = none)
    (ho : Opens read settings s more r s') : Tracks s' (events ++ more) := by
  have hi := h.idle_of_unheld hs
  cases ho with
  | unconnected => exact of_unheld hs hi _
  | setupStopped => exact of_unheld hs hi _
  | setupFailed => exact of_unheld hs hi _
  | @opened c setup hsetup =>
    have hquiet : ∀ e ∈ setup, e.settles c = false := by
      intro e he
      obtain ⟨call, o, hcall, rfl⟩ := hsetup.exists_setup he
      cases call <;> first | rfl | cases hcall
    refine ⟨fun _ => rfl, fun _ => rfl, fun hc => ?_⟩
    obtain rfl := Option.some.inj hc
    rw [List.append_cons, unended_append_iff hquiet, Unended,
      Event.latest?_concat (beq_self_eq_true c)]
    exact iff_of_false Bool.false_ne_true nofun

end Tracks

/-- **The step of the invariant.** Every move keeps track of the transaction, and makes its calls at
their time. -/
theorem Move.tracks (h : Tracks s events ∧ Bracketed events) (hm : Move s more s') :
    Tracks s' (events ++ more) ∧ Bracketed (events ++ more) := by
  obtain ⟨ht, hb⟩ := h
  cases hm with
  | probed => exact ⟨ht.append_one fun _ => rfl, hb.concat trivial⟩
  | sent => exact ⟨ht.append_one fun _ => rfl, hb.concat trivial⟩
  | unbegun hs hi =>
    refine ⟨ht.append_one fun _ => rfl, hb.concat ?_⟩
    exact (ht.open_iff hs).not.mp (by rw [hi]; exact Bool.false_ne_true)
  | begun hs hl hi =>
    refine ⟨.begun hs hl, hb.concat ?_⟩
    exact (ht.open_iff hs).not.mp (by rw [hi]; exact Bool.false_ne_true)
  | ended hs hi hcall =>
    refine ⟨.ended hs hcall, hb.concat ?_⟩
    have hunended := (ht.open_iff hs).mp hi
    rcases hcall with rfl | rfl <;> exact hunended
  | cutOff => exact ⟨.of_unheld rfl rfl _, hb.concat trivial⟩
  | released _ hcall =>
    refine ⟨.of_unheld rfl rfl _, hb.concat ?_⟩
    rcases hcall with rfl | rfl <;> trivial
  | opening hs ho =>
    refine ⟨ht.opens hs ho, hb.append_quiet ?_⟩
    exact fun e he => Event.isTransactional_of_isUpkeep (ho.upkeep e he)
  | settled =>
    rw [List.append_nil]
    exact ⟨⟨nofun, ht.idle_of_unheld, ht.open_iff⟩, hb⟩
  | idle hs =>
    rw [List.append_nil]
    exact ⟨.of_unheld rfl rfl _, hb⟩

end Session

/-! ### Histories -/

section History

variable {σ : Type} (d : Driver σ) (settings : Settings) (world : σ) (log : List LogLine)
  (read : Option Connection → Value → Value) (ops : List Operation)

/-- The invariant holds throughout every history of a session that starts afresh. -/
theorem history_tracks :
    Session.Tracks (Link.after d ops ⟨{ settings }, world, log, read⟩).session
        (Step.allEvents (history d ops ⟨{ settings }, world, log, read⟩)) ∧
      Bracketed (Step.allEvents (history d ops ⟨{ settings }, world, log, read⟩)) :=
  history_keeps d (fun events s => s.Tracks events ∧ Bracketed events)
    (fun h hm => hm.tracks h) ops [] _ ⟨.of_unheld rfl rfl [], .nil⟩

/-- **An open transaction is remembered, unless a call to end it failed.** Take any operations on a
fresh session, and any driver. Suppose that, of the calls on the connection that is held that began
or ended a transaction with success, the last one is a `begin`. Then the session is in a
transaction, except where a `commit` or `rollback` was called since and failed. -/
theorem remembered_unless_end_failed
    (hc : (Link.after d ops ⟨{ settings }, world, log, read⟩).session.held = some c)
    (hb : LatestIsBegin c (Step.allEvents (history d ops ⟨{ settings }, world, log, read⟩))) :
    (Link.after d ops ⟨{ settings }, world, log, read⟩).session.inTransaction = true ↔
      ¬ EndFailed c (Step.allEvents (history d ops ⟨{ settings }, world, log, read⟩)) := by
  have htracks := (history_tracks d settings world log read ops).1
  exact (htracks.open_iff hc).trans hb.unended_iff

end History

/-- A statement whose transaction is left open. -/
theorem remembered_unless_end_failed_left_open :
    let link := Rehearsal.link {} []
    let ops := [Operation.runTransaction (.text "A") .null false]
    (Link.after Rehearsal.driver ops link).session.held = some 1 ∧
      LatestIsBegin 1 (Step.allEvents (history Rehearsal.driver ops link)) ∧
      ((Link.after Rehearsal.driver ops link).session.inTransaction = true ↔
        ¬ EndFailed 1 (Step.allEvents (history Rehearsal.driver ops link))) :=
  ⟨rfl, rfl, remembered_unless_end_failed Rehearsal.driver {} {} [] (fun _ v => v)
    [.runTransaction (.text "A") .null false] rfl rfl⟩

/-- A `commit` that failed may leave its transaction open, and the session does not know of it. -/
theorem forgotten_after_failed_commit :
    let link := Rehearsal.link {} [("commit", [.fault .runtime "lost"])]
    let ops := [Operation.runTransaction (.text "A") .null true]
    ¬ ∀ c, (Link.after Rehearsal.driver ops link).session.held = some c →
      LatestIsBegin c (Step.allEvents (history Rehearsal.driver ops link)) →
      (Link.after Rehearsal.driver ops link).session.inTransaction = true := by
  intro link ops h
  exact absurd (h 1 rfl rfl) Bool.false_ne_true

end FluentSql
