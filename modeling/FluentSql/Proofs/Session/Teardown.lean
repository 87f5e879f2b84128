import Mathlib.Data.List.Basic
import FluentSql.Proofs.Session.Moves

/-!
# Connections are torn down once

A session holds at most one connection. Every other connection that it ever opened was torn down
exactly once, by `finish` or by `destroy`, whether or not that call succeeded; and after it no call
of any kind was made on the connection.

There is one gap. A set-up that fails has its connection torn down, but a cancellation passes by the
handler that does so: a connection whose set-up is cancelled is neither held nor torn down, and
nobody knows of it any more (`cancelled_setup_leaves_connection`).

Connections are told apart by their numbers, so all this supposes that a driver gives no number
twice. `Keeps` is the invariant, which speaks of the last call on each connection;
`history_tears_down_once` puts into words what follows from it.
-/

namespace FluentSql

/-- The connections that were opened, in order. -/
def openings (events : List Event) : List Connection :=
  events.filterMap (·.opened?)

/-- The calls that were made on a connection, in order. -/
def callsOn (c : Connection) (events : List Event) : List Event :=
  events.filter (·.connection? == some c)

namespace Event

/-- Whether a call tears its connection down. -/
def isTeardown : Event → Bool
  | .control _ .finish _ | .control _ .destroy _ => true
  | _ => false

/-- Whether a call was to prepare its connection, and was cancelled. -/
def isStoppedSetup : Event → Bool
  | .control _ call r => call.isSetup && !isHandled r
  | _ => false

/-- Whether a session lets go of a connection at a call. -/
def isParting (e : Event) : Bool :=
  e.isTeardown || e.isStoppedSetup

end Event

/-- How often a connection was torn down. -/
def teardowns (c : Connection) (events : List Event) : Nat :=
  (callsOn c events).countP (·.isTeardown)

/-- Whether the set-up of a connection was cancelled. -/
def Abandoned (c : Connection) (events : List Event) : Prop :=
  ∃ e ∈ callsOn c events, e.isStoppedSetup = true

/-- Connections are torn down once: what calls came to for the connections that they opened, with
the connection that is held after them. -/
structure TearsDownOnce (held : Option Connection) (events : List Event) : Prop where
  held_opened : ∀ {c}, held = some c → c ∈ openings events
  held_kept : ∀ {c}, held = some c → teardowns c events = 0
  abandoned : ∀ {c}, Abandoned c events → held ≠ some c ∧ teardowns c events = 0
  torn_down : ∀ {c}, c ∈ openings events → held ≠ some c → ¬ Abandoned c events →
    teardowns c events = 1
  /-- No call is made on a connection after it was torn down. -/
  unused : ∀ {before after e c}, events = before ++ e :: after → e.isTeardown = true →
    e.connection? = some c → callsOn c after = []

/-- The last call on a connection is the only one at which it was let go. -/
def Parted (c : Connection) (events : List Event) : Prop :=
  ∃ earlier last, callsOn c events = earlier ++ [last] ∧ last.isParting = true ∧
    ∀ e ∈ earlier, e.isParting = false

/-- The invariant of the connection that is held after some calls. -/
structure Keeps (held : Option Connection) (events : List Event) : Prop where
  unopened : ∀ {c}, c ∉ openings events → held ≠ some c ∧ callsOn c events = []
  in_use : ∀ {c}, held = some c → ∀ e ∈ callsOn c events, e.isParting = false
  parted : ∀ {c}, c ∈ openings events → held ≠ some c → Parted c events

variable {held : Option Connection} {c c' : Connection} {e : Event} {events more : List Event}

@[simp]
theorem openings_append (events more : List Event) :
    openings (events ++ more) = openings events ++ openings more :=
  List.filterMap_append

@[simp]
theorem callsOn_append (c : Connection) (events more : List Event) :
    callsOn c (events ++ more) = callsOn c events ++ callsOn c more :=
  List.filter_append ..

theorem callsOn_singleton (he : e.connection? = some c) : callsOn c [e] = [e] :=
  List.filter_cons_of_pos (beq_iff_eq.mpr he)

theorem callsOn_singleton_of_ne (he : e.connection? ≠ some c) : callsOn c [e] = [] :=
  List.filter_cons_of_neg (mt beq_iff_eq.mp he)

theorem Event.isTeardown_of_isStoppedSetup (he : e.isStoppedSetup = true) :
    e.isTeardown = false := by
  rcases e with _ | ⟨_, call, _⟩ | _ <;> try cases he
  cases call <;> first | rfl | cases he

/-- A session lets go of a connection that it prepares if the call is cancelled. -/
theorem Event.isParting_of_isSetup {call : Control} (hcall : call.isSetup = true)
    (c : Connection) (r : Except Fault Unit) :
    (Event.control c call r).isParting = !isHandled r := by
  cases call <;> first | rfl | cases hcall

theorem Event.opened?_of_connection (he : e.connection? = some c) : e.opened? = none := by
  rcases e with _ | _ | _
  · cases he
  · rfl
  · rfl

theorem openings_singleton (he : e.connection? = some c) : openings [e] = [] := by
  rw [openings, List.filterMap_cons_none (Event.opened?_of_connection he), List.filterMap_nil]

theorem countP_isTeardown (h : ∀ e ∈ events, e.isParting = false) :
    events.countP (·.isTeardown) = 0 := by
  rw [List.countP_eq_zero]
  intro e he
  rw [(Bool.or_eq_false_iff.mp (h e he)).1]
  exact Bool.false_ne_true

/-- Only the last call on a connection can be its teardown. -/
theorem teardowns_of_split {before : List Event} (hsplit : callsOn c events = before ++ [e])
    (hbefore : ∀ e' ∈ before, e'.isParting = false) :
    teardowns c events = if e.isTeardown then 1 else 0 := by
  rw [teardowns, hsplit, List.countP_append, countP_isTeardown hbefore, List.countP_singleton,
    Nat.zero_add]

namespace Keeps

/-! ### What the invariant says -/

theorem mem_openings (h : Keeps held events) (he : e ∈ callsOn c events) :
    c ∈ openings events := by
  by_contra hc
  rw [(h.unopened hc).2] at he
  cases he

/-- A call at which a connection was let go is the last one on it. -/
theorem last_of_isParting (h : Keeps held events) {before after : List Event}
    (hsplit : callsOn c events = before ++ e :: after) (he : e.isParting = true) :
    held ≠ some c ∧ after = [] ∧ ∀ e' ∈ before, e'.isParting = false := by
  have hmem : e ∈ callsOn c events := by simp [hsplit]
  have hheld : held ≠ some c := by
    intro hc
    exact absurd ((h.in_use hc e hmem).symm.trans he) nofun
  obtain ⟨earlier, last, hcalls, -, hearlier⟩ := h.parted (h.mem_openings hmem) hheld
  rw [hsplit] at hcalls
  rcases List.eq_nil_or_concat' after with rfl | ⟨after, x, rfl⟩
  · obtain ⟨rfl, -⟩ := List.append_inj' hcalls rfl
    exact ⟨hheld, rfl, hearlier⟩
  · rw [← List.cons_append, ← List.append_assoc] at hcalls
    obtain ⟨rfl, -⟩ := List.append_inj' hcalls rfl
    have hnot := hearlier e (List.mem_append_right before List.mem_cons_self)
    exact absurd (hnot.symm.trans he) nofun

/-- The invariant has everything that is asked of connections. -/
theorem tearsDownOnce (h : Keeps held events) : TearsDownOnce held events := by
  refine ⟨?_, ?_, ?_, ?_, ?_⟩
  · intro c hc
    by_contra hnot
    exact (h.unopened hnot).1 hc
  · intro c hc
    exact countP_isTeardown (h.in_use hc)
  · rintro c ⟨e, he, hstopped⟩
    obtain ⟨before, after, hsplit⟩ := List.append_of_mem he
    have hparting : e.isParting = true := by rw [Event.isParting, hstopped, Bool.or_true]
    obtain ⟨hheld, rfl, hbefore⟩ := h.last_of_isParting hsplit hparting
    refine ⟨hheld, ?_⟩
    rw [teardowns_of_split hsplit hbefore, Event.isTeardown_of_isStoppedSetup hstopped,
      if_neg Bool.false_ne_true]
  · intro c hc hheld hnot
    obtain ⟨earlier, last, hcalls, hlast, hearlier⟩ := h.parted hc hheld
    have hteardown : last.isTeardown = true := by
      rcases Bool.or_eq_true_iff.mp hlast with hlast | hlast
      · exact hlast
      · exact absurd ⟨last, by simp [hcalls], hlast⟩ hnot
    rw [teardowns_of_split hcalls hearlier, if_pos hteardown]
  · intro before after e c hsplit he hc
    have hcalls : callsOn c events = callsOn c before ++ e :: callsOn c after := by
      rw [hsplit, List.append_cons, callsOn_append, callsOn_append, callsOn_singleton hc,
        ← List.append_cons]
    have hparting : e.isParting = true := by rw [Event.isParting, he, Bool.true_or]
    exact (h.last_of_isParting hcalls hparting).2.1

/-! ### What keeps the invariant -/

theorem nil : Keeps none [] where
  unopened _ := ⟨nofun, rfl⟩
  in_use hc := absurd hc nofun
  parted hc := absurd hc nofun

/-- Connections that a call is not made on are not concerned. -/
private theorem parted_of_ne (h : Parted c' events) (he : e.connection? ≠ some c') :
    Parted c' (events ++ [e]) := by
  rwa [Parted, callsOn_append, callsOn_singleton_of_ne he, List.append_nil]

/-- Connections that were not opened before a call on one that was are not concerned. -/
private theorem unopened_concat (h : Keeps (some c) events) (he : e.connection? = some c)
    (hc' : c' ∉ openings (events ++ [e])) : c ≠ c' ∧ callsOn c' (events ++ [e]) = [] := by
  rw [openings_append, openings_singleton he, List.append_nil] at hc'
  obtain ⟨hne, hnone⟩ := h.unopened hc'
  have hother : callsOn c' [e] = [] := callsOn_singleton_of_ne (by rwa [he])
  exact ⟨fun h => hne (congrArg some h), by rw [callsOn_append, hnone, hother, List.nil_append]⟩

/-- A connection that is called and not let go is held on to. -/
theorem call (h : Keeps (some c) events) (he : e.connection? = some c)
    (hp : e.isParting = false) : Keeps (some c) (events ++ [e]) where
  unopened hc' := (h.unopened_concat he hc').imp_left fun hne => hne ∘ Option.some.inj
  in_use hc' e' he' := by
    obtain rfl := Option.some.inj hc'
    rw [callsOn_append, callsOn_singleton he] at he'
    rcases List.mem_append.mp he' with he' | he'
    · exact h.in_use rfl e' he'
    · rwa [List.mem_singleton.mp he']
  parted hc' hne := by
    rw [openings_append, openings_singleton he, List.append_nil] at hc'
    exact parted_of_ne (h.parted hc' hne) (by rwa [he])

/-- A connection that is let go was not let go before. -/
theorem part (h : Keeps (some c) events) (he : e.connection? = some c)
    (hp : e.isParting = true) : Keeps none (events ++ [e]) where
  unopened hc' := ⟨nofun, (h.unopened_concat he hc').2⟩
  in_use hc' := absurd hc' nofun
  parted {c'} hc' _ := by
    by_cases hcc : c = c'
    · obtain rfl := hcc
      exact ⟨_, e, by rw [callsOn_append, callsOn_singleton he], hp, h.in_use rfl⟩
    · have hne : some c ≠ some c' := hcc ∘ Option.some.inj
      rw [openings_append, openings_singleton he, List.append_nil] at hc'
      exact parted_of_ne (h.parted hc' hne) (by rwa [he])

/-- A connection that is not opened is none that could be held. -/
theorem refused (h : Keeps none events) (settings : Settings) (f : Fault) :
    Keeps none (events ++ [.connect settings (.error f)]) where
  unopened hc' := by
    rw [openings_append] at hc'
    rw [callsOn_append, (h.unopened fun hc => hc' (List.mem_append_left _ hc)).2]
    exact ⟨nofun, rfl⟩
  in_use hc' := absurd hc' nofun
  parted hc' hne := by
    rw [openings_append] at hc'
    exact parted_of_ne (h.parted ((List.mem_append.mp hc').resolve_right nofun) hne) nofun

/-- A connection that is new was never called. -/
theorem connect (h : Keeps none events) (settings : Settings) (hc : c ∉ openings events) :
    Keeps (some c) (events ++ [.connect settings (.ok c)]) where
  unopened {c'} hc' := by
    rw [openings_append, List.mem_append, not_or] at hc'
    obtain ⟨hold, hnew⟩ := hc'
    rw [callsOn_append, (h.unopened hold).2]
    exact ⟨fun heq => hnew (List.mem_singleton.mpr (Option.some.inj heq).symm), rfl⟩
  in_use hc' e he := by
    obtain rfl := Option.some.inj hc'
    rw [callsOn_append, (h.unopened hc).2] at he
    cases he
  parted {c'} hc' hne := by
    rw [openings_append] at hc'
    rcases List.mem_append.mp hc' with hc' | hc'
    · exact parted_of_ne (h.parted hc' nofun) nofun
    · exact absurd (congrArg some (List.mem_singleton.mp hc').symm) hne

theorem calls (h : Keeps (some c) events)
    (hmore : ∀ e ∈ more, e.connection? = some c ∧ e.isParting = false) :
    Keeps (some c) (events ++ more) := by
  induction more generalizing events with
  | nil => rwa [List.append_nil]
  | cons e more ih =>
    obtain ⟨he, hp⟩ := hmore e List.mem_cons_self
    rw [List.append_cons]
    exact ih (h.call he hp) fun e' he' => hmore e' (List.mem_cons_of_mem e he')

/-- A connection that is new is held while it is prepared, unless that is cancelled. -/
theorem setsUp (h : Keeps none events) (hc : c ∉ openings events) {settings : Settings}
    {r : Except Fault Unit} (hs : Session.SetsUp c settings more r) :
    Keeps (if isHandled r then some c else none) (events ++ .connect settings (.ok c) :: more) := by
  obtain ⟨done, hdone, hsplit⟩ := hs.split
  have hprepared : Keeps (some c) (events ++ .connect settings (.ok c) :: done) := by
    rw [List.append_cons]
    refine (h.connect settings hc).calls fun e he => ?_
    obtain ⟨call, hcall, rfl⟩ := hdone e he
    exact ⟨rfl, Event.isParting_of_isSetup hcall c _⟩
  obtain ⟨rfl, rfl⟩ | ⟨call, f, hcall, rfl, rfl⟩ := hsplit
  · exact hprepared
  · have hparting := Event.isParting_of_isSetup hcall c (.error f)
    rw [← List.cons_append, ← List.append_assoc]
    rcases hr : isHandled (Except.error f : Except Fault Unit) with _ | _
    · exact hprepared.part rfl (by rw [hparting, hr]; rfl)
    · exact hprepared.call rfl (by rw [hparting, hr]; rfl)

end Keeps

namespace Session

variable {s s' : Session}

/-- Opening a connection, it is held or torn down, unless its set-up is cancelled. -/
theorem Opens.keeps {read : Option Connection → Value → Value} {settings : Settings}
    {r : Except Fault (Except Fault Connection)} (ho : Opens read settings s more r s')
    (hs : s.held = none) (h : Keeps none events) (hfresh : (openings (events ++ more)).Nodup) :
    Keeps s'.held (events ++ more) := by
  have hnew : ∀ {settings} {c : Connection} {rest},
      (openings (events ++ .connect settings (.ok c) :: rest)).Nodup → c ∉ openings events := by
    intro settings c rest hnodup hc
    rw [openings_append] at hnodup
    exact (List.nodup_append.mp hnodup).2.2 c hc c List.mem_cons_self rfl
  cases ho with
  | unconnected =>
    rw [hs]
    exact h.refused _ _
  | setupStopped hsetup hf =>
    have hparted := h.setsUp (hnew hfresh) hsetup
    rw [isHandled, hf, Bool.not_true, if_neg Bool.false_ne_true, ← hs] at hparted
    exact hparted
  | setupFailed hsetup hf hd =>
    have hprepared := h.setsUp (hnew hfresh) hsetup
    rw [isHandled, hf] at hprepared
    obtain ⟨o, rfl⟩ := hd.exists_destroy
    have hparted := hprepared.part (e := .control _ .destroy o) rfl rfl
    rw [← hs, List.append_assoc, List.cons_append] at hparted
    exact hparted
  | opened hsetup => exact h.setsUp (hnew hfresh) hsetup

/-- **The step of the invariant.** Every move keeps it while connections are fresh. -/
theorem Move.keeps (hm : Move s more s') (h : (openings events).Nodup → Keeps s.held events)
    (hfresh : (openings (events ++ more)).Nodup) : Keeps s'.held (events ++ more) := by
  have hkeeps : Keeps s.held events := by
    rw [openings_append] at hfresh
    exact h (List.nodup_append.mp hfresh).1
  -- a move that calls a connection calls the one that is held
  have hcall : ∀ {c e}, s.held = some c → e.connection? = some c → e.isParting = false →
      Keeps s.held (events ++ [e]) := by
    intro c e hs he hp
    rw [hs] at hkeeps ⊢
    exact hkeeps.call he hp
  have hpart : ∀ {c e}, s.held = some c → e.connection? = some c → e.isParting = true →
      Keeps none (events ++ [e]) := by
    intro c e hs he hp
    rw [hs] at hkeeps
    exact hkeeps.part he hp
  cases hm with
  | probed hs => exact hcall hs rfl rfl
  | sent hs => exact hcall hs rfl rfl
  | unbegun hs => exact hcall hs rfl rfl
  | begun hs => exact hcall hs rfl rfl
  | ended hs _ hend => rcases hend with rfl | rfl <;> exact hcall hs rfl rfl
  | cutOff hs => exact hpart hs rfl rfl
  | released hs hend => rcases hend with rfl | rfl <;> exact hpart hs rfl rfl
  | opening hs ho => exact ho.keeps hs (hs ▸ hkeeps) hfresh
  | settled =>
    rw [List.append_nil]
    exact hkeeps
  | idle hs =>
    rw [List.append_nil]
    rwa [hs] at hkeeps

end Session

/-! ### Histories -/

/-- **Connections are neither leaked nor used after their teardown.** Take any operations on a fresh
session, in any order, and any driver that gives no connection twice. The connection that is held
was never torn down. Every other one that was opened was torn down once, and called by nothing
afterwards, unless its set-up was cancelled; then it was never torn down. -/
theorem history_tears_down_once {σ : Type} (d : Driver σ) (settings : Settings) (world : σ)
    (log : List LogLine) (read : Option Connection → Value → Value) (ops : List Operation)
    (hfresh : (openings (Step.allEvents (history d ops ⟨{ settings }, world, log, read⟩))).Nodup) :
    TearsDownOnce (Link.after d ops ⟨{ settings }, world, log, read⟩).session.held
      (Step.allEvents (history d ops ⟨{ settings }, world, log, read⟩)) := by
  have hkeeps : Keeps (Link.after d ops ⟨{ settings }, world, log, read⟩).session.held
      (Step.allEvents (history d ops ⟨{ settings }, world, log, read⟩)) :=
    history_keeps d (fun events s => (openings events).Nodup → Keeps s.held events)
      (fun h hm => hm.keeps h) ops [] _ (fun _ => .nil) hfresh
  exact hkeeps.tearsDownOnce

/-- A connection that dies and is replaced. -/
theorem history_tears_down_once_replaced :
    let link := Rehearsal.link {} [("ping", [.fault .os "gone"])]
    let ops := [Operation.ensureConnected .null .null .null, .execute (.text "A") .null .null .null]
    (openings (Step.allEvents (history Rehearsal.driver ops link))).Nodup ∧
      TearsDownOnce (some 2) (Step.allEvents (history Rehearsal.driver ops link)) := by
  intro link ops
  have hfresh : (openings (Step.allEvents (history Rehearsal.driver ops link))).Nodup := by decide
  exact ⟨hfresh, history_tears_down_once Rehearsal.driver {}
    { outcomes := [("ping", [.fault .os "gone"])] } [] (fun _ v => v) ops hfresh⟩

/-- A connection whose set-up is cancelled is neither held nor torn down. -/
theorem cancelled_setup_leaves_connection :
    let link :=
      Rehearsal.link { schema := .text "shop" } [("select_schema", [.fault .cancelled ""])]
    let ops := [Operation.ensureConnected .null .null .null]
    (openings (Step.allEvents (history Rehearsal.driver ops link))).Nodup ∧
      ¬ ∀ c ∈ openings (Step.allEvents (history Rehearsal.driver ops link)),
        (Link.after Rehearsal.driver ops link).session.held ≠ some c →
        teardowns c (Step.allEvents (history Rehearsal.driver ops link)) = 1 := by
  intro link ops
  refine ⟨by decide, fun h => ?_⟩
  exact absurd (h 1 (by decide) (by decide)) (by decide)

end FluentSql
