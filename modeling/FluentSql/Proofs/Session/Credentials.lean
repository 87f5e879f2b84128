import FluentSql.Proofs.Session.Outcome

/-!
# Credentials are remembered once they worked

A session connects with its own settings, in which an operation may replace the user, the password
and the schema. What was tried becomes the settings of the session only if the connection was opened
and everything succeeded that prepares it.

`Connects` sums up what an operation does in this respect: it opens no connection, it fails to, or
it opens one and keeps the settings. From this follows, by induction on the operations, that the
settings are those of the last connection that was completed, and that a connection that is held
is that one: `credentials_remembered` is the main result.

Values may be shared with others and show a connection, so what a driver is given is what the
settings read while no connection is held.
-/

namespace FluentSql

/-- The user, the password and the schema that an operation gives. Null gives none. -/
def Operation.credentials : Operation → Value × Value × Value
  | .ensureConnected user password schema => (user, password, schema)
  | _ => (.null, .null, .null)

/-- Settings in which the credentials that are given replace those of `s`, and nothing else
does. -/
structure Settings.Replaces (s : Settings) (given : Value × Value × Value) (s' : Settings) :
    Prop where
  user : s'.user = if given.1.isNull then s.user else given.1
  password : s'.password = if given.2.1.isNull then s.password else given.2.1
  schema : s'.schema = if given.2.2.isNull then s.schema else given.2.2
  others : s' = { s with user := s'.user, password := s'.password, schema := s'.schema }

/-- A connection was opened with the settings, and no call failed that was to open one or to
prepare it. -/
def ConnectedWith (events : List Event) (settings : Settings) : Prop :=
  ¬ ConnectingFailed events ∧ ∃ c, .connect settings (.ok c) ∈ events

/-- Settings are those of the last step that connected, or the first ones if none did. -/
def LatestConnected (first : Settings) (steps : List Step) (settings : Settings) : Prop :=
  (∃ before step after, steps = before ++ step :: after ∧ ConnectedWith step.events settings ∧
    ∀ later ∈ after, ∀ given, ¬ ConnectedWith later.events given) ∨
  settings = first ∧ ∀ step ∈ steps, ∀ given, ¬ ConnectedWith step.events given

/-- A connection was opened with the settings and prepared as they say, and no connection was opened
or prepared since. -/
def OpenedWith (events : List Event) (settings : Settings) (c : Connection) : Prop :=
  ∃ earlier later, events = earlier ++ .connect settings (.ok c) ::
      (Session.schemaCalls c settings ++ Session.timeoutCalls c settings ++ later) ∧
    ∀ e ∈ later, e.isConnecting = false

/-- What a session remembers after several steps, which started with the settings `first`. -/
structure RemembersCredentials (read : Option Connection → Value → Value) (first : Settings)
    (steps : List Step) (s : Session) : Prop where
  latest : LatestConnected (first.map (read none)) steps (s.settings.map (read none))
  held : ∀ {c}, s.held = some c →
    OpenedWith (Step.allEvents steps) (s.settings.map (read none)) c
  /-- No setting but the credentials ever changes. -/
  others : s.settings = { first with
    user := s.settings.user, password := s.settings.password, schema := s.settings.schema }

/-- What an operation tries to connect with, and whether the session keeps it. -/
structure TriesCredentials (read : Option Connection → Value → Value) (op : Operation)
    (s : Session) (events : List Event) (s' : Session) : Prop where
  calls : ∀ {given o}, .connect given o ∈ events →
    ∃ tried, s.settings.Replaces op.credentials tried ∧ given = tried.map (read none)
  kept : (∀ given, ¬ ConnectedWith events given) → s'.settings = s.settings
  replaced : ∀ {given}, ConnectedWith events given →
    s.settings.Replaces op.credentials s'.settings ∧ given = s'.settings.map (read none)

variable {read : Option Connection → Value → Value} {s s' s'' : Session} {c : Connection}
  {events more : List Event} {tried : Settings}

theorem Event.isConnecting_of_isWork {e : Event} (h : e.isWork = true) :
    e.isConnecting = false := by
  rcases e with _ | ⟨_, call, _⟩ | _
  · cases h
  · cases call <;> first | rfl | cases h
  · rfl

theorem not_connectedWith_of_quiet (h : ∀ e ∈ events, e.isConnecting = false)
    (given : Settings) : ¬ ConnectedWith events given := by
  rintro ⟨-, c, hc⟩
  exact absurd (h _ hc) nofun

namespace Session

theorem withCredentials_replaces (settings : Settings) (user password schema : Value) :
    settings.Replaces (user, password, schema)
      (withCredentials settings user password schema) :=
  ⟨rfl, rfl, rfl, rfl⟩

/-! ### Connecting in sum -/

/-- What an operation does to the connection and the settings, where `tried` are the settings that
it would connect with. -/
inductive Connects (read : Option Connection → Value → Value) (tried : Settings) (s : Session) :
    List Event → Session → Prop where
  | kept {events : List Event} {s' : Session} (hquiet : ∀ e ∈ events, e.isConnecting = false)
      (hs : s'.settings = s.settings) (hc : s'.held = s.held ∨ s'.held = none) :
      Connects read tried s events s'
  | failed {events : List Event} {s' : Session} (hfailed : ConnectingFailed events)
      (hgiven : ∀ {given o}, .connect given o ∈ events → given = tried.map (read none))
      (hs : s'.settings = s.settings) (hc : s'.held = none) : Connects read tried s events s'
  | opened {c : Connection} {earlier later : List Event} {s' : Session}
      (hearlier : ∀ e ∈ earlier, e.isConnecting = false)
      (hlater : ∀ e ∈ later, e.isConnecting = false) (hs : s'.settings = tried)
      (hc : s'.held = some c ∨ s'.held = none) :
      Connects read tried s (earlier ++ .connect (tried.map (read none)) (.ok c) ::
        (schemaCalls c (tried.map (read none)) ++ timeoutCalls c (tried.map (read none)) ++ later))
        s'

theorem SetsUp.connectingFailed {settings : Settings} {f : Fault}
    (h : SetsUp c settings events (.error f)) : ConnectingFailed events := by
  obtain ⟨done, -, ⟨-, hok⟩ | ⟨call, f, hcall, rfl, -⟩⟩ := h.split
  · cases hok
  · exact ⟨.control c call (.error f), by simp, hcall, Option.some_ne_none f⟩

/-- A new connection is opened while none is held. The calls before it opened nothing. -/
theorem Opens.connects {earlier : List Event} {before : Session}
    {r : Except Fault (Except Fault Connection)} (h : Opens read tried s events r s')
    (hs : s.held = none) (hearlier : ∀ e ∈ earlier, e.isConnecting = false)
    (hbefore : s.settings = before.settings) :
    Connects read tried before (earlier ++ events) s' := by
  -- a connect call is the first of the calls that open a connection, and the only one
  have hgiven : ∀ {more : List Event} {o : Except Fault Connection},
      (∀ e ∈ more, ∃ c call o, e = .control c call o) → ∀ {given o'}, .connect given o' ∈
        earlier ++ .connect (tried.map (read s.held)) o :: more →
      given = tried.map (read none) := by
    intro more o hmore given o' hmem
    rcases List.mem_append.mp hmem with hmem | hmem
    · exact absurd (hearlier _ hmem) nofun
    · rcases List.mem_cons.mp hmem with hconnect | hmem
      · rw [(Event.connect.inj hconnect).1, hs]
      · obtain ⟨_, _, _, hcontrol⟩ := hmore _ hmem
        cases hcontrol
  have hsetup : ∀ {c setup r}, SetsUp c (tried.map (read s.held)) setup r →
      ∀ e ∈ setup, ∃ c call o, e = .control c call o := by
    intro c setup r hsetup e he
    obtain ⟨call, o, -, rfl⟩ := hsetup.exists_setup he
    exact ⟨c, call, o, rfl⟩
  cases h with
  | @unconnected f =>
    have hfailed : ConnectingFailed (earlier ++ [.connect (tried.map (read s.held)) (.error f)]) :=
      ⟨.connect (tried.map (read s.held)) (.error f), by simp, rfl, Option.some_ne_none f⟩
    exact .failed hfailed (hgiven (by simp)) hbefore hs
  | setupStopped hset =>
    obtain ⟨e, he, hfailed⟩ := hset.connectingFailed
    exact .failed ⟨e, by simp [he], hfailed⟩ (hgiven (hsetup hset)) hbefore hs
  | setupFailed hset _ hd =>
    obtain ⟨e, he, hfailed⟩ := hset.connectingFailed
    obtain ⟨o, rfl⟩ := hd.exists_destroy
    refine .failed ⟨e, by simp [he], hfailed⟩ (hgiven ?_) hbefore hs
    intro e he
    rcases List.mem_append.mp he with he | he
    · exact hsetup hset e he
    · exact ⟨_, _, _, List.mem_singleton.mp he⟩
  | @opened c setup hset =>
    rw [hs] at hset ⊢
    cases hset
    have hopened : Connects read tried before
        (earlier ++ .connect (tried.map (read none)) (.ok c) ::
          (schemaCalls c (tried.map (read none)) ++ timeoutCalls c (tried.map (read none)) ++ []))
        (s.connectedTo tried c) := .opened hearlier nofun rfl (.inl rfl)
    rwa [List.append_nil] at hopened

theorem Lives.connects {user password schema : Value}
    {r : Except Fault (Except Fault Connection)}
    (h : Lives read user password schema s events r s') :
    Connects read (withCredentials s.settings user password schema) s events s' := by
  cases h with
  | alive => exact .kept (by simp [Event.isConnecting, Control.isSetup]) rfl (.inl rfl)
  | stopped => exact .kept (by simp [Event.isConnecting, Control.isSetup]) rfl (.inl rfl)
  | dropStopped _ _ hd =>
    obtain ⟨o, rfl⟩ := hd.exists_destroy
    exact .kept (by simp [Event.isConnecting, Control.isSetup]) rfl (.inr rfl)
  | @replaced c f _ _ _ _ _ _ hd ho =>
    obtain ⟨o, rfl⟩ := hd.exists_destroy
    have hquiet : ∀ e ∈ [Event.control c .ping (.error f), .control c .destroy o],
        e.isConnecting = false := by
      simp [Event.isConnecting, Control.isSetup]
    exact ho.connects rfl hquiet rfl
  | opened hs ho => exact ho.connects hs (List.forall_mem_nil _) rfl

/-- Work on a connection changes no settings, and at most lets go of the connection. -/
theorem Path.same_or_unheld (h : Path s events s') (hwork : ∀ e ∈ events, e.isWork = true) :
    s'.settings = s.settings ∧ (s'.held = s.held ∨ s'.held = none) := by
  induction h with
  | nil => exact ⟨rfl, .inl rfl⟩
  | @cons s middle _ events more hm _ ih =>
    obtain ⟨hsettings, hheld⟩ := ih fun e he => hwork e (List.mem_append_right events he)
    have hmove : middle.settings = s.settings ∧ (middle.held = s.held ∨ middle.held = none) := by
      cases hm with
      | cutOff => exact ⟨rfl, .inr rfl⟩
      | released => exact ⟨rfl, .inr rfl⟩
      | idle => exact ⟨rfl, .inr rfl⟩
      | opening _ ho =>
        -- to open a connection is no work on one
        have hconnect : ∃ e ∈ events, e.isWork = false := by
          cases ho <;> exact ⟨_, List.mem_cons_self, rfl⟩
        obtain ⟨e, he, hnot⟩ := hconnect
        exact absurd (hnot.symm.trans (hwork e (List.mem_append_left more he))) nofun
      | _ => exact ⟨rfl, .inl rfl⟩
    refine ⟨hsettings.trans hmove.1, ?_⟩
    rcases hheld with hheld | hheld
    · rw [hheld]
      exact hmove.2
    · exact .inr hheld

/-- Work on a connection follows. -/
theorem Connects.append_work (h : Connects read tried s events s') (hp : Path s' more s'')
    (hwork : ∀ e ∈ more, e.isWork = true) : Connects read tried s (events ++ more) s'' := by
  obtain ⟨hsettings, hheld⟩ := hp.same_or_unheld hwork
  have hquiet : ∀ e ∈ more, e.isConnecting = false :=
    fun e he => Event.isConnecting_of_isWork (hwork e he)
  cases h with
  | kept hq hs hc =>
    refine .kept ?_ (hsettings.trans hs) ?_
    · exact fun e he => (List.mem_append.mp he).elim (hq e) (hquiet e)
    · rcases hheld with hheld | hheld
      · rwa [hheld]
      · exact .inr hheld
  | failed hfailed hgiven hs hc =>
    obtain ⟨e, he, hconnecting⟩ := hfailed
    refine .failed ⟨e, List.mem_append_left more he, hconnecting⟩ ?_ (hsettings.trans hs) ?_
    · intro given o hmem
      rcases List.mem_append.mp hmem with hmem | hmem
      · exact hgiven hmem
      · exact absurd (hquiet _ hmem) nofun
    · rcases hheld with hheld | hheld
      · exact hheld.trans hc
      · exact hheld
  | @opened c earlier later _ hearlier hlater hs hc =>
    rw [List.append_assoc, List.cons_append, List.append_assoc _ later]
    refine .opened hearlier ?_ (hsettings.trans hs) ?_
    · exact fun e he => (List.mem_append.mp he).elim (hlater e) (hquiet e)
    · rcases hheld with hheld | hheld
      · rwa [hheld]
      · exact .inr hheld

theorem Fetches.connects {sql params : Value} {r : Except Fault (Except Fault Rows)}
    (h : Fetches read sql params s events r s') :
    Connects read (withCredentials s.settings .null .null .null) s events s' := by
  cases h with
  | stopped hl => exact hl.connects
  | unconnected hl => exact hl.connects
  | sent hl hs =>
    exact hl.connects.append_work (Move.sent hs).path (by simp [Event.isWork, Event.statement])

/-- Every operation connects with its own credentials, or not at all. -/
theorem Performs.connects {op : Operation} {r : Except Fault (Except Fault Yield)}
    (h : Performs read s op events r s') :
    Connects read (withCredentials s.settings op.credentials.1 op.credentials.2.1
      op.credentials.2.2) s events s' := by
  have hworks : (∀ e ∈ events, e.isWork = true) → ∀ tried, Connects read tried s events s' := by
    intro hwork tried
    obtain ⟨hsettings, hheld⟩ := h.path.same_or_unheld hwork
    exact .kept (fun e he => Event.isConnecting_of_isWork (hwork e he)) hsettings hheld
  cases h with
  | ensureConnected hl => exact hl.connects
  | executeStopped hf => exact hf.connects
  | execute hf => exact hf.connects
  | transactionStopped hl => exact hl.connects
  | transactionUnconnected hl => exact hl.connects
  | transaction hl hs ht => exact hl.connects.append_work (ht.path hs) ht.work
  | commit hc => exact hworks hc.work _
  | rollback hr => exact hworks hr.work _
  | close hc => exact hworks hc.work _
  | destroy hd => exact hworks hd.work _

/-! ### What is tried and what is kept -/

section Opened

variable {settings given : Settings} {earlier later : List Event}
  (hearlier : ∀ e ∈ earlier, e.isConnecting = false)
  (hlater : ∀ e ∈ later, e.isConnecting = false)

include hearlier hlater

/-- The calls that connect where a connection was opened and prepared all succeeded. -/
theorem eq_of_mem_opened {e : Event}
    (he : e ∈ earlier ++ .connect settings (.ok c) ::
      (schemaCalls c settings ++ timeoutCalls c settings ++ later))
    (hconnecting : e.isConnecting = true) :
    e = .connect settings (.ok c) ∨ ∃ call, e = .control c call (.ok ()) := by
  rcases List.mem_append.mp he with he | he
  · exact absurd ((hearlier e he).symm.trans hconnecting) nofun
  · rcases List.mem_cons.mp he with rfl | he
    · exact .inl rfl
    · rcases List.mem_append.mp he with he | he
      · have hdone : SetsUp c settings (schemaCalls c settings ++ timeoutCalls c settings) _ :=
          .done
        obtain ⟨done, hdone, ⟨hevents, -⟩ | ⟨_, _, _, _, hf⟩⟩ := hdone.split
        · rw [hevents] at he
          obtain ⟨call, -, rfl⟩ := hdone e he
          exact .inr ⟨call, rfl⟩
        · cases hf
      · exact absurd ((hlater e he).symm.trans hconnecting) nofun

theorem eq_of_connect_mem_opened {o : Except Fault Connection}
    (h : .connect given o ∈ earlier ++ .connect settings (.ok c) ::
      (schemaCalls c settings ++ timeoutCalls c settings ++ later)) : given = settings := by
  rcases eq_of_mem_opened hearlier hlater h rfl with hconnect | ⟨call, hcontrol⟩
  · exact (Event.connect.inj hconnect).1
  · cases hcontrol

theorem connectedWith_opened_iff :
    ConnectedWith (earlier ++ .connect settings (.ok c) ::
      (schemaCalls c settings ++ timeoutCalls c settings ++ later)) given ↔ given = settings := by
  constructor
  · rintro ⟨-, c', hmem⟩
    exact eq_of_connect_mem_opened hearlier hlater hmem
  · rintro rfl
    refine ⟨?_, c, by simp⟩
    rintro ⟨e, he, hconnecting, hfault⟩
    rcases eq_of_mem_opened hearlier hlater he hconnecting with rfl | ⟨call, rfl⟩
    · exact hfault rfl
    · exact hfault rfl

end Opened

theorem Connects.tries {op : Operation} (h : Connects read (withCredentials s.settings
    op.credentials.1 op.credentials.2.1 op.credentials.2.2) s events s') :
    TriesCredentials read op s events s' := by
  have hreplaces := withCredentials_replaces s.settings op.credentials.1 op.credentials.2.1
    op.credentials.2.2
  cases h with
  | kept hq hs =>
    exact ⟨fun hmem => absurd (hq _ hmem) nofun, fun _ => hs,
      fun hc => absurd hc (not_connectedWith_of_quiet hq _)⟩
  | failed hfailed hgiven hs =>
    exact ⟨fun hmem => ⟨_, hreplaces, hgiven hmem⟩, fun _ => hs, fun hc => absurd hfailed hc.1⟩
  | opened hearlier hlater hs =>
    refine ⟨fun hmem => ?_, fun hnot => ?_, fun hc => ?_⟩
    · exact ⟨_, hreplaces, eq_of_connect_mem_opened hearlier hlater hmem⟩
    · exact absurd ((connectedWith_opened_iff hearlier hlater).mpr rfl) (hnot _)
    · rw [hs]
      exact ⟨hreplaces, (connectedWith_opened_iff hearlier hlater).mp hc⟩

end Session

theorem LatestConnected.concat_of_not {first settings : Settings} {steps : List Step} {step : Step}
    (h : LatestConnected first steps settings) (hnot : ∀ given, ¬ ConnectedWith step.events given) :
    LatestConnected first (steps ++ [step]) settings := by
  rcases h with ⟨before, last, after, rfl, hlast, hafter⟩ | ⟨rfl, hnone⟩
  · refine .inl ⟨before, last, after ++ [step], by simp, hlast, fun later hmem => ?_⟩
    rcases List.mem_append.mp hmem with hmem | hmem
    · exact hafter later hmem
    · rwa [List.mem_singleton.mp hmem]
  · refine .inr ⟨rfl, fun later hmem => ?_⟩
    rcases List.mem_append.mp hmem with hmem | hmem
    · exact hnone later hmem
    · rwa [List.mem_singleton.mp hmem]

theorem OpenedWith.append_quiet {settings : Settings} (h : OpenedWith events settings c)
    (hquiet : ∀ e ∈ more, e.isConnecting = false) : OpenedWith (events ++ more) settings c := by
  obtain ⟨earlier, later, rfl, hlater⟩ := h
  refine ⟨earlier, later ++ more, by simp, fun e he => ?_⟩
  exact (List.mem_append.mp he).elim (hlater e) (hquiet e)

namespace RemembersCredentials

variable {first : Settings} {steps : List Step} {step : Step}

/-- **The step of the invariant.** What was tried is remembered if it worked, and else what was
remembered before. -/
theorem concat (h : RemembersCredentials read first steps s)
    (hc : Session.Connects read tried s step.events s')
    (htried : ∃ given, s.settings.Replaces given tried) :
    RemembersCredentials read first (steps ++ [step]) s' := by
  obtain ⟨given, hgiven⟩ := htried
  generalize hevents : step.events = events at hc
  cases hc with
  | kept hq hs hheld =>
    refine ⟨?_, fun {c} hsome => ?_, ?_⟩
    · rw [hs]
      refine h.latest.concat_of_not ?_
      rw [hevents]
      exact not_connectedWith_of_quiet hq
    · rw [Step.allEvents_append, Step.allEvents_singleton, hevents, hs]
      refine (h.held ?_).append_quiet hq
      rcases hheld with hheld | hheld
      · exact hheld.symm.trans hsome
      · exact absurd (hheld.symm.trans hsome) nofun
    · rw [hs]
      exact h.others
  | failed hfailed _ hs hheld =>
    refine ⟨?_, fun {c} hsome => absurd (hheld.symm.trans hsome) nofun, ?_⟩
    · rw [hs]
      refine h.latest.concat_of_not fun settings hconnected => hconnected.1 ?_
      rwa [hevents]
    · rw [hs]
      exact h.others
  | @opened c earlier later _ hearlier hlater hs hheld =>
    refine ⟨?_, fun {c'} hsome => ?_, ?_⟩
    · refine .inl ⟨steps, step, [], rfl, ?_, nofun⟩
      rw [hevents, hs]
      exact (Session.connectedWith_opened_iff hearlier hlater).mpr rfl
    · rw [Step.allEvents_append, Step.allEvents_singleton, hevents, hs]
      rcases hheld with hheld | hheld
      · obtain rfl := Option.some.inj (hheld.symm.trans hsome)
        exact ⟨Step.allEvents steps ++ earlier, later, by simp, hlater⟩
      · exact absurd (hheld.symm.trans hsome) nofun
    · rw [hs]
      refine hgiven.others.trans ?_
      rw [h.others]

end RemembersCredentials

section History

variable {σ : Type} (d : Driver σ) (settings : Settings) (world : σ) (log : List LogLine)
  (read : Option Connection → Value → Value) (ops : List Operation)

/-- Each operation connects as the settings say that those before it left. -/
theorem after_connects (op : Operation) :
    let link := Link.after d ops ⟨{ settings }, world, log, read⟩
    Session.Connects read (Session.withCredentials link.session.settings op.credentials.1
      op.credentials.2.1 op.credentials.2.2) link.session (op.step d link).1.events
      (op.step d link).2.session := by
  intro link
  have hread : link.read = read := Link.after_read d ops _
  rw [← hread]
  exact (op.step_performs d link).connects

/-- The invariant holds throughout every history of a session that starts afresh. -/
theorem history_remembers :
    RemembersCredentials read settings (history d ops ⟨{ settings }, world, log, read⟩)
      (Link.after d ops ⟨{ settings }, world, log, read⟩).session := by
  induction ops using List.reverseRecOn with
  | nil => exact ⟨.inr ⟨rfl, nofun⟩, nofun, rfl⟩
  | append_singleton ops op ih =>
    rw [history_concat, Link.after_concat]
    exact ih.concat (after_connects d settings world log read ops op)
      ⟨_, Session.withCredentials_replaces ..⟩

/-- **Credentials are remembered once they worked.** Take any operations on a fresh session, and any
driver. The settings of the session are those of the last connection that was opened and prepared
without a fault. A connection that is held is that one: it was prepared as its settings say. The
next operation, whatever it is, connects only with these settings, in which its own credentials
replace those that are there; and the session keeps them exactly if that worked. Nothing but the
credentials ever changes. -/
theorem credentials_remembered :
    let link := Link.after d ops ⟨{ settings }, world, log, read⟩
    RemembersCredentials read settings (history d ops ⟨{ settings }, world, log, read⟩)
        link.session ∧
      ∀ op : Operation, TriesCredentials read op link.session (op.step d link).1.events
        (op.step d link).2.session :=
  ⟨history_remembers d settings world log read ops,
    fun op => (after_connects d settings world log read ops op).tries⟩

end History

end FluentSql
