import FluentSql.Proofs.Session.Course

/-!
# Steps take courses

`Operation.step_performs` is the main result: a step of any session, through any driver, takes one
of the courses of `FluentSql.Session.Performs`.

`Runs` says that work, from one link, makes some calls and arrives at another link. Every part of an
operation has a lemma that it runs along one of its courses.
-/

namespace FluentSql

variable {σ α β : Type}

/-- Work that starts at `link` makes the calls `events`, gives `r`, and arrives at `after`. -/
structure Runs (work : Work (Journal σ) α) (link : Link (Journal σ)) (events : List Event)
    (r : Except Fault α) (after : Link (Journal σ)) : Prop where
  apply_eq : work link = (r, after)
  events_eq : after.world.events = link.world.events ++ events
  read_eq : after.read = link.read

namespace Runs

variable {work : Work (Journal σ) α} {rest : α → Work (Journal σ) β}
  {link middle after : Link (Journal σ)} {events later : List Event} {a : α} {f : Fault}
  {r : Except Fault β}

theorem pure (a : α) (link : Link (Journal σ)) :
    Runs (Pure.pure a : Work (Journal σ) α) link [] (.ok a) link :=
  ⟨rfl, (List.append_nil _).symm, rfl⟩

/-- Work that goes on makes the calls of both parts. -/
theorem bind (h : Runs work link events (.ok a) middle)
    (hr : Runs (rest a) middle later r after) :
    Runs (work >>= rest) link (events ++ later) r after where
  apply_eq := by rw [Fallible.bind_apply_of_ok h.apply_eq, hr.apply_eq]
  events_eq := by rw [hr.events_eq, h.events_eq, List.append_assoc]
  read_eq := hr.read_eq.trans h.read_eq

/-- Work whose second part makes no calls. -/
theorem bind_quiet (h : Runs work link events (.ok a) middle)
    (hr : Runs (rest a) middle [] r after) : Runs (work >>= rest) link events r after :=
  (List.append_nil events) ▸ h.bind hr

/-- Work whose first part makes no calls. -/
theorem quiet_bind (h : Runs work link [] (.ok a) middle)
    (hr : Runs (rest a) middle later r after) : Runs (work >>= rest) link later r after :=
  h.bind hr

/-- Work that stops in its first part. -/
theorem bind_stop (h : Runs work link events (.error f) after) :
    Runs (work >>= rest) link events (.error f) after :=
  ⟨Fallible.bind_apply_of_error h.apply_eq, h.events_eq, h.read_eq⟩

theorem log (level : LogLevel) (text : String) (link : Link (Journal σ)) :
    Runs (Work.log level text) link [] (.ok ()) { link with log := link.log ++ [⟨level, text⟩] } :=
  ⟨rfl, (List.append_nil _).symm, rfl⟩

theorem update (g : Session → Session) (link : Link (Journal σ)) :
    Runs (Work.update g) link [] (.ok ()) { link with session := g link.session } :=
  ⟨rfl, (List.append_nil _).symm, rfl⟩

theorem session (link : Link (Journal σ)) :
    Runs Work.session link [] (.ok link.session) link :=
  ⟨rfl, (List.append_nil _).symm, rfl⟩

theorem read (v : Value) (link : Link (Journal σ)) :
    Runs (Work.read v) link [] (.ok (link.read link.session.held v)) link :=
  ⟨rfl, (List.append_nil _).symm, rfl⟩

theorem readSettings (settings : Settings) (link : Link (Journal σ)) :
    Runs (Work.readSettings settings) link []
      (.ok (settings.map (link.read link.session.held))) link :=
  ⟨rfl, (List.append_nil _).symm, rfl⟩

theorem ofExcept {e o : Except Fault α} (h : e = o) (link : Link (Journal σ)) :
    Runs (Fallible.ofExcept e : Work (Journal σ) α) link [] o link :=
  ⟨by rw [Fallible.ofExcept_apply, h], (List.append_nil _).symm, rfl⟩

/-- A line about settings is written or not, and nothing else happens. -/
theorem exists_logSettings (level : LogLevel) (settings : Settings) (line : String → String)
    (link : Link (Journal σ)) :
    ∃ lines, Runs (Work.logSettings level settings line) link [] (.ok ())
      { link with log := lines } := by
  rcases h : (settings.map (link.read link.session.held)).description with e | shown
  · refine ⟨link.log, (readSettings settings link).quiet_bind ?_⟩
    rw [h]
    exact pure () link
  · refine ⟨link.log ++ [⟨level, line shown⟩], (readSettings settings link).quiet_bind ?_⟩
    rw [h]
    exact log level (line shown) link

/-- A line about a statement is written or not, and nothing else happens. -/
theorem exists_logStatement (start : String) (sql params : Value) (link : Link (Journal σ)) :
    ∃ lines, Runs (Work.logStatement start sql params) link [] (.ok ())
      { link with log := lines } := by
  rcases hs : (link.read link.session.held sql).display with e | statement
  · refine ⟨link.log, (read sql link).quiet_bind ((read params link).quiet_bind ?_)⟩
    rw [hs]
    exact pure () link
  rcases hp : (link.read link.session.held params).quoted with e | bound
  · refine ⟨link.log, (read sql link).quiet_bind ((read params link).quiet_bind ?_)⟩
    rw [hs, hp]
    exact pure () link
  · refine ⟨link.log ++ [⟨.debug, start ++ statement ++ " " ++ bound⟩],
      (read sql link).quiet_bind ((read params link).quiet_bind ?_)⟩
    rw [hs, hp]
    exact log .debug _ link

/-- An action that makes the calls `events` and has the outcome `o`, as part of the work. -/
theorem attempt {action : Action (Journal σ) α} {o : Except Fault α} {world : Journal σ}
    (link : Link (Journal σ)) (h : action link.world = (o, world))
    (he : world.events = link.world.events ++ events) :
    Runs (Work.attempt action) link events (passedOn id o) { link with world } := by
  refine ⟨?_, he, rfl⟩
  rcases o with f | a
  · simp only [Work.attempt, h, passedOn, id]
    split <;> rfl
  · simp only [Work.attempt, h, passedOn]

/-- A call that is written down, as part of the work: it succeeds, fails, or is cancelled. -/
theorem noted_cases (note : Except Fault α → Event) (action : Action σ α)
    (link : Link (Journal σ)) :
    (∃ a world, Runs (Work.attempt (action.noted note)) link [note (.ok a)] (.ok (.ok a))
      { link with world }) ∨
    (∃ f world, f.isCancellation = false ∧ Runs (Work.attempt (action.noted note)) link
      [note (.error f)] (.ok (.error f)) { link with world }) ∨
    (∃ f world, f.isCancellation = true ∧ Runs (Work.attempt (action.noted note)) link
      [note (.error f)] (.error f) { link with world }) := by
  -- the call is noted before anyone looks at its outcome, so it is the same note in all three cases
  have h := attempt link (Action.noted_apply note action link.world) rfl
  rcases ho : (action link.world.world).1 with f | a
  · rw [ho] at h
    by_cases hf : f.isCancellation = true
    · rw [passedOn_of_cancelled _ hf] at h
      exact .inr (.inr ⟨f, _, hf, h⟩)
    · have hf' : f.isCancellation = false := by simpa using hf
      rw [passedOn_of_handled _ hf'] at h
      exact .inr (.inl ⟨f, _, hf', h⟩)
  · rw [ho] at h
    exact .inl ⟨a, _, h⟩

end Runs

namespace Session

/-- Work runs along one of several courses, which are given by the calls, the outcome and the
session afterwards. -/
def Follows (work : Work (Journal σ) α) (link : Link (Journal σ))
    (course : List Event → Except Fault α → Session → Prop) : Prop :=
  ∃ events r after, Runs work link events r after ∧ course events r after.session

/-! ### Teardown -/

/-- A teardown makes its call and keeps the session. Only a cancellation stops it. -/
theorem tearDown_cases (d : Driver σ) (c : Connection) (call : Control) (level : LogLevel)
    (start : String) (link : Link (Journal σ)) :
    (∃ o after, isHandled o = true ∧ Runs (tearDown d.recorded c call level start) link
      [.control c call o] (.ok ()) after ∧ after.session = link.session) ∨
    (∃ f after, f.isCancellation = true ∧ Runs (tearDown d.recorded c call level start) link
      [.control c call (.error f)] (.error f) after ∧ after.session = link.session) := by
  rcases Runs.noted_cases (.control c call) (d.control c call) link with
    ⟨a, world, h⟩ | ⟨f, world, hf, h⟩ | ⟨f, world, hf, h⟩
  · exact .inl ⟨.ok a, _, rfl, h.bind_quiet (Runs.pure ..), rfl⟩
  · exact .inl ⟨.error f, _, by simp [isHandled, hf], h.bind_quiet (Runs.log ..), rfl⟩
  · exact .inr ⟨f, _, hf, h.bind_stop, rfl⟩

theorem destroyConnection_follows (d : Driver σ) (c : Connection) (link : Link (Journal σ)) :
    Follows (destroyConnection d.recorded c) link fun events r s =>
      Destroys c events r ∧ s = link.session := by
  rcases tearDown_cases d c .destroy .debug "Error while destroying connection: " link with
    ⟨o, after, ho, h, hafter⟩ | ⟨f, after, hf, h, hafter⟩
  · exact ⟨_, _, _, h, .done ho, hafter⟩
  · exact ⟨_, _, _, h, .stopped hf, hafter⟩

theorem discard_follows (d : Driver σ) (link : Link (Journal σ)) :
    Follows (discard d.recorded) link (Discards link.session) := by
  have hu := Runs.update released link
  rcases hs : link.session.held with _ | c
  · have hrun : Runs (discard d.recorded) link [] (.ok ())
        { link with session := link.session.released } := by
      refine (Runs.session link).quiet_bind (hu.quiet_bind ?_)
      rw [hs]
      exact Runs.pure () _
    exact ⟨_, _, _, hrun, .nothing hs⟩
  · obtain ⟨events, r, after, hrun, hd, hafter⟩ :=
      destroyConnection_follows d c { link with session := link.session.released }
    refine ⟨events, r, after, (Runs.session link).quiet_bind (hu.quiet_bind ?_), ?_⟩
    · rw [hs]
      exact hrun
    · rw [hafter]
      exact .dropped hs hd

theorem destroy_follows (d : Driver σ) (link : Link (Journal σ)) :
    Follows (destroy d.recorded) link (Discards link.session.settledLoss) := by
  obtain ⟨events, r, after, hrun, hd⟩ :=
    discard_follows d { link with session := link.session.settledLoss }
  exact ⟨events, r, after, (Runs.update settledLoss link).quiet_bind hrun, hd⟩

theorem close_follows (d : Driver σ) (link : Link (Journal σ)) :
    Follows (close d.recorded) link (Closes link.session) := by
  have hu := Runs.update (fun s => { s with held := none }) link
  rcases hs : link.session.held with _ | c
  · have hrun : Runs (close d.recorded) link [] (.ok ())
        { link with session := { link.session with held := none } } := by
      refine (Runs.session link).quiet_bind (hu.quiet_bind ?_)
      rw [hs]
      exact Runs.pure () _
    have hsame : ({ link.session with held := none } : Session) = link.session := by rw [← hs]
    rw [hsame] at hrun
    exact ⟨_, _, _, hrun, .nothing hs⟩
  · -- the warning about an open transaction changes nothing but the log
    obtain ⟨lines, hrun⟩ : ∃ lines, ∀ events r after,
        Runs (closeConnection d.recorded c)
          ⟨link.session.released.settledLoss, link.world, lines, link.read⟩ events r after →
        Runs (close d.recorded) link events r after := by
      refine ⟨if link.session.inTransaction then link.log ++ [⟨.warning,
        "Closing session with an open transaction; it will be rolled back"⟩] else link.log, ?_⟩
      intro events r after h
      refine (Runs.session link).quiet_bind (hu.quiet_bind ?_)
      rw [hs]
      split at h <;> rename_i ht <;> simp only [ht]
      · exact (Runs.log ..).quiet_bind ((Runs.update _ _).quiet_bind h)
      · exact (Runs.update _ _).quiet_bind h
    rcases tearDown_cases d c .finish .warning "Error while closing connection: "
      ⟨link.session.released.settledLoss, link.world, lines, link.read⟩ with
      ⟨o, after, ho, h, hafter⟩ | ⟨f, after, hf, h, hafter⟩
    · refine ⟨_, _, _, hrun _ _ _ h, ?_⟩
      rw [hafter]
      exact .done hs ho
    · refine ⟨_, _, _, hrun _ _ _ h, ?_⟩
      rw [hafter]
      exact .stopped hs hf

/-! ### Connecting -/

/-- A call for a setting that is not given succeeds without being made. -/
theorem controlIf_cases (d : Driver σ) (c : Connection) (given : Bool) (call : Control)
    (j : Journal σ) :
    (∃ world, controlIf d.recorded c given call j =
      (.ok (), ⟨world, j.events ++ if given then [.control c call (.ok ())] else []⟩)) ∨
    (given = true ∧ ∃ f world, controlIf d.recorded c given call j =
      (.error f, ⟨world, j.events ++ [.control c call (.error f)]⟩)) := by
  cases given with
  | false => exact .inl ⟨j.world, by simp [controlIf]⟩
  | true =>
    have hcall : controlIf d.recorded c true call j = ((d.control c call j.world).1,
      ⟨(d.control c call j.world).2, j.events ++ [.control c call (d.control c call j.world).1]⟩) :=
      rfl
    rcases ho : (d.control c call j.world).1 with f | ⟨⟩
    · exact .inr ⟨rfl, f, _, by rw [hcall, ho]⟩
    · exact .inl ⟨_, by rw [hcall, ho, if_pos rfl]⟩

/-- Setting up a connection, as an action by itself. -/
theorem setup_follows (d : Driver σ) (c : Connection) (settings : Settings) (j : Journal σ) :
    ∃ events, (setup d.recorded c settings j).2.events = j.events ++ events ∧
      SetsUp c settings events (setup d.recorded c settings j).1 := by
  rw [setup]
  rcases controlIf_cases d c settings.schema.truthy (.selectSchema settings.schema) j with
    ⟨world, hs⟩ | ⟨hgiven, f, world, hs⟩
  · have hs' : controlIf d.recorded c settings.schema.truthy (.selectSchema settings.schema) j =
      (.ok (), ⟨world, j.events ++ schemaCalls c settings⟩) := hs
    rw [Fallible.bind_apply_of_ok hs']
    rcases controlIf_cases d c settings.waitTimeout.truthy (.setWaitTimeout settings.waitTimeout)
      ⟨world, j.events ++ schemaCalls c settings⟩ with ⟨world', ht⟩ | ⟨hgiven, f, world', ht⟩
    · rw [ht]
      exact ⟨_, List.append_assoc .., .done⟩
    · rw [ht]
      exact ⟨_, List.append_assoc .., .timeoutFailed hgiven⟩
  -- a setup that fails at the schema does not get to the time limit
  · rw [Fallible.bind_apply_of_error hs]
    exact ⟨_, rfl, .schemaFailed hgiven⟩

theorem openConnection_follows (d : Driver σ) (settings : Settings) (link : Link (Journal σ)) :
    Follows (openConnection d.recorded settings) link
      (Opens link.read settings link.session) := by
  have hp := Runs.readSettings settings link
  rcases Runs.noted_cases (.connect (settings.map (link.read link.session.held)))
    (d.connect (settings.map (link.read link.session.held))) link with
    ⟨c, world, h⟩ | ⟨f, world, hf, h⟩ | ⟨f, world, hf, h⟩
  · obtain ⟨events, he, hsetup⟩ :=
      setup_follows d c (settings.map (link.read link.session.held)) world
    rcases ho : setup d.recorded c (settings.map (link.read link.session.held)) world with
      ⟨f | ⟨⟩, world'⟩
    · rw [ho] at he hsetup
      have ha := Runs.attempt { link with world } ho he
      -- connected but not set up: unless it was cancelled, the new connection is destroyed
      by_cases hf : f.isCancellation = true
      · rw [passedOn_of_cancelled _ hf] at ha
        exact ⟨_, _, _, hp.quiet_bind (h.bind ha.bind_stop), .setupStopped hsetup hf⟩
      · have hf' : f.isCancellation = false := by simpa using hf
        rw [passedOn_of_handled _ hf'] at ha
        obtain ⟨lines, hl⟩ := Runs.exists_logSettings .warning settings
          (fun shown => "Session setup on " ++ shown ++ " failed: " ++ f.message)
          { link with world := world' }
        obtain ⟨dropping, r, after, hd, hdrop, hafter⟩ :=
          destroyConnection_follows d c ⟨link.session, world', lines, link.read⟩
        have hcourse := Opens.setupFailed hsetup hf' hdrop
        rcases r with g | ⟨⟩
        · refine ⟨_, _, after, hp.quiet_bind (h.bind (ha.bind (hl.quiet_bind hd.bind_stop))), ?_⟩
          rw [hafter]
          exact hcourse
        · refine ⟨_, _, after, hp.quiet_bind (h.bind (ha.bind (hl.quiet_bind
            (hd.bind_quiet (Runs.pure ..))))), ?_⟩
          rw [hafter]
          exact hcourse
    · rw [ho] at he hsetup
      have ha := Runs.attempt { link with world } ho he
      obtain ⟨lines, hl⟩ := Runs.exists_logSettings .info settings ("Connected: " ++ ·)
        ⟨link.session.connectedTo settings c, world', link.log, link.read⟩
      exact ⟨_, _, _, hp.quiet_bind (h.bind (ha.bind_quiet ((Runs.update _ _).quiet_bind
        (hl.quiet_bind (Runs.pure ..))))), .opened hsetup⟩
  · obtain ⟨lines, hl⟩ := Runs.exists_logSettings .warning settings
      (fun shown => "Connection to " ++ shown ++ " failed: " ++ f.message) { link with world }
    refine ⟨_, _, _, hp.quiet_bind (h.bind_quiet (hl.quiet_bind (Runs.pure ..))), ?_⟩
    rw [← passedOn_of_handled .connectFailed hf]
    exact .unconnected
  · refine ⟨_, _, _, hp.quiet_bind h.bind_stop, ?_⟩
    rw [← passedOn_of_cancelled .connectFailed hf]
    exact .unconnected

theorem dropDead_follows (d : Driver σ) (f : Fault) (c : Connection) (link : Link (Journal σ))
    (hs : link.session.held = some c) :
    Follows (dropDead d.recorded f) link fun events r s =>
      Destroys c events r ∧ s = link.session.cutOff := by
  by_cases ht : link.session.inTransaction = true
  · obtain ⟨events, r, after, hrun, hd⟩ := discard_follows d
      ⟨{ link.session with transactionLost := true }, link.world,
        link.log ++ [⟨.warning, "Connection lost with an open transaction: " ++ f.message⟩],
        link.read⟩
    have hrun' : Runs (dropDead d.recorded f) link events r after := by
      refine (Runs.session link).quiet_bind ?_
      simp only [ht]
      exact (Runs.log ..).quiet_bind ((Runs.update _ _).quiet_bind hrun)
    refine ⟨events, r, after, hrun', hd.destroys hs, ?_⟩
    -- the loss is noted before the connection is given up, and is kept
    rw [hd.eq_released, cutOff, ht, Bool.or_true]
    rfl
  · obtain ⟨events, r, after, hrun, hd⟩ := discard_follows d
      ⟨link.session, link.world,
        link.log ++ [⟨.warning, "Liveness probe failed, reconnecting: " ++ f.message⟩], link.read⟩
    have hrun' : Runs (dropDead d.recorded f) link events r after := by
      refine (Runs.session link).quiet_bind ?_
      simp only [ht]
      exact (Runs.log ..).quiet_bind hrun
    refine ⟨events, r, after, hrun', hd.destroys hs, ?_⟩
    rw [hd.eq_released, cutOff, Bool.eq_false_iff.mpr ht, Bool.or_false]
    rfl

theorem probe_follows (d : Driver σ) (user password schema : Value) {c : Connection}
    {link : Link (Journal σ)} (hs : link.session.held = some c) :
    Follows (probe d.recorded c (withCredentials link.session.settings user password schema)) link
      (Lives link.read user password schema link.session) := by
  rcases Runs.noted_cases (.control c .ping) (d.control c .ping) link with
    ⟨a, world, h⟩ | ⟨f, world, hf, h⟩ | ⟨f, world, hf, h⟩
  · exact ⟨_, _, _, h.bind_quiet (Runs.pure ..), .alive hs⟩
  · obtain ⟨dropping, r, middle, hdrop, hd, hmiddle⟩ :=
      dropDead_follows d f c { link with world } hs
    rcases r with g | ⟨⟩
    · refine ⟨_, _, middle, h.bind hdrop.bind_stop, ?_⟩
      rw [hmiddle]
      exact .dropStopped hs hf hd
    -- the new connection is opened from the session that was cut off
    · obtain ⟨events, r, after, hopen, ho⟩ := openConnection_follows d
        (withCredentials link.session.settings user password schema) middle
      rw [hdrop.read_eq, hmiddle] at ho
      have hcourse := Lives.replaced hs hf hd ho
      exact ⟨_, _, _, h.bind (hdrop.bind hopen), hcourse⟩
  · exact ⟨_, _, _, h.bind_stop, .stopped hs hf⟩

theorem liveConnection_follows (d : Driver σ) (user password schema : Value)
    (link : Link (Journal σ)) :
    Follows (liveConnection d.recorded user password schema) link
      (Lives link.read user password schema link.session) := by
  rcases hs : link.session.held with _ | c
  · obtain ⟨events, r, after, hrun, ho⟩ :=
      openConnection_follows d (withCredentials link.session.settings user password schema) link
    refine ⟨_, _, _, (Runs.session link).quiet_bind ?_, .opened hs ho⟩
    rw [hs]
    exact hrun
  · obtain ⟨events, r, after, hrun, hl⟩ := probe_follows d user password schema hs
    refine ⟨_, _, _, (Runs.session link).quiet_bind ?_, hl⟩
    rw [hs]
    exact hrun

theorem ensureConnected_runs {d : Driver σ} {user password schema : Value}
    {link after : Link (Journal σ)} {events : List Event}
    {r : Except Fault (Except Fault Connection)}
    (h : Runs (liveConnection d.recorded user password schema) link events r after) :
    Runs (ensureConnected d.recorded user password schema) link events
      (r.map (·.map fun _ => .nothing)) after := by
  rcases r with f | r
  · exact h.bind_stop
  · exact h.bind_quiet (Runs.pure ..)

theorem ensureConnected_follows (d : Driver σ) (user password schema : Value)
    (link : Link (Journal σ)) :
    Follows (ensureConnected d.recorded user password schema) link
      (Performs link.read link.session (.ensureConnected user password schema)) := by
  obtain ⟨events, r, after, hlive, hl⟩ := liveConnection_follows d user password schema link
  exact ⟨_, _, _, ensureConnected_runs hlive, .ensureConnected hl⟩

/-! ### Statements and transactions -/

/-- A statement is announced, and sent with the values as they read while the connection is
held. -/
theorem send_cases (d : Driver σ) {c : Connection} (start : String) (sql params : Value)
    {link : Link (Journal σ)} (hs : link.session.held = some c) :
    (∃ rows world lines, Runs (send d.recorded c start sql params) link
      [.statement link.read c sql params (.ok rows)] (.ok (.ok rows))
      { link with world, log := lines }) ∨
    (∃ f world lines, f.isCancellation = false ∧ Runs (send d.recorded c start sql params) link
      [.statement link.read c sql params (.error f)] (.ok (.error f))
      { link with world, log := lines }) ∨
    (∃ f world lines, f.isCancellation = true ∧ Runs (send d.recorded c start sql params) link
      [.statement link.read c sql params (.error f)] (.error f)
      { link with world, log := lines }) := by
  obtain ⟨lines, hl⟩ := Runs.exists_logStatement start sql params link
  have hprefix : ∀ events r after,
      Runs (Work.attempt (d.recorded.query c (link.read (some c) sql)
        ((link.read (some c) params).orElse (.list [])))) { link with log := lines }
        events r after →
      Runs (send d.recorded c start sql params) link events r after := by
    intro events r after h
    refine hl.quiet_bind ((Runs.read sql _).quiet_bind ((Runs.read params _).quiet_bind ?_))
    dsimp only
    rw [hs]
    exact h
  rcases Runs.noted_cases (.query c (link.read (some c) sql)
      ((link.read (some c) params).orElse (.list []))) (d.query c _ _)
      { link with log := lines } with
    ⟨rows, world, h⟩ | ⟨f, world, hf, h⟩ | ⟨f, world, hf, h⟩
  · exact .inl ⟨rows, world, lines, hprefix _ _ _ h⟩
  · exact .inr (.inl ⟨f, world, lines, hf, hprefix _ _ _ h⟩)
  · exact .inr (.inr ⟨f, world, lines, hf, hprefix _ _ _ h⟩)

theorem run_follows (d : Driver σ) (sql params : Value) (link : Link (Journal σ)) :
    Follows (run d.recorded sql params) link (Fetches link.read sql params link.session) := by
  obtain ⟨events, r, middle, hlive, hl⟩ := liveConnection_follows d .null .null .null link
  rcases r with f | f | c
  · exact ⟨_, _, _, hlive.bind_stop, .stopped hl⟩
  · exact ⟨_, _, _, hlive.bind_quiet (Runs.pure ..), .unconnected hl⟩
  · have hs := hl.held_eq
    rcases send_cases d "SQL: " sql params hs with
      ⟨rows, world, lines, h⟩ | ⟨f, world, lines, hf, h⟩ | ⟨f, world, lines, hf, h⟩
    · rw [hlive.read_eq] at h
      exact ⟨_, _, _, hlive.bind (h.bind_quiet (Runs.pure ..)), .sent hl hs⟩
    · rw [hlive.read_eq] at h
      refine ⟨_, _, _, hlive.bind (h.bind_quiet ((Runs.log ..).quiet_bind (Runs.pure ..))), ?_⟩
      rw [← passedOn_of_handled (.statementFailed sql) hf]
      exact .sent hl hs
    · rw [hlive.read_eq] at h
      refine ⟨_, _, _, hlive.bind h.bind_stop, ?_⟩
      rw [← passedOn_of_cancelled (.statementFailed sql) hf]
      exact .sent hl hs

theorem execute_follows (d : Driver σ) (sql params index column : Value)
    (link : Link (Journal σ)) :
    Follows (execute d.recorded sql params index column) link
      (Performs link.read link.session (.execute sql params index column)) := by
  obtain ⟨events, r, after, hrun, hf⟩ := run_follows d sql params link
  rcases r with f | f | rows
  · exact ⟨_, _, _, hrun.bind_stop, .executeStopped hf⟩
  · exact ⟨_, _, _, hrun.bind_quiet (Runs.pure ..), .execute hf⟩
  · have hcourse : Performs link.read link.session (.execute sql params index column) events
        (narrowed link.read after.session.held index column (.ok rows)) after.session := .execute hf
    -- the rows are there; index and column are read once the statement has run
    have hi := Runs.read index after
    have hc := Runs.read column after
    rw [← hrun.read_eq] at hcourse ⊢
    rcases hn : narrow (.list rows.rows) (after.read after.session.held index)
      (after.read after.session.held column) with f | found
    · rw [narrowed, hn] at hcourse
      exact ⟨_, _, _, hrun.bind_quiet (hi.quiet_bind (hc.quiet_bind
        (Runs.ofExcept hn after).bind_stop)), hcourse⟩
    · rw [narrowed, hn] at hcourse
      exact ⟨_, _, _, hrun.bind_quiet (hi.quiet_bind (hc.quiet_bind
        ((Runs.ofExcept hn after).quiet_bind (Runs.pure ..)))), hcourse⟩

/-- A call that ends a transaction. Its failure is logged, and reported under a name. -/
theorem endTransaction_runs (d : Driver σ) (c : Connection) (call : Control) (start : String)
    (report : Fault → Fault) (link : Link (Journal σ)) :
    ∃ o after, Runs (endTransaction d.recorded c call start report) link [.control c call o]
      ((passedOn report o).map (·.map fun _ => Yield.nothing)) after ∧
      after.session = link.session.ended := by
  have hu := Runs.update ended link
  rcases Runs.noted_cases (.control c call) (d.control c call)
    { link with session := link.session.ended } with
    ⟨a, world, h⟩ | ⟨f, world, hf, h⟩ | ⟨f, world, hf, h⟩
  · exact ⟨.ok a, _, hu.quiet_bind (h.bind_quiet (Runs.pure ..)), rfl⟩
  · refine ⟨.error f, ⟨link.session.ended, world, link.log ++ [⟨.warning, start ++ f.message⟩],
      link.read⟩, ?_, rfl⟩
    rw [passedOn_of_handled _ hf]
    exact hu.quiet_bind (h.bind_quiet ((Runs.log ..).quiet_bind (Runs.pure ..)))
  · refine ⟨.error f, ⟨link.session.ended, world, link.log, link.read⟩, ?_, rfl⟩
    rw [passedOn_of_cancelled _ hf]
    exact hu.quiet_bind h.bind_stop

theorem commit_follows (d : Driver σ) (link : Link (Journal σ)) :
    Follows (commit d.recorded) link (Commits link.session) := by
  have hs := Runs.session link
  rcases hl : link.session.transactionLost with _ | _
  · rcases link.session.idle_or_open with hidle | ⟨c, hi, hc⟩
    · have hrun : Runs (commit d.recorded) link [] (.ok (.ok .nothing)) link := by
        refine hs.quiet_bind ?_
        rcases hidle with hi | hi
        · simp only [hl, hi]
          exact Runs.pure ..
        · simp only [hl, hi]
          cases link.session.inTransaction <;> exact Runs.pure ..
      exact ⟨_, _, _, hrun, .idle hl hidle⟩
    · obtain ⟨o, after, h, hafter⟩ :=
        endTransaction_runs d c .commit "COMMIT failed: " .commitFailed link
      have hrun : Runs (commit d.recorded) link [.control c .commit o]
          ((passedOn .commitFailed o).map (·.map fun _ => .nothing)) after := by
        refine hs.quiet_bind ?_
        simp only [hl, hi, hc]
        exact h
      refine ⟨_, _, _, hrun, ?_⟩
      rw [hafter]
      exact .called hl hi hc
  · have hrun : Runs (commit d.recorded) link [] (.ok (.error (.transactionLost .null)))
        { link with session := link.session.settledLoss } := by
      refine hs.quiet_bind ?_
      simp only [hl]
      exact (Runs.update ..).quiet_bind (Runs.pure ..)
    exact ⟨_, _, _, hrun, .lost hl⟩

theorem rollback_follows (d : Driver σ) (link : Link (Journal σ)) :
    Follows (rollback d.recorded) link (RollsBack link.session) := by
  have hu := Runs.update settledLoss link
  have hs := Runs.session { link with session := link.session.settledLoss }
  rcases link.session.idle_or_open with hidle | ⟨c, hi, hc⟩
  · have hrun : Runs (rollback d.recorded) link [] (.ok (.ok .nothing))
        { link with session := link.session.settledLoss } := by
      refine hu.quiet_bind (hs.quiet_bind ?_)
      rcases hidle with hi | hi
      · simp only [settledLoss, hi]
        exact Runs.pure ..
      · simp only [settledLoss, hi]
        cases link.session.inTransaction <;> exact Runs.pure ..
    exact ⟨_, _, _, hrun, .idle hidle⟩
  · obtain ⟨o, after, h, hafter⟩ := endTransaction_runs d c .rollback "ROLLBACK failed: "
      .rollbackFailed { link with session := link.session.settledLoss }
    have hrun : Runs (rollback d.recorded) link [.control c .rollback o]
        ((passedOn .rollbackFailed o).map (·.map fun _ => .nothing)) after := by
      have hi' : link.session.settledLoss.inTransaction = true := hi
      have hc' : link.session.settledLoss.held = some c := hc
      refine hu.quiet_bind (hs.quiet_bind ?_)
      simp only [hi', hc']
      exact h
    refine ⟨_, _, _, hrun, ?_⟩
    rw [hafter]
    exact .called hi hc

theorem recover_follows (d : Driver σ) (link : Link (Journal σ)) :
    Follows (recover d.recorded) link (Recovers link.session) := by
  obtain ⟨events, r, middle, hrun, hr⟩ := rollback_follows d link
  -- only a rollback that was refused makes the session give up its connection
  rcases r with f | f | y
  · exact ⟨_, _, _, hrun.bind_stop, .stopped hr⟩
  · obtain ⟨dropping, r, after, hdrop, hd⟩ := discard_follows d middle
    exact ⟨_, _, _, hrun.bind hdrop, .dropped hr hd⟩
  · exact ⟨_, _, _, hrun.bind_quiet (Runs.pure ..), .rolledBack hr⟩

theorem startTransaction_follows (d : Driver σ) (c : Connection) (sql : Value)
    {link : Link (Journal σ)} (hi : link.session.inTransaction = false) :
    Follows (startTransaction d.recorded c sql) link (Begins c sql link.session) := by
  rcases Runs.noted_cases (.control c .begin) (d.control c .begin) link with
    ⟨⟨⟩, world, h⟩ | ⟨f, world, hf, h⟩ | ⟨f, world, hf, h⟩
  · exact ⟨_, _, _, h.bind_quiet ((Runs.update ..).quiet_bind (Runs.pure ..)), .begun hi⟩
  · refine ⟨_, _, _, h.bind_quiet ((Runs.log ..).quiet_bind (Runs.pure ..)), ?_⟩
    rw [← passedOn_of_handled (.beginFailed sql) hf]
    exact .failed hi
  · refine ⟨_, _, _, h.bind_stop, ?_⟩
    rw [← passedOn_of_cancelled (.beginFailed sql) hf]
    exact .failed hi

theorem beginTransaction_follows (d : Driver σ) (c : Connection) (sql : Value)
    (link : Link (Journal σ)) :
    Follows (beginTransaction d.recorded c sql) link (Begins c sql link.session) := by
  have hs := Runs.session link
  rcases hi : link.session.inTransaction with _ | _
  · obtain ⟨events, r, after, hrun, hb⟩ := startTransaction_follows d c sql hi
    refine ⟨_, _, _, hs.quiet_bind ?_, hb⟩
    simp only [hi]
    exact hrun
  · have hrun : Runs (beginTransaction d.recorded c sql) link [] (.ok (.ok ())) link := by
      refine hs.quiet_bind ?_
      simp only [hi]
      exact Runs.pure ..
    exact ⟨_, _, _, hrun, .joined hi⟩

/-- A transaction that is open on a connection leaves the connection held. -/
theorem Begins.held_eq {c : Connection} {sql : Value} {s s' : Session} {events : List Event}
    {r : Except Fault (Except Fault Unit)} (h : Begins c sql s events r s') :
    s'.held = s.held := by
  cases h <;> rfl

/-- After `begin`, the statement is sent, and its transaction is kept, committed or given up. -/
theorem conclude_follows (d : Driver σ) {c : Connection} (sql params : Value)
    (commits : Bool) {s : Session} {events : List Event} {link : Link (Journal σ)}
    (hl : s.transactionLost = false) (hb : Begins c sql s events (.ok (.ok ())) link.session)
    (hc : link.session.held = some c) :
    Follows (conclude d.recorded c sql params commits) link fun course r s' =>
      Transacts link.read sql params commits c s (events ++ course) r s' := by
  rcases send_cases d "SQL (transaction): " sql params hc with
    ⟨rows, world, lines, h⟩ | ⟨f, world, lines, hf, h⟩ | ⟨f, world, lines, hf, h⟩
  · cases commits with
    | false =>
      have hrun : Runs (conclude d.recorded c sql params false) link _ _ _ :=
        h.bind_quiet (Runs.pure (Except.ok (Yield.rows rows)) _)
      exact ⟨_, _, _, hrun, .leftOpen hl hb rfl⟩
    | true =>
      -- the commit is an operation by itself, and takes one of its own courses
      obtain ⟨ending, r, after, hcommit, he⟩ := commit_follows d { link with world, log := lines }
      have hcourse : Transacts link.read sql params true c s
          (events ++ .statement link.read c sql params (.ok rows) :: ending)
          (r.map (·.map fun _ => .rows rows)) after.session := .committed hl hb rfl he
      rcases r with f | r
      · have hrun : Runs (conclude d.recorded c sql params true) link _ _ _ :=
          h.bind hcommit.bind_stop
        exact ⟨_, _, _, hrun, hcourse⟩
      · have hrun : Runs (conclude d.recorded c sql params true) link _ _ _ :=
          h.bind (hcommit.bind_quiet (Runs.pure (r.map fun _ => Yield.rows rows) _))
        exact ⟨_, _, _, hrun, hcourse⟩
  · obtain ⟨recovery, r, after, hrecover, hr⟩ := recover_follows d
      ⟨link.session, world,
        lines ++ [⟨.warning, "Statement failed, rolling back: " ++ f.message⟩], link.read⟩
    have hcourse : Transacts link.read sql params commits c s
        (events ++ .statement link.read c sql params (.error f) :: recovery)
        (r.map fun _ => .error (.aborted sql f)) after.session := .failed hl hb hf hr
    have hlog := Runs.log .warning ("Statement failed, rolling back: " ++ f.message)
      { link with world, log := lines }
    rcases r with g | ⟨⟩
    · have hrun : Runs (conclude d.recorded c sql params commits) link _ _ _ :=
        h.bind (hlog.quiet_bind hrecover.bind_stop)
      exact ⟨_, _, _, hrun, hcourse⟩
    · have hrun : Runs (conclude d.recorded c sql params commits) link _ _ _ :=
        h.bind (hlog.quiet_bind
          (hrecover.bind_quiet (Runs.pure (Except.error (Fault.aborted sql f)) _)))
      exact ⟨_, _, _, hrun, hcourse⟩
  · have hrun : Runs (conclude d.recorded c sql params commits) link _ _ _ := h.bind_stop
    exact ⟨_, _, _, hrun, .stopped hl hb hf⟩

theorem joinTransaction_follows (d : Driver σ) {c : Connection} (sql params : Value)
    (commits : Bool) {link : Link (Journal σ)} (hc : link.session.held = some c)
    (hl : link.session.transactionLost = false) :
    Follows (joinTransaction d.recorded c sql params commits) link
      (Transacts link.read sql params commits c link.session) := by
  -- with no loss to report, everything hangs on the begin
  obtain ⟨events, r, middle, hbegin, hb⟩ := beginTransaction_follows d c sql link
  rcases r with f | f | ⟨⟩
  · exact ⟨_, _, _, hbegin.bind_stop, .beginStopped hl hb⟩
  · exact ⟨_, _, _, hbegin.bind_quiet (Runs.pure ..), .unbegun hl hb⟩
  · obtain ⟨course, r, after, hrun, ht⟩ :=
      conclude_follows d sql params commits hl hb (hb.held_eq.trans hc)
    rw [hbegin.read_eq] at ht
    exact ⟨_, _, _, hbegin.bind hrun, ht⟩

theorem transact_follows (d : Driver σ) {c : Connection} (sql params : Value) (commits : Bool)
    {link : Link (Journal σ)} (hc : link.session.held = some c) :
    Follows (transact d.recorded c sql params commits) link
      (Transacts link.read sql params commits c link.session) := by
  have hs := Runs.session link
  rcases hl : link.session.transactionLost with _ | _
  · obtain ⟨course, r, after, hrun, ht⟩ := joinTransaction_follows d sql params commits hc hl
    refine ⟨_, _, _, hs.quiet_bind ?_, ht⟩
    simp only [hl]
    exact hrun
  · have hrun : Runs (transact d.recorded c sql params commits) link []
        (.ok (.error (.transactionLost sql)))
        { link with session := link.session.settledLoss } := by
      refine hs.quiet_bind ?_
      simp only [hl]
      exact (Runs.update ..).quiet_bind (Runs.pure ..)
    exact ⟨_, _, _, hrun, .lost hl⟩

/-- A statement of a transaction first makes sure of its connection, and goes on from there. -/
theorem runTransaction_splits (d : Driver σ) (sql params : Value) (commits : Bool)
    (link : Link (Journal σ)) :
    ∃ lives r middle course o after,
      Runs (liveConnection d.recorded .null .null .null) link lives r middle ∧
      Lives link.read .null .null .null link.session lives r middle.session ∧
      Runs (runTransaction d.recorded sql params commits) link (lives ++ course) o after ∧
      Proceeds link.read sql params commits r middle.session course o after.session := by
  obtain ⟨lives, r, middle, hlive, hl⟩ := liveConnection_follows d .null .null .null link
  rcases r with f | f | c
  · refine ⟨_, _, _, [], _, _, hlive, hl, ?_, .stopped f _⟩
    rw [List.append_nil]
    exact hlive.bind_stop
  · exact ⟨_, _, _, [], _, _, hlive, hl, hlive.bind (Runs.pure ..), .unconnected f _⟩
  · have hc := hl.held_eq
    obtain ⟨course, o, after, hrun, ht⟩ := transact_follows d sql params commits hc
    rw [hlive.read_eq] at ht
    exact ⟨_, _, _, _, _, _, hlive, hl, hlive.bind hrun, .connected hc ht⟩

theorem runTransaction_follows (d : Driver σ) (sql params : Value) (commits : Bool)
    (link : Link (Journal σ)) :
    Follows (runTransaction d.recorded sql params commits) link
      (Performs link.read link.session (.runTransaction sql params commits)) := by
  obtain ⟨lives, r, middle, course, o, after, -, hl, hrun, hp⟩ :=
    runTransaction_splits d sql params commits link
  exact ⟨_, _, _, hrun, hp.performs hl⟩

/-- Every operation runs along one of its courses. -/
theorem perform_follows (d : Driver σ) (op : Operation) (link : Link (Journal σ)) :
    Follows (op.perform d.recorded) link (Performs link.read link.session op) := by
  cases op with
  | ensureConnected user password schema =>
    exact ensureConnected_follows d user password schema link
  | execute sql params index column => exact execute_follows d sql params index column link
  | runTransaction sql params commits => exact runTransaction_follows d sql params commits link
  | commit =>
    obtain ⟨events, r, after, hrun, hc⟩ := commit_follows d link
    exact ⟨events, r, after, hrun, .commit hc⟩
  | rollback =>
    obtain ⟨events, r, after, hrun, hr⟩ := rollback_follows d link
    exact ⟨events, r, after, hrun, .rollback hr⟩
  | close =>
    obtain ⟨events, r, after, hrun, hc⟩ := close_follows d link
    have hcourse : Performs link.read link.session .close events (r.map fun _ => .ok .nothing)
        after.session := .close hc
    rcases r with f | ⟨⟩
    · exact ⟨_, _, _, hrun.bind_stop, hcourse⟩
    · exact ⟨_, _, _, hrun.bind_quiet (Runs.pure ..), hcourse⟩
  | destroy =>
    obtain ⟨events, r, after, hrun, hd⟩ := destroy_follows d link
    have hcourse : Performs link.read link.session .destroy events (r.map fun _ => .ok .nothing)
        after.session := .destroy hd
    rcases r with f | ⟨⟩
    · exact ⟨_, _, _, hrun.bind_stop, hcourse⟩
    · exact ⟨_, _, _, hrun.bind_quiet (Runs.pure ..), hcourse⟩

end Session

/-- A step is what its operation does in a journal. -/
theorem Operation.step_eq {d : Driver σ} {op : Operation} {link : Link σ} {events : List Event}
    {r : Except Fault (Except Fault Yield)} {after : Link (Journal σ)}
    (h : Runs (op.perform d.recorded) link.recorded events r after) :
    op.step d link = (⟨op, events, r⟩, after.plain) := by
  obtain rfl : after.world.events = events := h.events_eq.trans (List.nil_append _)
  rw [Operation.step, h.apply_eq]

/-- A step of any session through any driver takes one of the courses of its operation. -/
theorem Operation.step_performs (d : Driver σ) (op : Operation) (link : Link σ) :
    Session.Performs link.read link.session op (op.step d link).1.events
      (op.step d link).1.outcome (op.step d link).2.session := by
  obtain ⟨events, r, after, hrun, hcourse⟩ := Session.perform_follows d op link.recorded
  rw [Operation.step_eq hrun]
  exact hcourse

/-- A statement of a transaction does what `ensureConnected` does, and goes on from there. -/
theorem Operation.step_runTransaction (d : Driver σ) (sql params : Value) (commits : Bool)
    (link : Link σ) :
    let first := (Operation.ensureConnected .null .null .null).step d link
    let step := (Operation.runTransaction sql params commits).step d link
    ∃ r course,
      Session.Lives link.read .null .null .null link.session first.1.events r first.2.session ∧
      first.1.outcome = r.map (·.map fun _ => .nothing) ∧
      step.1.events = first.1.events ++ course ∧
      Session.Proceeds link.read sql params commits r first.2.session course
        step.1.outcome step.2.session := by
  obtain ⟨lives, r, middle, course, o, after, hlive, hl, hrun, hp⟩ :=
    Session.runTransaction_splits d sql params commits link.recorded
  have hfirst : (Operation.ensureConnected .null .null .null).step d link = _ :=
    Operation.step_eq (Session.ensureConnected_runs hlive)
  have hstep : (Operation.runTransaction sql params commits).step d link = _ :=
    Operation.step_eq hrun
  rw [hfirst, hstep]
  exact ⟨r, course, hl, rfl, rfl, hp⟩

/-- How values read is not changed by a step. -/
theorem Operation.step_read (d : Driver σ) (op : Operation) (link : Link σ) :
    (op.step d link).2.read = link.read := by
  obtain ⟨events, r, after, hrun, _⟩ := Session.perform_follows d op link.recorded
  rw [Operation.step_eq hrun]
  exact hrun.read_eq

/-- Every step of a history takes one of the courses of its operation, from a session that satisfies
whatever holds of the first session and is kept by every course. -/
theorem history_performs (d : Driver σ) {read : Option Connection → Value → Value}
    (invariant : List Step → Session → Prop)
    (hstep : ∀ {seen s op events r s'}, invariant seen s →
      Session.Performs read s op events r s' → invariant (seen ++ [⟨op, events, r⟩]) s')
    (ops : List Operation) (seen : List Step) {before after : List Step} {last : Step}
    {link : Link σ} (hread : link.read = read) (hi : invariant seen link.session)
    (h : history d ops link = before ++ last :: after) :
    ∃ s s', invariant (seen ++ before) s ∧
      Session.Performs read s last.operation last.events last.outcome s' := by
  -- by induction on the operations, with the invariant carried along by the steps already seen
  induction ops generalizing seen before link with
  | nil => simp [history] at h
  | cons op ops ih =>
    have hperforms := op.step_performs d link
    rw [hread] at hperforms
    rw [history] at h
    rcases before with _ | ⟨first, before⟩
    · obtain ⟨rfl, -⟩ := List.cons.inj h
      rw [List.append_nil]
      exact ⟨_, _, hi, hperforms⟩
    · obtain ⟨rfl, hrest⟩ := List.cons.inj h
      obtain ⟨s, s', hs, hlast⟩ :=
        ih _ ((op.step_read d link).trans hread) (hstep hi hperforms) hrest
      rw [List.append_assoc] at hs
      exact ⟨s, s', hs, hlast⟩

end FluentSql
