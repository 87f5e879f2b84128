import FluentSql.Proofs.Session.Journal

/-!
# Sessions side by side

Two sessions, each at work through a driver of its own, that perform the same operations. What they
do is built in the same way in both, so a relation of their work holds of whole operations if it is
kept by the few ways in which work is built: `Parallel` is such a relation, and `Parallel.perform`
says that it holds of operations.

Two of its instances set a session beside itself, recorded. A journal changes nothing about what a
session does (`Operation.perform_apply`), and shows nothing but what came of the driver
(`Operation.step_isOf`).
-/

namespace FluentSql

variable {σ τ : Type}

/-- Sessions that are the same but for their settings, which are alike. -/
structure Session.Alike (alike : Settings → Settings → Prop) (s s' : Session) : Prop where
  settings : alike s.settings s'.settings
  held : s.held = s'.held
  inTransaction : s.inTransaction = s'.inTransaction
  transactionLost : s.transactionLost = s'.transactionLost

/-- Operations that are the same but for credentials, which leave settings alike. -/
inductive Operation.Alike (alike : Settings → Settings → Prop) : Operation → Operation → Prop where
  | ensureConnected {user password schema user' password' schema' : Value}
      (h : ∀ {s s' : Settings}, alike s s' →
        alike (Session.withCredentials s user password schema)
          (Session.withCredentials s' user' password' schema')) :
      Alike alike (.ensureConnected user password schema)
        (.ensureConnected user' password' schema')
  | refl (op : Operation) : Alike alike op op

/-- A relation between the actions and the work of two sessions that is kept by all ways to build
them. The settings of the two sessions are alike: they agree in what a session looks at itself. -/
structure Parallel (alike : Settings → Settings → Prop) (d : Driver σ) (d' : Driver τ) where
  acts : {α : Type} → Action σ α → Action τ α → Prop
  works : {α : Type} → Work σ α → Work τ α → Prop
  schema_eq {s s' : Settings} : alike s s' → s.schema = s'.schema
  waitTimeout_eq {s s' : Settings} : alike s s' → s.waitTimeout = s'.waitTimeout
  description_eq {s s' : Settings} : alike s s' → s.description = s'.description
  withCredentials (user password schema : Value) {s s' : Settings} : alike s s' →
    alike (Session.withCredentials s user password schema)
      (Session.withCredentials s' user password schema)
  connect {s s' : Settings} : alike s s' → acts (d.connect s) (d'.connect s')
  control (c : Connection) (call : Control) : acts (d.control c call) (d'.control c call)
  query (c : Connection) (sql params : Value) : acts (d.query c sql params) (d'.query c sql params)
  acts_give {α : Type} (a : α) : acts (pure a) (pure a)
  acts_bind {α β : Type} {x : Action σ α} {y : Action τ α} {f : α → Action σ β}
    {g : α → Action τ β} : acts x y → (∀ a, acts (f a) (g a)) → acts (x >>= f) (y >>= g)
  give {α : Type} (a : α) : works (pure a) (pure a)
  bind {α β : Type} {x : Work σ α} {y : Work τ α} {f : α → Work σ β} {g : α → Work τ β} :
    works x y → (∀ a, works (f a) (g a)) → works (x >>= f) (y >>= g)
  attempt {α : Type} {x : Action σ α} {y : Action τ α} :
    acts x y → works (Work.attempt x) (Work.attempt y)
  log (level : LogLevel) (text : String) : works (Work.log level text) (Work.log level text)
  update {f : Session → Session} :
    (∀ s s', Session.Alike alike s s' → Session.Alike alike (f s) (f s')) →
      works (Work.update f) (Work.update f)
  /-- A new connection is held with the settings that it was opened with. -/
  hold {s s' : Settings} (c : Connection) : alike s s' →
    works (Work.update fun t => { t with settings := s, held := some c, inTransaction := false })
      (Work.update fun t => { t with settings := s', held := some c, inTransaction := false })
  session_bind {α : Type} {f : Session → Work σ α} {g : Session → Work τ α} :
    (∀ s s', Session.Alike alike s s' → works (f s) (g s')) →
      works (Work.session >>= f) (Work.session >>= g)
  readSettings_bind {α : Type} {s s' : Settings} {f : Settings → Work σ α}
    {g : Settings → Work τ α} : alike s s' → (∀ p p', alike p p' → works (f p) (g p')) →
      works (Work.readSettings s >>= f) (Work.readSettings s' >>= g)
  read (v : Value) : works (Work.read v) (Work.read v)
  ofExcept {α : Type} (r : Except Fault α) : works (Fallible.ofExcept r) (Fallible.ofExcept r)

namespace Parallel

open Session

variable {alike : Settings → Settings → Prop} {d : Driver σ} {d' : Driver τ}
  (p : Parallel alike d d')

theorem logSettings (level : LogLevel) {s s' : Settings} (line : String → String)
    (h : alike s s') :
    p.works (Work.logSettings level s line) (Work.logSettings level s' line) := by
  refine p.readSettings_bind h fun present present' hpresent => ?_
  rw [p.description_eq hpresent]
  split
  · exact p.log level _
  · exact p.give ()

theorem logStatement (start : String) (sql params : Value) :
    p.works (Work.logStatement start sql params) (Work.logStatement start sql params) := by
  refine p.bind (p.read sql) fun _ => p.bind (p.read params) fun _ => ?_
  split
  · exact p.log .debug _
  · exact p.give ()

/-! ### Teardown -/

theorem tearDown (c : Connection) (call : Control) (level : LogLevel) (start : String) :
    p.works (tearDown d c call level start) (Session.tearDown d' c call level start) := by
  refine p.bind (p.attempt (p.control c call)) fun r => ?_
  rcases r with f | ⟨⟩
  · exact p.log level _
  · exact p.give ()

theorem destroyConnection (c : Connection) :
    p.works (destroyConnection d c) (Session.destroyConnection d' c) :=
  p.tearDown c .destroy .debug _

theorem closeConnection (c : Connection) :
    p.works (closeConnection d c) (Session.closeConnection d' c) :=
  p.tearDown c .finish .warning _

theorem discard : p.works (discard d) (Session.discard d') := by
  refine p.session_bind fun s s' h => ?_
  refine p.bind (p.update fun _ _ h => ⟨h.settings, rfl, rfl, h.transactionLost⟩) fun _ => ?_
  rw [h.held]
  rcases s'.held with _ | c
  · exact p.give ()
  · exact p.destroyConnection c

theorem destroy : p.works (destroy d) (Session.destroy d') :=
  p.bind (p.update fun _ _ h => ⟨h.settings, h.held, h.inTransaction, rfl⟩) fun _ => p.discard

theorem close : p.works (close d) (Session.close d') := by
  refine p.session_bind fun s s' h => ?_
  refine p.bind (p.update fun _ _ h => ⟨h.settings, rfl, h.inTransaction, h.transactionLost⟩)
    fun _ => ?_
  rw [h.held, h.inTransaction]
  rcases s'.held with _ | c
  · exact p.give ()
  have hclosing := p.bind (p.update (f := fun s =>
      { s with inTransaction := false, transactionLost := false })
    fun _ _ h => ⟨h.settings, h.held, rfl, rfl⟩) fun _ => p.closeConnection c
  cases s'.inTransaction with
  | false => exact hclosing
  | true => exact p.bind (p.log .warning _) fun _ => hclosing

/-! ### Connecting -/

theorem controlIf (c : Connection) (given : Bool) (call : Control) :
    p.acts (controlIf d c given call) (Session.controlIf d' c given call) := by
  cases given with
  | false => exact p.acts_give ()
  | true => exact p.control c call

theorem setup (c : Connection) {s s' : Settings} (h : alike s s') :
    p.acts (setup d c s) (Session.setup d' c s') := by
  rw [Session.setup, Session.setup, p.schema_eq h, p.waitTimeout_eq h]
  exact p.acts_bind (p.controlIf c _ _) fun _ => p.controlIf c _ _

theorem openConnection {s s' : Settings} (h : alike s s') :
    p.works (openConnection d s) (Session.openConnection d' s') := by
  refine p.readSettings_bind h fun present present' hpresent => ?_
  refine p.bind (p.attempt (p.connect hpresent)) fun r => ?_
  rcases r with f | c
  · exact p.bind (p.logSettings .warning _ h) fun _ => p.give _
  refine p.bind (p.attempt (p.setup c hpresent)) fun r => ?_
  rcases r with f | ⟨⟩
  · exact p.bind (p.logSettings .warning _ h) fun _ =>
      p.bind (p.destroyConnection c) fun _ => p.give _
  · exact p.bind (p.hold c h) fun _ => p.bind (p.logSettings .info _ h) fun _ => p.give _

theorem dropDead (f : Fault) : p.works (dropDead d f) (Session.dropDead d' f) := by
  refine p.session_bind fun s s' h => ?_
  rw [h.inTransaction]
  cases s'.inTransaction with
  | false => exact p.bind (p.log .warning _) fun _ => p.discard
  | true =>
    exact p.bind (p.log .warning _) fun _ =>
      p.bind (p.update fun _ _ h => ⟨h.settings, h.held, h.inTransaction, rfl⟩) fun _ => p.discard

theorem probe (c : Connection) {s s' : Settings} (h : alike s s') :
    p.works (probe d c s) (Session.probe d' c s') := by
  refine p.bind (p.attempt (p.control c .ping)) fun r => ?_
  rcases r with f | ⟨⟩
  · exact p.bind (p.dropDead f) fun _ => p.openConnection h
  · exact p.give _

theorem liveConnection {user password schema user' password' schema' : Value}
    (hcredentials : ∀ {s s' : Settings}, alike s s' →
      alike (Session.withCredentials s user password schema)
        (Session.withCredentials s' user' password' schema')) :
    p.works (liveConnection d user password schema)
      (Session.liveConnection d' user' password' schema') := by
  refine p.session_bind fun s s' h => ?_
  rw [h.held]
  rcases s'.held with _ | c
  · exact p.openConnection (hcredentials h.settings)
  · exact p.probe c (hcredentials h.settings)

/-! ### Statements and transactions -/

theorem send (c : Connection) (start : String) (sql params : Value) :
    p.works (send d c start sql params) (Session.send d' c start sql params) :=
  p.bind (p.logStatement start sql params) fun _ => p.bind (p.read sql) fun _ =>
    p.bind (p.read params) fun _ => p.attempt (p.query c _ _)

theorem run (sql params : Value) : p.works (run d sql params) (Session.run d' sql params) := by
  refine p.bind (p.liveConnection (p.withCredentials .null .null .null)) fun r => ?_
  rcases r with f | c
  · exact p.give _
  refine p.bind (p.send c _ sql params) fun r => ?_
  rcases r with f | rows
  · exact p.bind (p.log .debug _) fun _ => p.give _
  · exact p.give _

theorem execute (sql params index column : Value) :
    p.works (execute d sql params index column)
      (Session.execute d' sql params index column) := by
  refine p.bind (p.run sql params) fun r => ?_
  rcases r with f | rows
  · exact p.give _
  · exact p.bind (p.read index) fun _ => p.bind (p.read column) fun _ =>
      p.bind (p.ofExcept _) fun _ => p.give _

theorem reportLoss (sql : Value) :
    p.works (reportLoss sql : Work σ (Except Fault Yield)) (Session.reportLoss sql) :=
  p.bind (p.update fun _ _ h => ⟨h.settings, h.held, h.inTransaction, rfl⟩) fun _ => p.give _

theorem endTransaction (c : Connection) (call : Control) (start : String)
    (report : Fault → Fault) :
    p.works (endTransaction d c call start report)
      (Session.endTransaction d' c call start report) := by
  refine p.bind (p.update fun _ _ h => ⟨h.settings, h.held, rfl, h.transactionLost⟩) fun _ =>
    p.bind (p.attempt (p.control c call)) fun r => ?_
  rcases r with f | ⟨⟩
  · exact p.bind (p.log .warning _) fun _ => p.give _
  · exact p.give _

theorem commit : p.works (commit d) (Session.commit d') := by
  refine p.session_bind fun s s' h => ?_
  rw [h.held, h.inTransaction, h.transactionLost]
  split
  · exact p.reportLoss .null
  split
  · exact p.endTransaction _ .commit _ .commitFailed
  · exact p.give _

theorem rollback : p.works (rollback d) (Session.rollback d') := by
  refine p.bind (p.update fun _ _ h => ⟨h.settings, h.held, h.inTransaction, rfl⟩) fun _ =>
    p.session_bind fun s s' h => ?_
  rw [h.held, h.inTransaction]
  split
  · exact p.endTransaction _ .rollback _ .rollbackFailed
  · exact p.give _

theorem recover : p.works (recover d) (Session.recover d') := by
  refine p.bind p.rollback fun r => ?_
  rcases r with f | y
  · exact p.discard
  · exact p.give ()

theorem startTransaction (c : Connection) (sql : Value) :
    p.works (startTransaction d c sql) (Session.startTransaction d' c sql) := by
  refine p.bind (p.attempt (p.control c .begin)) fun r => ?_
  rcases r with f | ⟨⟩
  · exact p.bind (p.log .warning _) fun _ => p.give _
  · exact p.bind (p.update fun _ _ h => ⟨h.settings, h.held, rfl, h.transactionLost⟩) fun _ =>
      p.give _

theorem beginTransaction (c : Connection) (sql : Value) :
    p.works (beginTransaction d c sql) (Session.beginTransaction d' c sql) := by
  refine p.session_bind fun s s' h => ?_
  rw [h.inTransaction]
  split
  · exact p.give _
  · exact p.startTransaction c sql

theorem conclude (c : Connection) (sql params : Value) (commits : Bool) :
    p.works (conclude d c sql params commits) (Session.conclude d' c sql params commits) := by
  refine p.bind (p.send c _ sql params) fun r => ?_
  rcases r with f | rows
  · exact p.bind (p.log .warning _) fun _ => p.bind p.recover fun _ => p.give _
  cases commits with
  | false => exact p.give _
  | true => exact p.bind p.commit fun _ => p.give _

theorem joinTransaction (c : Connection) (sql params : Value) (commits : Bool) :
    p.works (joinTransaction d c sql params commits)
      (Session.joinTransaction d' c sql params commits) := by
  refine p.bind (p.beginTransaction c sql) fun r => ?_
  rcases r with f | ⟨⟩
  · exact p.give _
  · exact p.conclude c sql params commits

theorem transact (c : Connection) (sql params : Value) (commits : Bool) :
    p.works (transact d c sql params commits) (Session.transact d' c sql params commits) := by
  refine p.session_bind fun s s' h => ?_
  rw [h.transactionLost]
  split
  · exact p.reportLoss sql
  · exact p.joinTransaction c sql params commits

theorem runTransaction (sql params : Value) (commits : Bool) :
    p.works (runTransaction d sql params commits)
      (Session.runTransaction d' sql params commits) := by
  refine p.bind (p.liveConnection (p.withCredentials .null .null .null)) fun r => ?_
  rcases r with f | c
  · exact p.give _
  · exact p.transact c sql params commits

/-- **The relation holds of operations.** -/
theorem perform {op op' : Operation} (h : op.Alike alike op') :
    p.works (op.perform d) (op'.perform d') := by
  cases h with
  | ensureConnected hcredentials => exact p.bind (p.liveConnection hcredentials) fun _ => p.give _
  | refl =>
    cases op with
    | ensureConnected user password schema =>
      exact p.bind (p.liveConnection (p.withCredentials user password schema)) fun _ => p.give _
    | execute sql params index column => exact p.execute sql params index column
    | runTransaction sql params commits => exact p.runTransaction sql params commits
    | commit => exact p.commit
    | rollback => exact p.rollback
    | close => exact p.bind p.close fun _ => p.give _
    | destroy => exact p.bind p.destroy fun _ => p.give _

end Parallel

/-! ### A session beside itself, recorded -/

/-- Work on a state does to a part of it what other work does to that part alone. -/
def Fallible.Projects {S T α : Type} (part : T → S) (x : Fallible S α) (y : Fallible T α) : Prop :=
  ∀ t, x (part t) = ((y t).1, part (y t).2)

theorem Fallible.Projects.bind {S T α β : Type} {part : T → S} {x : Fallible S α}
    {y : Fallible T α} {f : α → Fallible S β} {g : α → Fallible T β} (h : Projects part x y)
    (hrest : ∀ a, Projects part (f a) (g a)) : Projects part (x >>= f) (y >>= g) := by
  intro t
  have hx := h t
  rcases hy : y t with ⟨e | a, t'⟩
  · rw [hy] at hx
    rw [Fallible.bind_apply_of_error hx, Fallible.bind_apply_of_error hy]
  · rw [hy] at hx
    rw [Fallible.bind_apply_of_ok hx, Fallible.bind_apply_of_ok hy]
    exact hrest a t'

/-- A session does through a recorded driver what it does through the plain one. -/
def Driver.beside (d : Driver σ) : Parallel (· = ·) d d.recorded where
  acts := Fallible.Projects Journal.world
  works := Fallible.Projects Link.plain
  schema_eq h := h ▸ rfl
  waitTimeout_eq h := h ▸ rfl
  description_eq h := h ▸ rfl
  withCredentials _ _ _ _ _ h := h ▸ rfl
  connect h _ := h ▸ rfl
  control _ _ _ := rfl
  query _ _ _ _ := rfl
  acts_give _ _ := rfl
  acts_bind := Fallible.Projects.bind
  give _ _ := rfl
  bind := Fallible.Projects.bind
  attempt {α x y} h link := by
    have hx := h link.world
    simp only [Work.attempt, Link.plain, hx]
    rcases y link.world with ⟨f | a, j⟩
    · dsimp only
      split <;> rfl
    · rfl
  log _ _ _ := rfl
  update _ _ := rfl
  hold _ h _ := h ▸ rfl
  session_bind h link := h link.session link.session ⟨rfl, rfl, rfl, rfl⟩ link
  readSettings_bind h hrest link := h ▸ hrest _ _ rfl link
  read _ _ := rfl
  ofExcept _ _ := rfl

/-- An operation does through the plain driver what its step shows. -/
theorem Operation.perform_apply (d : Driver σ) (op : Operation) (link : Link σ) :
    op.perform d link = ((op.step d link).1.outcome, (op.step d link).2) :=
  d.beside.perform (.refl op) link.recorded

/-! ### What calls come to -/

/-- A call came to what the driver gives in some world. -/
def Event.IsOf (d : Driver σ) : Event → Prop
  | .connect settings r => ∃ world, (d.connect settings world).1 = r
  | .control c call r => ∃ world, (d.control c call world).1 = r
  | .query c sql params r => ∃ world, (d.query c sql params world).1 = r

/-- Work keeps what holds of the state. -/
def Fallible.Keeps {T α : Type} (P : T → Prop) (y : Fallible T α) : Prop :=
  ∀ t, P t → P (y t).2

theorem Fallible.Keeps.bind {T α β : Type} {P : T → Prop} {y : Fallible T α}
    {g : α → Fallible T β} (h : Keeps P y) (hrest : ∀ a, Keeps P (g a)) : Keeps P (y >>= g) := by
  intro t ht
  have hy := h t ht
  refine Fallible.bind_snd (fun a t' ha => ?_) fun e t' he => ?_
  · rw [ha] at hy
    exact hrest a t' hy
  · rwa [he] at hy

theorem Action.keeps_noted {d : Driver σ} {α : Type} {note : Except Fault α → Event}
    {action : Action σ α} (h : ∀ world, (note (action world).1).IsOf d) :
    Fallible.Keeps (fun j : Journal σ => ∀ e ∈ j.events, e.IsOf d) (action.noted note) := by
  intro j hj e he
  rcases List.mem_append.mp he with he | he
  · exact hj e he
  · rw [List.mem_singleton.mp he]
    exact h j.world

/-- Work through a recorded driver writes down nothing but what came of the driver. -/
def Driver.noting (d : Driver σ) : Parallel (· = ·) d d.recorded where
  acts _ := Fallible.Keeps fun j => ∀ e ∈ j.events, e.IsOf d
  works _ := Fallible.Keeps fun link => ∀ e ∈ link.world.events, e.IsOf d
  schema_eq h := h ▸ rfl
  waitTimeout_eq h := h ▸ rfl
  description_eq h := h ▸ rfl
  withCredentials _ _ _ _ _ h := h ▸ rfl
  connect h := by
    subst h
    exact Action.keeps_noted fun world => ⟨world, rfl⟩
  control _ _ := Action.keeps_noted fun world => ⟨world, rfl⟩
  query _ _ _ := Action.keeps_noted fun world => ⟨world, rfl⟩
  acts_give _ _ hj := hj
  acts_bind := Fallible.Keeps.bind
  give _ _ hj := hj
  bind := Fallible.Keeps.bind
  attempt {α x y} h link hlink := by
    have hy := h link.world hlink
    simp only [Work.attempt]
    rcases hr : y link.world with ⟨f | a, j⟩
    · rw [hr] at hy
      dsimp only
      split <;> exact hy
    · rw [hr] at hy
      exact hy
  log _ _ _ hlink := hlink
  update _ _ hlink := hlink
  hold _ _ _ hlink := hlink
  session_bind h link hlink := h link.session link.session ⟨rfl, rfl, rfl, rfl⟩ link hlink
  readSettings_bind h hrest link hlink := by
    subst h
    exact hrest _ _ rfl link hlink
  read _ _ hlink := hlink
  ofExcept _ _ hlink := hlink

/-- The calls of a step came to what the driver gives. -/
theorem Operation.step_isOf (d : Driver σ) (op : Operation) (link : Link σ) :
    ∀ e ∈ (op.step d link).1.events, e.IsOf d := by
  have hkept : Fallible.Keeps (fun link : Link (Journal σ) => ∀ e ∈ link.world.events, e.IsOf d)
      (op.perform d.recorded) := d.noting.perform (.refl op)
  exact hkept link.recorded nofun

end FluentSql
