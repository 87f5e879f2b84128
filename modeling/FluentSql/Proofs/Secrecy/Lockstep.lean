import FluentSql.Proofs.Session.Moves
import FluentSql.Proofs.Session.Parallel

/-!
# Two runs in lockstep

Two sessions that differ in nothing but the password, at work through two drivers that are each
recorded. As long as the drivers answer the same calls alike, the two runs stay in lockstep: the
work gives the same result, writes the same lines to the log, makes the same calls up to the
password, and leaves two sessions that again differ in nothing but the password.

`Lockstep` says so of two pieces of work, and there is one rule for each way to build work; together
they are `Driver.inLockstep`. Once the drivers answer a call differently the runs may part, and
nothing is said of them any more. So a rule for sequences has to know that work never takes a call
back, which `Lockstep` carries along.
-/

namespace FluentSql

/-! ### What the password leaves -/

/-- Settings with the password taken out. -/
def Settings.withoutPassword (s : Settings) : Settings :=
  { s with password := .null }

/-- The settings differ at most in the password. -/
abbrev Settings.SameButPassword (s s' : Settings) : Prop :=
  s.withoutPassword = s'.withoutPassword

/-- A session with the password taken out of its settings. -/
def Session.withoutPassword (s : Session) : Session :=
  { s with settings := s.settings.withoutPassword }

/-- A call with the password taken out. Only opening a connection takes one. -/
def Event.withoutPassword : Event → Event
  | .connect settings outcome => .connect settings.withoutPassword outcome
  | e => e

/-- The two calls are the same up to the password, however they turn out. -/
def Event.SameCall : Event → Event → Prop
  | .connect s _, .connect s' _ => s.withoutPassword = s'.withoutPassword
  | .control c call _, .control c' call' _ => c = c' ∧ call = call'
  | .query c sql params _, .query c' sql' params' _ => c = c' ∧ sql = sql' ∧ params = params'
  | _, _ => False

/-- Calls that are the same up to the password, one by one, and turn out the same. -/
def SameCalls (events events' : List Event) : Prop :=
  events.map Event.withoutPassword = events'.map Event.withoutPassword

/-- Wherever two runs make the same call at the same place, it turns out the same. -/
def AnsweredAlike (events events' : List Event) : Prop :=
  ∀ (i : Nat) (e e' : Event), events[i]? = some e → events'[i]? = some e' → e.SameCall e' →
    e.withoutPassword = e'.withoutPassword

/-- Two links that differ in nothing but the password, and in the worlds of their drivers. -/
structure Link.SameButPassword {σ τ : Type} (link : Link σ) (link' : Link τ) : Prop where
  session : link.session.withoutPassword = link'.session.withoutPassword
  log : link.log = link'.log
  read : link.read = link'.read

namespace Settings

variable {s s' : Settings}

theorem withoutPassword_eq_iff : s.withoutPassword = s'.withoutPassword ↔
    s.driver = s'.driver ∧ s.host = s'.host ∧ s.port = s'.port ∧ s.user = s'.user ∧
      s.schema = s'.schema ∧ s.database = s'.database ∧ s.waitTimeout = s'.waitTimeout ∧
      s.connectTimeout = s'.connectTimeout := by
  simp [withoutPassword]

/-- Each value is changed by itself. -/
theorem withoutPassword_map (h : s.withoutPassword = s'.withoutPassword) (f : Value → Value) :
    (s.map f).withoutPassword = (s'.map f).withoutPassword := by
  rw [withoutPassword_eq_iff] at h ⊢
  simp [map, h]

theorem withCredentials_withoutPassword (user password password' schema : Value)
    (h : s.withoutPassword = s'.withoutPassword) :
    (Session.withCredentials s user password schema).withoutPassword =
      (Session.withCredentials s' user password' schema).withoutPassword := by
  rw [withoutPassword_eq_iff] at h ⊢
  simp [Session.withCredentials, h]

/-- The password is not among the settings that are described. -/
theorem description_eq (h : s.withoutPassword = s'.withoutPassword) :
    s.description = s'.description := by
  have hs : s.withoutPassword.description = s'.withoutPassword.description := congrArg _ h
  exact hs

end Settings

namespace Session

variable {s s' : Session}

theorem withoutPassword_eq_iff :
    s.withoutPassword = s'.withoutPassword ↔ s.Alike Settings.SameButPassword s' := by
  constructor
  · intro h
    have hfields : s.settings.withoutPassword = s'.settings.withoutPassword ∧ s.held = s'.held ∧
        s.inTransaction = s'.inTransaction ∧ s.transactionLost = s'.transactionLost := by
      simpa [withoutPassword] using h
    exact ⟨hfields.1, hfields.2.1, hfields.2.2.1, hfields.2.2.2⟩
  · rintro ⟨hsettings, hheld, hi, hl⟩
    rw [withoutPassword, withoutPassword, hsettings, hheld, hi, hl]

theorem description_eq (h : s.withoutPassword = s'.withoutPassword) :
    s.description = s'.description := by
  have hs : s.withoutPassword.description = s'.withoutPassword.description := congrArg _ h
  exact hs

end Session

/-! ### Calls that are answered alike -/

namespace AnsweredAlike

variable {events events' more more' : List Event}

theorem of_prefix (h : AnsweredAlike more more') (he : events <+: more) (he' : events' <+: more') :
    AnsweredAlike events events' := by
  have hplace : ∀ {i : Nat} {e} {first later : List Event}, first <+: later → first[i]? = some e →
      later[i]? = some e := by
    rintro i e first later ⟨rest, rfl⟩ hi
    rw [List.getElem?_append_left (List.getElem?_eq_some_iff.mp hi).1, hi]
  exact fun i e e' hi hi' => h i e e' (hplace he hi) (hplace he' hi')

/-- What comes behind calls that are the same is answered alike too. -/
theorem of_append (h : AnsweredAlike (events ++ more) (events' ++ more'))
    (hsame : SameCalls events events') : AnsweredAlike more more' := by
  have hlength : events.length = events'.length := by
    simpa using congrArg List.length hsame
  intro i e e' hi hi'
  refine h (events.length + i) e e' ?_ ?_
  · rw [List.getElem?_append_right (Nat.le_add_right ..), Nat.add_sub_cancel_left, hi]
  · rw [hlength, List.getElem?_append_right (Nat.le_add_right ..), Nat.add_sub_cancel_left, hi']

/-- The call behind calls that are the same. -/
theorem of_concat {e e' : Event} (h : AnsweredAlike (events ++ [e]) (events' ++ [e']))
    (hsame : SameCalls events events') (hcall : e.SameCall e') :
    e.withoutPassword = e'.withoutPassword :=
  h.of_append hsame 0 e e' rfl rfl hcall

theorem of_sameCalls (h : SameCalls events events') : AnsweredAlike events events' := by
  intro i e e' hi hi' _
  have hi'' := congrArg (·[i]?) h
  simpa [hi, hi'] using hi''

end AnsweredAlike

theorem SameCalls.append {events events' more more' : List Event} (h : SameCalls events events')
    (hmore : SameCalls more more') : SameCalls (events ++ more) (events' ++ more') := by
  rw [SameCalls, List.map_append, List.map_append, h, hmore]

/-! ### Lockstep -/

section Lockstep

variable {S T α β : Type}

/-- Two pieces of work stay in lockstep: they only add to the calls that were made, and from states
that are alike they come to the same result and to states that are alike, if the calls are answered
alike. -/
structure Lockstep (calls : S → List Event) (calls' : T → List Event) (alike : S → T → Prop)
    (x : Fallible S α) (y : Fallible T α) : Prop where
  grows (s : S) : calls s <+: calls (x s).2
  grows' (t : T) : calls' t <+: calls' (y t).2
  agrees {s : S} {t : T} (h : alike s t)
    (hcalls : AnsweredAlike (calls (x s).2) (calls' (y t).2)) :
    (x s).1 = (y t).1 ∧ alike (x s).2 (y t).2

namespace Lockstep

variable {calls : S → List Event} {calls' : T → List Event} {alike : S → T → Prop}
  {x : Fallible S α} {y : Fallible T α} {f : α → Fallible S β} {g : α → Fallible T β}

theorem pure (a : α) : Lockstep calls calls' alike (pure a) (pure a) :=
  ⟨fun _ => List.prefix_refl _, fun _ => List.prefix_refl _, fun h _ => ⟨rfl, h⟩⟩

private theorem grows_bind (hf : ∀ a s, calls s <+: calls (f a s).2) (s : S) :
    calls (x s).2 <+: calls ((x >>= f) s).2 := by
  refine Fallible.bind_snd (P := fun s' => calls (x s).2 <+: calls s') (fun a s' h => ?_)
    fun e s' h => ?_
  · simpa only [h] using hf a s'
  · simp only [h, List.prefix_refl]

theorem bind (h : Lockstep calls calls' alike x y)
    (hrest : ∀ a, Lockstep calls calls' alike (f a) (g a)) :
    Lockstep calls calls' alike (x >>= f) (y >>= g) := by
  have hleft := grows_bind (x := x) fun a => (hrest a).grows
  have hright := grows_bind (x := y) fun a => (hrest a).grows'
  refine ⟨fun s => (h.grows s).trans (hleft s), fun t => (h.grows' t).trans (hright t), ?_⟩
  intro s t hst hcalls
  -- the calls of the first part are answered alike, since none of them is taken back
  obtain ⟨hresult, hafter⟩ := h.agrees hst (hcalls.of_prefix (hleft s) (hright t))
  rcases hx : x s with ⟨r, s'⟩
  rcases hy : y t with ⟨r', t'⟩
  rw [hx, hy] at hresult hafter
  obtain rfl : r = r' := hresult
  rcases r with e | a
  · rw [Fallible.bind_apply_of_error hx, Fallible.bind_apply_of_error hy]
    exact ⟨rfl, hafter⟩
  · rw [Fallible.bind_apply_of_ok hx, Fallible.bind_apply_of_ok hy] at hcalls ⊢
    exact (hrest a).agrees hafter hcalls

end Lockstep

end Lockstep

section Work

variable {σ τ α : Type}

/-- Actions of two recorded drivers in lockstep. -/
abbrev Action.InLockstep (action : Action (Journal σ) α) (action' : Action (Journal τ) α) : Prop :=
  Lockstep (·.events) (·.events) (fun j j' => SameCalls j.events j'.events) action action'

/-- Work of two sessions in lockstep. -/
abbrev Work.InLockstep (work : Work (Journal σ) α) (work' : Work (Journal τ) α) : Prop :=
  Lockstep (·.world.events) (·.world.events)
    (fun link link' => link.SameButPassword link' ∧ SameCalls link.world.events link'.world.events)
    work work'

/-! ### Calls of the driver -/

namespace Action.InLockstep

variable {note note' : Except Fault α → Event}

/-- A call is in lockstep with the same call. -/
theorem noted (action : Action σ α) (action' : Action τ α)
    (hcall : ∀ r r', (note r).SameCall (note' r'))
    (hresult : ∀ r r', (note r).withoutPassword = (note' r').withoutPassword ↔ r = r') :
    Action.InLockstep (action.noted note) (action'.noted note') where
  grows _ := List.prefix_append ..
  grows' _ := List.prefix_append ..
  agrees {j j'} h hcalls := by
    have hsame := hcalls.of_concat h (hcall _ _)
    exact ⟨(hresult _ _).mp hsame, h.append (congrArg ([·]) hsame)⟩

variable (d : Driver σ) (d' : Driver τ)

theorem connect {settings settings' : Settings}
    (h : settings.withoutPassword = settings'.withoutPassword) :
    InLockstep (d.recorded.connect settings) (d'.recorded.connect settings') :=
  noted _ _ (fun _ _ => h) fun _ _ => by simp [Event.withoutPassword, h]

theorem control (c : Connection) (call : Control) :
    InLockstep (d.recorded.control c call) (d'.recorded.control c call) :=
  noted _ _ (fun _ _ => ⟨rfl, rfl⟩) fun _ _ => by simp [Event.withoutPassword]

theorem query (c : Connection) (sql params : Value) :
    InLockstep (d.recorded.query c sql params) (d'.recorded.query c sql params) :=
  noted _ _ (fun _ _ => ⟨rfl, rfl, rfl⟩) fun _ _ => by simp [Event.withoutPassword]

end Action.InLockstep

/-! ### Work of a session -/

theorem Work.attempt_apply (action : Action σ α) (link : Link σ) :
    Work.attempt action link =
      (passedOn id (action link.world).1, { link with world := (action link.world).2 }) := by
  rw [Work.attempt]
  rcases action link.world with ⟨f | a, world⟩
  · simp only [passedOn, id]
    split <;> rfl
  · rfl

namespace Work.InLockstep

theorem attempt {action : Action (Journal σ) α} {action' : Action (Journal τ) α}
    (h : Action.InLockstep action action') :
    InLockstep (Work.attempt action) (Work.attempt action') where
  grows link := by
    rw [Work.attempt_apply]
    exact h.grows link.world
  grows' link := by
    rw [Work.attempt_apply]
    exact h.grows' link.world
  agrees {link link'} hl hcalls := by
    rw [Work.attempt_apply, Work.attempt_apply] at hcalls ⊢
    obtain ⟨hresult, hevents⟩ := h.agrees hl.2 hcalls
    exact ⟨congrArg (passedOn id) hresult, ⟨hl.1.session, hl.1.log, hl.1.read⟩, hevents⟩

theorem log (level : LogLevel) (text : String) :
    InLockstep (Work.log level text : Work (Journal σ) Unit)
      (Work.log level text : Work (Journal τ) Unit) where
  grows _ := List.prefix_refl _
  grows' _ := List.prefix_refl _
  agrees h _ := ⟨rfl, ⟨h.1.session, congrArg (· ++ _) h.1.log, h.1.read⟩, h.2⟩

theorem update {f f' : Session → Session}
    (h : ∀ s s' : Session, s.Alike Settings.SameButPassword s' →
      (f s).Alike Settings.SameButPassword (f' s')) :
    InLockstep (Work.update f : Work (Journal σ) Unit)
      (Work.update f' : Work (Journal τ) Unit) where
  grows _ := List.prefix_refl _
  grows' _ := List.prefix_refl _
  agrees hl _ := by
    have hsession := h _ _ (Session.withoutPassword_eq_iff.mp hl.1.session)
    exact ⟨rfl, ⟨Session.withoutPassword_eq_iff.mpr hsession, hl.1.log, hl.1.read⟩, hl.2⟩

theorem read (v : Value) : InLockstep (Work.read v : Work (Journal σ) Value)
    (Work.read v : Work (Journal τ) Value) where
  grows _ := List.prefix_refl _
  grows' _ := List.prefix_refl _
  agrees {link link'} h _ := by
    have hheld := (Session.withoutPassword_eq_iff.mp h.1.session).held
    refine ⟨?_, h⟩
    rw [Work.read, Work.read, Fallible.view_apply, Fallible.view_apply, h.1.read, hheld]

theorem ofExcept (r : Except Fault α) :
    InLockstep (Fallible.ofExcept r : Work (Journal σ) α)
      (Fallible.ofExcept r : Work (Journal τ) α) where
  grows _ := List.prefix_refl _
  grows' _ := List.prefix_refl _
  agrees h _ := ⟨rfl, h⟩

variable {work : Session → Work (Journal σ) α} {work' : Session → Work (Journal τ) α}
  {continues : Settings → Work (Journal σ) α} {continues' : Settings → Work (Journal τ) α}

/-- Work that looks at the session may see another password in the other run. -/
theorem session_bind (h : ∀ s s' : Session, s.Alike Settings.SameButPassword s' →
    InLockstep (work s) (work' s')) :
    InLockstep (Work.session >>= work) (Work.session >>= work') where
  grows link := (h _ _ ⟨rfl, rfl, rfl, rfl⟩).grows link
  grows' link := (h _ _ ⟨rfl, rfl, rfl, rfl⟩).grows' link
  agrees hl hcalls := (h _ _ (Session.withoutPassword_eq_iff.mp hl.1.session)).agrees hl hcalls

/-- Work that reads settings may read another password in the other run. -/
theorem readSettings_bind {settings settings' : Settings}
    (h : ∀ s s', s.withoutPassword = s'.withoutPassword →
      InLockstep (continues s) (continues' s'))
    (hsettings : settings.withoutPassword = settings'.withoutPassword) :
    InLockstep (Work.readSettings settings >>= continues)
      (Work.readSettings settings' >>= continues') where
  grows link := (h _ _ rfl).grows link
  grows' link := (h _ _ rfl).grows' link
  agrees {link link'} hl hcalls := by
    have hheld := (Session.withoutPassword_eq_iff.mp hl.1.session).held
    have hread : link.read link.session.held = link'.read link'.session.held := by
      rw [hl.1.read, hheld]
    have hpresent : (settings.map (link.read link.session.held)).withoutPassword =
        (settings'.map (link'.read link'.session.held)).withoutPassword := by
      rw [hread]
      exact Settings.withoutPassword_map hsettings _
    exact (h _ _ hpresent).agrees hl hcalls

end Work.InLockstep

/-- Sessions through recorded drivers, which differ at most in the password, are in lockstep. -/
def Driver.inLockstep (d : Driver σ) (d' : Driver τ) :
    Parallel Settings.SameButPassword d.recorded d'.recorded where
  acts := Action.InLockstep
  works := Work.InLockstep
  schema_eq h := (Settings.withoutPassword_eq_iff.mp h).2.2.2.2.1
  waitTimeout_eq h := (Settings.withoutPassword_eq_iff.mp h).2.2.2.2.2.2.1
  description_eq := Settings.description_eq
  withCredentials user password schema _ _ :=
    Settings.withCredentials_withoutPassword user password password schema
  connect := .connect d d'
  control := .control d d'
  query := .query d d'
  acts_give := .pure
  acts_bind := .bind
  give := .pure
  bind := .bind
  attempt := .attempt
  log := .log
  update := .update
  hold _ h := .update fun _ _ hs => ⟨h, rfl, rfl, hs.transactionLost⟩
  session_bind := .session_bind
  readSettings_bind h hrest := .readSettings_bind hrest h
  read := .read
  ofExcept := .ofExcept

end Work

end FluentSql
