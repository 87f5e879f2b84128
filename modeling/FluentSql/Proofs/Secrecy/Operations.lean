import FluentSql.Proofs.Secrecy.Lockstep
import Mathlib.Data.List.Forall2

/-!
# The password never shows

Two sessions that differ at most in the password perform the same operations, where only the
passwords that are passed to connect with may differ, through drivers that answer the same calls
alike. Then the password shows in nothing but the settings that a connection is opened with: every
operation comes to the same outcome and makes the same calls otherwise, and after each the logs, the
descriptions and the flags of the two sessions are the same.

The log shows settings by their description, which has no password, and announces statements with
their parameters, which are the same in both sessions.

Lockstep is kept by all ways in which work is built (`Driver.inLockstep`), so operations stay in it.
`password_never_shows` is the main result.
-/

namespace FluentSql

variable {σ τ : Type}

/-- The two operations are the same up to the password. -/
inductive Operation.SameButPassword : Operation → Operation → Prop where
  | ensureConnected (user password password' schema : Value) :
      SameButPassword (.ensureConnected user password schema)
        (.ensureConnected user password' schema)
  | refl (op : Operation) : SameButPassword op op

/-- The two steps came to the same outcome, through calls that are the same up to the password. -/
structure Step.SameButPassword (step step' : Step) : Prop where
  outcome : step.outcome = step'.outcome
  events : SameCalls step.events step'.events

section Operations

variable (d : Driver σ) (d' : Driver τ)

theorem Operation.SameButPassword.lockstep {op op' : Operation} (h : op.SameButPassword op') :
    Work.InLockstep (op.perform d.recorded) (op'.perform d'.recorded) := by
  refine (d.inLockstep d').perform ?_
  cases h with
  | ensureConnected user password password' schema =>
    exact .ensureConnected
      (Settings.withCredentials_withoutPassword user password password' schema)
  | refl => exact .refl op

variable {link : Link σ} {link' : Link τ}

/-- One operation stays in lockstep. -/
theorem Operation.SameButPassword.step {op op' : Operation} (h : op.SameButPassword op')
    (hlink : link.SameButPassword link')
    (hanswers : AnsweredAlike (op.step d link).1.events (op'.step d' link').1.events) :
    (op.step d link).1.SameButPassword (op'.step d' link').1 ∧
      (op.step d link).2.SameButPassword (op'.step d' link').2 := by
  have hrecorded : link.recorded.SameButPassword link'.recorded :=
    ⟨hlink.session, hlink.log, hlink.read⟩
  obtain ⟨houtcome, hafter, hevents⟩ := (h.lockstep d d').agrees ⟨hrecorded, rfl⟩ hanswers
  exact ⟨⟨houtcome, hevents⟩, hafter.session, hafter.log, hafter.read⟩

/-- Every operation of a history stays in lockstep. -/
theorem history_lockstep {ops ops' : List Operation}
    (hops : List.Forall₂ Operation.SameButPassword ops ops')
    (hlink : link.SameButPassword link')
    (hanswers : AnsweredAlike (Step.allEvents (history d ops link))
      (Step.allEvents (history d' ops' link'))) :
    List.Forall₂ Step.SameButPassword (history d ops link) (history d' ops' link') ∧
      ∀ n, (Link.after d (ops.take n) link).SameButPassword
        (Link.after d' (ops'.take n) link') := by
  induction hops generalizing link link' with
  | nil =>
    refine ⟨.nil, fun n => ?_⟩
    rwa [List.take_nil]
  | @cons op op' ops ops' hop _ ih =>
    have hfirst := hanswers.of_prefix (List.prefix_append ..) (List.prefix_append ..)
    obtain ⟨hstep, hafter⟩ := hop.step d d' hlink hfirst
    -- the calls of the first operation are the same, so those behind them stand at the same places
    obtain ⟨hsteps, hrest⟩ := ih hafter (hanswers.of_append hstep.events)
    refine ⟨.cons hstep hsteps, fun n => ?_⟩
    rcases n with _ | n
    · exact hlink
    · exact hrest n

/-- **The password never shows.** Take two sessions that differ at most in the password, as do the
operations that they perform, and two drivers that answer alike wherever the two make the same call.
Then every operation comes to the same outcome in both runs, through the same calls up to the
password that a connection is opened with. After each number of operations the logs are the same, the
sessions differ at most in the password again, and their descriptions do not tell them apart. -/
theorem password_never_shows {ops ops' : List Operation}
    (hops : List.Forall₂ Operation.SameButPassword ops ops')
    (hlink : link.SameButPassword link')
    (hanswers : AnsweredAlike (Step.allEvents (history d ops link))
      (Step.allEvents (history d' ops' link'))) :
    List.Forall₂ Step.SameButPassword (history d ops link) (history d' ops' link') ∧
      ∀ n,
        let after := Link.after d (ops.take n) link
        let after' := Link.after d' (ops'.take n) link'
        after.SameButPassword after' ∧
          after.session.description = after'.session.description ∧
          after.session.settings.description = after'.session.settings.description := by
  obtain ⟨hsteps, hafter⟩ := history_lockstep d d' hops hlink hanswers
  refine ⟨hsteps, fun n => ⟨hafter n, Session.description_eq (hafter n).session, ?_⟩⟩
  exact Settings.description_eq (Session.withoutPassword_eq_iff.mp (hafter n).session).settings

end Operations

/-- A first connection that is refused, and a second one with another password, which cannot be set
up. -/
theorem password_never_shows_failing :
    let outcomes := [("connect", [.fault .os "refused"]),
      ("set_wait_timeout", [Outcome.fault .os "gone"])]
    let link := Rehearsal.link { password := .text "secret" } outcomes
    let link' := Rehearsal.link { password := .text "hidden" } outcomes
    let ops := [Operation.execute (.text "A") .null .null .null,
      .ensureConnected .null (.text "open") .null]
    let ops' := [Operation.execute (.text "A") .null .null .null,
      .ensureConnected .null (.text "sesame") .null]
    List.Forall₂ Step.SameButPassword (history Rehearsal.driver ops link)
        (history Rehearsal.driver ops' link') ∧
      (Link.after Rehearsal.driver ops link).SameButPassword
        (Link.after Rehearsal.driver ops' link') := by
  have hops : List.Forall₂ Operation.SameButPassword
      [.execute (.text "A") .null .null .null, .ensureConnected .null (.text "open") .null]
      [.execute (.text "A") .null .null .null, .ensureConnected .null (.text "sesame") .null] :=
    .cons (.refl _) (.cons (.ensureConnected ..) .nil)
  have hlink : Link.SameButPassword
      (Rehearsal.link { password := .text "secret" }
        [("connect", [.fault .os "refused"]), ("set_wait_timeout", [.fault .os "gone"])])
      (Rehearsal.link { password := .text "hidden" }
        [("connect", [.fault .os "refused"]), ("set_wait_timeout", [.fault .os "gone"])]) :=
    ⟨rfl, rfl, rfl⟩
  have h := password_never_shows Rehearsal.driver Rehearsal.driver hops hlink (.of_sameCalls rfl)
  exact ⟨h.1, (h.2 2).1⟩

end FluentSql
