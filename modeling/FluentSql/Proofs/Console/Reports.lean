import FluentSql.Proofs.Console.Loading
import FluentSql.Proofs.Console.Printing
import FluentSql.Proofs.Session.Closing

/-!
# What commands report

A command that works on a database ends in one of few ways. Its settings cannot be had, or no
adapter is known for them: it prints a line that says so, and exits with status 1. Or a session
performs its operation and is closed: the command exits with status 0 if the operation succeeded,
and with status 1 and a line about the fault if it failed. The connection that it opened has been
torn down once.

Four things leave the command instead, with status 1: a file of settings that is no INI file; rows
that cannot be displayed (`Rows.Presentable`); what the terminal refuses to print, since messages
and headers are not escaped; and a cancellation, after which a connection may be left that was being
set up. `failures_are_reported` is the main result, and `headless_file_leaves_command` shows the
first of the four.
-/

namespace FluentSql.Console

variable {σ : Type}

/-- The settings that a command line leads to. -/
def General.load (environment : List (String × String)) (files : Files) (g : General) :
    Except Fault Settings :=
  Settings.load files (Settings.texts environment) (g.url.elim .null .text)
    (g.configFile.elim .null .text)

/-- The operation of a session that a command is for, if it is for one. -/
def Command.operation? : Command → Option Operation
  | ping => some (.ensureConnected .null .null .null)
  | query sql params index column =>
    some (.execute (.text sql) (.list (params.map parameter)) (index.elim .null .int)
      (column.elim .null .text))
  | version => none

/-- How a command prints what its operation yields. -/
def Command.print (settings : Settings) : Command → Yield → Except Fault (List Printed)
  | ping => fun _ => settings.description.map fun s => [.line ("[green]Connected[/green] " ++ s)]
  | query .. | version => printYield

namespace Report

/-- A report of something that was printed. With everything printed, the command exits with the
given status. What the terminal refuses leaves the command. -/
structure Prints (t : Terminal) (r : Report σ) (exit : Nat) (items : List Printed) : Prop where
  printed : r.printed = (t.print items).1
  escaped : r.escaped = (t.print items).2
  exit_eq : r.exit = (t.print items).2.elim exit fun _ => 1

/-- A report of a fault that leaves the command, and of nothing else. -/
structure Leaves (r : Report σ) (f : Fault) : Prop where
  exit : r.exit = 1
  printed : r.printed = []
  escaped : r.escaped = some f

/-- A report tells what the operation of a session came to. `events` are all calls, with those of
the closing. -/
inductive TellsOf (t : Terminal) (print : Yield → Except Fault (List Printed)) (r : Report σ)
    (outcome : Except Fault (Except Fault Yield)) (events : List Event) : Prop where
  | succeeded {y : Yield} {items : List Printed} (h : outcome = .ok (.ok y))
      (hprint : print y = .ok items) (hr : r.Prints t 0 items)
      (hcalls : ∀ e ∈ events, e.cancellation? = none)
  | failed {f : Fault} (h : outcome = .ok (.error f))
      (hr : r.Prints t 1 [errorLine (f.title ++ ": " ++ f.message)])
      (hcalls : ∀ e ∈ events, e.cancellation? = none)
  | cancelled {e : Event} {f : Fault} (he : e ∈ events) (hf : e.cancellation? = some f)
      (hr : r.Leaves f)
  | undisplayed {y : Yield} {f : Fault} (h : outcome = .ok (.ok y)) (hprint : print y = .error f)
      (hr : r.Leaves f) {c : Connection} {sql params : Value} {rows : Rows}
      (he : .query c sql params (.ok rows) ∈ events) (hrows : ¬ rows.Presentable)
      (hcalls : ∀ e ∈ events, e.cancellation? = none)

/-- A report accounts for a command, given what loading its settings came to. -/
inductive AccountsFor (t : Terminal) (b : Backend σ) (loaded : Except Fault Settings)
    (command : Command) (op : Operation) (world : σ) (r : Report σ) : Prop where
  | unconfigured {f : Fault} (h : loaded = .error f) (hf : isSettingsFault f = true)
      (hr : r.Prints t 1 [.line ("[red]Invalid configuration:[/red] " ++ f.message)])
      (idle : r.world = world)
  | unread {f : Fault} (h : loaded = .error f) (hf : Ini.IsIniFault f) (hr : r.Leaves f)
      (idle : r.world = world)
  | unknown {settings : Settings} {f : Fault} (h : loaded = .ok settings)
      (hname : Adapter.ofName settings.driver = .error f)
      (hr : r.Prints t 1 [errorLine f.message]) (idle : r.world = world)
  | worked {settings : Settings} {adapter : Adapter} (h : loaded = .ok settings)
      (hname : Adapter.ofName settings.driver = .ok adapter)
      (hr : r.TellsOf t (command.print settings)
        (op.step (adapter.driver b) (.fresh settings world)).1.outcome
        (op.closedEvents (adapter.driver b) settings world))
      (closed : TearsDownOnce none (op.closedEvents (adapter.driver b) settings world))
      (after : r.world =
        (Link.after (adapter.driver b) [op, .close] (.fresh settings world)).world)

section

variable {t : Terminal} {exit : Nat} {items : List Printed} {f : Fault} {world : σ}
  {log : List LogLine} {r : Report σ} (level : Option LogLevel)

theorem prints_printing : (printing t exit items world log).Prints t exit items :=
  ⟨rfl, rfl, rfl⟩

theorem leaves_leaving : (leaving f world log).Leaves f :=
  ⟨rfl, rfl, rfl⟩

theorem Prints.leveled (h : r.Prints t exit items) : { r with level }.Prints t exit items :=
  ⟨h.printed, h.escaped, h.exit_eq⟩

theorem Leaves.leveled (h : r.Leaves f) : { r with level }.Leaves f :=
  ⟨h.exit, h.printed, h.escaped⟩

theorem TellsOf.leveled {print : Yield → Except Fault (List Printed)}
    {outcome : Except Fault (Except Fault Yield)} {events : List Event}
    (h : r.TellsOf t print outcome events) : { r with level }.TellsOf t print outcome events := by
  cases h with
  | succeeded h hprint hr hcalls => exact .succeeded h hprint (hr.leveled level) hcalls
  | failed h hr hcalls => exact .failed h (hr.leveled level) hcalls
  | cancelled he hf hr => exact .cancelled he hf (hr.leveled level)
  | undisplayed h hprint hr he hrows hcalls =>
    exact .undisplayed h hprint (hr.leveled level) he hrows hcalls

/-- The level of the log is no part of the account. -/
theorem AccountsFor.leveled {b : Backend σ} {loaded : Except Fault Settings} {command : Command}
    {op : Operation} (h : r.AccountsFor t b loaded command op world) :
    { r with level }.AccountsFor t b loaded command op world := by
  cases h with
  | unconfigured h hf hr idle => exact .unconfigured h hf (hr.leveled level) idle
  | unread h hf hr idle => exact .unread h hf (hr.leveled level) idle
  | unknown h hname hr idle => exact .unknown h hname (hr.leveled level) idle
  | worked h hname hr closed after => exact .worked h hname (hr.leveled level) closed after

end

end Report

/-! ### Work and its closing -/

/-- Work that is closed behind it does what the operation and the closing do, and comes to what the
operation comes to, unless the closing is cancelled. -/
theorem closing_apply (d : Driver σ) (op : Operation) (link : Link σ) :
    closing d (op.perform d) link =
      (((Operation.close.step d (op.step d link).2).1.outcome >>= fun _ =>
        (op.step d link).1.outcome), (Operation.close.step d (op.step d link).2).2) := by
  have hclose := Operation.close.perform_apply d (op.step d link).2
  rw [closing, op.perform_apply]
  dsimp only
  rcases hc : Session.close d (op.step d link).2 with ⟨f | ⟨⟩, after⟩
  · rw [Operation.perform, Fallible.bind_apply_of_error hc] at hclose
    obtain ⟨houtcome, hlink⟩ := Prod.mk.inj hclose
    rw [← houtcome, ← hlink]
    rfl
  · rw [Operation.perform, Fallible.bind_apply_of_ok hc] at hclose
    obtain ⟨houtcome, hlink⟩ := Prod.mk.inj hclose
    rw [← houtcome, ← hlink]
    rfl

theorem Command.isPlain_of_operation {command : Command} {op : Operation}
    (h : command.operation? = some op) : op.isPlain = true := by
  cases command with
  | version => cases h
  | _ =>
    obtain rfl := Option.some.inj h
    rfl

theorem carryOut_eq (t : Terminal) (b : Backend σ) (settings : Settings) {command : Command}
    {op : Operation} (h : command.operation? = some op) (world : σ) :
    carryOut t b settings command world =
      perform t b settings (fun d => op.perform d) (command.print settings) world := by
  cases command with
  | version => cases h
  | _ =>
    obtain rfl := Option.some.inj h
    rfl

/-! ### What operations yield -/

section Yields

variable {s s' : Session} {events : List Event}

theorem exists_query_of_fetches {read : Option Connection → Value → Value} {sql params : Value}
    {rows : Rows} (h : Session.Fetches read sql params s events (.ok (.ok rows)) s') :
    ∃ c text bound, .query c text bound (.ok rows) ∈ events := by
  generalize hr : (Except.ok (.ok rows) : Except Fault (Except Fault Rows)) = r at h
  cases h with
  | stopped => cases hr
  | unconnected => cases hr
  | @sent lives c _ o _ _ =>
    have ho := eq_of_passedOn hr.symm
    rcases o with f | rows'
    · cases ho
    · obtain rfl := Except.ok.inj ho
      exact ⟨c, _, _, List.mem_append_right lives (List.mem_singleton_self _)⟩

/-- The operation of a command stops only where a call is cancelled. What it yields can be printed,
or comes of rows that cannot be. -/
theorem Command.yields {command : Command} {op : Operation} (hop : command.operation? = some op)
    {settings : Settings} (hsettings : settings.Sound) {r : Except Fault (Except Fault Yield)}
    (h : Session.Performs (fun _ v => v) s op events r s')
    (hrecords : ∀ {c sql params rows}, .query c sql params (.ok rows) ∈ events →
      ∀ row ∈ rows.rows, row.IsRecord) :
    StopsAt events r ∧ ∀ y, r = .ok (.ok y) →
      (∃ printed, command.print settings y = .ok printed) ∨
        ∃ c sql params rows, .query c sql params (.ok rows) ∈ events ∧ ¬ rows.Presentable := by
  cases command with
  | ping =>
    obtain rfl := Option.some.inj hop
    obtain ⟨shown, hshown⟩ := hsettings.exists_description
    cases h with
    | ensureConnected hl =>
      exact ⟨hl.stopsAt.map _, fun _ _ => .inl ⟨_, by rw [print, hshown]; rfl⟩⟩
  | query sql params index column =>
    obtain rfl := Option.some.inj hop
    cases h with
    | executeStopped hf => exact ⟨hf.stopsAt.error, nofun⟩
    | @execute _ _ _ _ _ o _ hf =>
      rcases o with f | rows
      · exact ⟨hf.stopsAt.ok _, nofun⟩
      obtain ⟨c, text, bound, he⟩ := exists_query_of_fetches hf
      obtain ⟨found, hnarrow, hfound⟩ := exists_narrow (hrecords he) index column
      have hnarrowed : Session.narrowed (fun _ v => v) s'.held (index.elim .null .int)
          (column.elim .null .text) (.ok rows) = .ok (.ok (found.elim (.rows rows) .item)) := by
        rw [Session.narrowed, hnarrow]
      rw [hnarrowed]
      refine ⟨hf.stopsAt.ok _, ?_⟩
      rintro _ ⟨⟩
      by_cases hrows : rows.Presentable
      · exact .inl (exists_printYield hrows hfound)
      · exact .inr ⟨c, text, bound, rows, he, hrows⟩
  | version => cases hop

end Yields

/-! ### Reports -/

section Reports

variable (t : Terminal) (b : Backend σ) {settings : Settings} {command : Command} {op : Operation}

/-- The adapter for settings, unless there is none. -/
theorem ofName_endsIn (hsettings : settings.Sound) :
    EndsIn (Adapter.ofName settings.driver) Adapter.IsDatabase (isAdapterFault · = true) := by
  obtain ⟨name, hdriver⟩ := (hsettings .driver).named rfl
  have hdriver : settings.driver = .text name := hdriver
  rw [hdriver]
  exact Adapter.ofName_text name

/-- The rows that calls of a session came to are records. -/
theorem records_of_mem_step {adapter : Adapter} (ha : adapter.IsDatabase) (link : Link σ)
    {c : Connection} {sql params : Value} {rows : Rows}
    (he : .query c sql params (.ok rows) ∈ (op.step (adapter.driver b) link).1.events) :
    ∀ row ∈ rows.rows, row.IsRecord := by
  obtain ⟨world, hworld⟩ := op.step_isOf (adapter.driver b) link _ he
  exact Adapter.query_records b ha c sql params world rows hworld

/-- A command that has settings and an adapter for them tells what its operation came to. -/
theorem carryOut_tellsOf (hop : command.operation? = some op) (hsettings : settings.Sound)
    {adapter : Adapter} (hname : Adapter.ofName settings.driver = .ok adapter) (world : σ) :
    (carryOut t b settings command world).TellsOf t (command.print settings)
        (op.step (adapter.driver b) (.fresh settings world)).1.outcome
        (op.closedEvents (adapter.driver b) settings world) ∧
      (carryOut t b settings command world).world =
        (Link.after (adapter.driver b) [op, .close] (.fresh settings world)).world := by
  obtain ⟨hstops, hyields⟩ :=
    Command.yields hop hsettings (op.step_performs (adapter.driver b) (.fresh settings world))
      (records_of_mem_step b ((ofName_endsIn hsettings).of_ok hname) _)
  obtain ⟨r, hcloses, hclosed⟩ :=
    Operation.step_close (adapter.driver b) (op.step (adapter.driver b) (.fresh settings world)).2
  have hafter : closing (adapter.driver b) (op.perform (adapter.driver b))
      { session := { settings }, world, log := [] } = _ :=
    closing_apply (adapter.driver b) op (.fresh settings world)
  rw [carryOut_eq t b settings hop, perform, hname, op.closedEvents_eq]
  simp only [hafter, hclosed]
  rcases hstops.closing (hcloses.stopsAt.map fun _ => Except.ok Yield.nothing) with
    ⟨e, he, f, hf, houtcome⟩ | ⟨o, ho, houtcome, hcalls⟩
  · rw [houtcome]
    exact ⟨.cancelled he hf Report.leaves_leaving, rfl⟩
  rw [houtcome]
  rcases o with f | y
  · exact ⟨.failed ho Report.prints_printing hcalls, rfl⟩
  dsimp only
  rcases hprint : command.print settings y with f | items
  · rcases hyields y ho with ⟨printed, hprinted⟩ | ⟨c, sql, params, rows, he, hrows⟩
    · cases hprint.symm.trans hprinted
    · exact ⟨.undisplayed ho hprint Report.leaves_leaving (List.mem_append_left _ he) hrows hcalls,
        rfl⟩
  · exact ⟨.succeeded ho hprint Report.prints_printing hcalls, rfl⟩

variable {files : Files} {environment : List (String × String)} {g : General}

/-- A file of settings that a command line names exists. -/
theorem isFile_of_readGeneral {args : List String}
    (h : readGeneral environment files args = .ok g) :
    ∀ path ∈ g.configFile, isFile files path = true := by
  rw [readGeneral] at h
  rcases hread : SwitchSpec.read generalSpecs false args with _ | r
  · rw [hread] at h
    cases h
  simp only [hread] at h
  split at h
  · cases h
  split at h
  · cases h
  next hfiles =>
  split at h
  · cases h
  split at h
  · obtain rfl := Except.ok.inj h
    intro path hpath
    have hconfig : r.value? .config = some path := hpath
    simpa [hconfig] using hfiles
  · cases h

theorem runCommand_of_ok (hop : command.operation? = some op) {world : σ}
    (hloaded : g.load environment files = .ok settings) :
    runCommand t b environment files g command world = carryOut t b settings command world := by
  rw [General.load] at hloaded
  cases command with
  | version => cases hop
  | _ => rw [runCommand, hloaded]; nofun

theorem runCommand_of_error (hop : command.operation? = some op) {world : σ} {f : Fault}
    (hloaded : g.load environment files = .error f) :
    runCommand t b environment files g command world =
      if isSettingsFault f then
        .printing t 1 [.line ("[red]Invalid configuration:[/red] " ++ f.message)] world []
      else .leaving f world [] := by
  rw [General.load] at hloaded
  cases command with
  | version => cases hop
  | _ => rw [runCommand, hloaded]; nofun

/-- A command that needs settings accounts for what became of it. -/
theorem runCommand_accountsFor (hop : command.operation? = some op)
    (hfile : ∀ path ∈ g.configFile, isFile files path = true) (world : σ) :
    (runCommand t b environment files g command world).AccountsFor t b
      (g.load environment files) command op world := by
  have hload := Settings.load_endsIn files environment g.url g.configFile hfile
  rcases hloaded : g.load environment files with f | settings
  · rw [runCommand_of_error t b hop hloaded]
    split
    · next hf => exact .unconfigured rfl hf Report.prints_printing rfl
    · next hf =>
      exact .unread rfl ((hload.of_error hloaded).resolve_left hf) Report.leaves_leaving rfl
  have hsettings : settings.Sound := hload.of_ok hloaded
  rw [runCommand_of_ok t b hop hloaded]
  rcases hname : Adapter.ofName settings.driver with f | adapter
  · have hf : isAdapterFault f = true := (ofName_endsIn hsettings).of_error hname
    rw [carryOut_eq t b settings hop, perform, hname]
    simp only [hf, if_true]
    exact .unknown rfl hname Report.prints_printing rfl
  · obtain ⟨htells, hworld⟩ := carryOut_tellsOf t b hop hsettings hname world
    exact .worked rfl hname htells
      (closed_tears_down_once _ (Command.isPlain_of_operation hop) settings world) hworld

/-- To tear a connection of a database down is to have the client close it, once. -/
theorem teardown_closes {adapter : Adapter} (ha : adapter.IsDatabase) (c : Connection)
    {call : Control} (hcall : call = .finish ∨ call = .destroy) (world : σ) :
    ((adapter.driver b).control c call world).2 = (b.client.request c .close world).2 := by
  have hdrop : (Adapter.Mysql.drop b.client c world).2 = (b.client.request c .close world).2 := by
    rw [Adapter.Mysql.drop]
    rcases b.client.request c .close world with ⟨f | ⟨⟩, after⟩
    · dsimp only
      split <;> rfl
    · rfl
  rcases ha with rfl | rfl | rfl <;> rcases hcall with rfl | rfl
  case inr.inl.inr => exact hdrop
  all_goals rfl

/-- **Failures are reported.** Take any command line for a command that works on a database, any
environment and files, any clients of databases and any terminal. The command exits with status 1
and prints one line, if its settings are refused, if no adapter is known for them, or if its
operation fails; and it exits with status 0 if its operation succeeded. Only four things leave it:
the fault of an INI file that cannot be read, that of rows that cannot be displayed, that of the
terminal where it refuses what is printed, and a cancellation. The connection that the command
opened is torn down once, unless the set-up of it was cancelled. -/
theorem failures_are_reported (args : List String) (world : σ)
    (hgeneral : readGeneral environment files args = .ok g) (hcommand : readCommand g = .ok command)
    (hop : command.operation? = some op) :
    (run t b environment files args world).AccountsFor t b (g.load environment files) command op
      world := by
  have hrun : (runCommand t b environment files g command world).AccountsFor t b
      (g.load environment files) command op world :=
    runCommand_accountsFor t b hop (isFile_of_readGeneral hgeneral) world
  rw [run, hgeneral]
  simp only [hcommand]
  exact hrun.leveled _

end Reports

/-- A database that refuses the connection. -/
theorem failures_are_reported_refused :
    let world : Rehearsal := { outcomes := [("connect", [.fault .os "refused"])] }
    let g : General := ⟨none, none, false, "ping", []⟩
    readGeneral [] ⟨[]⟩ ["ping"] = .ok g ∧ readCommand g = .ok .ping ∧ g.load [] ⟨[]⟩ = .ok {} ∧
      (run .lenient Rehearsal.backend [] ⟨[]⟩ ["ping"] world).AccountsFor .lenient
        Rehearsal.backend (.ok {}) .ping (.ensureConnected .null .null .null) world := by
  intro world g
  have hgeneral : readGeneral [] ⟨[]⟩ ["ping"] = .ok g := rfl
  have hload : g.load [] ⟨[]⟩ = .ok {} := rfl
  have h := failures_are_reported .lenient Rehearsal.backend ["ping"] world hgeneral rfl rfl
  exact ⟨hgeneral, rfl, hload, hload ▸ h⟩

/-- A file of settings without a section leaves the command, and nothing is printed. -/
theorem headless_file_leaves_command :
    let files : Files := ⟨[("config.ini", "url = x\n")]⟩
    let args := ["--config", "config.ini", "ping"]
    let r := run .lenient Rehearsal.backend [] files args {}
    (∃ g command op, readGeneral [] files args = .ok g ∧ readCommand g = .ok command ∧
      command.operation? = some op) ∧
      ¬ (r.escaped = none ∧ (r.exit = 0 ∨ r.exit = 1 ∧ ∃ line, line ∈ r.printed)) := by
  intro files args r
  have hescaped : r.escaped = some (.ini .missingHeader) := rfl
  refine ⟨⟨_, _, _, rfl, rfl, rfl⟩, fun h => ?_⟩
  rw [hescaped] at h
  exact Option.some_ne_none _ h.1

end FluentSql.Console
