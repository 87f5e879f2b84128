import FluentSql.Adapter
import FluentSql.Console.Invocation
import FluentSql.Console.Markup
import FluentSql.Console.Terminal
import FluentSql.Session
import FluentSql.Settings.Source

/-!
# The console

One command is carried out in a session of its own, and reported on a terminal as marked-up lines
and tables. The session is closed whatever happens. A command that fails says so and exits with
status 1.

Cells are escaped, as far as they come of data. Messages, settings and the headers of columns are
not, so they may hold tags of their own.
-/

namespace FluentSql.Console

/-- How a command line was carried out. -/
structure Report (σ : Type) where
  exit : Nat
  printed : List Printed := []
  /-- The level of the log, once it is set up. -/
  level : Option LogLevel := none
  /-- A fault that nothing handled. -/
  escaped : Option Fault := none
  world : σ
  log : List LogLine := []

namespace Report

variable {σ : Type}

/-- The report of a command that a fault leaves. -/
def leaving (f : Fault) (world : σ) (log : List LogLine) : Report σ :=
  { exit := 1, escaped := some f, world, log }

/-- The report of a command that prints and exits with a status. What the terminal refuses leaves
the command as a fault. -/
def printing (t : Terminal) (exit : Nat) (items : List Printed) (world : σ)
    (log : List LogLine) : Report σ :=
  let (printed, refused) := t.print items
  { exit := refused.elim exit fun _ => 1, printed, escaped := refused, world, log }

end Report

/-! ### Parameters and rows -/

/-- A parameter: null if it says so in any case, a number if it reads as one, and else text. -/
def parameter (s : String) : Value :=
  if Text.upper s == "NULL" then .null
  else
    match Text.readInteger s.toList, Text.readDecimal s.toList with
    | .value n, _ => .int n
    | _, some x => .float x
    | _, none => .text s

/-- The names of the columns of rows: those of the first row if there are no others. -/
def columnsOf (r : Rows) : List Value :=
  if r.fields.isEmpty then
    match r.rows with
    | .record entries :: _ => entries.map (·.1)
    | _ => []
  else r.fields

/-- The cells of a row under columns. A column that the row does not have is null. -/
def cells (columns : List Value) (row : Value) : Except Fault (List String) :=
  columns.mapM fun c => do
    let v ← row.get? c
    cell (v.getD .null)

/-- The heads of columns; the first is set off, and all that are named like it. -/
def heads (columns : List Value) : Except Fault (List Column) :=
  columns.mapM fun c => do
    let header ← c.display
    .ok ⟨header, if columns.head?.any (c.same ·) then some "cyan" else none⟩

/-- Rows as a table, or as a count if there are no columns. -/
def printRows (r : Rows) : Except Fault (List Printed) :=
  match columnsOf r with
  | [] => do
    let count ← r.rowcount.display
    .ok [.line ("[dim]OK, " ++ count ++ " row(s) affected[/dim]")]
  | columns => do
    let heads ← heads columns
    let rows ← r.rows.mapM (cells columns)
    .ok [.table true heads rows,
      .line ("[dim]" ++ toString r.rows.length ++ " row(s)[/dim]")]

/-- A single row as a table of its columns. -/
def printRecord (entries : List (Value × Value)) : Except Fault Printed := do
  let rows ← entries.mapM fun e => do
    let name ← e.1.display
    let item ← cell e.2
    Except.ok [escape name, item]
  .ok (.table false [⟨"Column", some "cyan"⟩, ⟨"Value", none⟩] rows)

/-- What a statement yields. -/
def printYield : Yield → Except Fault (List Printed)
  | .rows r => printRows r
  | .item (.record entries) => (printRecord entries).map List.singleton
  | .item .null => .ok [.line "NULL"]
  | .item v => v.display.map fun s => [.line (escape s)]

/-! ### Commands -/

variable {σ : Type} (t : Terminal)

/-- Whether a fault says that settings are wrong. -/
def isSettingsFault : Fault → Bool
  | .number .infiniteInteger | .number .hugeDecimal => false
  | .number _ | .url _ | .noConfigFile _ | .noConfigSection .. => true
  | _ => false

/-- Whether a fault says that there is no adapter. -/
def isAdapterFault : Fault → Bool
  | .unknownDatabase _ | .missingPackage .. => true
  | _ => false

/-- The work of a session that is closed behind it. -/
def closing {α : Type} (d : Driver σ) (work : Work σ α) : Work σ α := fun link =>
  match work link with
  | (outcome, link) =>
    match Session.close d link with
    | (.ok _, link) => (outcome, link)
    | (.error f, link) => (.error f, link)

/-- A line about an error. -/
def errorLine (text : String) : Printed :=
  .line ("[red]Error:[/red] " ++ text)

/-- Carries out work in a session with the given settings, and prints what it yields. -/
def perform (b : Backend σ) (settings : Settings) (work : Driver σ → Work σ (Except Fault Yield))
    (print : Yield → Except Fault (List Printed)) (world : σ) : Report σ :=
  match Adapter.ofName settings.driver with
  | .error f =>
    if isAdapterFault f then .printing t 1 [errorLine f.message] world []
    else .leaving f world []
  | .ok adapter =>
    let d := adapter.driver b
    match closing d (work d) { session := { settings }, world, log := [] } with
    | (.ok (.ok y), link) =>
      match print y with
      | .ok items => .printing t 0 items link.world link.log
      | .error f => .leaving f link.world link.log
    | (.ok (.error f), link) =>
      .printing t 1 [errorLine (f.title ++ ": " ++ f.message)] link.world link.log
    | (.error f, link) => .leaving f link.world link.log

/-- Carries out a command with settings. -/
def carryOut (b : Backend σ) (settings : Settings) (command : Command) (world : σ) : Report σ :=
  match command with
  | .ping =>
    perform t b settings (fun d => Session.ensureConnected d .null .null .null)
      (fun _ => settings.description.map fun s => [.line ("[green]Connected[/green] " ++ s)]) world
  | .query sql params index column =>
    perform t b settings
      (fun d =>
        Session.execute d (.text sql) (.list (params.map parameter)) (index.elim .null .int)
          (column.elim .null .text))
      printYield world
  | .version => .printing t 0 [.line "sqlchain 0.1.0"] world []

/-- Carries out a command, for which settings are loaded if it needs any. -/
def runCommand (b : Backend σ) (environment : List (String × String)) (files : Files) (g : General)
    (command : Command) (world : σ) : Report σ :=
  match command with
  | .version => carryOut t b {} .version world
  | _ =>
    match Settings.load files (Settings.texts environment) (g.url.elim .null .text)
      (g.configFile.elim .null .text) with
    | .ok settings => carryOut t b settings command world
    | .error f =>
      if isSettingsFault f then
        .printing t 1 [.line ("[red]Invalid configuration:[/red] " ++ f.message)] world []
      else .leaving f world []

/-- The status of a command line that is not carried out. -/
def Stop.status : Stop → Nat
  | shown => 0
  | malformed => 2
  | nullInPath => 1

/-- The fault with which a command line ends that is not carried out. -/
def Stop.escaped : Stop → Option Fault
  | nullInPath => some .nullInPath
  | _ => none

/-- Carries out a command line. -/
def run (b : Backend σ) (environment : List (String × String)) (files : Files)
    (args : List String) (world : σ) : Report σ :=
  match readGeneral environment files args with
  | .error stop => { exit := stop.status, escaped := stop.escaped, world }
  | .ok g =>
    let level := if g.verbose then LogLevel.debug else .warning
    match readCommand g with
    | .error stop =>
      { exit := stop.status, level := some level, escaped := stop.escaped, world }
    | .ok command =>
      { runCommand t b environment files g command world with level := some level }

end FluentSql.Console
