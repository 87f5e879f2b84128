import FluentSql.Console

/-!
# The program

Carries out the command line of the process. No database client is linked into the program, so
every attempt to connect is reported as a failure.
-/

namespace FluentSql

/-- The fault of a client that is not there. -/
def noClient : Fault :=
  .raised .package "No database client is available"

/-- Drivers without a client. -/
def noBackend : Backend Unit where
  client :=
    { connect := fun _ => Fallible.fail noClient
      execute := fun _ _ _ => Fallible.fail noClient
      fetchAll := fun _ _ => Fallible.fail noClient
      request := fun _ _ => Fallible.fail noClient }
  custom :=
    { connect := fun _ => Fallible.fail noClient
      control := fun _ _ => Fallible.fail noClient
      query := fun _ _ _ => Fallible.fail noClient }

/-- The variables that hold settings, of those that are set. -/
def settingVariables : IO (List (String × String)) := do
  let names := Console.urlVariable
    :: Setting.all.map (Settings.variableName Settings.environmentStart)
  let values ← names.mapM fun name => do
    let value ← IO.getEnv name
    pure (value.map fun s => (name, s))
  pure (values.filterMap id)

/-- The file of settings that the command line names, if it can be read. -/
def namedFiles (args : List String) : IO Files := do
  match Console.configPath? args with
  | none => pure ⟨[]⟩
  | some path =>
    try
      let text ← IO.FS.readFile path
      pure ⟨[(path, text)]⟩
    catch _ => pure ⟨[]⟩

/-- Prints a line, or a table row by row. -/
def Console.Printed.write : Console.Printed → IO Unit
  | .line markup => IO.println markup
  | .table header columns rows => do
    if header then IO.println (String.intercalate " | " (columns.map (·.header)))
    for row in rows do IO.println (String.intercalate " | " row)

end FluentSql

/-- Runs the command line. -/
def main (args : List String) : IO UInt32 := do
  let environment ← FluentSql.settingVariables
  let files ← FluentSql.namedFiles args
  let report := FluentSql.Console.run .lenient FluentSql.noBackend environment files args ()
  for p in report.printed do p.write
  match report.escaped with
  | some f => IO.eprintln f.message
  | none => pure ()
  pure (UInt32.ofNat report.exit)
