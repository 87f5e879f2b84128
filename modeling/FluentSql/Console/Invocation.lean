import FluentSql.Console.Options
import FluentSql.Files

/-!
# Invocations

The command line has options of its own, then the name of a command, then the options and words of
that command. The general options are read first, and their effects happen even if the command turns
out to be malformed.
-/

namespace FluentSql.Console

/-- What a command is asked to do. -/
inductive Command where
  | ping
  | query (sql : String) (params : List String) (index : Option Int) (column : Option String)
  | version

/-- Why a command line is not carried out. -/
inductive Stop where
  /-- It asks for help, or for the version in place of a command. -/
  | shown
  /-- It is malformed. -/
  | malformed
  /-- It names a file of settings by a path with a null character. -/
  | nullInPath
deriving DecidableEq

/-- The general part of a command line. -/
structure General where
  url : Option String
  configFile : Option String
  verbose : Bool
  command : String
  words : List String

/-- How help is asked for. -/
def helpSpec : SwitchSpec :=
  ⟨.help, "--help", none, false⟩

/-- The general options. -/
def generalSpecs : List SwitchSpec :=
  [⟨.url, "--url", some 'u', true⟩, ⟨.config, "--config", some 'c', true⟩,
    ⟨.verbose, "--verbose", some 'v', false⟩, ⟨.version, "--version", none, false⟩, helpSpec]

/-- The options of a query. -/
def querySpecs : List SwitchSpec :=
  [⟨.index, "--index", some 'i', true⟩, ⟨.column, "--column", some 'k', true⟩, helpSpec]

/-- Whether a reading asks for nothing but to be shown something. -/
def Reading.asksShown (r : Reading) : Bool :=
  r.has .help || r.has .version

/-- The names of the commands. -/
def commandNames : List String :=
  ["ping", "query", "version"]

/-- The variable that holds the URL if the command line has none. An empty one counts as unset. -/
def urlVariable : String := "SQLCHAIN_URL"

/-- The URL of an environment. -/
def environmentUrl (environment : List (String × String)) : Option String :=
  (environment.lookup urlVariable).filter fun s => !s.isEmpty

/-- The file of settings that a command line names. -/
def configPath? (args : List String) : Option String :=
  (SwitchSpec.read generalSpecs false args).bind (·.value? .config)

/-- Whether a path leads to a file. -/
def isFile (files : Files) (path : String) : Bool :=
  match files.lookup path with
  | .file _ => true
  | _ => false

/-- Why a command line stops at its general options, whatever the files. To be shown something goes
before all else. -/
def Reading.stop? (r : Reading) : Option Stop :=
  if r.asksShown then some .shown
  else if (r.value? .config).any fun path => path.toList.contains '\x00' then some .nullInPath
  else none

/-- Why a command line stops if these words stand for its command and no command has their name.
Behind `--` they can be general options, which still count. -/
def stopAtUnknown (words : List String) : Stop :=
  ((SwitchSpec.read generalSpecs false words).bind Reading.stop?).getD .malformed

/-- Reads the general part of a command line. A file of settings has to exist. -/
def readGeneral (environment : List (String × String)) (files : Files) (args : List String) :
    Except Stop General :=
  match SwitchSpec.read generalSpecs false args with
  | none => .error .malformed
  | some r =>
    match r.stop? with
    | some stop => .error stop
    | none =>
      if (r.value? .config).any fun path => !isFile files path then .error .malformed
      else
        match r.words with
        | [] => .error .malformed
        | command :: words =>
          if commandNames.contains command then
            .ok ⟨(r.value? .url).orElse fun _ => environmentUrl environment, r.value? .config,
              r.has .verbose, command, words⟩
          else .error (stopAtUnknown (command :: words))

/-- Reads the words of a command that has none. -/
def readBare (command : Command) (words : List String) : Except Stop Command :=
  match SwitchSpec.read [helpSpec] true words with
  | none => .error .malformed
  | some r =>
    if r.has .help then .error .shown
    else if r.words.isEmpty then .ok command
    else .error .malformed

/-- Reads the words of a query: options, a statement and its parameters. -/
def readQuery (words : List String) : Except Stop Command :=
  match SwitchSpec.read querySpecs true words with
  | none => .error .malformed
  | some r =>
    if r.has .help then .error .shown
    else
      match r.words, r.integer? .index with
      | sql :: params, some index => .ok (.query sql params index (r.value? .column))
      | _, _ => .error .malformed

/-- Reads a command. -/
def readCommand (g : General) : Except Stop Command :=
  match g.command with
  | "ping" => readBare .ping g.words
  | "query" => readQuery g.words
  | _ => readBare .version g.words

end FluentSql.Console
