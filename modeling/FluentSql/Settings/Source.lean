import FluentSql.Files
import FluentSql.Ini
import FluentSql.Settings
import FluentSql.Url

/-!
# Sources of settings

Settings from a connection URL, from environment variables and from a section of an INI file. A
URL in the environment or in a file comes first, and the single settings beside it override what
it says.

A text that is an absolute path, a path from `./`, or `:memory:` is a database file. With the
scheme `sqlite` the rest of the text is one; any other scheme names a server.
-/

namespace FluentSql.Settings

/-- Text values under their names. -/
def texts (pairs : List (String × String)) : List (String × Value) :=
  pairs.map fun p => (p.1, .text p.2)

/-- The settings that a URL with the scheme `sqlite` gives, from what stands behind the colon. -/
def fileValues (info : List Char) : List (String × Value) :=
  let (path, query) := Url.cut '?' info
  let path :=
    match path with
    | '/' :: '/' :: rest => rest
    | p => p
  let database := if path.isEmpty then ":memory:" else String.ofList path
  putEntries [("driver", .text "sqlite"), ("database", .text database)]
    (texts (Url.queryPairs (query.getD [])))

/-- A setting that a URL may give in percent-encoded form. -/
def credential (name : String) (written : Option (List Char)) : List (String × Value) :=
  match written with
  | none | some [] => []
  | some cs => [(name, .text (String.ofList (Url.unquote cs)))]

/-- The database that a path names. PostgreSQL keeps databases and schemas apart; elsewhere the
database is the schema. -/
def databaseValues (scheme : String) (path : List Char) : List (String × Value) :=
  match path.dropWhile (· == '/') with
  | [] => []
  | cs =>
    let database := Value.text (String.ofList cs)
    if scheme == "postgresql" || scheme == "postgres" then [("database", database)]
    else [("database", database), ("schema", database)]

/-- The settings that the URL of a server gives. -/
def serverValues (scheme url : String) : Except Fault (List (String × Value)) := do
  let u ← Url.split url
  let host := if u.host.isEmpty then "localhost" else u.host
  let port ← u.port
  let values : List (String × Value) :=
    [("driver", .text scheme), ("host", .text host),
      ("port", match port with
        | some n => .int n
        | none => .null)]
    ++ credential "user" u.user ++ credential "password" u.password
    ++ databaseValues scheme u.path
  .ok (putEntries values (texts (Url.queryPairs u.query)))

/-- The settings that a URL gives. -/
def urlValues (url : String) : Except Fault (List (String × Value)) :=
  let cs := url.toList
  if cs.head? == some '/' || cs.take 2 == ['.', '/'] || url == ":memory:" then
    .ok [("driver", .text "sqlite"), ("database", .text url)]
  else
    match Url.cut ':' cs with
    | (_, none) => .error (.url (.noScheme url))
    | (scheme, some info) =>
      let scheme := Text.lower (String.ofList scheme)
      if scheme == "sqlite" then .ok (fileValues info) else serverValues scheme url

/-- The settings of a URL, with others in their place. -/
def ofUrl (url : String) (overrides : List (String × Value)) : Except Fault Settings := do
  let values ← urlValues url
  build values overrides

/-- The settings of a URL that a value gives, with others in their place. -/
def ofUrlValue (url : Value) (overrides : List (String × Value)) : Except Fault Settings :=
  match url with
  | .text u => ofUrl u overrides
  | .bytes _ => .error .wrongType
  | _ => .error .missingMember

/-- Settings from values beside a URL, if there is one that counts as given. -/
def besideUrl (url : Value) (values : List (String × Value)) : Except Fault Settings :=
  if !url.truthy then build values []
  else do
    let overrides ← coerce values
    ofUrlValue url (overrides.map fun e => (e.1.name, e.2))

/-- The name of the variable that holds a setting. -/
def variableName (start : String) (f : Setting) : String :=
  start ++ Text.upper f.name

/-- The settings of an environment, in the variables whose names begin with `start`. -/
def ofEnvironment (start : String) (environment : List (String × Value)) :
    Except Fault Settings :=
  let values := Setting.all.filterMap fun f =>
    (environment.lookup (variableName start f)).map fun v => (f.name, v)
  besideUrl ((environment.lookup (start ++ "URL")).getD .null) values

/-- The INI file at a path. A directory has no sections. -/
def iniFile (files : Files) (path : String) : Except Fault Ini :=
  match files.lookup path with
  | .absent => .error (.noConfigFile path)
  | .overlong => .error (.longPath (Text.quoted path))
  | .directory => .ok (Ini.mk [] [])
  | .file text => Ini.parse text

/-- The options of a section of an INI file. Sections have texts for names. -/
def iniSectionOf (ini : Ini) (name : Value) : Except Fault (Option (List (String × String))) :=
  match name with
  | .text s => .ok (ini.sections.lookup s)
  | v => v.checkKey.map fun _ => none

/-- The settings of a section of an INI file. -/
def ofIni (files : Files) (path : String) (name : Value) : Except Fault Settings := do
  let path := Files.normalize path
  let ini ← iniFile files path
  match ← iniSectionOf ini name with
  | none => do
    let shown ← name.display
    .error (.noConfigSection shown path)
  | some options => do
    let values ← ini.sectionOptions options
    let settings := values.filter fun e => (Setting.ofName? e.1).isSome
    besideUrl (((values.lookup "url").map Value.text).getD .null) (texts settings)

/-- The section that settings are read from. -/
def iniSection : String := "database"

/-- How the names of environment variables begin. -/
def environmentStart : String := "SQLCHAIN_"

/-- The settings of a section of the INI file that a value names. -/
def ofIniAt (files : Files) (path name : Value) : Except Fault Settings :=
  match path with
  | .text p => ofIni files p name
  | _ => .error .wrongType

/-- The settings that a caller asks for: by URL, else by file, else by the environment. An option
that does not count as given is no option. -/
def load (files : Files) (environment : List (String × Value)) (url configFile : Value) :
    Except Fault Settings :=
  if url.truthy then ofUrlValue url []
  else if configFile.truthy then ofIniAt files configFile (.text iniSection)
  else ofEnvironment environmentStart environment

end FluentSql.Settings
