import FluentSql.Entries
import FluentSql.Text.Case
import FluentSql.Value.Display
import FluentSql.Value.Equality
import FluentSql.Value.Number

/-!
# Connection settings

Everything that a session needs in order to connect, and to connect again. Settings come from
callers as they are, or from the text of a URL, an environment or a file; text is converted to the
type of its setting first, and names that are no settings are dropped.
-/

namespace FluentSql

/-- The settings of a connection, by name. -/
inductive Setting where
  | driver
  | host
  | port
  | user
  | password
  | schema
  | database
  | waitTimeout
  | connectTimeout
deriving DecidableEq

namespace Setting

/-- All settings, in order. -/
def all : List Setting :=
  [driver, host, port, user, password, schema, database, waitTimeout, connectTimeout]

/-- The name of a setting. -/
def name : Setting → String
  | driver => "driver"
  | host => "host"
  | port => "port"
  | user => "user"
  | password => "password"
  | schema => "schema"
  | database => "database"
  | waitTimeout => "wait_timeout"
  | connectTimeout => "connect_timeout"

/-- The setting with a name. -/
def ofName? (s : String) : Option Setting :=
  all.find? fun f => f.name == s

/-- Whether the values of a setting are converted to a type. -/
def isTyped : Setting → Bool
  | driver | port | waitTimeout | connectTimeout => true
  | host | user | password | schema | database => false

/-- A value converted to the type of a setting: whole numbers for the port and the idle timeout, a
decimal number for the connect timeout, and lower case for the driver. -/
def coerce (f : Setting) (v : Value) : Except Fault Value :=
  match f with
  | port | waitTimeout => if v.isNull then .ok v else v.toInteger.map .int
  | connectTimeout => if v.isNull then .ok v else v.toDecimal.map .float
  | driver => v.display.map fun s => .text (Text.lower s)
  | _ => .ok v

end Setting

/-- The settings of a connection. -/
structure Settings where
  driver : Value := .text "sqlite"
  host : Value := .text "localhost"
  /-- Null for the usual port of the database. -/
  port : Value := .null
  user : Value := .text ""
  password : Value := .text ""
  /-- The schema to select on each new connection. -/
  schema : Value := .text ""
  /-- A file, or the name of a database on a server. -/
  database : Value := .text ":memory:"
  /-- Seconds that the server keeps an idle connection. -/
  waitTimeout : Value := .int 60
  /-- Seconds to wait for a connection: ten. -/
  connectTimeout : Value := .float ⟨0x4024000000000000⟩

namespace Settings

/-- The value of a setting. -/
def get (s : Settings) : Setting → Value
  | .driver => s.driver
  | .host => s.host
  | .port => s.port
  | .user => s.user
  | .password => s.password
  | .schema => s.schema
  | .database => s.database
  | .waitTimeout => s.waitTimeout
  | .connectTimeout => s.connectTimeout

/-- Replaces the value of a setting. -/
def set (s : Settings) (f : Setting) (v : Value) : Settings :=
  match f with
  | .driver => { s with driver := v }
  | .host => { s with host := v }
  | .port => { s with port := v }
  | .user => { s with user := v }
  | .password => { s with password := v }
  | .schema => { s with schema := v }
  | .database => { s with database := v }
  | .waitTimeout => { s with waitTimeout := v }
  | .connectTimeout => { s with connectTimeout := v }

/-- Settings with their values changed. -/
def map (f : Value → Value) (s : Settings) : Settings where
  driver := f s.driver
  host := f s.host
  port := f s.port
  user := f s.user
  password := f s.password
  schema := f s.schema
  database := f s.database
  waitTimeout := f s.waitTimeout
  connectTimeout := f s.connectTimeout

/-- Replaces the values of several settings. -/
def setAll (s : Settings) (values : List (Setting × Value)) : Settings :=
  values.foldl (fun s e => s.set e.1 e.2) s

/-- Settings with values as they are. A name that is no setting is refused. -/
def ofFields (fields : List (String × Value)) : Except Fault Settings := do
  let values ← fields.mapM fun e =>
    match Setting.ofName? e.1 with
    | some f => Except.ok (f, e.2)
    | none => Except.error Fault.wrongType
  .ok (Settings.setAll {} values)

/-- The values that are settings, each converted to its type. -/
def coerce : List (String × Value) → Except Fault (List (Setting × Value))
  | [] => .ok []
  | (name, v) :: rest =>
    match Setting.ofName? name with
    | none => coerce rest
    | some f => do
      let value ← f.coerce v
      let values ← coerce rest
      .ok ((f, value) :: values)

/-- The usual settings with values replaced, and then overridden. -/
def build (values overrides : List (String × Value)) : Except Fault Settings := do
  let values ← coerce values
  let overrides ← coerce overrides
  .ok ((Settings.setAll {} values).setAll overrides)

/-- Equality of settings, value by value. -/
def same (s t : Settings) : Bool :=
  Setting.all.all fun f => (s.get f).same (t.get f)

/-- The description of settings. The password is left out of it, and so are the timeouts. -/
def description (s : Settings) : Except Fault String := do
  let shown ← [Setting.driver, .host, .port, .user, .schema, .database].mapM fun f =>
    (s.get f).quoted.map fun text => f.name ++ "=" ++ text
  .ok ("SessionConfig(" ++ String.intercalate ", " shown ++ ")")

end Settings

end FluentSql
