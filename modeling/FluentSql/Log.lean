/-!
# Log lines
-/

namespace FluentSql

/-- How much a log line matters. -/
inductive LogLevel where
  | debug
  | info
  | warning
deriving DecidableEq

/-- The name of a level. -/
def LogLevel.name : LogLevel → String
  | debug => "DEBUG"
  | info => "INFO"
  | warning => "WARNING"

/-- A line of the log. -/
structure LogLine where
  level : LogLevel
  text : String
deriving DecidableEq

end FluentSql
