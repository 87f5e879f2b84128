import FluentSql.Fault

/-!
# Terminals

Everything that is printed is marked-up text. The terminal reads it, and there is text that it
cannot read: then nothing of it is shown, and the fault of the terminal leaves the command.
-/

namespace FluentSql.Console

/-- A column of a table on the console. Its header is marked-up text, like a cell. -/
structure Column where
  header : String
  style : Option String

/-- What is printed. -/
inductive Printed where
  | line (markup : String)
  | table (header : Bool) (columns : List Column) (rows : List (List String))

/-- A terminal takes what is printed, or refuses it with a fault. -/
structure Terminal where
  take : Printed → Except Fault Unit

/-- A terminal that takes everything. -/
def Terminal.lenient : Terminal where
  take _ := .ok ()

/-- Prints one thing after the other, up to one that the terminal refuses. -/
def Terminal.print (t : Terminal) : List Printed → List Printed × Option Fault
  | [] => ([], none)
  | p :: rest =>
    match t.take p with
    | .ok _ => (p :: (t.print rest).1, (t.print rest).2)
    | .error f => ([], some f)

end FluentSql.Console
