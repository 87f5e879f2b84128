import FluentSql.Rows
import FluentSql.Statement

/-!
# Replies

What the steps of a script answer.
-/

namespace FluentSql

/-- Rows with their values changed. -/
def Rows.map (f : Value → Value) (r : Rows) : Rows :=
  ⟨r.rows.map f, r.fields.map f, f r.rowcount, f r.lastrowid⟩

/-- What an operation gives back, with its values changed. -/
def Yield.map (f : Value → Value) : Yield → Yield
  | .rows r => .rows (r.map f)
  | .item v => .item (f v)

/-- The answer of a step. -/
inductive Reply where
  /-- What the step gives back. -/
  | yield (y : Yield)
  /-- The text of a rendering, or the fault it stopped with, and what it had bound. -/
  | rendered (text : Except Fault String) (params : List Value)
  /-- How a run turned out. -/
  | outcome (o : Except Fault Yield)
  /-- Named parts. -/
  | parts (entries : List (String × Yield))

namespace Reply

/-- A value as an answer. -/
def value (v : Value) : Reply :=
  .yield (.item v)

/-- A statement as an answer. -/
def statement (s : Statement) : Reply :=
  .rendered (.ok s.sql) s.params

/-- An answer with its values changed. -/
def map (f : Value → Value) : Reply → Reply
  | .yield y => .yield (y.map f)
  | .rendered text params => .rendered text (params.map f)
  | .outcome o => .outcome ((o.map (Yield.map f)).mapError (Fault.mapStatement f))
  | .parts entries => .parts (entries.map fun e => (e.1, e.2.map f))

end Reply

end FluentSql
