import FluentSql.Clause
import FluentSql.Fallible

/-!
# Statements and their rendering

A statement is SQL text with placeholders, and the values that they bind. Text is rendered from
left to right; a value that is met on the way is appended to the values bound so far, and its
placeholder is written in its place. A rendering that fails keeps what it had bound until then.
-/

namespace FluentSql

/-- SQL text and the values of its placeholders, in order. -/
structure Statement where
  sql : String
  params : List Value

/-- Rendering of text, with the list of values bound so far as its state. -/
abbrev Rendering := Fallible (List Value)

namespace Rendering

/-- Binds a value: a placeholder in the text, and the value at the end of the list. -/
def bindValue (v : Value) : Rendering String :=
  fun params => (.ok Dialect.placeholder, params ++ [v])

/-- Writes a complete statement in parentheses, and binds its values. -/
def embed (nested : Except Fault Statement) : Rendering String :=
  fun params =>
    match nested with
    | .ok s => (.ok ("(" ++ s.sql ++ ")"), params ++ s.params)
    | .error f => (.error f, params)

/-- The statement that a rendering from scratch makes. -/
def statement (r : Rendering String) : Except Fault Statement :=
  match r.run [] with
  | (.ok sql, params) => .ok ⟨sql, params⟩
  | (.error f, _) => .error f

end Rendering

/-- What a part of a statement is rendered in: the dialect, and the compiled form of every query
that may be embedded. -/
structure Scope where
  dialect : Dialect
  nested : Handle → Except Fault Statement

namespace Scope

/-- A column by the names that two values give. -/
def column (s : Scope) (table name : Value) : Rendering String :=
  Fallible.ofExcept (s.dialect.columnName table name)

/-- An expression under the alias that a value names. -/
def underAlias (s : Scope) (sql : String) (aliasName : Value) : Rendering String :=
  Fallible.ofExcept (s.dialect.underAlias sql aliasName)

/-- An operand: a column is written as an identifier, a query as a subquery, and every other value
is bound. -/
def operand (s : Scope) : Value → Rendering String
  | .column table name => s.column table name
  | .query handle _ => Rendering.embed (s.nested handle)
  | v => Rendering.bindValue v

end Scope

end FluentSql
