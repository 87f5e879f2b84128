import FluentSql.Refusal
import FluentSql.Text.Case

/-!
# SQL dialects

A dialect fixes how identifiers are quoted and how the clauses that differ between databases are
written: concatenation, paging and the update of rows that an insert meets. Statements are written
with the placeholder `?` in every dialect, and values never appear in their text.
-/

namespace FluentSql

/-- A dialect of SQL. -/
inductive Dialect where
  | ansi
  | mysql
  | sqlite
  | postgresql
deriving DecidableEq, Inhabited

namespace Dialect

/-- The dialect's own name. -/
def name : Dialect → String
  | ansi => "ansi"
  | mysql => "mysql"
  | sqlite => "sqlite"
  | postgresql => "postgresql"

/-- The description of a dialect, by family and name. -/
def description : Dialect → String
  | ansi => "<Dialect ansi>"
  | mysql => "<MySqlDialect mysql>"
  | sqlite => "<SqliteDialect sqlite>"
  | postgresql => "<PostgresDialect postgresql>"

/-- The placeholder for a bound value. -/
def placeholder : String := "?"

/-- The dialect that a name stands for, in any case. -/
def ofName? (s : String) : Option Dialect :=
  match Text.lower s with
  | "mysql" | "mariadb" => some mysql
  | "sqlite" => some sqlite
  | "postgresql" | "postgres" => some postgresql
  | _ => none

/-! ### Identifiers -/

/-- The character around an identifier. -/
def quoteChar : Dialect → Char
  | mysql => '\x60'
  | _ => '"'

/-- The characters of a name with every `q` written twice. -/
def doubleQuotes (q : Char) (cs : List Char) : List Char :=
  cs.flatMap fun c => if c = q then [q, q] else [c]

/-- A quoted identifier; quote characters inside it are doubled. -/
def quote (d : Dialect) (name : String) : String :=
  String.ofList (d.quoteChar :: doubleQuotes d.quoteChar name.toList ++ [d.quoteChar])

/-- The quoted parts that are given, joined by dots. -/
def qualified (d : Dialect) (parts : List (Option String)) : String :=
  String.intercalate "." (parts.filterMap fun p => p.map d.quote)

/-- A column of a table. The column `*` is every column, and is not quoted. -/
def column (d : Dialect) (table name : Option String) : String :=
  if name = some "*" then
    match table with
    | some t => d.quote t ++ ".*"
    | none => "*"
  else d.qualified [table, name]

/-- An expression under its alias, if one is given. -/
def aliased (d : Dialect) (sql : String) : Option String → String
  | some a => sql ++ " AS " ++ d.quote a
  | none => sql

/-! ### Clauses -/

/-- The concatenation of expressions. -/
def concat (d : Dialect) (parts : List String) : String :=
  match d with
  | ansi | sqlite => "(" ++ String.intercalate " || " parts ++ ")"
  | mysql | postgresql => "CONCAT(" ++ String.intercalate ", " parts ++ ")"

/-- A placeholder between the wildcards of a pattern. -/
def pattern (d : Dialect) (leading trailing : Bool) : String :=
  d.concat ((if leading then ["'%'"] else []) ++ [placeholder]
    ++ (if trailing then ["'%'"] else []))

/-- The clause that keeps `size` rows after the first `offset`. -/
def limit (d : Dialect) (offset size : String) : String :=
  match d with
  | postgresql => "LIMIT " ++ size ++ " OFFSET " ++ offset
  | _ => "LIMIT " ++ offset ++ ", " ++ size

/-- One assignment per column, from what `source` makes of the quoted column. -/
def assignments (d : Dialect) (source : String → String) (columns : List String) : String :=
  String.intercalate ", " (columns.map fun c => d.quote c ++ " = " ++ source (d.quote c))

/-- The names, quoted and separated by commas. -/
def quotedList (d : Dialect) (names : List String) : String :=
  String.intercalate ", " (names.map d.quote)

/-- The clause of an insert that updates `columns` of the rows it meets. `target` are the columns
that identify such a row. -/
def upsert (d : Dialect) (columns target : List String) : Except Refusal String :=
  match d with
  | mysql =>
    .ok ("ON DUPLICATE KEY UPDATE " ++ d.assignments (fun q => "VALUES(" ++ q ++ ")") columns)
  | postgresql =>
    if target.isEmpty then .error .upsertNeedsTarget
    else
      .ok ("ON CONFLICT (" ++ d.quotedList target ++ ") DO UPDATE SET "
        ++ d.assignments ("EXCLUDED." ++ ·) columns)
  | ansi | sqlite =>
    let conflict := if target.isEmpty then "" else "(" ++ d.quotedList target ++ ") "
    .ok ("ON CONFLICT " ++ conflict ++ "DO UPDATE SET " ++ d.assignments ("excluded." ++ ·) columns)

end Dialect

end FluentSql
