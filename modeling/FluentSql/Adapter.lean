import FluentSql.Adapter.Mysql
import FluentSql.Adapter.Postgresql
import FluentSql.Adapter.Sqlite

/-!
# Adapters

An adapter is the bridge between sessions and one kind of database: it knows the dialect, the
style of placeholders, and the driver over a client. A caller may also bring a driver along, for a
dialect of its choice.

Adapters are found by the name of their database. MySQL and PostgreSQL need a package that may be
missing; their names are known only after the first attempt to use one of them.
-/

namespace FluentSql

/-- An adapter. -/
inductive Adapter where
  | sqlite
  | mysql
  | postgresql
  /-- The driver that the caller brings along. -/
  | custom (dialect : Dialect)
deriving DecidableEq

/-- What adapters work on: a client of each database, and the driver that the caller brings. -/
structure Backend (σ : Type) where
  client : Client σ
  custom : Driver σ

/-- The adapters that are known by name, and the packages that are not installed. -/
structure Registry where
  names : List String := ["sqlite"]
  absent : List String := []

namespace Adapter

/-- The dialect of an adapter. -/
def dialect : Adapter → Dialect
  | sqlite => .sqlite
  | mysql => .mysql
  | postgresql => .postgresql
  | custom d => d

/-- The style of placeholders of an adapter. -/
def paramStyle : Adapter → ParamStyle
  | mysql | postgresql => .format
  | _ => .qmark

/-- The driver of an adapter. -/
def driver {σ : Type} (a : Adapter) (b : Backend σ) : Driver σ :=
  match a with
  | sqlite => Sqlite.driver b.client
  | mysql => Mysql.driver b.client
  | postgresql => Postgresql.driver b.client
  | custom _ => b.custom

/-- Adds names that are not known yet. -/
def register (r : Registry) (names : List String) : Registry :=
  { r with names := r.names ++ names.filter fun n => !r.names.contains n }

/-- The adapter that needs a package, if the package is installed. -/
def requiring (r : Registry) (a : Adapter) (package : String) (missing : Fault) :
    Except Fault Adapter :=
  if r.absent.contains package then .error missing else .ok a

/-- The adapter of a database, by name in any case. No database has a name of bytes. -/
def find (name : Value) (r : Registry) : Except Fault Adapter × Registry :=
  match name with
  | .text s =>
    match Text.lower s with
    | "sqlite" => (.ok sqlite, r)
    | "mysql" | "mariadb" =>
      (requiring r mysql "pymysql" (.missingPackage "MySQL" "PyMySQL" "mysql"),
        register r ["mysql", "mariadb"])
    | "postgresql" | "postgres" =>
      (requiring r postgresql "psycopg" (.missingPackage "PostgreSQL" "psycopg" "postgresql"),
        register r ["postgresql", "postgres"])
    | other => (.error (.unknownDatabase other), r)
  | .bytes bs => (.error (.unknownDatabase (Text.quotedBytes (bs.map Text.lowerByte))), r)
  | _ => (.error .missingMember, r)

/-- The adapter of a database, where all packages are installed. -/
def ofName (name : Value) : Except Fault Adapter :=
  (find name {}).1

end Adapter

end FluentSql
