import FluentSql.Script.Arguments
import FluentSql.Select

/-!
# Pieces of statements

A field or a table of a query that is described by name, and rendered on its own.
-/

namespace FluentSql.Piece

/-- The signature of a piece. -/
def signature? : String → Option Signature
  | "column" => some ⟨["table", "column"], ["alias"]⟩
  | "wildcard" => some ⟨["table"], []⟩
  | "function" => some ⟨["func", "source"], ["distinct", "alias", "argument"]⟩
  | "concat" => some ⟨["columns"], ["alias", "separator"]⟩
  | "subquery" => some ⟨["query"], ["alias"]⟩
  | "table" => some ⟨["schema", "table"], ["alias", "joins", "join", "first"]⟩
  | _ => none

/-- The field that a piece is. -/
def field? (kind : String) (a : Arguments) : Option Field :=
  match kind with
  | "column" => some (.column (a.get "table") (a.get "column") (a.get "alias"))
  | "wildcard" => some (.wildcard (a.get "table"))
  | "function" =>
    some (.function (a.get "func") (a.get "source") (a.get "distinct") (a.get "alias")
      (a.get? "argument"))
  | "concat" => some (.concat (a.get "columns") (a.get "alias") (a.get "separator"))
  | "subquery" => some (.subquery (a.get "query") (a.get "alias"))
  | _ => none

/-- The table that a piece is. -/
def table (a : Arguments) : Table :=
  ⟨a.get "schema", a.get "table", a.get "alias", a.getOr "joins" (.record []),
    a.getOr "join" (.join .inner)⟩

/-- The text of a piece. -/
def render (s : Scope) (kind : String) (a : Arguments) : Rendering String :=
  match signature? kind with
  | none => Fallible.fail .missingMember
  | some signature =>
    if !signature.accepts a then Fallible.fail .wrongType
    else
      match field? kind a with
      | some f => f.render s
      | none => (table a).render s (a.get "first").truthy

end FluentSql.Piece
