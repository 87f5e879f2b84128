import FluentSql.Driver
import FluentSql.Placeholder

/-!
# Arguments of the style `format`

A client of the style `format` expands the text of a statement only if it gets arguments. So the
placeholders are converted only if there are parameters, and otherwise the client gets null.
-/

namespace FluentSql.Adapter

/-- A statement with its placeholders in the style of a client. Only text can be searched for
them. -/
def convertStatement (style : ParamStyle) (sql : Value) : Except Fault Value :=
  match style, sql with
  | .qmark, sql => .ok sql
  | .format, .text s => .ok (.text (Placeholder.convert .format s))
  | .format, .bytes _ => .error .bytesStatement
  | .format, sql => .error (.noStatement sql.typeName)

/-- A statement as a client of the style `format` wants it. -/
def formatStatement (sql params : Value) : Except Fault Value :=
  if params.truthy then convertStatement .format sql else .ok sql

/-- The arguments for a client of the style `format`. -/
def formatArguments (params : Value) : Except Fault Value :=
  if params.truthy then params.items.map .list else .ok .null

end FluentSql.Adapter
