import FluentSql.Statement

/-!
# The fields of a SELECT list
-/

namespace FluentSql

/-- A field of a SELECT list. -/
inductive Field where
  /-- A column of a table. -/
  | column (table name aliasName : Value)
  /-- Every column of a table. -/
  | wildcard (table : Value)
  /-- A function of a column, of a query or (where `source` is null) of whole rows, with an
  optional second argument. It works on distinct values if `distinct` counts as given. -/
  | function (name source distinct aliasName : Value) (argument : Option Value)
  /-- The concatenation of columns, with a separator between any two if it counts as given. -/
  | concat (columns aliasName separator : Value)
  /-- A query with a single value. -/
  | subquery (query aliasName : Value)

namespace Field

/-- The source of a function. -/
def renderSource (s : Scope) (name distinct : Value) : Value → Rendering String
  | .null =>
    if distinct.truthy then do
      let shown ← Fallible.ofExcept name.display
      Fallible.fail (.refused (.distinctNeedsColumn shown))
    else pure "*"
  | .query handle label => s.operand (.query handle label)
  | .column table c => s.column table c
  | .comparison .. => Fallible.fail .wrongType
  | _ => Fallible.fail .missingMember

/-- The second argument of a function, with the comma before it, if there is one. -/
def renderArgument (s : Scope) : Option Value → Rendering String
  | none => pure ""
  | some v => do
    let second ← s.operand v
    pure (", " ++ second)

/-- A reference to a column, and nothing else. -/
def renderColumn (s : Scope) : Value → Rendering String
  | .column table name => s.column table name
  | .comparison .. => Fallible.fail .wrongType
  | _ => Fallible.fail .missingMember

/-- The parts of a concatenation behind the first column: each column has the separator before it,
if one is given. -/
def renderTail (s : Scope) (separator : Value) : List Value → Rendering (List String)
  | [] => pure []
  | c :: rest => do
    let gap ← if separator.truthy then List.singleton <$> Rendering.bindValue separator else pure []
    let part ← renderColumn s c
    let parts ← renderTail s separator rest
    pure (gap ++ part :: parts)

/-- The parts of a concatenation. -/
def renderParts (s : Scope) (separator : Value) : List Value → Rendering (List String)
  | [] => pure []
  | c :: rest => do
    let part ← renderColumn s c
    let parts ← renderTail s separator rest
    pure (part :: parts)

/-- The text of a field. -/
def render (s : Scope) : Field → Rendering String
  | .column table name aliasName => do
    let sql ← s.column table name
    s.underAlias sql aliasName
  | .wildcard table => s.column table (.text "*")
  | .function name source distinct aliasName argument => do
    let inner ← renderSource s name distinct source
    let second ← renderArgument s argument
    let called ← Fallible.ofExcept name.display
    let inner := if distinct.truthy then "DISTINCT " ++ inner else inner
    s.underAlias (called ++ "(" ++ inner ++ second ++ ")") aliasName
  | .concat columns aliasName separator => do
    let items ← Fallible.ofExcept columns.items
    let parts ← renderParts s separator items
    s.underAlias (s.dialect.concat parts) aliasName
  | .subquery (.query handle label) aliasName => do
    let sql ← s.operand (.query handle label)
    s.underAlias sql aliasName
  | .subquery _ _ => Fallible.fail .missingMember

end Field

end FluentSql
