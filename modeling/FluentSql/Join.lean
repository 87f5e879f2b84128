/-!
# Kinds of join

How a table after the first is joined to the ones before it.
-/

namespace FluentSql

/-- A kind of join. -/
inductive Join where
  | inner
  | left
  | rightOuter
deriving DecidableEq, Inhabited

namespace Join

/-- The keywords of a join. -/
def keyword : Join → String
  | inner => "JOIN"
  | left => "LEFT JOIN"
  | rightOuter => "RIGHT OUTER JOIN"

/-- The name of a kind of join. -/
def name : Join → String
  | inner => "INNER"
  | left => "LEFT"
  | rightOuter => "RIGHT_OUTER"

/-- The kind of join with the given name; `RIGHT` is short for the right outer join. -/
def ofName? : String → Option Join
  | "INNER" => some inner
  | "LEFT" => some left
  | "RIGHT" | "RIGHT_OUTER" => some rightOuter
  | _ => none

end Join

end FluentSql
