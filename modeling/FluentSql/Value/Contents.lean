import FluentSql.Value

/-!
# Contents of values

A value may refer to lists, records, builders and sessions of a store by their handles. Given what
the handles stand for, all of them can be filled in.
-/

namespace FluentSql

/-- What the handles of a value stand for. -/
structure Contents where
  list : Handle → Value
  record : Handle → Value
  /-- The descriptions of query builders, write builders and sessions. -/
  query : Handle → Labels
  write : Handle → Labels
  session : Handle → Labels

namespace Value

mutual

/-- A value with the contents of all handles in their place. -/
def fill (s : Contents) : Value → Value
  | list items => list (fillAll s items)
  | tuple items => tuple (fillAll s items)
  | set frozen items => set frozen (fillAll s items)
  | record entries => record (fillEntries s entries)
  | column table name => column (fill s table) (fill s name)
  | query handle _ => query handle (s.query handle)
  | write handle _ => write handle (s.write handle)
  | session handle _ => session handle (s.session handle)
  | comparison left right operator combinator =>
    comparison (fill s left) (fill s right) (fill s operator) (fill s combinator)
  | groupStart combinator => groupStart (fill s combinator)
  | groupEnd combinator => groupEnd (fill s combinator)
  | sharedList handle => s.list handle
  | sharedRecord handle => s.record handle
  | v => v

/-- Several values with the contents of all handles. -/
def fillAll (s : Contents) : List Value → List Value
  | [] => []
  | v :: vs => fill s v :: fillAll s vs

/-- The entries of a record with the contents of all handles. -/
def fillEntries (s : Contents) : List (Value × Value) → List (Value × Value)
  | [] => []
  | (k, v) :: rest => (fill s k, fill s v) :: fillEntries s rest

end

end Value

end FluentSql
