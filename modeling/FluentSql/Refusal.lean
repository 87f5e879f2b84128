/-!
# Refusals

The statements that builders refuse to compile, and the wording of each refusal.
-/

namespace FluentSql

/-- Why a builder refuses to compile a statement. -/
inductive Refusal where
  /-- A membership test whose right side is no collection. -/
  | membershipNeedsList (operator typeName : String)
  /-- A range test whose right side is no pair. -/
  | rangeNeedsPair
  /-- An upsert without a conflict target, where the dialect needs one. -/
  | upsertNeedsTarget
  /-- `DISTINCT` inside a function without a column. -/
  | distinctNeedsColumn (function : String)
  /-- A join column that is set equal to a query. -/
  | joinTargetIsQuery (column : String)
  | noColumns
  | noRecords
  | noConditions
deriving DecidableEq

/-- The wording of a refusal. -/
def Refusal.message : Refusal → String
  | .membershipNeedsList operator typeName => operator ++ " requires a list, got " ++ typeName
  | .rangeNeedsPair => "BETWEEN requires a [low, high] pair"
  | .upsertNeedsTarget => "PostgreSQL upsert requires a conflict target!"
  | .distinctNeedsColumn function => function ++ "(DISTINCT ...) requires a column"
  | .joinTargetIsQuery column => "Join target for '" ++ column ++ "' cannot be a query"
  | .noColumns => "No columns were supplied!"
  | .noRecords => "No records were supplied!"
  | .noConditions => "No conditions were supplied!"

end FluentSql
