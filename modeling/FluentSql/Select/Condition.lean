import FluentSql.Statement
import FluentSql.Text.Blank

/-!
# Conditions

The conditions of a query are a flat list of comparisons and group marks. Every comparison and
every opening mark has a combinator that joins it to what stands before it; the first one of the
list and the first one of a group have nothing before them, and drop it. Whether the marks balance
is up to the caller.
-/

namespace FluentSql

/-- A node of a condition list. -/
inductive Condition where
  | comparison (left right operator combinator : Value)
  | groupStart (combinator : Value)
  | groupEnd (combinator : Value)
  /-- Anything else, which no condition list may hold when it is rendered. -/
  | unknown (v : Value)

/-- The node that a value of a condition list stands for. -/
def Condition.ofValue : Value → Condition
  | .comparison left right operator combinator => .comparison left right operator combinator
  | .groupStart combinator => .groupStart combinator
  | .groupEnd combinator => .groupEnd combinator
  | v => .unknown v

/-- A combinator in upper case, without blanks around it; `AND` if nothing is left. -/
def normalizeCombinator (v : Value) : Except Fault String :=
  if !v.truthy then .ok "AND"
  else do
    let shown ← v.display
    let s := Text.strip shown
    .ok (if s.isEmpty then "AND" else Text.upper s)

/-! ### Operators -/

/-- What an operator asks of its right side. -/
inductive OperatorKind where
  /-- No right side at all. -/
  | nullTest
  /-- A pattern, with wildcards before and behind the value. -/
  | pattern (keyword : String) (leading trailing : Bool)
  /-- A collection or a query. -/
  | membership (negated : Bool)
  /-- A pair. -/
  | range
  /-- A single operand. -/
  | plain

/-- An operator in upper case, with single spaces between its words. -/
def normalizeOperator (operator : String) : String :=
  String.intercalate " " (Text.words (Text.upper operator))

/-- Whether a byte is white space of ASCII. -/
def isBlankByte (b : UInt8) : Bool :=
  b == 0x20 || (0x9 ≤ b && b ≤ 0xd)

/-- The normalised form of the operator that a value names. Bytes have words, but no words that
could be put together as text. -/
def operatorName : Value → Except Fault String
  | .text operator => .ok (normalizeOperator operator)
  | .bytes bs => if bs.all isBlankByte then .ok "" else .error .wrongType
  | _ => .error .missingMember

/-- The kind of a normalised operator. -/
def OperatorKind.ofName : String → OperatorKind
  | "IS NULL" | "IS NOT NULL" => .nullTest
  | "LIKE" => .pattern "LIKE" true true
  | "NOT LIKE" => .pattern "NOT LIKE" true true
  | "LIKE%" => .pattern "LIKE" false true
  | "%LIKE" => .pattern "LIKE" true false
  | "IN" => .membership false
  | "NOT IN" => .membership true
  | "BETWEEN" => .range
  | _ => .plain

/-- The items of a collection that may stand behind a membership test. -/
def Value.members? : Value → Option (List Value)
  | .list items | .tuple items | .set _ items => some items
  | _ => none

/-- The two ends of a range. -/
def Value.pair? : Value → Option (Value × Value)
  | .list [low, high] | .tuple [low, high] => some (low, high)
  | _ => none

/-- A pair is a collection of its ends. -/
theorem Value.members?_of_pair? {v : Value} {ends : Value × Value} (h : v.pair? = some ends) :
    v.members? = some [ends.1, ends.2] := by
  unfold pair? at h
  split at h <;> cases h <;> rfl

namespace Condition

/-- Several operands, in order. -/
def renderAll (s : Scope) : List Value → Rendering (List String)
  | [] => pure []
  | v :: vs => do
    let text ← s.operand v
    let texts ← renderAll s vs
    pure (text :: texts)

/-- A comparison with a single operand. The operator is written as the caller gave it. -/
def renderPlain (s : Scope) (left right operator : Value) : Rendering String := do
  let l ← s.operand left
  let shown ← Fallible.ofExcept operator.display
  let r ← s.operand right
  pure (l ++ " " ++ shown ++ " " ++ r)

/-- A membership test in a collection. Nothing is in an empty one, so the test is decided without
its left side. -/
def renderMembership (s : Scope) (left right : Value) (keyword : String) (negated : Bool) :
    Rendering String :=
  match right.members? with
  | none => Fallible.fail (.refused (.membershipNeedsList keyword right.typeName))
  | some [] => pure (if negated then "1 = 1" else "1 = 0")
  | some items => do
    let l ← s.operand left
    let texts ← renderAll s items
    pure (l ++ " " ++ keyword ++ " (" ++ String.intercalate ", " texts ++ ")")

/-- A range test. -/
def renderRange (s : Scope) (left right : Value) : Rendering String := do
  let l ← s.operand left
  match right.pair? with
  | none => Fallible.fail (.refused .rangeNeedsPair)
  | some (low, high) => do
    let lo ← s.operand low
    let hi ← s.operand high
    pure (l ++ " BETWEEN " ++ lo ++ " AND " ++ hi)

/-- A pattern test. The value is bound whatever it is. -/
def renderPattern (s : Scope) (left right : Value) (keyword : String) (leading trailing : Bool) :
    Rendering String := do
  let l ← s.operand left
  let _ ← Rendering.bindValue right
  pure (l ++ " " ++ keyword ++ " " ++ s.dialect.pattern leading trailing)

/-- A comparison. A query on the right side is compared by the operator as it stands. -/
def renderComparison (s : Scope) (left right operator : Value) : Rendering String := do
  let keyword ← Fallible.ofExcept (operatorName operator)
  match OperatorKind.ofName keyword with
  | .nullTest => do
    let l ← s.operand left
    pure (l ++ " " ++ keyword)
  | .pattern name leading trailing =>
    if right.isQuery then renderPlain s left right operator
    else renderPattern s left right name leading trailing
  | .membership negated =>
    if right.isQuery then renderPlain s left right operator
    else renderMembership s left right keyword negated
  | .range => if right.isQuery then renderPlain s left right operator else renderRange s left right
  | .plain => renderPlain s left right operator

/-- A combinator between blanks, unless nothing stands before it. -/
def joiner (bare : Bool) (combinator : Value) : Rendering String :=
  if bare then pure ""
  else do
    let shown ← Fallible.ofExcept combinator.display
    pure (" " ++ shown ++ " ")

/-- The text of a condition list. `bare` says that the next node has nothing before it that it
could be joined to. -/
def renderList (s : Scope) (bare : Bool) : List Condition → Rendering String
  | [] => pure ""
  | .groupStart combinator :: rest => do
    let link ← joiner bare combinator
    let text ← renderList s true rest
    pure (link ++ "(" ++ text)
  | .groupEnd _ :: rest => do
    let text ← renderList s false rest
    pure (")" ++ text)
  | .comparison left right operator combinator :: rest => do
    let link ← joiner bare combinator
    let first ← renderComparison s left right operator
    let text ← renderList s false rest
    pure (link ++ first ++ text)
  | .unknown v :: _ => do
    let shown ← Fallible.ofExcept v.quoted
    Fallible.fail (.unknownNode shown)

/-- The text of the nodes that a value holds. -/
def renderNodes (s : Scope) (nodes : Value) : Rendering String := do
  let items ← Fallible.ofExcept nodes.items
  renderList s true (items.map ofValue)

end Condition

end FluentSql
