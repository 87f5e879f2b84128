import FluentSql.Binary64.Shortest
import FluentSql.Fault
import FluentSql.Text.Quoted

/-!
# Display of values

`Value.quoted` is the form of a value inside messages and inside other values: text is quoted, and
collections list their items. `Value.display` is the form of a value on its own: text stands as it
is, and everything else as quoted. A value has neither form if an integer in it is too long, or if
an object in it has no description.
-/

namespace FluentSql

/-- The most digits that an integer is written with. -/
def writtenDigitLimit : Nat := 4300

/-- The digits of an integer, with its sign. -/
def integerText (n : Int) : Except Fault String :=
  if (Nat.toDigits 10 n.natAbs).length ≤ writtenDigitLimit then .ok (toString n)
  else .error (.display .tooManyDigits)

namespace Value

/-- Items between brackets. -/
def bracketed (left right : String) (items : List String) : String :=
  left ++ String.intercalate ", " items ++ right

/-- A tuple of one item keeps a comma behind it. -/
def bracketedTuple : List String → String
  | [item] => "(" ++ item ++ ",)"
  | items => bracketed "(" ")" items

/-- Items of a set between braces; the empty set has a name instead, and a frozen set always. -/
def bracketedSet : Bool → List String → String
  | false, [] => "set()"
  | false, items => bracketed "\x7b" "\x7d" items
  | true, [] => "frozenset()"
  | true, items => "frozenset(" ++ bracketed "\x7b" "\x7d" items ++ ")"

/-- The description of an object. -/
def described (label : Label) : Except Fault String :=
  label.mapError .display

mutual

/-- The quoted form of a value. -/
def quoted : Value → Except Fault String
  | null => .ok "None"
  | bool b => .ok (if b then "True" else "False")
  | int n => integerText n
  | float x => .ok x.display
  | text s => .ok (Text.quoted s)
  | bytes bs => .ok (Text.quotedBytes bs)
  | list items => do
    let shown ← quotedAll items
    .ok (bracketed "[" "]" shown)
  | tuple items => do
    let shown ← quotedAll items
    .ok (bracketedTuple shown)
  | set frozen items => do
    let shown ← quotedAll items
    .ok (bracketedSet frozen shown)
  | record entries => do
    let shown ← quotedEntries entries
    .ok (bracketed "\x7b" "\x7d" shown)
  | column table name => do
    let t ← quoted table
    let c ← quoted name
    .ok ("ColumnRef(table=" ++ t ++ ", column=" ++ c ++ ")")
  | query _ labels | write _ labels | session _ labels => described labels.inside
  | dialect d => .ok d.description
  | join j => .ok ("<JoinKind." ++ j.name ++ ": " ++ Text.quoted j.keyword ++ ">")
  | sharedList _ => .ok "[...]"
  | sharedRecord _ => .ok "\x7b...\x7d"
  | comparison left right operator combinator => do
    let l ← quoted left
    let r ← quoted right
    let o ← quoted operator
    let c ← quoted combinator
    .ok ("Param(left=" ++ l ++ ", value=" ++ r ++ ", operator=" ++ o ++ ", combo=" ++ c ++ ")")
  | groupStart combinator => do
    let c ← quoted combinator
    .ok ("GroupStart(combo=" ++ c ++ ")")
  | groupEnd combinator => do
    let c ← quoted combinator
    .ok ("GroupEnd(combo=" ++ c ++ ")")

/-- The quoted forms of several values. -/
def quotedAll : List Value → Except Fault (List String)
  | [] => .ok []
  | v :: vs => do
    let first ← quoted v
    let others ← quotedAll vs
    .ok (first :: others)

/-- The quoted forms of the entries of a record. -/
def quotedEntries : List (Value × Value) → Except Fault (List String)
  | [] => .ok []
  | (k, v) :: rest => do
    let key ← quoted k
    let item ← quoted v
    let others ← quotedEntries rest
    .ok ((key ++ ": " ++ item) :: others)

end

/-- The quoted form of an item that is shown apart from what it is an item of. -/
def quotedApart : Value → Except Fault String
  | query _ labels | write _ labels | session _ labels => described labels.alone
  | v => quoted v

/-- The form of a value on its own. -/
def display : Value → Except Fault String
  | text s => .ok s
  | join j => .ok ("JoinKind." ++ j.name)
  | v => quoted v

/-- The forms of several values, each on its own. -/
def displayAll (vs : List Value) : Except Fault (List String) :=
  vs.mapM display

/-- The name that a value gives: its display, if it counts as given. -/
def name? (v : Value) : Except Fault (Option String) :=
  if v.truthy then v.display.map some else .ok none

end Value

end FluentSql
