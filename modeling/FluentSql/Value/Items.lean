import FluentSql.Entries
import FluentSql.Value.Display
import FluentSql.Value.Equality

/-!
# The items of a value

What a value holds when it is gone through item by item: a list, tuple or set its items, a record
its keys, text its characters and a byte string its bytes as numbers. A record can be made from a
value that holds pairs.
-/

namespace FluentSql.Value

/-- The items of a value, in order. -/
def items (v : Value) : Except Fault (List Value) :=
  match v with
  | list vs | tuple vs | set _ vs => .ok vs
  | record entries => .ok (entries.map (·.1))
  | text s => .ok (s.toList.map fun c => text (String.singleton c))
  | bytes bs => .ok (bs.map fun b => int b.toNat)
  | _ => .error (.notCollection v.typeName)

/-- The items of a value that counts as given, and none of any other. -/
def itemsIfGiven (v : Value) : Except Fault (List Value) :=
  if v.truthy then v.items else .ok []

/-- How many items a value holds. -/
def size? (v : Value) : Option Nat :=
  match v.items with
  | .ok vs => some vs.length
  | .error _ => none

/-- The item of a sequence at a position, which may count from the end. -/
def itemAt (vs : List Value) (position : Int) : Except Fault Value :=
  let place := if position < 0 then position + vs.length else position
  if place < 0 then .error .outOfRange
  else
    match vs[place.toNat]? with
    | some v => .ok v
    | none => .error .outOfRange

/-- The item of a value under an index: by position in a sequence, and by key in a record. -/
def item (v index : Value) : Except Fault Value :=
  match v with
  | record entries => do
    index.checkKey
    match entries.lookup index with
    | some w => .ok w
    | none => do
      let shown ← index.quoted
      .error (.missingKey shown)
  | list _ | tuple _ | text _ | bytes _ =>
    match index.asInt? with
    | none => .error .wrongType
    | some n => do
      let vs ← v.items
      itemAt vs n
  | _ => .error .wrongType

/-- The entry that a pair makes. -/
def entryOf (position : Nat) (pair : Value) : Except Fault (Value × Value) := do
  let parts ← pair.items
  match parts with
  | [key, value] => key.checkKey.map fun _ => (key, value)
  | _ => .error (.noPair position parts.length)

/-- The entries that pairs make, the first of which has the given position. -/
def entriesFrom (position : Nat) : List Value → Except Fault (List (Value × Value))
  | [] => .ok []
  | pair :: rest => do
    let entry ← entryOf position pair
    let entries ← entriesFrom (position + 1) rest
    .ok (entry :: entries)

/-- The entries of a record, or those that the pairs in another value make. A value that does not
count as given has none. -/
def entries (v : Value) : Except Fault (List (Value × Value)) :=
  match v with
  | record es => .ok es
  | _ => do
    let pairs ← v.itemsIfGiven
    let es ← entriesFrom 0 pairs
    .ok (putEntries [] es)

end FluentSql.Value
