import FluentSql.Value.Items

/-!
# Rows

What a statement gives back: its rows as records, the names of its columns, and the driver's count
of rows and last generated key. A caller may narrow rows to the one at a position, and that row to
one column.
-/

namespace FluentSql

/-- The rows of a statement. -/
structure Rows where
  rows : List Value
  fields : List Value
  rowcount : Value
  lastrowid : Value

namespace Rows

/-- Rows from values that may be missing. -/
def ofValues (rows fields rowcount lastrowid : Value) : Except Fault Rows := do
  let rows ← rows.itemsIfGiven
  let fields ← fields.itemsIfGiven
  .ok ⟨rows, fields, rowcount, lastrowid⟩

/-- The description of rows, without the last generated key. -/
def description (r : Rows) : Except Fault String := do
  let rows ← (Value.list r.rows).quoted
  let fields ← (Value.list r.fields).quoted
  let rowcount ← r.rowcount.quoted
  .ok ("ResultSet(" ++ rows ++ ", fields=" ++ fields ++ ", rowcount=" ++ rowcount ++ ")")

/-- The record of names and values, as far as both go. A repeated name keeps its first place and
takes its last value. -/
def recordOf (names values : List Value) : Except Fault Value := do
  let entries ← (names.zip values).mapM fun e => e.1.checkKey.map fun _ => e
  .ok (.record (putEntries [] entries))

end Rows

/-! ### Narrowing -/

/-- Whether an index, which may be any number, lies among the items of a value. Null lies nowhere,
and a negative index is outside of everything. -/
def reaches (index rows : Value) : Except Fault Bool :=
  let below (p : Nat → Bool) : Except Fault Bool :=
    match rows.size? with
    | some size => .ok (p size)
    | none => .error .wrongType
  match index with
  | .null => .ok false
  | .bool b => below fun size => (if b then 1 else 0) < size
  | .int n => if n < 0 then .ok false else below fun size => n < size
  | .float x =>
    if x.isNaN || (x.negative && !x.isZero) then .ok false
    else below fun size => x.isFinite && x.truncate < size
  | _ => .error .wrongType

/-- Whether a list occurs in another as a part without gaps. -/
def occursIn {α : Type} [BEq α] (part : List α) : List α → Bool
  | [] => part.isEmpty
  | c :: rest => part.isPrefixOf (c :: rest) || occursIn part rest

namespace Value

/-- Whether a value holds another: a sequence or set as an item, a record as a key, and text as a
part. A byte string holds bytes by their numbers, and parts. -/
def holds (v w : Value) : Except Fault Bool :=
  match v with
  | list vs | tuple vs => .ok (vs.any fun x => x.same w)
  | set _ vs =>
    match w with
    | set false ws => .ok (vs.any fun x => x.same (set false ws))
    | _ => w.checkKey.map fun _ => vs.any fun x => x.same w
  | record entries => w.checkKey.map fun _ => (entries.lookup w).isSome
  | text s =>
    match w with
    | text t => .ok (occursIn t.toList s.toList)
    | _ => .error .wrongType
  | bytes bs =>
    match w with
    | bytes part => .ok (occursIn part bs)
    | _ =>
      match w.asInt? with
      | none => .error .wrongType
      | some n =>
        if 0 ≤ n ∧ n < 256 then .ok (bs.any fun b => Int.ofNat b.toNat == n) else .error .noByte
  | _ => .error .wrongType

/-- The value of a row under a column that it holds. -/
def field? (row column : Value) : Except Fault (Option Value) := do
  let held ← row.holds column
  if held then (row.item column).map some else .ok none

end Value

/-- Whether a value is its own only item, as a text of one Latin character is. -/
def Value.isOwnItem : Value → Bool
  | .text s =>
    match s.toList with
    | [c] => c.toNat < 0x100
    | _ => false
  | _ => false

/-- The row at an index, or the value of that row under a column that it has. Without a row there
the answer is none, which stands for all rows, and so it is where the row is all that there is. -/
def narrow (rows index column : Value) : Except Fault (Option Value) := do
  let reached ← reaches index rows
  if !reached then .ok none
  else do
    let row ← rows.item index
    let found ← if column.isNull then pure none else row.field? column
    .ok (found.or (if rows.isOwnItem then none else some row))

/-- What an operation gives back: rows, or a single value. -/
inductive Yield where
  | rows (r : Rows)
  | item (v : Value)

/-- The rows that were kept, narrowed. Without rows there is nothing, and a column that the row
does not have is null. -/
def Rows.recall (r : Rows) (index column : Value) : Except Fault Yield :=
  if r.rows.isEmpty then .ok (.item .null)
  else do
    let reached ← reaches index (.list r.rows)
    if !reached then .ok (.rows r)
    else do
      let row ← (Value.list r.rows).item index
      if column.isNull then .ok (.item row)
      else do
        let v ← row.get? column
        .ok (.item (v.getD .null))

end FluentSql
