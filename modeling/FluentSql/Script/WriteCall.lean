import FluentSql.Script.Arguments
import FluentSql.Script.Reply
import FluentSql.Workspace

/-!
# Calls on write builders

The operations of a write builder by name. Those that shape it answer its description.
-/

namespace FluentSql.WriteCall

variable {σ : Type}

/-- Builds, and answers the description of a write builder. -/
def shape (h : Handle) (b : Building Unit) : Task σ Reply := do
  Task.build b
  let s ← Task.store
  let text ← Fallible.ofExcept (s.describeWrite h)
  pure (.value (.text text))

/-- Shapes a write builder without a look at the store. -/
def edit (h : Handle) (f : Write → Except Fault Write) : Task σ Reply :=
  shape h (Building.editWrite h f)

/-- Compiles a write. -/
def compiled (h : Handle) (kind : WriteKind) (dialect : Value) : Task σ Reply := do
  let s ← Task.store
  let statement ← Fallible.ofExcept (s.compileWriteIn h kind dialect)
  pure (.statement statement)

/-- Runs a write. -/
def executed (b : Backend σ) (h : Handle) (kind : WriteKind) (commit : Value)
    (callback : Option (Callback σ)) : Task σ Reply := do
  let s ← Task.store
  let outcome ← Task.executeWrite (Adapter.driver · b) h kind (s.given commit) callback
  pure (.outcome outcome)

/-- The state of a write builder. -/
def state (s : Store) (h : Handle) : Reply :=
  let w := (s.write h).write
  let items : List (String × Value) :=
    [("schema", w.schema), ("table", w.table), ("dialect", .text (s.writeDialect h).name),
      ("columns", .list w.columns), ("update_columns", .list w.updated),
      ("conflict_target", .list w.target), ("records", .int w.records.length),
      ("conditions", .list (w.conditions.map fun c => .list [c.1, c.2]))]
  .parts (items.map fun e => (e.1, .item e.2))

/-- The signature of a call, and the call with its arguments. -/
def ofName? (b : Backend σ) (h : Handle) (a : Arguments) (callback : Option (Callback σ))
    (name : String) : Option (Signature × Task σ Reply) :=
  let dialect := a.get "dialect"
  let commit := a.get "commit"
  match name with
  | "set_table" =>
    some (⟨["schema", "table"], []⟩,
      edit h fun w => .ok (w.setTable (a.get "schema") (a.get "table")))
  | "add_column" =>
    some (⟨["name"], ["update"]⟩, shape h (Building.addColumn h (a.get "name") (a.get "update")))
  | "add_update_column" => some (⟨["name"], []⟩, edit h (·.addUpdated (a.get "name")))
  | "set_conflict_target" =>
    some (⟨["columns"], []⟩, shape h (Building.setTarget h (a.get "columns")))
  | "add_record" => some (⟨["record"], []⟩, edit h fun w => .ok (w.addRecord (a.get "record")))
  | "add_condition" =>
    some (⟨["column", "value"], []⟩, edit h (·.addCondition (a.get "column") (a.get "value")))
  | "compile_insert" => some (⟨[], ["dialect"]⟩, compiled h .insert dialect)
  | "compile_update" => some (⟨[], ["dialect"]⟩, compiled h .update dialect)
  | "compile_delete" => some (⟨[], ["dialect"]⟩, compiled h .delete dialect)
  | "insert" => some (⟨[], ["commit"]⟩, executed b h .insert commit callback)
  | "update" => some (⟨[], ["commit"]⟩, executed b h .update commit callback)
  | "delete_records" => some (⟨[], ["commit"]⟩, executed b h .delete commit callback)
  | "state" =>
    some (⟨[], []⟩, do
      let s ← Task.store
      pure (state s h))
  | _ => none

end FluentSql.WriteCall
