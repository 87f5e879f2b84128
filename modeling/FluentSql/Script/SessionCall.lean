import FluentSql.Script.Arguments
import FluentSql.Script.Reply
import FluentSql.Workspace

/-!
# Calls on sessions

The operations of a session by name.
-/

namespace FluentSql.SessionCall

variable {σ : Type}

/-- The state of a session. -/
def state (s : Store) (h : Handle) : Except Fault Reply := do
  let shown ← s.describeSession h
  let session := (s.session h).session
  let items : List (String × Value) :=
    [("connected", .bool session.held.isSome), ("in_transaction", .bool session.inTransaction),
      ("repr", .text shown), ("user", session.settings.user),
      ("password", session.settings.password), ("schema", session.settings.schema)]
  .ok (.parts (items.map fun e => (e.1, .item e.2)))

/-- Lets a session work, and answers how that turned out. -/
def run (b : Backend σ) (h : Handle) (work : Driver σ → Work σ (Except Fault Yield)) :
    Task σ Reply := do
  let outcome ← Task.withSession (Adapter.driver · b) h work
  pure (.outcome outcome)

/-- Lets a session work, and answers nothing. -/
def perform (b : Backend σ) (h : Handle) (work : Driver σ → Work σ Unit) : Task σ Reply := do
  Task.withSession (Adapter.driver · b) h work
  pure (.value .null)

/-- The signature of a call, and the call with its arguments. -/
def ofName? (b : Backend σ) (h : Handle) (a : Arguments) (name : String) :
    Option (Signature × Task σ Reply) :=
  let sql := a.get "sql"
  let params := a.get "params"
  match name with
  | "ensure_connected" =>
    some (⟨[], ["user", "password", "schema"]⟩,
      run b h fun d =>
        Session.ensureConnected d (a.get "user") (a.get "password") (a.get "schema"))
  | "execute" =>
    some (⟨["sql"], ["params", "index", "column"]⟩,
      run b h fun d => Session.execute d sql params (a.get "index") (a.get "column"))
  | "run_transaction" =>
    some (⟨["sql"], ["params", "commit"]⟩, do
      let s ← Task.store
      run b h fun d => Session.runTransaction d sql params (s.given (a.get "commit")))
  | "commit" => some (⟨[], []⟩, run b h Session.commit)
  | "rollback" => some (⟨[], []⟩, run b h Session.rollback)
  | "close" | "aexit" => some (⟨[], []⟩, perform b h Session.close)
  | "destroy" => some (⟨[], []⟩, perform b h Session.destroy)
  | "aenter" => some (⟨[], []⟩, pure (.value (.bool true)))
  | "state" =>
    some (⟨[], []⟩, do
      let s ← Task.store
      Fallible.ofExcept (state s h))
  | _ => none

end FluentSql.SessionCall
