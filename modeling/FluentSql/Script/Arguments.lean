import FluentSql.Value

/-!
# Arguments of calls

A call by name has its arguments by name, too. A signature says which arguments the call needs, and
which it may have beside them; with any others it is refused.
-/

namespace FluentSql

/-- The arguments of a call, by name. -/
structure Arguments where
  given : List (String × Value)

namespace Arguments

/-- An argument, or the usual value in its place. -/
def getOr (a : Arguments) (name : String) (usual : Value) : Value :=
  (a.given.lookup name).getD usual

/-- An argument; null if it is not given. -/
def get (a : Arguments) (name : String) : Value :=
  a.getOr name .null

/-- An argument, if it is given. -/
def get? (a : Arguments) (name : String) : Option Value :=
  a.given.lookup name

/-- The arguments with their values changed. -/
def map (f : Value → Value) (a : Arguments) : Arguments :=
  ⟨a.given.map fun g => (g.1, f g.2)⟩

end Arguments

/-- The names of the arguments that a call needs, and of those that it may have beside them. -/
structure Signature where
  needed : List String := []
  optional : List String := []

/-- Whether arguments are those of a signature. -/
def Signature.accepts (s : Signature) (a : Arguments) : Bool :=
  s.needed.all (fun name => (a.get? name).isSome)
    && a.given.all fun g => s.needed.contains g.1 || s.optional.contains g.1

end FluentSql
