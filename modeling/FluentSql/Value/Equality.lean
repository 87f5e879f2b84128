import FluentSql.Fault

/-!
# Equality of values

`Value.same` compares by meaning: booleans are the integers zero and one, an integer equals a
decimal number of the same size, and records are equal whatever the order of their entries. It is
not reflexive, since NaN differs from itself.

A record is looked up by this equality, and only values that cannot change may be its keys.
-/

namespace FluentSql.Value

/-- The integer that a value counts as. -/
def asInt? : Value → Option Int
  | bool b => some (if b then 1 else 0)
  | int n => some n
  | _ => none

mutual

/-- Equality by meaning. -/
def same (v w : Value) : Bool :=
  match v, w with
  | null, null => true
  | float x, float y => x.equals y
  | float x, bool b => x.equalsInt (if b then 1 else 0)
  | float x, int n => x.equalsInt n
  | bool b, float y => y.equalsInt (if b then 1 else 0)
  | int n, float y => y.equalsInt n
  | bool b, _ => w.asInt? == some (if b then 1 else 0)
  | int n, _ => w.asInt? == some n
  | text s, text t => s == t
  | bytes a, bytes b => a == b
  | list a, list b => sameAll a b
  | tuple a, tuple b => sameAll a b
  | set _ a, set _ b => sameAll a b
  | record a, record b => a.length == b.length && sameEntries a b
  | column t c, column t' c' => same t t' && same c c'
  | query h _, query h' _ | write h _, write h' _ | session h _, session h' _ => h == h'
  | sharedList h, sharedList h' | sharedRecord h, sharedRecord h' => h == h'
  | dialect d, dialect d' => d == d'
  | join j, join j' => j == j'
  | comparison l r o c, comparison l' r' o' c' =>
    same l l' && same r r' && same o o' && same c c'
  | groupStart c, groupStart c' => same c c'
  | groupEnd c, groupEnd c' => same c c'
  | _, _ => false

/-- Equality of two lists, item by item. -/
def sameAll (vs ws : List Value) : Bool :=
  match vs, ws with
  | [], [] => true
  | v :: vs', w :: ws' => same v w && sameAll vs' ws'
  | _, _ => false

/-- Whether each entry has an equal one among the others. -/
def sameEntries (es fs : List (Value × Value)) : Bool :=
  match es with
  | [] => true
  | (k, v) :: rest =>
    (match fs.find? fun f => same k f.1 with
      | some f => same v f.2
      | none => false) && sameEntries rest fs

end

instance : BEq Value :=
  ⟨same⟩

/-! ### Keys -/

mutual

/-- The type of the first part of a value that can change, if it has one. -/
def changeable? : Value → Option String
  | list _ | sharedList _ => some "list"
  | record _ | sharedRecord _ => some "dict"
  | set false _ => some "set"
  | tuple items => anyChangeable? items
  | column table name => (changeable? table).or (changeable? name)
  | comparison left right operator combinator =>
    (((changeable? left).or (changeable? right)).or (changeable? operator)).or
      (changeable? combinator)
  | groupStart combinator => changeable? combinator
  | groupEnd combinator => changeable? combinator
  | _ => none

/-- The type of the first part of several values that can change. -/
def anyChangeable? : List Value → Option String
  | [] => none
  | v :: vs => (changeable? v).or (anyChangeable? vs)

end

/-- Makes sure that a value can be a key: nothing in it may change. -/
def checkKey (v : Value) : Except Fault Unit :=
  match v.changeable? with
  | none => .ok ()
  | some typeName => .error (.noKey typeName)

/-- The value of a record under a key, if it has one. -/
def get? (record key : Value) : Except Fault (Option Value) :=
  match record with
  | .record entries => key.checkKey.map fun _ => entries.lookup key
  | _ => .error .missingMember

end FluentSql.Value
