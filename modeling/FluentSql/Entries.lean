/-!
# Entries in order

A list of pairs as a map that remembers the order in which its keys came.
-/

namespace FluentSql

/-- Sets the value under a key: a known key keeps its place, a new one goes to the end. -/
def putEntry {κ α : Type} [BEq κ] (key : κ) (value : α) : List (κ × α) → List (κ × α)
  | [] => [(key, value)]
  | (k, v) :: rest => if k == key then (k, value) :: rest else (k, v) :: putEntry key value rest

/-- Sets the values of several pairs, one after the other. -/
def putEntries {κ α : Type} [BEq κ] (entries : List (κ × α)) (new : List (κ × α)) : List (κ × α) :=
  new.foldl (fun es e => putEntry e.1 e.2 es) entries

end FluentSql
