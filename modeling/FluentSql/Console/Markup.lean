import FluentSql.Value.Display

/-!
# Console markup

Text on the console may hold tags in square brackets, which set its style. Text that comes from
data is escaped: a backslash goes before everything that would be read as a tag.
-/

namespace FluentSql.Console

/-- Whether a character may come first in a tag. -/
def opensTag (c : Char) : Bool :=
  ('a' ≤ c && c ≤ 'z') || c == '#' || c == '/' || c == '@'

/-- The rest of a tag up to its closing bracket, and what follows. A tag holds no opening
bracket. -/
def tagBody : List Char → Option (List Char × List Char)
  | [] => none
  | ']' :: rest => some ([']'], rest)
  | '[' :: _ => none
  | c :: rest => (tagBody rest).map fun p => (c :: p.1, p.2)

/-- The tag at the front of a text, and what follows. -/
def tag? : List Char → Option (List Char × List Char)
  | '[' :: c :: rest =>
    if opensTag c then (tagBody rest).map fun p => ('[' :: c :: p.1, p.2) else none
  | _ => none

/-- Escapes all tags. `slashes` counts the backslashes right before the rest of the text: before a
tag they are doubled, and one more is added. -/
def escapeTags (slashes : Nat) : List Char → List Char
  | [] => List.replicate slashes '\\'
  | '\\' :: rest => escapeTags (slashes + 1) rest
  | c :: rest =>
    if (tag? (c :: rest)).isSome then
      List.replicate (2 * slashes + 1) '\\' ++ c :: escapeTags 0 rest
    else List.replicate slashes '\\' ++ c :: escapeTags 0 rest

/-- Doubles a single backslash at the end, which would escape the tag behind the text. -/
def closeSlash (cs : List Char) : List Char :=
  match cs.reverse with
  | '\\' :: '\\' :: _ => cs
  | '\\' :: _ => cs ++ ['\\']
  | _ => cs

/-- Text that the console shows as it is. -/
def escape (s : String) : String :=
  String.ofList (closeSlash (escapeTags 0 s.toList))

/-- A value as a cell of a table. -/
def cell (v : Value) : Except Fault String :=
  if v.isNull then .ok "[dim]NULL[/dim]" else v.display.map escape

end FluentSql.Console
