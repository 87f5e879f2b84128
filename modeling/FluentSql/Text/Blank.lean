import FluentSql.Text.Span

/-!
# Blank characters

White space in the sense of Unicode: the characters of bidirectional class `B`, `S` or `WS` and
the space separators. Stripping and splitting of names, operators and combinators go by it.

Numerals use a narrower class, `isNumeralBlank`: of the ASCII characters only the space and the
five layout controls surround a number.
-/

namespace FluentSql.Text

/-- The spans of Unicode white space. -/
def blankSpans : List Span :=
  [⟨0x9, 0xd⟩, ⟨0x1c, 0x20⟩, ⟨0x85, 0x85⟩, ⟨0xa0, 0xa0⟩, ⟨0x1680, 0x1680⟩,
   ⟨0x2000, 0x200a⟩, ⟨0x2028, 0x2029⟩, ⟨0x202f, 0x202f⟩, ⟨0x205f, 0x205f⟩, ⟨0x3000, 0x3000⟩]

/-- Unicode white space. -/
def isBlank (c : Char) : Bool :=
  inSpans blankSpans c

/-- White space that may surround a numeral: tab to carriage return, the space, and all white
space beyond ASCII. The four separator controls `U+001C` to `U+001F` are not among it. -/
def isNumeralBlank (c : Char) : Bool :=
  isBlank c && !(0x1c ≤ c.toNat && c.toNat ≤ 0x1f)

/-- Drops the characters of a class from both ends. -/
def trimChars (p : Char → Bool) (cs : List Char) : List Char :=
  ((cs.dropWhile p).reverse.dropWhile p).reverse

/-- Drops white space from both ends of a text. -/
def strip (s : String) : String :=
  String.ofList (trimChars isBlank s.toList)

/-- The words of a character list: maximal runs outside the class `p`. `word` collects the
current run, in reverse. -/
def wordsFrom (p : Char → Bool) (word : List Char) : List Char → List (List Char)
  | [] => if word.isEmpty then [] else [word.reverse]
  | c :: rest =>
    if p c then
      if word.isEmpty then wordsFrom p [] rest else word.reverse :: wordsFrom p [] rest
    else wordsFrom p (c :: word) rest

/-- The words of a text, separated by any white space. -/
def words (s : String) : List String :=
  (wordsFrom isBlank [] s.toList).map String.ofList

end FluentSql.Text
