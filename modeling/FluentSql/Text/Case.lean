import FluentSql.Text.CaseTable

/-!
# Upper and lower case

The full case mappings: a character may become several, and a capital sigma that ends a word
becomes the final form of the letter.
-/

namespace FluentSql.Text

/-- The first run that covers the code point decides; without one the character stays. -/
def mapByRuns (runs : List CaseRun) (c : Char) : Char :=
  match runs.findSome? (·.image? c.toNat) with
  | some n => Char.ofNat n
  | none => c

/-- The upper case of one character. -/
def upperChar (c : Char) : List Char :=
  if c.toNat < 0x80 then [c.toUpper]
  else match upperExpansions.lookup c.toNat with
    | some cs => cs.map Char.ofNat
    | none => [mapByRuns upperRuns c]

/-- The upper case of a text. -/
def upper (s : String) : String :=
  String.ofList (s.toList.flatMap upperChar)

/-- The lower case of one character, away from the end of a word. -/
def lowerChar (c : Char) : List Char :=
  if c.toNat < 0x80 then [c.toLower]
  else match lowerExpansions.lookup c.toNat with
    | some cs => cs.map Char.ofNat
    | none => [mapByRuns lowerRuns c]

/-- Whether the first character that is not skipped is a letter with case. -/
def meetsCased (cs : List Char) : Bool :=
  match cs.dropWhile (inSpans caseIgnorableSpans) with
  | [] => false
  | c :: _ => inSpans casedSpans c

/-- The lower case of `rest`, where `before` is what precedes it, nearest character first. A
capital sigma after a letter and before none is written in its final form. -/
def lowerFrom (before : List Char) : List Char → List Char
  | [] => []
  | c :: rest =>
    (if c.toNat == 0x3a3 then
      if meetsCased before && !meetsCased rest then [Char.ofNat 0x3c2] else [Char.ofNat 0x3c3]
    else lowerChar c) ++ lowerFrom (c :: before) rest

/-- The lower case of a text. -/
def lower (s : String) : String :=
  String.ofList (lowerFrom [] s.toList)

/-! ### Bytes -/

/-- A byte in upper case, if it is a letter of ASCII. -/
def upperByte (b : UInt8) : UInt8 :=
  if 0x61 ≤ b && b ≤ 0x7a then b - 0x20 else b

/-- A byte in lower case, if it is a letter of ASCII. -/
def lowerByte (b : UInt8) : UInt8 :=
  if 0x41 ≤ b && b ≤ 0x5a then b + 0x20 else b

end FluentSql.Text
