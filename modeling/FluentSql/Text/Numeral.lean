import FluentSql.Binary64
import FluentSql.Text.Blank
import FluentSql.Text.DecimalDigit

/-!
# Numerals

Reading of integers and of decimal numbers from text. White space may surround a numeral, a sign
may precede it, its digits may come from any script, and a single low line may stand between two
digits.
-/

namespace FluentSql.Text

/-- Drops a low line that stands before a digit. -/
def skipLowLine : List Char → List Char
  | '_' :: c :: rest => if (decimalDigit? c).isSome then c :: rest else '_' :: c :: rest
  | rest => rest

theorem length_skipLowLine_le (cs : List Char) : (skipLowLine cs).length ≤ cs.length := by
  unfold skipLowLine
  split
  · split <;> simp
  · exact Nat.le_refl _

/-- The longest run of digits at the front, low lines between digits skipped, and what follows
it. -/
def digitRun : List Char → List Nat × List Char
  | [] => ([], [])
  | c :: rest =>
    match decimalDigit? c with
    | none => ([], c :: rest)
    | some d =>
      let (ds, after) := digitRun (skipLowLine rest)
      (d :: ds, after)
termination_by cs => cs.length
decreasing_by
  exact Nat.lt_succ_of_le (length_skipLowLine_le rest)

/-- The number that a list of decimal digits writes. -/
def ofDigits (ds : List Nat) : Nat :=
  ds.foldl (fun n d => 10 * n + d) 0

/-- An optional sign at the front: whether it is a minus, and the rest. -/
def signOf : List Char → Bool × List Char
  | '-' :: rest => (true, rest)
  | '+' :: rest => (false, rest)
  | rest => (false, rest)

/-- The most digits that an integer may be read from. -/
def integerDigitLimit : Nat := 4300

/-- How the reading of an integer ends. -/
inductive IntegerReading where
  | value (n : Int)
  | malformed
  | tooLong (digits : Nat)

/-- Reads an integer. A run of digits beyond the limit is refused before the text behind it is
looked at, except for a low line. -/
def readInteger (cs : List Char) : IntegerReading :=
  let (negative, body) := signOf (trimChars isNumeralBlank cs)
  let (ds, after) := digitRun body
  if ds.isEmpty || after.head? == some '_' then .malformed
  else if integerDigitLimit < ds.length then .tooLong ds.length
  else if !after.isEmpty then .malformed
  else .value (Binary64.signed negative (ofDigits ds))

/-- The exponent behind a mantissa: none, or `e` with a signed run of digits, and nothing else. -/
def exponentPart : List Char → Option Int
  | [] => some 0
  | c :: rest =>
    if c == 'e' || c == 'E' then
      let (negative, body) := signOf rest
      let (ds, after) := digitRun body
      if ds.isEmpty || !after.isEmpty then none
      else some (Binary64.signed negative (ofDigits ds))
    else none

/-- The fraction behind the whole digits: its digits and what follows them. -/
def fractionPart : List Char → List Nat × List Char
  | '.' :: rest => digitRun rest
  | rest => ([], rest)

/-- An unsigned decimal number: digits, a fraction and an exponent, with a digit on at least one
side of the point. -/
def readMagnitude (negative : Bool) (cs : List Char) : Option Binary64 :=
  let (whole, rest) := digitRun cs
  let (fraction, rest) := fractionPart rest
  if whole.isEmpty && fraction.isEmpty then none
  else
    (exponentPart rest).map fun e =>
      Binary64.ofDecimal negative (ofDigits (whole ++ fraction)) (e - fraction.length)

/-- Reads a decimal number, `inf`, `infinity` or `nan` (in any case). -/
def readDecimal (cs : List Char) : Option Binary64 :=
  let (negative, body) := signOf (trimChars isNumeralBlank cs)
  let word := String.ofList (body.map Char.toLower)
  if word == "inf" || word == "infinity" then some (Binary64.infinity negative)
  else if word == "nan" then some Binary64.nan
  else readMagnitude negative body

end FluentSql.Text
