import FluentSql.Text.Printable

/-!
# Quoted text

The quoted form of a text, as it appears in messages and in the display of nested values. The
quote is a single quote, unless the text has a single quote and no double quote. The quote in use
and the backslash are escaped with a backslash; line feed, carriage return and tab have letters of
their own, and every other character that is not printable is written by its code point in two,
four or eight hexadecimal digits.

The same rules, byte for character, give the quoted form of a byte string.
-/

namespace FluentSql.Text

/-- The last `width` hexadecimal digits of a number, in lower case. -/
def hexDigits (width n : Nat) : List Char :=
  match width with
  | 0 => []
  | w + 1 => hexDigits w (n / 16) ++ [Nat.digitChar (n % 16)]

/-- The quote for a text with the given characters. -/
def quoteFor (cs : List Char) : Char :=
  if cs.contains '\'' && !cs.contains '"' then '"' else '\''

/-- An escape by code point, in the shortest of the three widths that holds it. -/
def escapeCode (n : Nat) : List Char :=
  if n < 0x100 then '\\' :: 'x' :: hexDigits 2 n
  else if n < 0x10000 then '\\' :: 'u' :: hexDigits 4 n
  else '\\' :: 'U' :: hexDigits 8 n

/-- One character inside quotes. -/
def escapeChar (quote c : Char) : List Char :=
  if c == quote || c == '\\' then ['\\', c]
  else if c == '\n' then ['\\', 'n']
  else if c == '\r' then ['\\', 'r']
  else if c == '\t' then ['\\', 't']
  else if isPrintable c then [c]
  else escapeCode c.toNat

/-- The quoted form of a text. -/
def quoted (s : String) : String :=
  let cs := s.toList
  let q := quoteFor cs
  String.ofList (q :: cs.flatMap (escapeChar q) ++ [q])

/-- One byte inside quotes: bytes outside the printable part of ASCII are escaped. -/
def escapeByte (quote : Char) (b : UInt8) : List Char :=
  if 0x7f ≤ b.toNat then escapeCode b.toNat else escapeChar quote (Char.ofNat b.toNat)

/-- The quoted form of a byte string, marked by a leading `b`. -/
def quotedBytes (bs : List UInt8) : String :=
  let q := quoteFor (bs.map fun b => Char.ofNat b.toNat)
  String.ofList ('b' :: q :: bs.flatMap (escapeByte q) ++ [q])

end FluentSql.Text
