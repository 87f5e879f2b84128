/-!
# Percent-encoded text

A percent sign with two hexadecimal digits stands for a byte, and the bytes are read as UTF-8.
Characters beyond ASCII stand for themselves and separate the bytes before them from those behind.
Bytes that are no UTF-8 become the replacement character, one for each longest start of a valid
sequence.
-/

namespace FluentSql.Url

/-- The value of a hexadecimal digit, in either case. -/
def hexDigit? (c : Char) : Option Nat :=
  if '0' ≤ c ∧ c ≤ '9' then some (c.toNat - 48)
  else if 'a' ≤ c ∧ c ≤ 'f' then some (c.toNat - 87)
  else if 'A' ≤ c ∧ c ≤ 'F' then some (c.toNat - 55)
  else none

/-- The character for bytes that are no UTF-8. -/
def replacement : Char := Char.ofNat 0xfffd

/-- What the first byte of a sequence asks for: the bits it contributes, the number of bytes that
must follow, and the range of the first of those. -/
structure Lead where
  bits : Nat
  following : Nat
  least : Nat
  greatest : Nat

/-- The lead bytes of UTF-8 beyond ASCII. -/
def lead? (b : Nat) : Option Lead :=
  if 0xc2 ≤ b ∧ b ≤ 0xdf then some ⟨b - 0xc0, 1, 0x80, 0xbf⟩
  else if b = 0xe0 then some ⟨0, 2, 0xa0, 0xbf⟩
  else if b = 0xed then some ⟨0xd, 2, 0x80, 0x9f⟩
  else if 0xe1 ≤ b ∧ b ≤ 0xef then some ⟨b - 0xe0, 2, 0x80, 0xbf⟩
  else if b = 0xf0 then some ⟨0, 3, 0x90, 0xbf⟩
  else if 0xf1 ≤ b ∧ b ≤ 0xf3 then some ⟨b - 0xf0, 3, 0x80, 0xbf⟩
  else if b = 0xf4 then some ⟨4, 3, 0x80, 0x8f⟩
  else none

/-- A sequence of UTF-8 that has been read in part: the bits so far, the number of bytes still to
come, and the range of the next one. -/
structure Pending where
  bits : Nat
  missing : Nat
  least : Nat
  greatest : Nat

/-- Reads bytes as UTF-8, where `pending` is an unfinished sequence. -/
def decodeUtf8 (pending : Option Pending) : List Nat → List Char
  | [] => if pending.isSome then [replacement] else []
  | b :: rest =>
    let start (lost : List Char) : List Char :=
      if b < 0x80 then lost ++ Char.ofNat b :: decodeUtf8 none rest
      else
        match lead? b with
        | some l => lost ++ decodeUtf8 (some ⟨l.bits, l.following, l.least, l.greatest⟩) rest
        | none => lost ++ replacement :: decodeUtf8 none rest
    match pending with
    | none => start []
    | some p =>
      if p.least ≤ b ∧ b ≤ p.greatest then
        let bits := p.bits * 64 + (b - 0x80)
        if p.missing ≤ 1 then Char.ofNat bits :: decodeUtf8 none rest
        else decodeUtf8 (some ⟨bits, p.missing - 1, 0x80, 0xbf⟩) rest
      else start [replacement]

/-- Reads percent-encoded text, where `bytes` are the bytes read since the last character beyond
ASCII, in reverse. -/
def unquoteFrom (bytes : List Nat) : List Char → List Char
  | [] => decodeUtf8 none bytes.reverse
  | '%' :: a :: b :: rest =>
    match hexDigit? a, hexDigit? b with
    | some x, some y => unquoteFrom ((16 * x + y) :: bytes) rest
    | _, _ => unquoteFrom (0x25 :: bytes) (a :: b :: rest)
  | c :: rest =>
    if c.toNat < 0x80 then unquoteFrom (c.toNat :: bytes) rest
    else decodeUtf8 none bytes.reverse ++ c :: unquoteFrom [] rest

/-- The text that a percent-encoded text stands for. -/
def unquote (cs : List Char) : List Char :=
  unquoteFrom [] cs

/-! ### Query strings -/

/-- Splits at every occurrence of a character. -/
def splitAll (sep : Char) : List Char → List (List Char)
  | [] => [[]]
  | c :: rest =>
    if c = sep then [] :: splitAll sep rest
    else
      match splitAll sep rest with
      | [] => [[c]]
      | first :: more => (c :: first) :: more

/-- What stands before the first occurrence of a character, and what stands behind it, if it
occurs. -/
def cut (sep : Char) : List Char → List Char × Option (List Char)
  | [] => ([], none)
  | c :: rest =>
    if c = sep then ([], some rest)
    else
      let (before, after) := cut sep rest
      (c :: before, after)

/-- A form-encoded text: `+` is a blank, and the rest is percent-encoded. -/
def unquoteForm (cs : List Char) : String :=
  String.ofList (unquote (cs.map fun c => if c = '+' then ' ' else c))

/-- The pairs of a query string. Pairs without a value are left out. -/
def queryPairs (query : List Char) : List (String × String) :=
  (splitAll '&' query).filterMap fun pair =>
    match cut '=' pair with
    | (_, none) | (_, some []) => none
    | (name, some value) => some (unquoteForm name, unquoteForm value)

end FluentSql.Url
