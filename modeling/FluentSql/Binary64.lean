/-!
# Double-precision numbers

A floating-point number is kept as its 64 bits and read as `significand * 2 ^ exponent`, so that
comparison, truncation, display and reading are exact arithmetic on natural numbers.
-/

namespace FluentSql

/-- A number in the IEEE 754 binary64 format, by its bits. -/
structure Binary64 where
  bits : UInt64
deriving DecidableEq, Inhabited

namespace Binary64

/-- The sign bit. -/
def negative (x : Binary64) : Bool :=
  Nat.pow 2 63 ≤ x.bits.toNat

/-- The eleven exponent bits. -/
def exponentBits (x : Binary64) : Nat :=
  x.bits.toNat / Nat.pow 2 52 % Nat.pow 2 11

/-- The fifty-two fraction bits. -/
def fraction (x : Binary64) : Nat :=
  x.bits.toNat % Nat.pow 2 52

/-- Neither infinite nor NaN. -/
def isFinite (x : Binary64) : Bool :=
  x.exponentBits != 2047

/-- Not a number. -/
def isNaN (x : Binary64) : Bool :=
  x.exponentBits == 2047 && x.fraction != 0

/-- The integer significand of a finite number. -/
def significand (x : Binary64) : Nat :=
  if x.exponentBits == 0 then x.fraction else Nat.pow 2 52 + x.fraction

/-- The power of two that the significand of a finite number is multiplied by. -/
def exponent (x : Binary64) : Int :=
  (max x.exponentBits 1 : Nat) - 1075

/-- Positive and negative zero. -/
def isZero (x : Binary64) : Bool :=
  x.exponentBits == 0 && x.fraction == 0

/-- The infinity of the given sign. -/
def infinity (negative : Bool) : Binary64 :=
  ⟨if negative then 0xfff0000000000000 else 0x7ff0000000000000⟩

/-- The quiet NaN. -/
def nan : Binary64 :=
  ⟨0x7ff8000000000000⟩

/-! ### Whole numbers -/

/-- `n` with the sign of a number. -/
def signed (negative : Bool) (n : Nat) : Int :=
  if negative then -(n : Int) else n

/-- A finite number without its fractional part. -/
def truncate (x : Binary64) : Int :=
  signed x.negative <|
    match x.exponent with
    | .ofNat e => x.significand * Nat.pow 2 e
    | .negSucc e => x.significand / Nat.pow 2 (e + 1)

/-- Equality of a number with an integer, by value. -/
def equalsInt (x : Binary64) (n : Int) : Bool :=
  x.isFinite && x.truncate == n &&
    match x.exponent with
    | .ofNat _ => true
    | .negSucc e => x.significand % Nat.pow 2 (e + 1) == 0

/-- Equality of two numbers by value: the zeros are equal, and NaN differs from itself. -/
def equals (x y : Binary64) : Bool :=
  !x.isNaN && !y.isNaN && (x.bits == y.bits || x.isZero && y.isZero)

/-! ### Rounding

`roundRatio` is the correctly rounded quotient of two natural numbers. The grid of representable
numbers near the quotient is `2 ^ e`, with `e` fixed by the size of the quotient and never below
`-1074`; a tie goes to the even neighbour. -/

/-- The nearest integer to `num / den`, a tie going to the even one. -/
def roundHalfEven (num den : Nat) : Nat :=
  let q := num / den
  let r := num % den
  if 2 * r < den then q
  else if den < 2 * r then q + 1
  else if q % 2 == 0 then q else q + 1

/-- The integer part of the binary logarithm of `num / den`, for positive operands. -/
def log2Ratio (num den : Nat) : Int :=
  let e : Int := (num.log2 : Int) - den.log2
  let low : Bool :=
    match e with
    | .ofNat k => num < den * Nat.pow 2 k
    | .negSucc k => num * Nat.pow 2 (k + 1) < den
  if low then e - 1 else e

/-- The number of the given sign nearest to `num / den`; beyond the largest it is infinite. -/
def roundRatio (negative : Bool) (num den : Nat) : Binary64 :=
  let sign : Nat := if negative then Nat.pow 2 63 else 0
  if num == 0 then ⟨UInt64.ofNat sign⟩
  else
    let e := max (log2Ratio num den - 52) (-1074)
    let m :=
      match e with
      | .ofNat k => roundHalfEven num (den * Nat.pow 2 k)
      | .negSucc k => roundHalfEven (num * Nat.pow 2 (k + 1)) den
    let magnitude := (e + 1074).toNat * Nat.pow 2 52 + m
    if 0x7ff0000000000000 ≤ magnitude then infinity negative
    else ⟨UInt64.ofNat (sign + magnitude)⟩

/-- The number nearest to `digits * 10 ^ scale`. Scales beyond the range of the format are cut off
before any power is taken. -/
def ofDecimal (negative : Bool) (digits : Nat) (scale : Int) : Binary64 :=
  let width : Int := (Nat.toDigits 10 digits).length
  if digits == 0 || scale + width < -330 then roundRatio negative 0 1
  else if 310 < scale + width then infinity negative
  else
    match scale with
    | .ofNat k => roundRatio negative (digits * Nat.pow 10 k) 1
    | .negSucc k => roundRatio negative digits (Nat.pow 10 (k + 1))

end Binary64

end FluentSql
