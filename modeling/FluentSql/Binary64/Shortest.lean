import FluentSql.Binary64

/-!
# The shortest decimal that reads back

Every finite number is displayed with the fewest decimal digits that still round to it; among
those, the nearest. The reals that round to a number form an interval around it, whose ends belong
to it exactly when its significand is even. For one digit, two digits and so on, `shortest` looks
at the two neighbours of the number on the decimal grid with that many digits and takes the first
grid with a neighbour inside the interval. Seventeen digits always suffice.
-/

namespace FluentSql.Binary64

/-- The reals that round to a positive finite number, all four times over a common denominator:
`value / scale` is the number itself, and `low / scale` and `high / scale` are the ends. -/
structure Neighbourhood where
  value : Nat
  low : Nat
  high : Nat
  scale : Nat
  /-- Whether the ends belong to it. -/
  closed : Bool

/-- The neighbourhood of a number. Below a power of two the spacing of the format is halved. -/
def neighbourhood (x : Binary64) : Neighbourhood :=
  let m := x.significand
  let below := if x.fraction == 0 && 1 < x.exponentBits then 1 else 2
  let (num, den) :=
    match x.exponent with
    | .ofNat k => (Nat.pow 2 k, 1)
    | .negSucc k => (1, Nat.pow 2 (k + 1))
  ⟨4 * m * num, (4 * m - below) * num, (4 * m + 2) * num, 4 * den, m % 2 == 0⟩

/-- Whether `digits * 10 ^ power` rounds to the number. -/
def Neighbourhood.holds (n : Neighbourhood) (digits : Nat) (power : Int) : Bool :=
  let (v, s) :=
    match power with
    | .ofNat k => (digits * Nat.pow 10 k * n.scale, 1)
    | .negSucc k => (digits * n.scale, Nat.pow 10 (k + 1))
  if n.closed then n.low * s ≤ v && v ≤ n.high * s else n.low * s < v && v < n.high * s

/-- The multiples of `10 ^ power` on either side of the number, and whether the upper one is the
nearer; a tie goes to the even one. -/
def Neighbourhood.grid (n : Neighbourhood) (power : Int) : Nat × Nat × Bool :=
  let (num, den) :=
    match power with
    | .ofNat k => (n.value, n.scale * Nat.pow 10 k)
    | .negSucc k => (n.value * Nat.pow 10 (k + 1), n.scale)
  let q := num / den
  (q, q + 1, roundHalfEven num den == q + 1)

/-- The point of the grid `10 ^ power` that is nearest to the number among those that round to
it. -/
def Neighbourhood.onGrid? (n : Neighbourhood) (power : Int) : Option Nat :=
  let (lower, upper, up) := n.grid power
  let (first, second) := if up then (upper, lower) else (lower, upper)
  if n.holds first power then some first
  else if n.holds second power then some second
  else none

/-- The power of ten of the leading digit: `10 ^ p ≤ value < 10 ^ (p + 1)`, found by trial from an
estimate that is never too high. -/
def Neighbourhood.leading (n : Neighbourhood) : Int :=
  let atLeast (p : Int) : Bool :=
    match p with
    | .ofNat k => n.scale * Nat.pow 10 k ≤ n.value
    | .negSucc k => n.scale ≤ n.value * Nat.pow 10 (k + 1)
  let guess : Int := (log2Ratio n.value n.scale * 30103).fdiv 100000 - 1
  ((List.range 4).foldl (fun p _ => if atLeast (p + 1) then p + 1 else p) guess)

/-- Tries `count` grids from the given power of ten downwards. -/
def Neighbourhood.search (n : Neighbourhood) (count : Nat) (power : Int) : Option (Nat × Int) :=
  match count with
  | 0 => none
  | k + 1 =>
    match n.onGrid? power with
    | some d => some (d, power)
    | none => n.search k (power - 1)

/-- Digits and power of ten of the shortest decimal that reads back as a positive finite
number. -/
def shortest (x : Binary64) : Nat × Int :=
  let n := x.neighbourhood
  (n.search 18 n.leading).getD (0, 0)

/-- Drops the zeros at the end of a decimal, raising its power of ten in step. -/
def dropZeros (fuel digits : Nat) (power : Int) : Nat × Int :=
  match fuel with
  | 0 => (digits, power)
  | f + 1 =>
    if digits != 0 && digits % 10 == 0 then dropZeros f (digits / 10) (power + 1)
    else (digits, power)

/-! ### The text of a number -/

/-- How decimals are laid out: positional between the two powers of ten of the leading digit, and
with an exponent of at least `exponentWidth` digits outside. -/
structure Layout where
  leastPositional : Int
  leastExponential : Int
  exponentWidth : Nat

/-- Positional from `10 ^ -4` up to `10 ^ 16`, and exponents of at least two digits. -/
def displayLayout : Layout :=
  ⟨-4, 16, 2⟩

/-- A natural number in at least `width` digits. -/
def padded (width n : Nat) : List Char :=
  let ds := Nat.toDigits 10 n
  List.replicate (width - ds.length) '0' ++ ds

/-- The decimal point of a positional text: digits `ds`, of which `whole` stand before the point.
A whole number keeps one zero behind it. -/
def positional (ds : List Char) (whole : Int) : List Char :=
  match whole with
  | .ofNat k =>
    if k == 0 then '0' :: '.' :: ds
    else if ds.length ≤ k then ds ++ List.replicate (k - ds.length) '0' ++ ['.', '0']
    else ds.take k ++ '.' :: ds.drop k
  | .negSucc k => '0' :: '.' :: List.replicate (k + 1) '0' ++ ds

/-- One digit, the others behind a point, and the exponent with its sign. -/
def exponential (width : Nat) (ds : List Char) (e : Int) : List Char :=
  let mantissa := if ds.length ≤ 1 then ds else ds.take 1 ++ '.' :: ds.drop 1
  mantissa ++ 'e' :: (if e < 0 then '-' else '+') :: padded width e.natAbs

/-- The layout of `digits * 10 ^ power`. -/
def Layout.write (l : Layout) (digits : Nat) (power : Int) : List Char :=
  let ds := Nat.toDigits 10 digits
  let leading := power + ds.length - 1
  if l.leastPositional ≤ leading && leading < l.leastExponential then positional ds (leading + 1)
  else exponential l.exponentWidth ds leading

/-- The text of a number: the shortest decimal that reads back, `inf` or `nan`. -/
def display (x : Binary64) : String :=
  if x.isNaN then "nan"
  else
    let body :=
      if !x.isFinite then ['i', 'n', 'f']
      else if x.isZero then ['0', '.', '0']
      else
        let (d, p) := x.shortest
        let (d, p) := dropZeros 20 d p
        displayLayout.write d p
    String.ofList (if x.negative then '-' :: body else body)

end FluentSql.Binary64
