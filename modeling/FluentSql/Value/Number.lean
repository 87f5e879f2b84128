import FluentSql.Fault
import FluentSql.Text.Numeral

/-!
# Numbers from values

Conversion of a value to an integer or to a decimal number. Decimals lose their fraction, text and
bytes are read as numerals, and all other kinds are refused.
-/

namespace FluentSql.Value

/-- The characters of a byte string, for reading: bytes beyond ASCII stand for no digit. -/
def asciiChars (bs : List UInt8) : List Char :=
  bs.map fun b => if b.toNat < 0x80 then Char.ofNat b.toNat else '?'

/-- The integer that a numeral writes, or the fault that names it by its quoted form. -/
def integerOf (shown : String) (cs : List Char) : Except Fault Int :=
  match Text.readInteger cs with
  | .value n => .ok n
  | .tooLong digits => .error (.number (.tooManyDigits digits))
  | .malformed => .error (.number (.malformedInteger shown))

/-- The decimal number that a numeral writes, or the fault that names it by its quoted form. -/
def decimalOf (shown : String) (cs : List Char) : Except Fault Binary64 :=
  match Text.readDecimal cs with
  | some x => .ok x
  | none => .error (.number (.malformedDecimal shown))

/-- A value as an integer. -/
def toInteger (v : Value) : Except Fault Int :=
  match v with
  | bool b => .ok (if b then 1 else 0)
  | int n => .ok n
  | float x =>
    if x.isNaN then .error (.number .nanInteger)
    else if !x.isFinite then .error (.number .infiniteInteger)
    else .ok x.truncate
  | text s => integerOf (Text.quoted s) s.toList
  | bytes bs => integerOf (Text.quotedBytes bs) (asciiChars bs)
  | _ => .error (.number (.notInteger v.typeName))

/-- The decimal number nearest to an integer. -/
def nearestDecimal (n : Int) : Except Fault Binary64 :=
  let x := Binary64.roundRatio (n < 0) n.natAbs 1
  if x.isFinite then .ok x else .error (.number .hugeDecimal)

/-- A value as a decimal number. -/
def toDecimal (v : Value) : Except Fault Binary64 :=
  match v with
  | bool b => .ok (Binary64.roundRatio false (if b then 1 else 0) 1)
  | int n => nearestDecimal n
  | float x => .ok x
  | text s => decimalOf (Text.quoted s) s.toList
  | bytes bs => decimalOf (Text.quotedBytes bs) (asciiChars bs)
  | _ => .error (.number (.notDecimal v.typeName))

end FluentSql.Value
