import ServerInventory.Decimal.Nearest
import ServerInventory.Decimal.Shortest
import ServerInventory.Text.Numeral

/-!
Numbers in JSON documents: as they are written, and as they are understood. A numeral
without fraction and exponent is an integer if it fits a 64-bit word; any other numeral is
a double, and one beyond the doubles is no number.
-/

namespace ServerInventory.Json

/-- A numeral as it is written: runs of digits. -/
structure Numeral where
  negative : Bool := false
  whole : Chars
  fraction : Option Chars := none
  /-- The digits of the exponent, and whether a minus sign stands in front of them. -/
  exponent : Option (Bool × Chars) := none
deriving DecidableEq, Repr

/-- A number as it is understood. -/
inductive Number where
  | natural (value : UInt64)
  /-- An integer below zero. -/
  | negative (value : Int64)
  | real (value : Float)

namespace Numeral

/-- Digits read behind those of a significand for as long as it fits a 64-bit word, and
the digits that are left over. -/
def gather (significand : Nat) : Chars → Nat × Chars
  | [] => (significand, [])
  | digit :: rest =>
    let next := significand * 10 + Chars.digitValue digit
    if next < UInt64.size then gather next rest else (significand, digit :: rest)

/-- `value · 10 ^ exponent` for an exponent below zero: divisions by 1e308 down to its
range, of which at most `bound`, and one by a power of ten. -/
def divide : (bound : Nat) → (value : Float) → (exponent : Int) → Float
  | 0, _, _ => 0
  | bound + 1, value, exponent =>
    if -308 ≤ exponent then value / Decimal.nearestDecimal 1 (-exponent)
    else divide bound (value / Decimal.nearestDecimal 1 308) (exponent + 308)

/-- `significand · 10 ^ exponent` in double arithmetic: one multiplication or division by
a power of ten, after divisions by 1e308 for an exponent below that range. -/
def scale (significand : Float) (exponent : Int) : Option Float :=
  if 308 < exponent then if significand == 0 then some significand else none
  else if 0 ≤ exponent then
    let scaled := significand * Decimal.nearestDecimal 1 exponent
    if scaled.isInf then none else some scaled
  else
    -- Three divisions leave nothing of any 64-bit significand.
    some (divide 4 significand exponent)

/-- The greatest exponent that is read digit by digit. -/
def exponentLimit : Nat := 0x7FFFFFFF

/-- The double that a numeral stands for, up to its sign. -/
def magnitude? (numeral : Numeral) : Option Float :=
  let (whole, leftover) := gather 0 numeral.whole
  let (significand, unread) := gather whole (numeral.fraction.getD [])
  let fractionDigits := (numeral.fraction.getD []).length - unread.length
  let shift : Int := (leftover.length : Int) - (fractionDigits : Int)
  let significandValue := (UInt64.ofNat significand).toFloat
  match numeral.exponent with
  | none => scale significandValue shift
  | some (negative, digits) =>
    let exponent := Chars.digitsValue digits
    if exponentLimit < exponent then
      if negative || significand = 0 then some 0 else none
    else scale significandValue (if negative then shift - exponent else shift + exponent)

/-- The number that a numeral stands for; `none` for one beyond the doubles. -/
def number? (numeral : Numeral) : Option Number :=
  let value := Chars.digitsValue numeral.whole
  if numeral.fraction.isNone && numeral.exponent.isNone && !numeral.negative &&
      value < UInt64.size then
    some (.natural (UInt64.ofNat value))
  else if numeral.fraction.isNone && numeral.exponent.isNone && numeral.negative &&
      0 < value && value ≤ 0x8000000000000000 then
    some (.negative (Int64.ofInt (-(value : Int))))
  else numeral.magnitude?.map fun magnitude =>
    .real (if numeral.negative then -magnitude else magnitude)

/-- The numeral of an integer. -/
def ofInt (value : Int) : Numeral :=
  { negative := value < 0, whole := Nat.toDigits 10 value.natAbs }

/-- The characters of a numeral. -/
def toChars (numeral : Numeral) : Chars :=
  (if numeral.negative then ['-'] else []) ++ numeral.whole ++
    (match numeral.fraction with
      | none => []
      | some digits => '.' :: digits) ++
    (match numeral.exponent with
      | none => []
      | some (negative, digits) => 'e' :: (if negative then '-' else '+') :: digits)

/-- The numeral of a finite double: the shortest digits, positional for magnitudes from
1e-5 up to 1e16 and with an exponent outside. -/
def ofFloat (value : Float) : Numeral :=
  let bits := value.toBits.toNat
  let negative : Bool := Decimal.signBit ≤ bits
  let unsigned := bits % Decimal.signBit
  if unsigned = 0 then { negative, whole := ['0'], fraction := some ['0'] }
  else
    let shortest := Decimal.shortest unsigned
    let digits := Nat.toDigits 10 shortest.digits
    let magnitude : Int := shortest.exponent + (digits.length : Int) - 1
    if -5 ≤ magnitude && magnitude < 0 then
      { negative, whole := ['0']
        fraction := some (List.replicate (-magnitude - 1).toNat '0' ++ digits) }
    else if 0 ≤ magnitude && magnitude < 16 then
      let wholeLength := magnitude.toNat + 1
      let padded := digits ++ List.replicate (wholeLength - digits.length) '0'
      let fraction := padded.drop wholeLength
      { negative, whole := padded.take wholeLength
        fraction := some (if fraction.isEmpty then ['0'] else fraction) }
    else
      { negative, whole := digits.take 1
        fraction := if digits.length = 1 then none else some (digits.drop 1)
        exponent := some (magnitude < 0, Nat.toDigits 10 magnitude.natAbs) }

end Numeral

namespace Number

/-- The numeral of a number. -/
def numeral : Number → Numeral
  | .natural value => .ofInt value.toNat
  | .negative value => .ofInt value.toInt
  | .real value => .ofFloat value

/-- The text of a number. -/
def text (number : Number) : String :=
  String.ofList number.numeral.toChars

end Number

end ServerInventory.Json
