import ServerInventory.Text.Blank

/-!
Numerals: decimal and hexadecimal texts of integers, read with a bound on the result and
written with a least width.
-/

namespace ServerInventory

namespace Chars

def isDigit (c : Char) : Bool :=
  '0' ≤ c && c ≤ '9'

def digitValue (c : Char) : Nat :=
  c.toNat - '0'.toNat

/-- The value of a hexadecimal digit in either case. -/
def hexValue? (c : Char) : Option Nat :=
  if '0' ≤ c && c ≤ '9' then some (c.toNat - '0'.toNat)
  else if 'a' ≤ c && c ≤ 'f' then some (c.toNat - 'a'.toNat + 10)
  else if 'A' ≤ c && c ≤ 'F' then some (c.toNat - 'A'.toNat + 10)
  else none

def isHexDigit (c : Char) : Bool :=
  (hexValue? c).isSome

/-- The number that a run of decimal digits writes. -/
def digitsValue (digits : Chars) : Nat :=
  digits.foldl (fun value c => value * 10 + digitValue c) 0

/-- The number written by a text that holds digits only, and at least one. -/
def natural? (text : Chars) : Option Nat :=
  if !text.isEmpty && text.all isDigit then some (digitsValue text) else none

/-- An optional sign, then digits only, and at least one. -/
def integer? : Chars → Option Int
  | '-' :: rest => (natural? rest).map fun value => -(value : Int)
  | '+' :: rest => (natural? rest).map Int.ofNat
  | text => (natural? text).map Int.ofNat

/-- The hexadecimal digits of a number in small letters, zeros in front up to `width`. -/
def hexDigits (width value : Nat) : Chars :=
  let digits := Nat.toDigits 16 value
  List.replicate (width - digits.length) '0' ++ digits

end Chars

/-- An integer that a signed 64-bit word holds. -/
def fitsInt64 (value : Int) : Bool :=
  -0x8000000000000000 ≤ value && value < 0x8000000000000000

/-- An integer that a signed 32-bit word holds. -/
def fitsInt32 (value : Int) : Bool :=
  -0x80000000 ≤ value && value < 0x80000000

/-- The 64-bit word of an integer that fits one. -/
def int64? (value : Int) : Option Int64 :=
  if fitsInt64 value then some (Int64.ofInt value) else none

/-- The 32-bit word of an integer that fits one. -/
def int32? (value : Int) : Option Int32 :=
  if fitsInt32 value then some (Int32.ofInt value) else none

namespace Text

/-- A signed 64-bit integer in decimal. -/
def int64? (text : String) : Option Int64 :=
  (Chars.integer? text.toList).bind ServerInventory.int64?

/-- A signed 32-bit integer in decimal. -/
def int32? (text : String) : Option Int32 :=
  (Chars.integer? text.toList).bind ServerInventory.int32?

end Text

end ServerInventory
