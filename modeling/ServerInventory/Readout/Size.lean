import ServerInventory.Decimal.Nearest
import ServerInventory.Text.Lowercase
import ServerInventory.Text.Numeral

/-!
Sizes as utilities print them, in bytes. Sizes with a fraction are computed in double
arithmetic and end at the bounds of a 64-bit word; integral sizes that do not fit a word
are unknown.
-/

namespace ServerInventory.Size

/-- The double that digits with at most one point among them write. -/
def decimal? (text : Chars) : Option Float :=
  let whole := text.takeWhile Chars.isDigit
  let digits? : Option (Chars × Nat) :=
    match text.dropWhile Chars.isDigit with
    | [] => some (whole, 0)
    | '.' :: fraction => some (whole ++ fraction, fraction.length)
    | _ => none
  digits?.bind fun (digits, places) =>
    (Chars.natural? digits).map fun value => Decimal.nearestDecimal value (-(places : Int))

/-- The bytes in a decimal unit, given in small letters. -/
def decimalUnit? (unit : Chars) : Option Float :=
  match String.ofList unit with
  | "" | "b" | "bytes" => some 1.0
  | "kb" => some (Decimal.nearestDecimal 1 3)
  | "mb" => some (Decimal.nearestDecimal 1 6)
  | "gb" => some (Decimal.nearestDecimal 1 9)
  | "tb" => some (Decimal.nearestDecimal 1 12)
  | "pb" => some (Decimal.nearestDecimal 1 15)
  | _ => none

/-- A size such as `480.00GB` or `1.92 TB`, with decimal units, rounded to whole bytes. -/
def decimalBytes? (text : String) : Option Int64 :=
  let compact := text.toList.filter fun c => !Chars.isBlank c
  let isNumeric (c : Char) : Bool := Chars.isDigit c || c == '.'
  (decimal? (compact.takeWhile isNumeric)).bind fun number =>
    (decimalUnit? (Chars.lowercase (compact.dropWhile isNumeric))).map fun unit =>
      (number * unit).round.toInt64

/-- A product that fits a 64-bit word, otherwise zero for an unknown size. -/
def product (size : Int64) (factor : Int) : Int64 :=
  (int64? (size.toInt * factor)).getD 0

/-- The bytes in a binary unit, given in small letters. -/
def binaryUnit? : Option Chars → Option Int
  | none => some 1
  | some unit =>
    match String.ofList unit with
    | "bytes" => some 1
    | "kb" => some 0x400
    | "mb" => some 0x100000
    | "gb" => some 0x40000000
    | _ => none

/-- A size such as `64 kB`, with binary units; zero if it is not known. -/
def binaryBytes (text : String) : Int64 :=
  let words := Chars.words text.toList
  match words.head?.bind fun number => (Chars.integer? number).bind int64? with
  | none => 0
  | some number =>
    match binaryUnit? ((words[1]?).map Chars.lowercase) with
    | none => 0
    | some unit => product number unit

/-- A size in units of 1024 bytes with a `K` behind it; zero if it is not known. -/
def kibibytes (text : String) : Int64 :=
  let digits := ((Chars.trim text.toList).reverse.dropWhile fun c => c == 'K' || c == 'k').reverse
  match (Chars.integer? digits).bind int64? with
  | none => 0
  | some number => product number 1024

/-- A size that fits a signed word, otherwise zero for an unknown size. -/
def ofNatural? (size : Option Nat) : Int64 :=
  (size.bind fun value => int64? value).getD 0

end ServerInventory.Size
