import ServerInventory.Text.Blank
import ServerInventory.Text.PrintTables

/-!
Quoted texts, the form in which a change shows the values before and after it. A text
stands between double quotes; the quote, the backslash and whatever has no visible form
of its own are written as escapes.
-/

namespace ServerInventory

namespace Chars

open ServerInventory.Text (inRanges unprintableRanges graphemeExtendRanges)

/-- The hexadecimal escape of a character, without leading zeros. -/
def hexEscape (c : Char) : Chars :=
  '\\' :: 'u' :: '\x7b' :: Nat.toDigits 16 c.toNat ++ ['\x7d']

/-- A character that shows on the one before it. The two sound marks of halfwidth Katakana
take up a place of their own. -/
def isAttached (c : Char) : Bool :=
  inRanges graphemeExtendRanges c.toNat && !(0xFF9E ≤ c.toNat && c.toNat ≤ 0xFF9F)

/-- A letter of Hangul that stands for a letter left out, and so has no form at all. -/
def isFiller (c : Char) : Bool :=
  c.toNat == 0x115F || c.toNat == 0x1160 || c.toNat == 0x3164 || c.toNat == 0xFFA0

/-- One character as a quoted text shows it. -/
def quoteChar (c : Char) : Chars :=
  if c = '\x00' then ['\\', '0']
  else if c = '\t' then ['\\', 't']
  else if c = '\r' then ['\\', 'r']
  else if c = '\n' then ['\\', 'n']
  else if c = '\\' then ['\\', '\\']
  else if c = '"' then ['\\', '"']
  else if isAttached c || isFiller c then hexEscape c
  else if inRanges unprintableRanges c.toNat then hexEscape c
  else [c]

/-- A text between quotes. -/
def quote (text : Chars) : Chars :=
  '"' :: text.flatMap quoteChar ++ ['"']

end Chars

namespace Text

/-- A text between quotes. -/
def quote (text : String) : String :=
  String.ofList (Chars.quote text.toList)

end Text

end ServerInventory
