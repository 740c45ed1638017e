import ServerInventory.Text.Lowercase
import ServerInventory.Text.Numeral

/-!
MAC addresses in one spelling: small letters, with a colon between each two digits.
-/

namespace ServerInventory.Mac

/-- Characters in pairs with colons between them. -/
def colonize : Chars → Chars
  | first :: second :: next :: rest => first :: second :: ':' :: colonize (next :: rest)
  | text => text

/-- A MAC address with colons, whether it was printed with or without them. What is not
twelve hexadecimal digits is only trimmed and brought to small letters. -/
def format (text : String) : String :=
  let small := Chars.lowercase (Chars.trim text.toList)
  String.ofList
    (if small.length = 12 && small.all Chars.isHexDigit then colonize small else small)

end ServerInventory.Mac
