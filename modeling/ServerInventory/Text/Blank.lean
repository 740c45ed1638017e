/-!
Blank characters and what is done at them: trimming a text on both sides, and cutting it
into words. Blank means the Unicode property White_Space, so U+0085, U+00A0 and U+3000 are
blank while U+001C to U+001F and U+200B are not.

The functions work on lists of characters, under `Chars`; those on strings, under `Text`,
are the same functions seen through `String.toList`.
-/

namespace ServerInventory

/-- A text as the list of its characters. -/
abbrev Chars := List Char

namespace Chars

/-- A character with the Unicode property White_Space. -/
def isBlank (c : Char) : Bool :=
  let code := c.toNat
  (0x9 ≤ code && code ≤ 0xD) || code == 0x20 || code == 0x85 || code == 0xA0 ||
    code == 0x1680 || (0x2000 ≤ code && code ≤ 0x200A) || code == 0x2028 ||
    code == 0x2029 || code == 0x202F || code == 0x205F || code == 0x3000

/-- A text of blanks alone, the empty text among them. -/
def allBlank (text : Chars) : Bool :=
  text.all isBlank

def trimStart (text : Chars) : Chars :=
  text.dropWhile isBlank

def trimEnd (text : Chars) : Chars :=
  (text.reverse.dropWhile isBlank).reverse

/-- A text without the blanks at its two ends. -/
def trim (text : Chars) : Chars :=
  trimEnd (trimStart text)

/-- Puts a character in front of the first piece, or makes it a piece of its own. -/
def pushFront (c : Char) : List Chars → List Chars
  | [] => [[c]]
  | piece :: pieces => (c :: piece) :: pieces

/-- The longest runs of characters that are not blank, in their order. -/
def words : Chars → List Chars
  | [] => []
  | c :: rest =>
    if isBlank c then words rest
    else match rest with
      | [] => [[c]]
      | next :: _ => if isBlank next then [c] :: words rest else pushFront c (words rest)

end Chars

namespace Text

/-- A text without the blanks at its two ends. -/
def trim (text : String) : String :=
  String.ofList (Chars.trim text.toList)

end Text

end ServerInventory
