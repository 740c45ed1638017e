import ServerInventory.Text.Numeral

/-!
Places in a YAML text. Lines and columns mean something in YAML, so a cursor keeps count of
them while it moves on.
-/

namespace ServerInventory.Yaml

/-! ## Characters -/

/-- A character that ends a line: line feed, carriage return, and the line and paragraph
ends beyond ASCII. -/
def isBreak (c : Char) : Bool :=
  c == '\n' || c == '\r' || c == '\u0085' || c == '\u2028' || c == '\u2029'

/-- A character that separates within a line. -/
def isSpacing (c : Char) : Bool :=
  c == ' ' || c == '\t'

/-- A character after which a word or an indicator is at its end. -/
def isGap (c : Char) : Bool :=
  isSpacing c || isBreak c

/-- A character that may stand in a text at all. -/
def isAllowed (c : Char) : Bool :=
  let code := c.toNat
  code == 0x9 || code == 0xA || code == 0xD || (0x20 ≤ code && code ≤ 0x7E) ||
    code == 0x85 || (0xA0 ≤ code && code ≤ 0xFFFD) || 0x10000 ≤ code

/-- A character of the names of anchors and directives. -/
def isNameChar (c : Char) : Bool :=
  c.isAlphanum || c == '_' || c == '-'

/-- A character that has a meaning of its own between brackets and braces. -/
def isFlowIndicator (c : Char) : Bool :=
  c == ',' || c == '[' || c == ']' || c == '\x7b' || c == '\x7d'

/-- Whether a word that ends here has nothing glued to it: a gap follows, or nothing. -/
def startsGap : Chars → Bool
  | [] => true
  | c :: _ => isGap c

/-! ## Cursors -/

/-- A place in a text. -/
structure Cursor where
  /-- The text from here on. -/
  rest : Chars
  /-- How many bytes of the text are behind. -/
  offset : Nat := 0
  line : Nat := 0
  column : Nat := 0
deriving DecidableEq, Repr

namespace Cursor

/-- How many bytes of UTF-8 some characters take. -/
def width (text : Chars) : Nat :=
  (text.map Char.utf8Size).foldl (· + ·) 0

/-- Moves over some characters of the line. -/
def skip (cursor : Cursor) (count : Nat) : Cursor :=
  { cursor with
    rest := cursor.rest.drop count
    offset := cursor.offset + width (cursor.rest.take count)
    column := cursor.column + count }

/-- Moves over one character of the line. -/
def next (cursor : Cursor) : Cursor :=
  cursor.skip 1

/-- The characters from here on that have a property, and the place behind them. -/
def span (cursor : Cursor) (property : Char → Bool) : Chars × Cursor :=
  let taken := cursor.rest.takeWhile property
  (taken, cursor.skip taken.length)

/-- Moves over the characters that have a property. -/
def skipWhile (cursor : Cursor) (property : Char → Bool) : Cursor :=
  (cursor.span property).2

/-- Moves over the end of a line. -/
def nextLine (cursor : Cursor) : Cursor :=
  match cursor.rest with
  | '\r' :: '\n' :: rest =>
    { rest, offset := cursor.offset + 2, line := cursor.line + 1, column := 0 }
  | c :: rest =>
    { rest, offset := cursor.offset + c.utf8Size, line := cursor.line + 1, column := 0 }
  | [] => cursor

/-- What the end of a line is worth as text: a line feed, unless it is one of the two that
Unicode adds. -/
def breakText (cursor : Cursor) : Chars :=
  match cursor.rest with
  | [] => []
  | c :: _ => if c == '\u2028' || c == '\u2029' then [c] else ['\n']

/-- Whether the end of a line is here. -/
def atBreak (cursor : Cursor) : Bool :=
  cursor.rest.head?.any isBreak

/-- Whether a word would end here. -/
def atGap (cursor : Cursor) : Bool :=
  startsGap cursor.rest

def starts (cursor : Cursor) (c : Char) : Bool :=
  cursor.rest.head? == some c

/-- Whether a line that starts or ends a document is here. -/
def atMarker (cursor : Cursor) : Bool :=
  cursor.column == 0 &&
    match cursor.rest with
    | '-' :: '-' :: '-' :: rest => startsGap rest
    | '.' :: '.' :: '.' :: rest => startsGap rest
    | _ => false

end Cursor

end ServerInventory.Yaml
