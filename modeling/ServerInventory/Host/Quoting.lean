import ServerInventory.Text.Lines
import ServerInventory.Text.Utf8

/-!
Names in the messages of programs. A name of a file is written so that a shell would read it
back: as it is where that is possible, else in quotes, and with escapes for bytes that cannot
be seen. Other words stand between single quotes with a backslash in front of what would be
misread.
-/

namespace ServerInventory.Host.Quoting

/-- The letter of an escape for a byte. -/
def letter? (byte : UInt8) : Option UInt8 :=
  [(7, 97), (8, 98), (9, 116), (10, 110), (11, 118), (12, 102), (13, 114)].lookup byte

/-- Whether a byte shows as a character. -/
def isVisible (byte : UInt8) : Bool :=
  32 ≤ byte && byte < 127

/-- A byte behind a backslash: as a letter, or as three octal digits. -/
def escape (byte : UInt8) : Bytes :=
  match letter? byte with
  | some letter => [92, letter]
  | none => [92, 48 + byte / 64, 48 + byte / 8 % 8, 48 + byte % 8]

/-- The bytes that mean something to a shell wherever they stand. -/
def special : Bytes :=
  Bytes.ofText " !\"$&'()*:;<=>?[\\^\x60|"

/-- The bytes that mean something to a shell at the start of a word, and those that do if
they are all of it. -/
def specialFirst : Bytes :=
  Bytes.ofText "#~"

def specialAlone : Bytes :=
  Bytes.ofText "\x7b\x7d"

/-- Whether a name has to be quoted. -/
def needsQuotes (name : Bytes) : Bool :=
  name.isEmpty || name.any (fun byte => !isVisible byte || special.contains byte) ||
    name.head?.any specialFirst.contains ||
    (name.length == 1 && name.all specialAlone.contains)

/-- Whether a byte stands for itself between double quotes too. -/
def isPlain (isFirst isAlone : Bool) (byte : UInt8) : Bool :=
  byte == 32 || byte == 39 || byte == 58 ||
    (isVisible byte && !special.contains byte && (isFirst || !specialFirst.contains byte) &&
      (isAlone || !specialAlone.contains byte))

def isAllPlain (name : Bytes) : Bool :=
  name.head?.all (isPlain true (name.length == 1)) && name.tail.all (isPlain false false)

/-- The inside of single quotes, which end where bytes have to be escaped and start again
after that. -/
def inSingleQuotes : (escaping : Bool) → Bytes → Bytes
  | _, [] => []
  | escaping, byte :: rest =>
    if byte == 39 then [39, 92, 39, 39] ++ inSingleQuotes false rest
    else if isVisible byte then
      (if escaping then [39, 39] else []) ++ byte :: inSingleQuotes false rest
    else (if escaping then [] else [39, 36, 39]) ++ escape byte ++ inSingleQuotes true rest

/-- The name of a file as a shell would read it. -/
def fileName (name : String) : Bytes :=
  let name := Bytes.ofText name
  if !needsQuotes name then name
  else if name.contains 39 && isAllPlain name then 34 :: name ++ [34]
  else 39 :: inSingleQuotes false name ++ [39]

/-- A word between single quotes. -/
def word (text : String) : Bytes :=
  39 :: (Bytes.ofText text).flatMap (fun byte =>
    if byte == 39 || byte == 92 then [92, byte]
    else if isVisible byte then [byte]
    else escape byte) ++ [39]

end ServerInventory.Host.Quoting
