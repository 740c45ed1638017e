import ServerInventory.Json.Basic

/-!
Documents read from text. The grammar is that of JSON and nothing more; strings with
halves of characters and numerals beyond all numbers are taken in, for whoever skips over
a value need not understand it.
-/

namespace ServerInventory.Json

/-- The blanks of JSON: space, tab, line feed and carriage return. -/
def isSpace (c : Char) : Bool :=
  c == ' ' || c == '\t' || c == '\n' || c == '\r'

def skipSpace (text : Chars) : Chars :=
  text.dropWhile isSpace

/-! ## Strings -/

/-- The number that four hexadecimal digits write. -/
def hexUnit? (a b c d : Char) : Option Nat := do
  let a ← Chars.hexValue? a
  let b ← Chars.hexValue? b
  let c ← Chars.hexValue? c
  let d ← Chars.hexValue? d
  return ((a * 16 + b) * 16 + c) * 16 + d

/-- The first half of a character beyond U+FFFF. -/
def isHighHalf (unit : Nat) : Bool :=
  0xD800 ≤ unit && unit ≤ 0xDBFF

/-- The second half of a character beyond U+FFFF. -/
def isLowHalf (unit : Nat) : Bool :=
  0xDC00 ≤ unit && unit ≤ 0xDFFF

/-- The character of two halves. -/
def joinHalves (high low : Nat) : Char :=
  Char.ofNat (0x10000 + (high - 0xD800) * 0x400 + (low - 0xDC00))

/-- The character of a one-letter escape. -/
def escaped? : Char → Option Char
  | '"' => some '"'
  | '\\' => some '\\'
  | '/' => some '/'
  | 'b' => some '\x08'
  | 'f' => some '\x0c'
  | 'n' => some '\n'
  | 'r' => some '\r'
  | 't' => some '\t'
  | _ => none

/-- What was read, and the text behind it. -/
abbrev Parsed (α : Type) := Option (α × Chars)

/-- A character in front of the content of a string. -/
def Parsed.push (c : Char) (parsed : Parsed (Option Chars)) : Parsed (Option Chars) :=
  parsed.map fun result => (result.1.map (c :: ·), result.2)

/-- Half a character in front of the content of a string, which then is no text. -/
def Parsed.spoil (parsed : Parsed (Option Chars)) : Parsed (Option Chars) :=
  parsed.map fun result => (none, result.2)

/-- Spoils the content of a string behind a first half that no second one followed. -/
def Parsed.behind (pending : Option Nat) (parsed : Parsed (Option Chars)) :
    Parsed (Option Chars) :=
  if pending.isSome then parsed.spoil else parsed

/-- The content of a string behind its opening quote, or behind the first half of a
character, which is then `pending`. -/
def stringBody (pending : Option Nat) : Chars → Parsed (Option Chars)
  | [] => none
  | '"' :: rest => Parsed.behind pending (some (some [], rest))
  | '\\' :: 'u' :: a :: b :: c :: d :: rest =>
    match hexUnit? a b c d with
    | none => none
    | some unit =>
      match pending with
      | some high =>
        if isLowHalf unit then Parsed.push (joinHalves high unit) (stringBody none rest)
        else Parsed.spoil (stringBody none rest)
      | none =>
        if isHighHalf unit then stringBody (some unit) rest
        else if isLowHalf unit then Parsed.spoil (stringBody none rest)
        else Parsed.push (Char.ofNat unit) (stringBody none rest)
  | '\\' :: c :: rest =>
    match escaped? c with
    | none => none
    | some character => Parsed.behind pending (Parsed.push character (stringBody none rest))
  | c :: rest =>
    if c.toNat < 0x20 then none
    else Parsed.behind pending (Parsed.push c (stringBody none rest))

/-- A string behind its opening quote. -/
def string? (text : Chars) : Parsed Quoted :=
  (stringBody none text).map fun result => (result.1.map String.ofList, result.2)

/-! ## Numerals -/

/-- A run of digits, at least one. -/
def digits? (text : Chars) : Parsed Chars :=
  match text.takeWhile Chars.isDigit with
  | [] => none
  | digits => some (digits, text.dropWhile Chars.isDigit)

/-- A run of digits without a needless zero in front. -/
def whole? (text : Chars) : Parsed Chars :=
  match digits? text with
  | some ('0' :: _ :: _, _) => none
  | result => result

/-- The part of a numeral behind a point, if there is one. -/
def fraction? : Chars → Parsed (Option Chars)
  | '.' :: rest => (digits? rest).map fun result => (some result.1, result.2)
  | text => some (none, text)

/-- The part of a numeral behind the letter of the exponent. -/
def exponentBody? : Chars → Parsed (Option (Bool × Chars))
  | '-' :: rest => (digits? rest).map fun result => (some (true, result.1), result.2)
  | '+' :: rest => (digits? rest).map fun result => (some (false, result.1), result.2)
  | text => (digits? text).map fun result => (some (false, result.1), result.2)

/-- The exponent of a numeral, if there is one. -/
def exponent? : Chars → Parsed (Option (Bool × Chars))
  | 'e' :: rest => exponentBody? rest
  | 'E' :: rest => exponentBody? rest
  | text => some (none, text)

/-- A numeral behind its sign. -/
def numeral? (negative : Bool) (text : Chars) : Option (Numeral × Chars) := do
  let (whole, text) ← whole? text
  let (fraction, text) ← fraction? text
  let (exponent, text) ← exponent? text
  return ({ negative, whole, fraction, exponent }, text)

/-! ## Values -/

mutual

/-- A value, with blanks before it. `fuel` bounds the steps left. -/
def value? : (fuel : Nat) → Chars → Parsed Json
  | 0, _ => none
  | fuel + 1, text =>
    match skipSpace text with
    | 'n' :: 'u' :: 'l' :: 'l' :: rest => some (.null, rest)
    | 't' :: 'r' :: 'u' :: 'e' :: rest => some (.flag true, rest)
    | 'f' :: 'a' :: 'l' :: 's' :: 'e' :: rest => some (.flag false, rest)
    | '"' :: rest => (string? rest).map fun result => (.quoted result.1, result.2)
    | '[' :: rest =>
      match skipSpace rest with
      | ']' :: after => some (.list [], after)
      | _ => (items? fuel rest).map fun result => (.list result.1, result.2)
    | '\x7b' :: rest =>
      match skipSpace rest with
      | '\x7d' :: after => some (.object [], after)
      | _ => (members? fuel rest).map fun result => (.object result.1, result.2)
    | '-' :: rest => (numeral? true rest).map fun result => (.numeral result.1, result.2)
    | other => (numeral? false other).map fun result => (.numeral result.1, result.2)

/-- The items of a list, at least one, up to its closing bracket. -/
def items? : (fuel : Nat) → Chars → Option (List Json × Chars)
  | 0, _ => none
  | fuel + 1, text => do
    let (item, text) ← value? fuel text
    match skipSpace text with
    | ']' :: rest => some ([item], rest)
    | ',' :: rest =>
      let (items, text) ← items? fuel rest
      some (item :: items, text)
    | _ => none

/-- The members of an object, at least one, up to its closing brace. -/
def members? : (fuel : Nat) → Chars → Option (List (Quoted × Json) × Chars)
  | 0, _ => none
  | fuel + 1, text =>
    match skipSpace text with
    | '"' :: rest => do
      let (name, text) ← string? rest
      match skipSpace text with
      | ':' :: rest =>
        let (value, text) ← value? fuel rest
        match skipSpace text with
        | '\x7d' :: rest => some ([(name, value)], rest)
        | ',' :: rest =>
          let (members, text) ← members? fuel rest
          some ((name, value) :: members, text)
        | _ => none
      | _ => none
    | _ => none

end

/-- The document that a text is. Every step either takes a character away or is the one
between a list or object and its first value, so twice the length bounds the steps. -/
def ofChars? (text : Chars) : Option Json :=
  match value? (2 * text.length + 2) text with
  | some (document, rest) => if (skipSpace rest).isEmpty then some document else none
  | none => none

/-- The document that a text is. -/
def ofText? (text : String) : Option Json :=
  ofChars? text.toList

/-- The document that a text is, seen without a record in mind. -/
def settledOfText? (text : String) : Option Json :=
  (ofText? text).bind (settle? depthLimit)

end ServerInventory.Json
