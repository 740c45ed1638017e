import ServerInventory.Text.Utf8
import ServerInventory.Yaml.Scalar

/-!
The tokens of a YAML text. Blocks are seen by their columns: a token that stands to the
right of the innermost block opens a new one, and one that stands to its left closes all
blocks that it does not belong to. That a text was the key of a mapping shows only at the
colon behind it, so the place of every text that may turn out to be a key is kept in mind
until then.

All readers answer nothing where the text is wrong.
-/

namespace ServerInventory.Yaml

/-- How the text of a scalar is written. -/
inductive Style where
  | plain
  | quoted
  | literal
  | folded
deriving DecidableEq, Repr

inductive Token where
  | version (major minor : Nat)
  | tagPrefix (handle : String) (text : Bytes)
  | documentStart
  | documentEnd
  | blockSequence
  | blockMapping
  | blockEnd
  | flowSequence
  | flowSequenceEnd
  | flowMapping
  | flowMappingEnd
  | blockEntry
  | flowEntry
  | key
  | value
  | alias (name : String)
  | anchor (name : String)
  /-- A tag in two parts. Escapes may write bytes in it that are no text. -/
  | tag (handle : String) (suffix : Bytes)
  | scalar (style : Style) (text : String)
deriving DecidableEq, Repr

/-- A place where a key may have begun. -/
structure PossibleKey where
  /-- How many tokens there were before it. -/
  position : Nat
  /-- Whether nothing but a key may stand there. -/
  required : Bool
  offset : Nat
  line : Nat
  column : Nat
deriving DecidableEq, Repr

/-- How far the tokens of a text have been read. -/
structure Scanner where
  cursor : Cursor
  /-- The tokens so far, the latest first. -/
  emitted : List Token := []
  /-- How many tokens there are. -/
  count : Nat := 0
  /-- The column from which on text belongs to the innermost block: one more than that of
  the block itself, and zero outside all blocks. -/
  margin : Nat := 0
  /-- The margins of the blocks around the innermost one, and that outside all blocks. -/
  outer : List Nat := []
  /-- Whether a key may begin here. -/
  keyAllowed : Bool := true
  /-- Where a key may have begun between the innermost brackets or braces. -/
  key : Option PossibleKey := none
  /-- The same for all that is around them. -/
  outerKeys : List (Option PossibleKey) := []
deriving Repr

namespace Scanner

/-- Whether brackets or braces are open. -/
def inFlow (scanner : Scanner) : Bool :=
  !scanner.outerKeys.isEmpty

def emit (token : Token) (scanner : Scanner) : Scanner :=
  { scanner with emitted := token :: scanner.emitted, count := scanner.count + 1 }

/-- Puts a token behind the first tokens, of which there are `position`. -/
def insert (position : Nat) (token : Token) (scanner : Scanner) : Scanner :=
  let behind := scanner.count - position
  { scanner with
    emitted := scanner.emitted.take behind ++ token :: scanner.emitted.drop behind
    count := scanner.count + 1 }

/-- Adds a token that is written with some characters. -/
def indicator (width : Nat) (token : Token) (scanner : Scanner) : Scanner :=
  { scanner.emit token with cursor := scanner.cursor.skip width }

/-! ## Blocks -/

/-- Opens a block at a column to the right of the innermost one, with a token of its own
behind the first tokens. -/
def openBlock (column position : Nat) (token : Token) (scanner : Scanner) : Scanner :=
  if scanner.inFlow || column < scanner.margin then scanner
  else
    { scanner.insert position token with
      outer := scanner.margin :: scanner.outer
      margin := column + 1 }

/-- Closes blocks, of which `outer` are those around the innermost one. -/
def closeAll (margin : Nat) : (outer : List Nat) → Scanner → Scanner
  | [], scanner => scanner
  | next :: outer, scanner =>
    if scanner.margin ≤ margin then scanner
    else closeAll margin outer { scanner.emit .blockEnd with margin := next, outer }

/-- Closes all blocks to which text before the column `margin` does not belong. -/
def closeBlocks (margin : Nat) (scanner : Scanner) : Scanner :=
  if scanner.inFlow then scanner else closeAll margin scanner.outer scanner

/-! ## Possible keys -/

/-- Whether a key that began here has grown longer than keys may be: it fits one line and
1024 bytes. -/
def PossibleKey.isStale (key : PossibleKey) (cursor : Cursor) : Bool :=
  key.line < cursor.line || key.offset + 1024 < cursor.offset

/-- A possible key, unless it is stale. -/
def fresh (cursor : Cursor) : Option PossibleKey → Option (Option PossibleKey)
  | none => some none
  | some key =>
    if !PossibleKey.isStale key cursor then some (some key)
    else if key.required then none
    else some none

/-- Forgets the keys that are stale. -/
def forgetStale (scanner : Scanner) : Option Scanner := do
  let key ← fresh scanner.cursor scanner.key
  let outerKeys ← scanner.outerKeys.mapM (fresh scanner.cursor)
  return { scanner with key, outerKeys }

/-- Gives up that a key has begun. -/
def forgetKey (scanner : Scanner) : Option Scanner :=
  if scanner.key.any (·.required) then none else some { scanner with key := none }

/-- Keeps in mind that a key may begin here. -/
def noteKey (scanner : Scanner) : Option Scanner :=
  if !scanner.keyAllowed then some scanner
  else do
    let scanner ← scanner.forgetKey
    let cursor := scanner.cursor
    return { scanner with
      key := some
        { position := scanner.count
          required := !scanner.inFlow && cursor.column + 1 == scanner.margin
          offset := cursor.offset
          line := cursor.line
          column := cursor.column } }

/-- Says whether a key may begin behind the last token. -/
def allowKey (allowed : Bool) (scanner : Scanner) : Scanner :=
  { scanner with keyAllowed := allowed }

/-! ## Tokens one by one -/

/-- Moves over blanks, comments and line ends. -/
def skipToToken : (fuel : Nat) → Scanner → Scanner
  | 0, scanner => scanner
  | fuel + 1, scanner =>
    match scanner.cursor.rest with
    | [] => scanner
    | c :: _ =>
      if c == ' ' || (c == '\t' && (scanner.inFlow || !scanner.keyAllowed)) ||
          (c == '\ufeff' && scanner.cursor.column == 0) then
        skipToToken fuel { scanner with cursor := scanner.cursor.next }
      else if c == '#' then
        skipToToken fuel { scanner with cursor := scanner.cursor.skipWhile (!isBreak ·) }
      else if isBreak c then
        skipToToken fuel
          { scanner with
            cursor := scanner.cursor.nextLine
            keyAllowed := scanner.keyAllowed || !scanner.inFlow }
      else scanner

/-- A byte that is written as two hexadecimal digits behind a percent sign. -/
def escapedByte? (cursor : Cursor) : Option (UInt8 × Cursor) :=
  match cursor.rest with
  | '%' :: high :: low :: _ => do
    let value := (← Chars.hexValue? high) * 16 + (← Chars.hexValue? low)
    return (UInt8.ofNat value, cursor.skip 3)
  | _ => none

/-- How many bytes the form of a byte announces, itself included. -/
def announcedLength? (lead : UInt8) : Option Nat :=
  if lead < 0x80 then some 1
  else if lead < 0xC0 then none
  else if lead < 0xE0 then some 2
  else if lead < 0xF0 then some 3
  else if lead < 0xF8 then some 4
  else none

/-- Some escaped bytes that continue a sequence. -/
def continuation? : (count : Nat) → Cursor → Option (Bytes × Cursor)
  | 0, cursor => some ([], cursor)
  | count + 1, cursor => do
    let (byte, cursor) ← escapedByte? cursor
    if !Bytes.isContinuation byte then failure
    let (more, cursor) ← continuation? count cursor
    return (byte :: more, cursor)

/-- A sequence of escaped bytes as long as its first byte announces. -/
def escapedBytes? (cursor : Cursor) : Option (Bytes × Cursor) := do
  let (lead, cursor) ← escapedByte? cursor
  let (more, cursor) ← continuation? ((← announcedLength? lead) - 1) cursor
  return (lead :: more, cursor)

/-- A character of a tag. Some more may stand in a full one. -/
def isTagChar (full : Bool) (c : Char) : Bool :=
  isNameChar c || ";/?:@&=+$.!~*'()".toList.contains c ||
    (full && (c == ',' || c == '[' || c == ']'))

/-- The bytes of a part of a tag. -/
def tagBytes? (full : Bool) : (fuel : Nat) → Cursor → Option (Bytes × Cursor)
  | 0, _ => none
  | fuel + 1, cursor =>
    match cursor.rest with
    | [] => some ([], cursor)
    | c :: _ =>
      if c == '%' then do
        let (bytes, cursor) ← escapedBytes? cursor
        let (more, cursor) ← tagBytes? full fuel cursor
        return (bytes ++ more, cursor)
      else if isTagChar full c then do
        let (more, cursor) ← tagBytes? full fuel cursor.next
        return (UInt8.ofNat c.toNat :: more, cursor)
      else some ([], cursor)

/-- A part of a tag, which may be empty. A null byte ends it. -/
def tagPart? (full : Bool) (cursor : Cursor) : Option (Bytes × Cursor) := do
  let (bytes, behind) ← tagBytes? full (cursor.rest.length + 1) cursor
  return (bytes.takeWhile (· != 0), behind)

/-- A part of a tag that is written as something. -/
def somePart? (full : Bool) (cursor : Cursor) : Option (Bytes × Cursor) := do
  let (bytes, behind) ← tagPart? full cursor
  if behind.offset = cursor.offset then none else return (bytes, behind)

/-- A number of at most nine digits. -/
def versionNumber? (cursor : Cursor) : Option (Nat × Cursor) := do
  let (digits, cursor) := cursor.span Chars.isDigit
  if 9 < digits.length then none
  else return (← Chars.natural? digits, cursor)

/-- What follows a directive for a version. -/
def version? (cursor : Cursor) : Option (Token × Cursor) := do
  let (major, cursor) ← versionNumber? cursor
  if !cursor.starts '.' then none
  else
    let (minor, cursor) ← versionNumber? cursor.next
    return (.version major minor, cursor)

/-- What follows a directive for a handle of tags: the handle, and the start of the tags
that are written with it. -/
def tagPrefix? (cursor : Cursor) : Option (Token × Cursor) := do
  let (handle, cursor) := cursor.span (!isGap ·)
  let middle := (handle.drop 1).dropLast
  if handle.head? == some '!' && handle.getLast? == some '!' && middle.all isNameChar then
    let (front, cursor) ← somePart? true (cursor.skipWhile isSpacing)
    if cursor.atGap then return (.tagPrefix (String.ofList handle) front, cursor) else none
  else none

/-- The line of a directive behind its percent sign. -/
def directive? (cursor : Cursor) : Parsed Token :=
  let (name, cursor) := cursor.span (!isGap ·)
  let cursor := cursor.skipWhile isSpacing
  match String.ofList name with
  | "YAML" => version? cursor
  | "TAG" => tagPrefix? cursor
  | _ => none

/-- A directive, which takes a line of its own. -/
def directive (scanner : Scanner) : Option Scanner := do
  let scanner ← (scanner.closeBlocks 0).forgetKey
  let (token, cursor) ← directive? scanner.cursor.next
  let cursor := cursor.skipWhile isSpacing
  let cursor := if cursor.starts '#' then cursor.skipWhile (!isBreak ·) else cursor
  if cursor.atBreak || cursor.rest.isEmpty then
    return { (scanner.emit token).allowKey false with cursor := cursor.nextLine }
  else none

/-- A line that starts or ends a document. -/
def marker (token : Token) (scanner : Scanner) : Option Scanner := do
  let scanner ← (scanner.closeBlocks 0).forgetKey
  return (scanner.indicator 3 token).allowKey false

/-- An opening bracket or brace. -/
def openFlow (token : Token) (scanner : Scanner) : Option Scanner := do
  let scanner ← scanner.noteKey
  return ({ scanner with
    key := none, outerKeys := scanner.key :: scanner.outerKeys }.indicator 1 token).allowKey true

/-- A closing bracket or brace. -/
def closeFlow (token : Token) (scanner : Scanner) : Option Scanner := do
  let scanner ← scanner.forgetKey
  let scanner :=
    match scanner.outerKeys with
    | [] => scanner
    | key :: outerKeys => { scanner with key, outerKeys }
  return (scanner.indicator 1 token).allowKey false

def flowEntry (scanner : Scanner) : Option Scanner := do
  let scanner ← scanner.forgetKey
  return (scanner.indicator 1 .flowEntry).allowKey true

/-- The start of an item or of a key that is marked as such, in a block that may begin
with it. -/
def blockIndicator (opening token : Token) (scanner : Scanner) : Option Scanner :=
  if !scanner.inFlow && !scanner.keyAllowed then none
  else do
    let scanner ←
      (scanner.openBlock scanner.cursor.column scanner.count opening).forgetKey
    return scanner.indicator 1 token

def blockEntry (scanner : Scanner) : Option Scanner :=
  (scanner.blockIndicator .blockSequence .blockEntry).map (allowKey true)

def explicitKey (scanner : Scanner) : Option Scanner :=
  (scanner.blockIndicator .blockMapping .key).map (allowKey (!scanner.inFlow))

/-- A colon. If a key may have begun before, it has. -/
def value (scanner : Scanner) : Option Scanner :=
  match scanner.key with
  | some key =>
    let scanner := scanner.insert key.position .key
    let scanner := scanner.openBlock key.column key.position .blockMapping
    some (({ scanner with key := none }.indicator 1 .value).allowKey false)
  | none =>
    if !scanner.inFlow && !scanner.keyAllowed then none
    else
      let scanner := scanner.openBlock scanner.cursor.column scanner.count .blockMapping
      some ((scanner.indicator 1 .value).allowKey (!scanner.inFlow))

/-- The name of an anchor or an alias behind its sign. -/
def name? (cursor : Cursor) : Parsed String :=
  let (name, cursor) := cursor.span isNameChar
  let ends := cursor.atGap || cursor.rest.head?.any fun c => "?:,]\x7d%@`".toList.contains c
  if name.isEmpty || !ends then none else some (String.ofList name, cursor)

/-- An anchor or an alias. -/
def reference (token : String → Token) (scanner : Scanner) : Option Scanner := do
  let scanner ← scanner.noteKey
  let (name, cursor) ← name? scanner.cursor.next
  return { (scanner.emit (token name)).allowKey false with cursor }

/-- A tag: in angle brackets, or a handle with a suffix. -/
def tag? (cursor : Cursor) : Option (Token × Cursor) := do
  if cursor.next.starts '<' then
    let (text, cursor) ← somePart? true (cursor.skip 2)
    if cursor.starts '>' then return (.tag "" text, cursor.next) else none
  else
    let (name, behind) := cursor.next.span isNameChar
    if behind.starts '!' then
      let (suffix, cursor) ← somePart? false behind.next
      return (.tag ("!" ++ String.ofList name ++ "!") suffix, cursor)
    else
      let (suffix, cursor) ← tagPart? false cursor.next
      if suffix.isEmpty then return (.tag "" (Bytes.ofText "!"), cursor)
      else return (.tag "!" suffix, cursor)

def tag (scanner : Scanner) : Option Scanner := do
  let scanner ← scanner.noteKey
  let (token, cursor) ← tag? scanner.cursor
  if cursor.atGap || (scanner.inFlow && cursor.starts ',') then
    return { (scanner.emit token).allowKey false with cursor }
  else none

/-- A block of lines. -/
def blockScalar (literal : Bool) (scanner : Scanner) : Option Scanner := do
  let scanner ← scanner.forgetKey
  let (text, cursor) ← block literal scanner.margin scanner.cursor.next
  let style := if literal then Style.literal else Style.folded
  return { (scanner.emit (.scalar style (String.ofList text))).allowKey true with cursor }

def quotedScalar (double : Bool) (scanner : Scanner) : Option Scanner := do
  let scanner ← scanner.noteKey
  let (text, cursor) ← quoted double scanner.cursor.next
  return { (scanner.emit (.scalar .quoted (String.ofList text))).allowKey false with cursor }

/-- A plain text; where a line ended behind it a key may begin. -/
def plainScalar (scanner : Scanner) : Option Scanner := do
  let scanner ← scanner.noteKey
  let ((text, broken), cursor) ← plain scanner.inFlow scanner.margin scanner.cursor
  return { (scanner.emit (.scalar .plain (String.ofList text))).allowKey broken with cursor }

/-- Whether a plain text may start with these characters: with anything but an indicator,
and with three of the indicators where something else is glued to them. -/
def startsPlain (inFlow : Bool) : Chars → Bool
  | [] => false
  | c :: rest =>
    (!isGap c && !"-?:,[]\x7b\x7d#&*!|>'\"%@`".toList.contains c) ||
      (c == '-' && !rest.head?.any isSpacing) ||
      (!inFlow && (c == '?' || c == ':') && !startsGap rest)

/-- Whether blanks, a line end or nothing follows the character here. -/
def standsAlone (scanner : Scanner) : Bool :=
  startsGap (scanner.cursor.rest.drop 1)

/-- The token that starts here, of which `c` is the first character. -/
def token (c : Char) (scanner : Scanner) : Option Scanner :=
  let cursor := scanner.cursor
  let inFlow := scanner.inFlow
  if c == '%' && cursor.column == 0 then scanner.directive
  else if cursor.atMarker then
    scanner.marker (if c == '-' then .documentStart else .documentEnd)
  else match c with
    | '[' => scanner.openFlow .flowSequence
    | '\x7b' => scanner.openFlow .flowMapping
    | ']' => scanner.closeFlow .flowSequenceEnd
    | '\x7d' => scanner.closeFlow .flowMappingEnd
    | ',' => scanner.flowEntry
    | '*' => scanner.reference .alias
    | '&' => scanner.reference .anchor
    | '!' => scanner.tag
    | '\'' => scanner.quotedScalar false
    | '"' => scanner.quotedScalar true
    | _ =>
      if c == '-' && scanner.standsAlone then scanner.blockEntry
      else if c == '?' && (inFlow || scanner.standsAlone) then scanner.explicitKey
      else if c == ':' && (inFlow || scanner.standsAlone) then scanner.value
      else if c == '|' && !inFlow then scanner.blockScalar true
      else if c == '>' && !inFlow then scanner.blockScalar false
      else if startsPlain inFlow cursor.rest then scanner.plainScalar
      else none

/-! ## All tokens -/

/-- Reads all tokens from here on. Every token takes at least one character. -/
def run : (fuel : Nat) → Scanner → Option (List Token)
  | 0, _ => none
  | fuel + 1, scanner => do
    let scanner ← (scanner.skipToToken (scanner.cursor.rest.length + 1)).forgetStale
    match scanner.cursor.rest with
    | [] =>
      let scanner ← (scanner.closeBlocks 0).forgetKey
      return scanner.emitted.reverse
    | c :: _ => (scanner.closeBlocks (scanner.cursor.column + 1)).token c >>= run fuel

end Scanner

/-- The tokens of a text. -/
def tokens? (text : String) : Option (List Token) :=
  let text := text.toList
  if text.all isAllowed then Scanner.run (text.length + 1) { cursor := { rest := text } }
  else none

end ServerInventory.Yaml
