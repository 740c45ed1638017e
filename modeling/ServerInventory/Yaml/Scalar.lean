import ServerInventory.Yaml.Cursor

/-!
The texts of scalars. A plain or quoted text may go on over several lines; then a single
line end counts as a space, and the first of several as nothing. A block of lines keeps
its line ends or is folded in the same way.

All readers answer nothing where the text is wrong.
-/

namespace ServerInventory.Yaml

/-- What was read, and the place behind it. -/
abbrev Parsed (α : Type) : Type := Option (α × Cursor)

/-- Puts characters in front of a text. -/
def Parsed.after (front : Chars) (parsed : Parsed Chars) : Parsed Chars :=
  parsed.map fun result => (front ++ result.1, result.2)

/-! ## Gaps -/

/-- What stands between two words. -/
structure Gap where
  /-- The blanks, where no line ends. -/
  blanks : Chars := []
  /-- Whether a line ends. -/
  broken : Bool := false
  /-- The first line end. -/
  first : Chars := []
  /-- All further line ends. -/
  more : Chars := []
deriving DecidableEq, Repr

namespace Gap

/-- What a gap is worth as text. -/
def text (gap : Gap) : Chars :=
  if !gap.broken then gap.blanks
  else if gap.first = ['\n'] then (if gap.more.isEmpty then [' '] else gap.more)
  else gap.first ++ gap.more

/-- A gap with one more blank; those behind a line end are indentation. -/
def blank (gap : Gap) (c : Char) : Gap :=
  if gap.broken then gap else { gap with blanks := gap.blanks ++ [c] }

/-- A gap with one more line end. -/
def lineEnd (gap : Gap) (text : Chars) : Gap :=
  if gap.broken then { gap with more := gap.more ++ text }
  else { gap with broken := true, first := text }

/-- Reads on in a gap up to the next word. A tab is no indentation: none may stand before
the column `margin` of a line. -/
def extend (margin : Nat) : (fuel : Nat) → Gap → Cursor → Parsed Gap
  | 0, _, _ => none
  | fuel + 1, gap, cursor =>
    match cursor.rest with
    | [] => some (gap, cursor)
    | c :: _ =>
      if isBreak c then extend margin fuel (gap.lineEnd cursor.breakText) cursor.nextLine
      else if isSpacing c then
        if c == '\t' && gap.broken && cursor.column < margin then none
        else extend margin fuel (gap.blank c) cursor.next
      else some (gap, cursor)

/-- Reads the rest of a gap. -/
def read (margin : Nat) (gap : Gap) (cursor : Cursor) : Parsed Gap :=
  extend margin (cursor.rest.length + 1) gap cursor

end Gap

/-! ## Plain texts -/

/-- A word of a plain text. A colon before a gap ends it; so do, between brackets or
braces, the characters with a meaning there. -/
def plainWord (inFlow : Bool) : Chars → Option Chars
  | [] => some []
  | c :: rest =>
    if isGap c then some []
    else if inFlow && c == ':' && rest.head?.any (fun d => isFlowIndicator d || d == '?') then
      none
    else if (c == ':' && startsGap rest) || (inFlow && isFlowIndicator c) then some []
    else (plainWord inFlow rest).map (c :: ·)

/-- A plain text behind a gap. The result says also whether a line ended behind it. -/
def plainBody (inFlow : Bool) (margin : Nat) :
    (fuel : Nat) → Gap → Cursor → Option ((Chars × Bool) × Cursor)
  | 0, _, _ => none
  | fuel + 1, gap, cursor =>
    if cursor.atMarker || cursor.starts '#' then some (([], gap.broken), cursor)
    else do
      let word ← plainWord inFlow cursor.rest
      if word.isEmpty then return (([], gap.broken), cursor)
      let text := gap.text ++ word
      let cursor := cursor.skip word.length
      if !cursor.atGap || cursor.rest.isEmpty then return ((text, false), cursor)
      let (gap, cursor) ← Gap.read margin {} cursor
      if !inFlow && cursor.column < margin then return ((text, gap.broken), cursor)
      let ((more, broken), cursor) ← plainBody inFlow margin fuel gap cursor
      return ((text ++ more, broken), cursor)

/-- A plain text. -/
def plain (inFlow : Bool) (margin : Nat) (cursor : Cursor) : Parsed (Chars × Bool) :=
  plainBody inFlow margin (cursor.rest.length + 1) {} cursor

/-! ## Quoted texts -/

/-- The character of a one-letter escape. -/
def escaped? : Char → Option Char
  | '0' => some '\x00'
  | 'a' => some '\x07'
  | 'b' => some '\x08'
  | 't' => some '\t'
  | '\t' => some '\t'
  | 'n' => some '\n'
  | 'v' => some '\x0b'
  | 'f' => some '\x0c'
  | 'r' => some '\r'
  | 'e' => some '\x1b'
  | ' ' => some ' '
  | '"' => some '"'
  | '/' => some '/'
  | '\\' => some '\\'
  | 'N' => some '\u0085'
  | '_' => some '\u00a0'
  | 'L' => some '\u2028'
  | 'P' => some '\u2029'
  | _ => none

/-- How many hexadecimal digits follow the letter of an escape. -/
def escapeWidth : Char → Nat
  | 'x' => 2
  | 'u' => 4
  | 'U' => 8
  | _ => 0

/-- The character whose number some hexadecimal digits write. -/
def charOfHex? (digits : Chars) : Option Char := do
  let values ← digits.mapM Chars.hexValue?
  let code := values.foldl (fun code value => code * 16 + value) 0
  if code.isValidChar then some (Char.ofNat code) else none

/-- The character of the escape that the letter at the cursor starts, behind a backslash. -/
def escape? (cursor : Cursor) : Parsed Char :=
  match cursor.rest with
  | [] => none
  | letter :: rest =>
    match escapeWidth letter with
    | 0 => (escaped? letter).map fun c => (c, cursor.next)
    | width =>
      if rest.length < width then none
      else (charOfHex? (rest.take width)).map fun c => (c, cursor.skip (width + 1))

/-- A quoted text up to its closing quote. Only double quotes know escapes; a single quote
is doubled to stand for itself. -/
def quotedBody (double : Bool) : (fuel : Nat) → Cursor → Option (Chars × Cursor)
  | 0, _ => none
  | fuel + 1, cursor =>
    let quote := if double then '"' else '\''
    if cursor.atMarker then none
    else match cursor.rest with
    | [] => none
    | c :: rest =>
      if c == quote then
        if !double && rest.head? == some quote then
          Parsed.after [quote] (quotedBody double fuel (cursor.skip 2))
        else some ([], cursor.next)
      else if isGap c then do
        let (gap, cursor) ← Gap.read 0 {} cursor
        Parsed.after gap.text (quotedBody double fuel cursor)
      else if double && c == '\\' then
        if cursor.next.atBreak then do
          let (gap, cursor) ← Gap.read 0 { broken := true } cursor.next.nextLine
          Parsed.after gap.text (quotedBody double fuel cursor)
        else do
          let (character, cursor) ← escape? cursor.next
          Parsed.after [character] (quotedBody double fuel cursor)
      else Parsed.after [c] (quotedBody double fuel cursor.next)

/-- A quoted text behind its opening quote. -/
def quoted (double : Bool) (cursor : Cursor) : Parsed Chars :=
  quotedBody double (cursor.rest.length + 1) cursor

/-! ## Blocks of lines -/

/-- What becomes of the line ends behind the last line of a block. -/
inductive Chomping where
  | clip
  | strip
  | keep
deriving DecidableEq, Repr

def chomping? : Char → Option Chomping
  | '-' => some .strip
  | '+' => some .keep
  | _ => none

/-- The digit that says how far a block is indented. -/
def indentation? (c : Char) : Option Nat :=
  if '1' ≤ c && c ≤ '9' then some (Chars.digitValue c) else none

/-- What follows the indicator of a block: how its end is treated and how far it is
indented, in either order. A zero is left for the caller to stumble over. -/
def blockHeader (cursor : Cursor) : (Chomping × Option Nat) × Cursor :=
  let chomping := cursor.rest.head?.bind chomping?
  let indentation := cursor.rest.head?.bind indentation?
  let second := cursor.rest[1]?
  match chomping, indentation with
  | some chomping, _ =>
    match second.bind indentation? with
    | some indentation => ((chomping, some indentation), cursor.skip 2)
    | none => ((chomping, none), cursor.next)
  | none, some indentation =>
    match second.bind chomping? with
    | some chomping => ((chomping, some indentation), cursor.skip 2)
    | none => ((.clip, some indentation), cursor.next)
  | none, none => ((.clip, none), cursor)

/-- Moves to the first character of a line that counts, over empty lines: their line ends,
and the widest indentation that was met. Without a known indentation all spaces count as
indentation. -/
def blockBreaks (indentation : Option Nat) :
    (fuel : Nat) → (widest : Nat) → Cursor → Parsed (Chars × Nat)
  | 0, _, _ => none
  | fuel + 1, widest, cursor =>
    let spaces := cursor.rest.takeWhile (· == ' ')
    let count :=
      match indentation with
      | none => spaces.length
      | some column => min spaces.length (column - cursor.column)
    let cursor := cursor.skip count
    let widest := max widest cursor.column
    if cursor.starts '\t' && indentation.all (cursor.column < ·) then none
    else if cursor.atBreak then
      (blockBreaks indentation fuel widest cursor.nextLine).map fun result =>
        ((cursor.breakText ++ result.1.1, result.1.2), result.2)
    else some (([], widest), cursor)

/-- The text of the lines of a block. `ended` is the end of the line before, `empty` the
ends of the empty lines behind it, and `led` says whether the line before started with a
blank; folded lines of which neither does are joined. -/
def blockLines (literal : Bool) (chomping : Chomping) (column : Nat) :
    (fuel : Nat) → (ended empty : Chars) → (led : Bool) → Cursor → Option (Chars × Cursor)
  | 0, _, _, _, _ => none
  | fuel + 1, ended, empty, led, cursor =>
    if cursor.column != column || cursor.rest.isEmpty then
      some (match chomping with
        | .strip => []
        | .clip => ended
        | .keep => ended ++ empty, cursor)
    else do
      let leads := cursor.rest.head?.any isSpacing
      let joint :=
        if !literal && ended == ['\n'] && !led && !leads then
          (if empty.isEmpty then [' '] else empty)
        else ended ++ empty
      let (line, cursor) := cursor.span (!isBreak ·)
      let ended := cursor.breakText
      let ((empty, _), cursor) ←
        blockBreaks (some column) (cursor.rest.length + 1) 0 cursor.nextLine
      Parsed.after (joint ++ line)
        (blockLines literal chomping column fuel ended empty leads cursor)

/-- A block of lines behind its indicator. `margin` is the column from which on text
belongs to the surrounding block. -/
def block (literal : Bool) (margin : Nat) (cursor : Cursor) : Option (Chars × Cursor) := do
  let ((chomping, indentation), cursor) := blockHeader cursor
  let cursor := cursor.skipWhile isSpacing
  let cursor := if cursor.starts '#' then cursor.skipWhile (!isBreak ·) else cursor
  if !(cursor.atBreak || cursor.rest.isEmpty) then none
  else
    let cursor := cursor.nextLine
    let known := indentation.map (margin - 1 + ·)
    let ((empty, widest), cursor) ← blockBreaks known (cursor.rest.length + 1) 0 cursor
    let column := known.getD (max widest (max margin 1))
    blockLines literal chomping column (cursor.rest.length + 1) [] empty false cursor

end ServerInventory.Yaml
