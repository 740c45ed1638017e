import ServerInventory.Host.Script

/-!
Scripts read from text. A shell reads one line with complete commands after the other and
runs each before it looks at the next; `commands` reads such a line.
-/

namespace ServerInventory.Host

/-- A word, a sign between words, or an end. -/
inductive Lexeme where
  | ending
  | lineEnd
  | sign (text : String)
  /-- The sign of a redirection and the descriptor before it. -/
  | redirect (descriptor : Option Nat) (sign : String)
  | word (word : Word)
deriving Inhabited

/-- What is left of a script. -/
structure Source where
  rest : Chars
  line : Nat := 1
  /-- A lexeme that was read ahead. -/
  ahead : Option Lexeme := none

/-- Why a script cannot be read, and up to which line it was. -/
structure Misreading where
  line : Nat
  reason : String

/-- A part of a script. -/
abbrev Reading (α : Type) := StateT Source (Except Misreading) α

namespace Reading

def fail {α : Type} (reason : String) : Reading α := do
  throw { line := (← get).line, reason }

/-- Moves over some characters. -/
def skip (count : Nat) : Reading Unit :=
  modify fun source =>
    { source with
      rest := source.rest.drop count
      line := source.line + (source.rest.take count).count '\n' }

/-- The characters from here on that have a property. -/
def span (property : Char → Bool) : Reading Chars := do
  let taken := (← get).rest.takeWhile property
  skip taken.length
  return taken

/-! ## Lexemes -/

/-- The words with a meaning of their own at the start of a command. -/
def reserved : List String :=
  ["!", "case", "do", "done", "elif", "else", "esac", "fi", "for", "if", "in", "then",
    "until", "while", "\x7b", "\x7d"]

/-- The reserved word that a lexeme is. -/
def keyword? : Lexeme → Option String
  | .word word => do
    let text := String.ofList (← literal? word)
    if reserved.contains text then some text else none
  | _ => none

/-- The name of a lexeme in a complaint. -/
def nameOf (lexeme : Lexeme) : String :=
  match lexeme with
  | .ending => "end of file"
  | .lineEnd => "newline"
  | .sign text => "\"" ++ text ++ "\""
  | .redirect _ _ => "redirection"
  | .word _ =>
    match keyword? lexeme with
    | some text => "\"" ++ text ++ "\""
    | none => "word"

def unexpected {α : Type} (lexeme : Lexeme) : Reading α :=
  fail (nameOf lexeme ++ " unexpected")

/-- The signs between commands; of two with the same beginning the longer one. -/
def signs : List String :=
  ["&&", "||", ";;", "&", "|", ";", "(", ")"]

/-- The signs of redirections; of two with the same beginning the longer one. -/
def redirectSigns : List String :=
  ["<<-", "<<", "<&", "<>", "<", ">>", ">&", ">|", ">"]

/-- The first of some signs that a text starts with. -/
def signOf? (signs : List String) (text : Chars) : Option String :=
  signs.find? fun sign => sign.toList.isPrefixOf text

/-- A piece in front of others; plain texts grow together. -/
def pushPiece (piece : Piece) (word : Word) : Word :=
  match piece, word with
  | .text front false, .text text false :: rest => .text (front ++ text) false :: rest
  | piece, word => piece :: word

/-- The text up to a closing backquote, in which backslashes protect some characters. -/
def backquoted (quoted : Bool) : (fuel : Nat) → Chars → Option (Chars × Nat)
  | 0, _ => none
  | fuel + 1, text =>
    match text with
    | [] => none
    | '`' :: _ => some ([], 1)
    | '\\' :: c :: rest =>
      let front :=
        if "$`\\".toList.contains c || (quoted && c == '"') then [c] else ['\\', c]
      (backquoted quoted fuel rest).map fun found => (front ++ found.1, found.2 + 2)
    | c :: rest => (backquoted quoted fuel rest).map fun found => (c :: found.1, found.2 + 1)

/-- The complaint about a brace that is never closed. -/
def openBrace (quoted : Bool) : String :=
  if quoted then "Unterminated quoted string" else "Missing '\x7d'"

/-- Cuts the lines up to a mark out of what follows the line at hand. -/
def cutLines (mark : Chars) (stripsTabs : Bool) : Reading Chars := do
  let source ← get
  let line := source.rest.takeWhile (· != '\n')
  let lines := Chars.split '\n' (source.rest.drop (line.length + 1))
  let lines := if stripsTabs then lines.map (·.dropWhile (· == '\t')) else lines
  let body := lines.takeWhile (· != mark)
  let isEnded := body.length < lines.length
  let behind := lines.drop (body.length + 1)
  set { source with
    rest := line ++ (if behind.isEmpty then [] else '\n' :: ['\n'].intercalate behind) }
  return if isEnded then body.flatMap (· ++ ['\n']) else ['\n'].intercalate body

mutual

/-- The rest of a word. -/
def word : (fuel : Nat) → Reading Word
  | 0 => fail "too long"
  | fuel + 1 => do
    match (← get).rest with
    | [] => return []
    | '\\' :: '\n' :: _ =>
      skip 2
      word fuel
    | '\\' :: c :: _ =>
      skip 2
      return .text [c] true :: (← word fuel)
    | '\'' :: _ =>
      skip 1
      let inner ← span (· != '\'')
      if (← get).rest.isEmpty then fail "Unterminated quoted string"
      skip 1
      return .text inner true :: (← word fuel)
    | '"' :: _ =>
      skip 1
      let pieces ← quoted fuel '"'
      return .text [] true :: pieces ++ (← word fuel)
    | '$' :: _ =>
      skip 1
      let piece ← dollar fuel false
      return pushPiece piece (← word fuel)
    | '`' :: _ =>
      let piece ← backquote fuel false
      return piece :: (← word fuel)
    | c :: _ =>
      if endsWord c then return []
      else
        skip 1
        return pushPiece (.text [c] false) (← word fuel)

/-- The pieces of a quoted text up to a closing character, or to the end of the text where
the closing character is a null. -/
def quoted : (fuel : Nat) → (close : Char) → Reading Word
  | 0, _ => fail "too long"
  | fuel + 1, close => do
    match (← get).rest with
    | [] => if close == '\x00' then return [] else fail "Unterminated quoted string"
    | '\\' :: '\n' :: _ =>
      skip 2
      quoted fuel close
    | '\\' :: c :: _ =>
      skip 2
      let text :=
        if "$\\`".toList.contains c || c == close then [c] else ['\\', c]
      return .text text true :: (← quoted fuel close)
    | '$' :: _ =>
      skip 1
      let piece ← dollar fuel true
      return piece :: (← quoted fuel close)
    | '`' :: _ =>
      let piece ← backquote fuel true
      return piece :: (← quoted fuel close)
    | c :: _ =>
      skip 1
      if c == close then return []
      else return .text [c] true :: (← quoted fuel close)

/-- What stands between backquotes. -/
def backquote : (fuel : Nat) → (quoted : Bool) → Reading Piece
  | 0, _ => fail "too long"
  | fuel + 1, quoted => do
    let source ← get
    match backquoted quoted (source.rest.length + 1) (source.rest.drop 1) with
    | none => fail "EOF in backquote substitution"
    | some (text, length) =>
      let (script, _) ← (list fuel false true).run { rest := text, line := source.line }
      skip (length + 1)
      return .output script quoted

/-- What a dollar sign before this place stands for. -/
def dollar : (fuel : Nat) → (quoted : Bool) → Reading Piece
  | 0, _ => fail "too long"
  | fuel + 1, quoted => do
    match (← get).rest with
    | '(' :: '(' :: _ =>
      skip 2
      return .number (← expression fuel 0) quoted
    | '(' :: _ =>
      skip 1
      let script ← list fuel false true
      expect fuel (.sign ")")
      return .output script quoted
    | '\x7b' :: _ =>
      skip 1
      braced fuel quoted
    | c :: _ =>
      if isNameStart c then
        return .parameter (String.ofList (← span isNamePart)) .value quoted
      else if c.isDigit || "$?#@*!-".toList.contains c then
        skip 1
        return .parameter (String.ofList [c]) .value quoted
      else return .text ['$'] quoted
    | [] => return .text ['$'] quoted

/-- A value in braces. -/
def braced : (fuel : Nat) → (quoted : Bool) → Reading Piece
  | 0, _ => fail "too long"
  | fuel + 1, quoted => do
    let measured :=
      match (← get).rest with
      | '#' :: c :: _ => isNamePart c || "$?@*!-".toList.contains c
      | _ => false
    if measured then skip 1
    let name ←
      match (← get).rest with
      | c :: _ =>
        if isNameStart c then span isNamePart
        else if c.isDigit then span (·.isDigit)
        else if "$?#@*!-".toList.contains c then
          skip 1
          pure [c]
        else pure []
      | [] => fail (openBrace quoted)
    let name := String.ofList name
    let rest := (← get).rest
    if name.isEmpty then return ← senseless fuel quoted
    match measured, signOf? ["\x7d", ":-", ":=", ":?", ":+", "-", "=", "?", "+", "%%", "%",
        "##", "#"] rest with
    | true, some "\x7d" =>
      skip 1
      return .parameter name .length quoted
    | false, some "\x7d" =>
      skip 1
      return .parameter name .value quoted
    | false, some sign =>
      skip sign.length
      let word ← bracedWord fuel (quoted && !("%#".toList.contains (sign.toList.headD ' ')))
      let last := sign.toList.getLastD ' '
      let form : Form :=
        if last == '%' || last == '#' then .without (last == '%') (sign.length == 2) word
        else .instead last (sign.length == 2) word
      return .parameter name form quoted
    | _, _ =>
      if rest.head? == some ':' then skip 2
      senseless fuel quoted

/-- The rest of a value in braces that makes no sense. -/
def senseless : (fuel : Nat) → (quoted : Bool) → Reading Piece
  | 0, _ => fail "too long"
  | fuel + 1, quoted => do
    let _ ← bracedWord fuel quoted
    return .parameter "" .senseless quoted

/-- The word up to a closing brace. -/
def bracedWord : (fuel : Nat) → (quoted : Bool) → Reading Word
  | 0, _ => fail "too long"
  | fuel + 1, isQuoted => do
    match (← get).rest with
    | [] => fail (openBrace isQuoted)
    | '\x7d' :: _ =>
      skip 1
      return []
    | '\\' :: c :: _ =>
      skip 2
      let text := if isQuoted && !("$\\`\"\x7d".toList.contains c) then ['\\', c] else [c]
      return .text text true :: (← bracedWord fuel isQuoted)
    | '\'' :: _ =>
      skip 1
      if isQuoted then return .text ['\''] true :: (← bracedWord fuel isQuoted)
      let inner ← span (· != '\'')
      if (← get).rest.isEmpty then fail "Unterminated quoted string"
      skip 1
      return .text inner true :: (← bracedWord fuel isQuoted)
    | '"' :: _ =>
      skip 1
      let pieces ← quoted fuel '"'
      return .text [] true :: pieces ++ (← bracedWord fuel isQuoted)
    | '$' :: _ =>
      skip 1
      let piece ← dollar fuel isQuoted
      return piece :: (← bracedWord fuel isQuoted)
    | '`' :: _ =>
      let piece ← backquote fuel isQuoted
      return piece :: (← bracedWord fuel isQuoted)
    | c :: _ =>
      skip 1
      return pushPiece (.text [c] isQuoted) (← bracedWord fuel isQuoted)

/-- An expression up to its two closing parentheses. -/
def expression : (fuel : Nat) → (depth : Nat) → Reading Word
  | 0, _ => fail "too long"
  | fuel + 1, depth => do
    match (← get).rest with
    | [] => fail "Missing '))'"
    | ')' :: rest =>
      if depth = 0 then
        if rest.head? == some ')' then
          skip 2
          return []
        else fail "Missing '))'"
      else
        skip 1
        return .text [')'] true :: (← expression fuel (depth - 1))
    | '$' :: _ =>
      skip 1
      let piece ← dollar fuel true
      return piece :: (← expression fuel depth)
    | '`' :: _ =>
      let piece ← backquote fuel true
      return piece :: (← expression fuel depth)
    | c :: _ =>
      skip 1
      let depth := if c == '(' then depth + 1 else depth
      return .text [c] true :: (← expression fuel depth)

/-- The next lexeme. -/
def lexeme : (fuel : Nat) → Reading Lexeme
  | 0 => fail "too long"
  | fuel + 1 => do
    let source ← get
    if let some lexeme := source.ahead then
      set { source with ahead := none }
      return lexeme
    match source.rest with
    | [] => return .ending
    | ' ' :: _ =>
      skip 1
      lexeme fuel
    | '\t' :: _ =>
      skip 1
      lexeme fuel
    | '\\' :: '\n' :: _ =>
      skip 2
      lexeme fuel
    | '#' :: _ =>
      let _ ← span (· != '\n')
      lexeme fuel
    | '\n' :: _ =>
      skip 1
      return .lineEnd
    | rest =>
      match signOf? signs rest with
      | some sign =>
        skip sign.length
        return .sign sign
      | none =>
        let digits := rest.takeWhile Chars.isDigit
        match signOf? redirectSigns (rest.drop digits.length) with
        | some sign =>
          skip (digits.length + sign.length)
          return .redirect (Chars.natural? digits) sign
        | none => return .word (← word fuel)

/-- The next lexeme, which stays. -/
def peek : (fuel : Nat) → Reading Lexeme
  | 0 => fail "too long"
  | fuel + 1 => do
    let next ← lexeme fuel
    modify fun source => { source with ahead := some next }
    return next

/-- Moves over a sign that has to come next. -/
def expect : (fuel : Nat) → Lexeme → Reading Unit
  | 0, _ => fail "too long"
  | fuel + 1, wanted => do
    let next ← lexeme fuel
    if nameOf next != nameOf wanted then
      fail (nameOf next ++ " unexpected (expecting " ++ nameOf wanted ++ ")")

/-- Moves over ends of lines. -/
def skipLines : (fuel : Nat) → Reading Unit
  | 0 => fail "too long"
  | fuel + 1 => do
    match ← peek fuel with
    | .lineEnd =>
      let _ ← lexeme fuel
      skipLines fuel
    | _ => return ()

/-- Commands in a row. Those of a line end with it; others end before a lexeme that cannot
start a command, where there has to be a command before that unless `mayEnd`. -/
def list : (fuel : Nat) → (line mayEnd : Bool) → Reading Script
  | 0, _, _ => fail "too long"
  | fuel + 1, line, mayEnd => do
    if !line then skipLines fuel
    let next ← peek fuel
    let ends :=
      match next with
      | .sign text => text == ")" || text == ";;"
      | next => ((keyword? next).map fun text =>
          !(["!", "case", "for", "if", "until", "while", "\x7b", "in"].contains text)).getD false
    match next with
    | .ending => return .nothing
    | .lineEnd =>
      let _ ← lexeme fuel
      return .nothing
    | _ =>
      if !line && mayEnd && ends then return .nothing
      let first ← chain fuel
      match ← lexeme fuel with
      | .ending =>
        modify fun source => { source with ahead := some .ending }
        return first
      | .lineEnd => if line then return first else return .sequence first (← list fuel line true)
      | .sign ";" => return .sequence first (← list fuel line true)
      | .sign "&" => return .sequence (.beside first) (← list fuel line true)
      | other =>
        if line then unexpected other
        modify fun source => { source with ahead := some other }
        return first

/-- Commands that depend on those before them. -/
def chain : (fuel : Nat) → Reading Script
  | 0 => fail "too long"
  | fuel + 1 => do
    let first ← pipeline fuel
    chainFrom fuel first

def chainFrom : (fuel : Nat) → Script → Reading Script
  | 0, _ => fail "too long"
  | fuel + 1, first => do
    match ← lexeme fuel with
    | .sign "&&" =>
      skipLines fuel
      chainFrom fuel (.both first (← pipeline fuel))
    | .sign "||" =>
      skipLines fuel
      chainFrom fuel (.either first (← pipeline fuel))
    | other =>
      modify fun source => { source with ahead := some other }
      return first

def pipeline : (fuel : Nat) → Reading Script
  | 0 => fail "too long"
  | fuel + 1 => do
    if keyword? (← peek fuel) == some "!" then
      let _ ← lexeme fuel
      let first ← command fuel
      return .inverse (← pipelineFrom fuel first)
    else
      let first ← command fuel
      pipelineFrom fuel first

def pipelineFrom : (fuel : Nat) → Script → Reading Script
  | 0, _ => fail "too long"
  | fuel + 1, first => do
    match ← lexeme fuel with
    | .sign "|" =>
      skipLines fuel
      return .pipe first (← do
        let second ← command fuel
        pipelineFrom fuel second)
    | other =>
      modify fun source => { source with ahead := some other }
      return first

/-- Redirections behind a command. -/
def redirections : (fuel : Nat) → Reading (List Redirection)
  | 0 => fail "too long"
  | fuel + 1 => do
    match ← lexeme fuel with
    | .redirect descriptor sign =>
      let first ← redirection fuel descriptor sign
      return first :: (← redirections fuel)
    | other =>
      modify fun source => { source with ahead := some other }
      return []

/-- A redirection behind its sign. -/
def redirection : (fuel : Nat) → Option Nat → String → Reading Redirection
  | 0, _, _ => fail "too long"
  | fuel + 1, descriptor, sign => do
    match ← lexeme fuel with
    | .word target =>
      match sign with
      | ">&" => return .copy (descriptor.getD 1) target
      | "<&" => return .copy (descriptor.getD 0) target
      | "<" => return .read (descriptor.getD 0) target
      | "<>" => return .read (descriptor.getD 0) target
      | "<<" => hereText fuel (descriptor.getD 0) target false
      | "<<-" => hereText fuel (descriptor.getD 0) target true
      | ">>" => return .write (descriptor.getD 1) true target
      | _ => return .write (descriptor.getD 1) false target
    | other => unexpected other

/-- A text in the lines behind the one at hand. If any of its mark is quoted nothing in it
has a meaning. -/
def hereText : (fuel : Nat) → Nat → Word → (stripsTabs : Bool) → Reading Redirection
  | 0, _, _, _ => fail "too long"
  | fuel + 1, descriptor, mark, stripsTabs => do
    let text := mark.flatMap fun
      | .text text _ => text
      | _ => []
    let body ← cutLines text stripsTabs
    if mark.any Piece.isQuoted then return .given descriptor [.text body true]
    let (word, _) ← (quoted fuel '\x00').run { rest := body }
    return .given descriptor word

/-- The words and redirections of a simple command, or the body of a function behind its
name. -/
def simple : (fuel : Nat) → (line : Nat) → List Word → List Redirection → Reading Script
  | 0, _, _, _ => fail "too long"
  | fuel + 1, line, words, targets => do
    match ← lexeme fuel with
    | .word word =>
      match words, ← peek fuel with
      | [], .sign "(" =>
        let name := (literal? word).getD []
        let _ ← lexeme fuel
        expect fuel (.sign ")")
        if !isName name then fail "Bad function name"
        skipLines fuel
        return .function (String.ofList name) (← command fuel)
      | _, _ => simple fuel line (words ++ [word]) targets
    | .redirect descriptor sign =>
      let target ← redirection fuel descriptor sign
      simple fuel line words (targets ++ [target])
    | other =>
      if words.isEmpty && targets.isEmpty then unexpected other
      modify fun source => { source with ahead := some other }
      return .simple line words targets

/-- One command. -/
def command : (fuel : Nat) → Reading Script
  | 0 => fail "too long"
  | fuel + 1 => do
    let next ← peek fuel
    let line := (← get).line
    let compound (body : Script) : Reading Script := do
      match ← redirections fuel with
      | [] => return body
      | targets => return .group false line body targets
    match next, keyword? next with
    | .sign "(", _ =>
      let _ ← lexeme fuel
      let body ← list fuel false false
      expect fuel (.sign ")")
      return .group true line body (← redirections fuel)
    | _, some "\x7b" =>
      let _ ← lexeme fuel
      let body ← list fuel false false
      expect fuel (.word [.text ['\x7d'] false])
      compound body
    | _, some "if" =>
      let _ ← lexeme fuel
      compound (← branches fuel)
    | _, some "while" =>
      let _ ← lexeme fuel
      let test ← list fuel false false
      compound (.loop false test (← loopBody fuel))
    | _, some "until" =>
      let _ ← lexeme fuel
      let test ← list fuel false false
      compound (.loop true test (← loopBody fuel))
    | _, some "for" =>
      let _ ← lexeme fuel
      compound (← eachOf fuel)
    | _, some "case" =>
      let _ ← lexeme fuel
      match ← lexeme fuel with
      | .word subject =>
        skipLines fuel
        expect fuel (.word [.text "in".toList false])
        compound (.select subject (← cases fuel))
      | other => unexpected other
    | _, some _ => unexpected next
    | _, none => simple fuel line [] []

/-- The test and the branches behind a condition's first word. -/
def branches : (fuel : Nat) → Reading Script
  | 0 => fail "too long"
  | fuel + 1 => do
    let test ← list fuel false false
    expect fuel (.word [.text "then".toList false])
    let body ← list fuel false false
    let next ← lexeme fuel
    match keyword? next with
    | some "elif" => return .choice test body (← branches fuel)
    | some "else" =>
      let otherwise ← list fuel false false
      expect fuel (.word [.text "fi".toList false])
      return .choice test body otherwise
    | some "fi" => return .choice test body .nothing
    | _ => fail (nameOf next ++ " unexpected (expecting \"fi\")")

/-- The body of a loop. -/
def loopBody : (fuel : Nat) → Reading Script
  | 0 => fail "too long"
  | fuel + 1 => do
    expect fuel (.word [.text "do".toList false])
    let body ← list fuel false false
    expect fuel (.word [.text "done".toList false])
    return body

/-- A loop over words behind its first word. -/
def eachOf : (fuel : Nat) → Reading Script
  | 0 => fail "too long"
  | fuel + 1 => do
    let name :=
      match ← lexeme fuel with
      | .word word => (literal? word).getD []
      | _ => []
    if !isName name then fail "Bad for loop variable"
    skipLines fuel
    match keyword? (← peek fuel) with
    | some "in" =>
      let _ ← lexeme fuel
      let words ← wordsUpToEnd fuel
      skipLines fuel
      return .each (String.ofList name) (some words) (← loopBody fuel)
    | _ =>
      match ← peek fuel with
      | .sign ";" =>
        let _ ← lexeme fuel
        skipLines fuel
        return .each (String.ofList name) none (← loopBody fuel)
      | _ => return .each (String.ofList name) none (← loopBody fuel)

/-- The words up to the end of a line or a semicolon. -/
def wordsUpToEnd : (fuel : Nat) → Reading (List Word)
  | 0 => fail "too long"
  | fuel + 1 => do
    match ← lexeme fuel with
    | .word word => return word :: (← wordsUpToEnd fuel)
    | .lineEnd => return []
    | .sign ";" => return []
    | other => unexpected other

/-- The cases of a selection up to its last word. -/
def cases : (fuel : Nat) → Reading (List (List Word × Script))
  | 0 => fail "too long"
  | fuel + 1 => do
    skipLines fuel
    let next ← lexeme fuel
    if keyword? next == some "esac" then return []
    let first ←
      match next with
      | .sign "(" => lexeme fuel
      | next => pure next
    let patterns ← patternsFrom fuel first
    let body ← list fuel false true
    skipLines fuel
    let next ← lexeme fuel
    if keyword? next == some "esac" then return [(patterns, body)]
    match next with
    | .sign ";;" => return (patterns, body) :: (← cases fuel)
    | other => fail (nameOf other ++ " unexpected (expecting \";;\")")

/-- Patterns with bars between them, up to a closing parenthesis. What is no word is an empty
pattern. -/
def patternsFrom : (fuel : Nat) → Lexeme → Reading (List Word)
  | 0, _ => fail "too long"
  | fuel + 1, first => do
    let pattern :=
      match first with
      | .word word => word
      | _ => []
    match ← lexeme fuel with
    | .sign "|" => return pattern :: (← patternsFrom fuel (← lexeme fuel))
    | .sign ")" => return [pattern]
    | .word _ => fail "word unexpected (expecting \")\")"
    | other => fail (nameOf other ++ " unexpected (expecting \")\")")

end

/-- Reads a line with complete commands; nothing if there is no more. -/
def commands (source : Source) : Except Misreading (Option (Script × Source)) := do
  let fuel := 8 * source.rest.length + 64
  let (next, source) ← (peek fuel).run source
  match next with
  | .ending => return none
  | _ => return some (← (list fuel true false).run source)

end Reading

end ServerInventory.Host
