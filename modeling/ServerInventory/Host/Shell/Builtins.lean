import ServerInventory.Host.Shell

/-!
Commands that a shell carries out itself and that need no other command for it: what `echo`
and `printf` write, and what `test` finds.
-/

namespace ServerInventory.Host

/-! ## Escapes -/

/-- The byte of a one-letter escape. -/
def letterByte? : Char → Option UInt8
  | 'a' => some 7
  | 'b' => some 8
  | 'e' => some 27
  | 't' => some 9
  | 'n' => some 10
  | 'v' => some 11
  | 'f' => some 12
  | 'r' => some 13
  | '\\' => some 92
  | _ => none

def isOctal (c : Char) : Bool :=
  '0' ≤ c && c ≤ '7'

/-- The byte that octal digits write. -/
def octalByte (digits : Chars) : UInt8 :=
  UInt8.ofNat (digits.foldl (fun value c => value * 8 + Chars.digitValue c) 0)

/-- An escape behind its backslash: its bytes and the text behind it. A byte is written
with up to three octal digits, in front of which may stand one more zero if `zeroMore`. -/
def escape (zeroMore : Bool) : Chars → Bytes × Chars
  | [] => ([92], [])
  | c :: rest =>
    let text := if zeroMore && c == '0' && rest.head?.any isOctal then rest else c :: rest
    let digits := (text.takeWhile isOctal).take 3
    if !digits.isEmpty then ([octalByte digits], text.drop digits.length)
    else match letterByte? c with
      | some byte => ([byte], rest)
      | none => ([92], c :: rest)

/-- A text with its escapes replaced, and whether it is the end of all output. -/
def unescape : (fuel : Nat) → Chars → Bytes × Bool
  | 0, _ => ([], false)
  | fuel + 1, text =>
    match text with
    | [] => ([], false)
    | '\\' :: 'c' :: _ => ([], true)
    | '\\' :: rest =>
      let (bytes, rest) := escape true rest
      let (more, stop) := unescape fuel rest
      (bytes ++ more, stop)
    | c :: rest =>
      let (more, stop) := unescape fuel rest
      (Bytes.ofText (String.ofList [c]) ++ more, stop)

/-! ## echo -/

/-- What `echo` writes. -/
def echoed (arguments : List String) : Bytes :=
  let (arguments, ending) : List String × Bytes :=
    match arguments with
    | "-n" :: rest => (rest, [])
    | all => (all, [10])
  let text := (String.intercalate " " arguments).toList
  let (bytes, stop) := unescape (text.length + 1) text
  if stop then bytes else bytes ++ ending

/-- What `echo` writes where it is a program, which leaves backslashes alone. -/
def echoedPlainly (arguments : List String) : Bytes :=
  match arguments with
  | "-n" :: rest => Bytes.ofText (String.intercalate " " rest)
  | all => Bytes.ofText (String.intercalate " " all ++ "\n")

/-! ## printf -/

/-- How a value is written: with a least width, to the left or filled with zeros, and with
a precision. -/
structure Layout where
  flags : List Char := []
  width : Nat := 0
  precision : Option Nat := none

/-- A text in its layout, of which the front stays in front of zeros. -/
def Layout.fill (layout : Layout) (zeros : Bool) (front text : Bytes) : Bytes :=
  let missing := layout.width - (front.length + text.length)
  if layout.flags.contains '-' then front ++ text ++ List.replicate missing 32
  else if zeros && layout.flags.contains '0' then front ++ List.replicate missing 48 ++ text
  else List.replicate missing 32 ++ front ++ text

def ofAscii (text : Chars) : Bytes :=
  text.map fun c => UInt8.ofNat c.toNat

/-- The text of a word in a layout. -/
def Layout.text (layout : Layout) (bytes : Bytes) : Bytes :=
  layout.fill false [] (match layout.precision with
    | some precision => bytes.take precision
    | none => bytes)

/-- The text of a number in a layout. -/
def Layout.number (layout : Layout) (conversion : Char) (number : Int) : Bytes :=
  let isSigned := conversion == 'd' || conversion == 'i'
  let size := if isSigned then number.natAbs else (number % (UInt64.size : Int)).toNat
  let digits : Chars :=
    match conversion with
    | 'o' => Nat.toDigits 8 size
    | 'x' => Nat.toDigits 16 size
    | 'X' => (Nat.toDigits 16 size).map Char.toUpper
    | _ => Nat.toDigits 10 size
  let digits := List.replicate (layout.precision.getD 0 - digits.length) '0' ++ digits
  let front : Chars :=
    if isSigned && number < 0 then ['-']
    else if isSigned && layout.flags.contains '+' then ['+']
    else if isSigned && layout.flags.contains ' ' then [' ']
    else if layout.flags.contains '#' && size != 0 then
      (match conversion with
        | 'o' => ['0']
        | 'x' => ['0', 'x']
        | 'X' => ['0', 'X']
        | _ => [])
    else []
  layout.fill layout.precision.isNone (ofAscii front) (ofAscii digits)

/-- The digits of a number that a text starts with, and their base. -/
def digitsOf (text : Chars) : Nat × Chars × Chars :=
  let hex := (text.drop 2).takeWhile Chars.isHexDigit
  match text with
  | '0' :: x :: _ =>
    if (x == 'x' || x == 'X') && !hex.isEmpty then (16, hex, (text.drop 2).drop hex.length)
    else
      let digits := text.takeWhile isOctal
      (8, digits, text.drop digits.length)
  | text =>
    let digits := text.takeWhile Chars.isDigit
    (10, digits, text.drop digits.length)

/-- The number that an argument writes, and what is wrong with it. -/
def numberOf (argument : String) : Int × Option String :=
  match argument.toList with
  | '"' :: c :: _ => (c.toNat, none)
  | '\'' :: c :: _ => (c.toNat, none)
  | text =>
    let text := text.dropWhile fun c => c == ' ' || (9 ≤ c.toNat && c.toNat ≤ 13)
    let (negative, body) : Bool × Chars :=
      match text with
      | '-' :: rest => (true, rest)
      | '+' :: rest => (false, rest)
      | rest => (false, rest)
    let (base, digits, rest) := digitsOf body
    let size : Nat :=
      digits.foldl (fun number c => number * base + (Chars.hexValue? c).getD 0) 0
    let problem :=
      if argument.isEmpty then none
      else if digits.isEmpty then some (argument ++ ": expected numeric value")
      else if !rest.isEmpty then some (argument ++ ": not completely converted")
      else none
    (if negative then -(size : Int) else size, problem)

/-- What `printf` has done so far. -/
structure Printing where
  arguments : List String
  bytes : Bytes := []
  problems : List String := []
  isOver : Bool := false
  /-- Whether the format itself is what is wrong. -/
  isWrong : Bool := false

namespace Printing

def add (bytes : Bytes) (printing : Printing) : Printing :=
  { printing with bytes := printing.bytes ++ bytes }

/-- Takes the next argument; there is an empty one where there are no more. -/
def next (printing : Printing) : String × Printing :=
  (printing.arguments.headD "", { printing with arguments := printing.arguments.tail })

/-- A number in a format, which an argument gives for a star. -/
def size (text : Chars) (printing : Printing) : Option Nat × Chars × Printing :=
  match text with
  | '*' :: rest =>
    let (argument, printing) := printing.next
    (some (numberOf argument).1.toNat, rest, printing)
  | text =>
    let digits := text.takeWhile Chars.isDigit
    (Chars.natural? digits, text.drop digits.length, printing)

/-- One conversion in its layout. -/
def convert (layout : Layout) (conversion : Char) (printing : Printing) : Printing :=
  let (argument, printing) := printing.next
  match conversion with
  | 's' => printing.add (layout.text (Bytes.ofText argument))
  | 'b' =>
    let (bytes, stop) := unescape (argument.length + 1) argument.toList
    { printing.add (layout.text bytes) with isOver := stop }
  | 'c' => printing.add (layout.fill false [] ((Bytes.ofText argument).take 1))
  | conversion =>
    let (number, problem) := numberOf argument
    let printing := printing.add (layout.number conversion number)
    { printing with problems := printing.problems ++ problem.toList }

/-- Follows a format once. -/
def follow : (fuel : Nat) → Chars → Printing → Printing
  | 0, _, printing => printing
  | fuel + 1, format, printing =>
    if printing.isOver then printing
    else match format with
    | [] => printing
    | '%' :: '%' :: rest => follow fuel rest (printing.add [37])
    | '%' :: rest =>
      let flags := rest.takeWhile ("#-+ 0".toList.contains ·)
      let (width, rest, printing) := printing.size (rest.drop flags.length)
      let (precision, rest, printing) : Option Nat × Chars × Printing :=
        match rest with
        | '.' :: rest =>
          let (precision, rest, printing) := printing.size rest
          (some (precision.getD 0), rest, printing)
        | rest => (none, rest, printing)
      match rest with
      | [] =>
        { printing with
          problems := printing.problems ++ ["missing format character"]
          isOver := true, isWrong := true }
      | conversion :: rest =>
        if "sbcdiouxX".toList.contains conversion then
          follow fuel rest (convert { flags, width := width.getD 0, precision } conversion printing)
        else
          { printing with
            problems := printing.problems ++
              [String.ofList (format.take (format.length - rest.length)) ++
                ": invalid directive"]
            isOver := true, isWrong := true }
    | '\\' :: rest =>
      let (bytes, rest) := escape false rest
      follow fuel rest (printing.add bytes)
    | c :: rest => follow fuel rest (printing.add (Bytes.ofText (String.ofList [c])))

/-- Follows a format as long as arguments are left for it. -/
def repeated (format : Chars) : (fuel : Nat) → Printing → Printing
  | 0, printing => printing
  | fuel + 1, printing =>
    let after := follow (format.length + 1) format printing
    if after.isOver || after.arguments.isEmpty ||
        after.arguments.length == printing.arguments.length then after
    else repeated format fuel after

end Printing

/-- What `printf` does with its format and arguments. -/
def printed (format : String) (arguments : List String) : Printing :=
  Printing.repeated format.toList (arguments.length + 1) { arguments }

/-! ## test -/

/-- An integer with blanks around it. -/
def testNumber? (text : String) : Except String Int :=
  match Chars.integer? (Chars.trim text.toList) with
  | some number => .ok number
  | none => .error ("Illegal number: " ++ text)

/-- What a test says of two words. -/
def testPair? (left operator right : String) : Option (Except String Bool) :=
  let numbers (holds : Int → Int → Bool) : Option (Except String Bool) := some (do
    return holds (← testNumber? left) (← testNumber? right))
  match operator with
  | "=" => some (.ok (left == right))
  | "!=" => some (.ok (left != right))
  | "<" => some (.ok (left < right))
  | ">" => some (.ok (right < left))
  | "-eq" => numbers (· == ·)
  | "-ne" => numbers (· != ·)
  | "-lt" => numbers (· < ·)
  | "-le" => numbers (· ≤ ·)
  | "-gt" => numbers (fun left right => right < left)
  | "-ge" => numbers (fun left right => right ≤ left)
  | "-nt" => some (.ok false)
  | "-ot" => some (.ok false)
  | _ => none

/-- What a test says of one word. -/
def testOne? (tree : FileTree) (operator word : String) : Option Bool :=
  let isDevice := Text.beginsWith word "/dev/"
  let entry := (tree.find word).toOption
  match operator with
  | "-n" => some (word != "")
  | "-z" => some (word == "")
  | "-e" => some entry.isSome
  | "-r" => some entry.isSome
  | "-w" => some entry.isSome
  | "-d" => some (entry == some .directory)
  | "-c" => some (isDevice && entry.isSome && entry != some .directory)
  | "-f" => some (!isDevice && entry.isSome && entry != some .directory)
  | "-s" => some (entry.isSome && entry != some (.file []))
  | "-x" => some (match entry with
      | some .directory => true
      | some (.program _) => true
      | _ => false)
  | "-t" => some false
  | "-h" => some false
  | "-L" => some false
  | "-p" => some false
  | "-S" => some false
  | "-b" => some false
  | _ => none

mutual

/-- A test with `-o` between its parts. -/
def testAny (tree : FileTree) : (fuel : Nat) → List String →
    Except String (Bool × List String)
  | 0, _ => throw "too long"
  | fuel + 1, words => do
    let (first, rest) ← testAll tree fuel words
    match rest with
    | "-o" :: rest =>
      let (second, rest) ← testAny tree fuel rest
      return (first || second, rest)
    | rest => return (first, rest)

/-- A test with `-a` between its parts. -/
def testAll (tree : FileTree) : (fuel : Nat) → List String →
    Except String (Bool × List String)
  | 0, _ => throw "too long"
  | fuel + 1, words => do
    let (first, rest) ← testPart tree fuel words
    match rest with
    | "-a" :: rest =>
      let (second, rest) ← testAll tree fuel rest
      return (first && second, rest)
    | rest => return (first, rest)

/-- One test. -/
def testPart (tree : FileTree) : (fuel : Nat) → List String →
    Except String (Bool × List String)
  | 0, _ => throw "too long"
  | fuel + 1, words => do
    match words with
    | [] => throw "argument expected"
    | [word] => return (word != "", [])
    | left :: operator :: rest =>
      if let right :: behind := rest then
        if let some answer := testPair? left operator right then
          return (← answer, behind)
      if left == "!" then
        let (answer, rest) ← testPart tree fuel (operator :: rest)
        return (!answer, rest)
      else if left == "(" then
        let (answer, rest) ← testAny tree fuel (operator :: rest)
        match rest with
        | ")" :: rest => return (answer, rest)
        | _ => throw "closing paren expected"
      else match testOne? tree left operator with
        | some answer => return (answer, rest)
        | none =>
          if rest.isEmpty && (testPair? left operator "").isSome then
            throw (operator ++ ": argument expected")
          return (left != "", operator :: rest)

end

/-- Whether a test holds, or what is wrong with it. -/
def tested (tree : FileTree) (words : List String) : Except String Bool := do
  if words.isEmpty then return false
  let (answer, rest) ← testAny tree (4 * words.length + 8) words
  match rest with
  | [] => return answer
  | _ => throw (words.headD "" ++ ": unexpected operator")

end ServerInventory.Host
