import ServerInventory.Host.FileTree
import ServerInventory.Host.Quoting
import ServerInventory.Text.Numeral

/-!
The small programs that every host has: what they write for their arguments and their
input, when they do so, and with which exit code they end. Arguments that begin with a
hyphen are options wherever they stand, up to two hyphens alone.
-/

namespace ServerInventory.Host

/-- A time so far ahead that nothing waits for it. -/
def never : Nat := 0xFFFFFFFFFFFF

/-- What a process has to read, and when all of it is there, from when its shell began. -/
structure Input where
  bytes : Bytes := []
  complete : Nat := 0
  /-- Why nothing can be read, if nothing can. -/
  problem : Option String := none
deriving DecidableEq, Repr

/-- What a program does. -/
structure Work where
  /-- What it writes, each time with the descriptor. -/
  output : List (Nat × Bytes) := []
  status : Nat := 0
  /-- Whether it reads all of its input first. -/
  reads : Bool := false
  /-- How long it takes besides that, in milliseconds. -/
  milliseconds : Nat := 0
  /-- Whether it goes on writing until nobody reads any more. -/
  isEndless : Bool := false
deriving DecidableEq, Repr

namespace Work

/-- A program that is called in a way it does not understand. -/
def misuse (name : String) (problem : Bytes) : Work :=
  { output := [(2, Bytes.ofText (name ++ ": ") ++ problem ++
      Bytes.ofText ("\nTry '" ++ name ++ " --help' for more information.\n"))]
    status := 1 }

/-- What a program writes to a descriptor. -/
def written (work : Work) (descriptor : Nat) : Bytes :=
  (work.output.filter fun piece => piece.1 == descriptor).flatMap Prod.snd

end Work

def PathFault.message : PathFault → String
  | .missing => "No such file or directory"
  | .noDirectory => "Not a directory"
  | .tooLong => "File name too long"

/-! ## Options -/

/-- Arguments, split into options and the rest. -/
def splitOptions : List String → List String × List String
  | [] => ([], [])
  | "--" :: rest => ([], rest)
  | argument :: rest =>
    let (options, operands) := splitOptions rest
    if Text.beginsWith argument "-" && argument != "-" then (argument :: options, operands)
    else (options, argument :: operands)

/-- The letters of a long option, which may be cut short as long as only one is meant; or
what is wrong with it. -/
def longOption (long : List (String × Chars)) (option : String) : Except Bytes Chars :=
  let front := Text.before '=' option
  let meant := long.filter fun entry => Text.beginsWith entry.1 front
  let complain (before after : String) : Except Bytes Chars :=
    .error (Bytes.ofText (before ++ " '" ++ after))
  match long.lookup front, meant with
  | some letters, _ =>
    if front == option then .ok letters
    else complain "option" (front ++ "' doesn't allow an argument")
  | none, [(name, letters)] =>
    if front == option then .ok letters
    else complain "option" (name ++ "' doesn't allow an argument")
  | none, [] => complain "unrecognized option" (option ++ "'")
  | none, several =>
    complain "option" (option ++ "' is ambiguous; possibilities:" ++
      String.join (several.map fun entry => " '" ++ entry.1 ++ "'"))

/-- The letters of options, where some long ones stand for letters; or what is wrong with
one of them. -/
def optionLetters (long : List (String × Chars)) (short : Chars) :
    List String → Except Bytes Chars
  | [] => .ok []
  | option :: rest => do
    let letters : Chars ←
      if Text.beginsWith option "--" then longOption long option
      else
        let letters := option.toList.drop 1
        match letters.find? fun letter => !List.elem letter short with
        | none => pure letters
        | some letter =>
          throw (Bytes.ofText "invalid option -- '" ++
            (Bytes.ofText (String.ofList [letter])).take 1 ++ [39])
    return letters ++ (← optionLetters long short rest)

/-! ## cat -/

/-- How the lines of files are shown. -/
structure Listing where
  numbers : Bool := false
  /-- Only lines that are not empty have numbers. -/
  skipsEmpty : Bool := false
  squeezes : Bool := false
  ends : Bool := false
  tabs : Bool := false
  hidden : Bool := false
deriving DecidableEq, Repr

def Listing.with (listing : Listing) (letter : Char) : Listing :=
  match letter with
  | 'A' => { listing with ends := true, tabs := true, hidden := true }
  | 'b' => { listing with numbers := true, skipsEmpty := true }
  | 'e' => { listing with ends := true, hidden := true }
  | 'E' => { listing with ends := true }
  | 'n' => { listing with numbers := true }
  | 's' => { listing with squeezes := true }
  | 't' => { listing with tabs := true, hidden := true }
  | 'T' => { listing with tabs := true }
  | 'v' => { listing with hidden := true }
  | _ => listing

/-- A byte below the seventh bit as it is shown. -/
def shownLow (byte : UInt8) : Bytes :=
  if byte < 32 then [94, byte + 64] else if byte == 127 then [94, 63] else [byte]

/-- A byte inside a line as it is shown. -/
def Listing.byte (listing : Listing) (byte : UInt8) : Bytes :=
  if byte == 9 then (if listing.tabs then [94, 73] else [9])
  else if !listing.hidden then [byte]
  else if byte < 128 then shownLow byte
  else [77, 45] ++ shownLow (byte - 128)

/-- The number in front of a line. -/
def lineNumber (number : Nat) : Bytes :=
  let digits := (Nat.toDigits 10 number).map fun c => UInt8.ofNat c.toNat
  List.replicate (6 - digits.length) 32 ++ digits ++ [9]

/-- The lines of some bytes, each with whether it is ended. -/
def byteLines : Bytes → List (Bytes × Bool)
  | [] => []
  | 10 :: rest => ([], true) :: byteLines rest
  | byte :: rest =>
    match byteLines rest with
    | [] => [([byte], false)]
    | (line, ended) :: lines => ((byte :: line, ended)) :: lines

/-- Lines as they are shown, from a number on. `blank` says whether the line before is
empty. -/
def Listing.lines (listing : Listing) : (number : Nat) → (blank : Bool) →
    List (Bytes × Bool) → Bytes
  | _, _, [] => []
  | number, blank, (line, ended) :: rest =>
    if listing.squeezes && blank && line.isEmpty then listing.lines number blank rest
    else
      let counted := listing.numbers && !(listing.skipsEmpty && line.isEmpty)
      let carriage := listing.ends && ended && line.getLast? == some 13
      let body := (if carriage then line.dropLast else line).flatMap listing.byte
      (if counted then lineNumber number else []) ++ body ++
        (if carriage then [94, 77] else []) ++
        (if listing.ends && ended then [36] else []) ++ (if ended then [10] else []) ++
        listing.lines (if counted then number + 1 else number) line.isEmpty rest

def Listing.show (listing : Listing) (bytes : Bytes) : Bytes :=
  if listing = {} then bytes else listing.lines 1 false (byteLines bytes)

/-- What `cat` finds in one file: its bytes, or why it finds none. -/
def readFile (tree : FileTree) (path : String) : Except String Bytes :=
  match tree.find path with
  | .ok (.file content) => .ok content
  | .ok (.program _) => .ok []
  | .ok _ => .error "Is a directory"
  | .error fault => .error fault.message

/-- The names of the input. -/
def inputNames : List String :=
  ["-", "/dev/stdin", "/dev/fd/0", "/proc/self/fd/0"]

/-- Whether a file is a device that can be read on and on. -/
def isEndless (path : String) : Bool :=
  ["/dev/zero", "/dev/full", "/dev/random", "/dev/urandom"].contains path

/-- Copies files one after the other. The input can be copied once. -/
def catFiles (tree : FileTree) (input : Input) : List String → Work
  | [] => {}
  | path :: rest =>
    let isInput := inputNames.contains path
    let more := catFiles tree (if isInput then { input with bytes := [] } else input) rest
    let found : Except String Bytes :=
      if !isInput then readFile tree path
      else match input.problem with
        | none => .ok input.bytes
        | some problem => .error problem
    match found with
    | .ok bytes =>
      { more with
        output := (1, bytes) :: more.output
        reads := isInput || more.reads
        isEndless := isEndless path || more.isEndless }
    | .error reason =>
      let message :=
        Bytes.ofText "cat: " ++ Quoting.fileName path ++ Bytes.ofText (": " ++ reason ++ "\n")
      { more with output := (2, message) :: more.output, status := 1 }

/-- What is wrong with an input that is closed. -/
def closedInput : String :=
  "Bad file descriptor"

def catOptions : List (String × Chars) :=
  [("--number-nonblank", ['b']), ("--number", ['n']), ("--squeeze-blank", ['s']),
    ("--show-nonprinting", ['v']), ("--show-ends", ['E']), ("--show-tabs", ['T']),
    ("--show-all", ['A'])]

def cat (tree : FileTree) (input : Input) (arguments : List String) : Work :=
  let (options, files) := splitOptions arguments
  match optionLetters catOptions "AbeEnstTuv".toList options with
  | .error problem => .misuse "cat" problem
  | .ok letters =>
    -- Numbers count from the start whether or not empty lines have them.
    let listing := letters.foldl Listing.with {}
    let files := if files.isEmpty then ["-"] else files
    let work := catFiles tree input files
    let output :=
      if listing = {} then work.output
      else [(1, listing.show (work.written 1)), (2, work.written 2)]
    let complaint :=
      if input.problem == some closedInput && files.contains "-" then
        [(2, Bytes.ofText ("cat: closing standard input: " ++ closedInput ++ "\n"))]
      else []
    { work with output := output ++ complaint }

/-! ## sleep -/

/-- The exponent behind a number, after a letter, and the text behind it. -/
def exponent (letter : Char) (text : Chars) : Int × Chars :=
  let (negative, digits) : Bool × Chars :=
    match text.drop 1 with
    | '-' :: rest => (true, rest)
    | '+' :: rest => (false, rest)
    | rest => (false, rest)
  match text.head?, Chars.natural? (digits.takeWhile Chars.isDigit) with
  | some c, some size =>
    if c.toLower == letter then
      (if negative then -(size : Int) else size, digits.dropWhile Chars.isDigit)
    else (0, text)
  | _, _ => (0, text)

/-- A number times a power, but none that is beyond all measure. -/
def scaled (number base : Nat) (power : Int) : Nat :=
  if number = 0 || power < -4000 then 0
  else if 4000 < power then never
  else if 0 ≤ power then number * Nat.pow base power.toNat
  else number / Nat.pow base (-power).toNat

/-- The digits of a number before and behind its point, and the text behind them. -/
def withPoint (isDigit : Char → Bool) (text : Chars) : Chars × Chars × Chars :=
  let whole := text.takeWhile isDigit
  let rest := text.drop whole.length
  if rest.head? == some '.' then
    let fraction := (rest.drop 1).takeWhile isDigit
    (whole, fraction, rest.drop (fraction.length + 1))
  else (whole, [], rest)

/-- The number that digits with a point and an exponent write, in thousandths, and the
text behind it. Behind a zero and a certain letter the digits are hexadecimal and the
exponent is one of two. -/
def thousandths? (text : Chars) : Option (Nat × Chars) :=
  let hex := withPoint Chars.isHexDigit (text.drop 2)
  let isHex := text.head? == some '0' && text[1]?.any (·.toLower == 'x') &&
    !(hex.1 ++ hex.2.1).isEmpty
  if isHex then
    let (whole, fraction, rest) := hex
    let (power, rest) := exponent 'p' rest
    let value := (whole ++ fraction).foldl
      (fun value c => value * 16 + (Chars.hexValue? c).getD 0) 0
    some (scaled (value * 1000) 2 (power - 4 * fraction.length), rest)
  else
    let (whole, fraction, rest) := withPoint Chars.isDigit text
    if whole.isEmpty && fraction.isEmpty then none
    else
      let (power, rest) := exponent 'e' rest
      some (scaled (Chars.digitsValue (whole ++ fraction)) 10 (power + 3 - fraction.length), rest)

/-- A number of thousandths as `sleep` reads it, and the text behind it. Time without end
has a name. -/
def duration? (text : Chars) : Option (Nat × Chars) :=
  let text := text.dropWhile fun c => c == ' ' || (9 ≤ c.toNat && c.toNat ≤ 13)
  let text :=
    match text with
    | '+' :: rest => rest
    | text => text
  let small := text.map Char.toLower
  if "infinity".toList.isPrefixOf small then some (never, text.drop 8)
  else if "inf".toList.isPrefixOf small then some (never, text.drop 3)
  else thousandths? text

/-- The milliseconds of an interval in seconds, minutes, hours or days. -/
def interval? (text : String) : Option Nat := do
  let (value, unit) ← duration? text.toList
  match unit with
  | [] => some value
  | ['s'] => some value
  | ['m'] => some (value * 60)
  | ['h'] => some (value * 3600)
  | ['d'] => some (value * 86400)
  | _ => none

/-- Waits for all of some intervals. -/
def sleep (arguments : List String) : Work :=
  let (options, intervals) := splitOptions arguments
  match optionLetters [] [] options with
  | .error problem => .misuse "sleep" problem
  | .ok _ =>
    if arguments.isEmpty then .misuse "sleep" (Bytes.ofText "missing operand")
    else match intervals.filter fun text => (interval? text).isNone with
      | [] => { milliseconds := (intervals.filterMap interval?).foldl (· + ·) 0 }
      | wrong =>
        .misuse "sleep" ((Bytes.ofText "\nsleep: ").intercalate (wrong.map fun text =>
          Bytes.ofText "invalid time interval " ++ Quoting.word text))

end ServerInventory.Host
