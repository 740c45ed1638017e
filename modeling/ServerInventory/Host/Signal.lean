import ServerInventory.Text.Numeral

/-!
Signals by their numbers: the names by which scripts send and catch them, and the words with
which a shell reports a process that one of them has ended. Zero is not a signal; as a trap
it stands for the end of the shell itself.
-/

namespace ServerInventory.Host.Signal

/-- The signals from number one on, each with its name and with its words. -/
def usual : List (String × String) :=
  [("HUP", "Hangup"), ("INT", "Interrupt"), ("QUIT", "Quit"), ("ILL", "Illegal instruction"),
    ("TRAP", "Trace/breakpoint trap"), ("ABRT", "Aborted"), ("BUS", "Bus error"),
    ("FPE", "Floating point exception"), ("KILL", "Killed"), ("USR1", "User defined signal 1"),
    ("SEGV", "Segmentation fault"), ("USR2", "User defined signal 2"), ("PIPE", "Broken pipe"),
    ("ALRM", "Alarm clock"), ("TERM", "Terminated"), ("16", "Stack fault"),
    ("CHLD", "Child exited"), ("CONT", "Continued"), ("STOP", "Stopped (signal)"),
    ("TSTP", "Stopped"), ("TTIN", "Stopped (tty input)"), ("TTOU", "Stopped (tty output)"),
    ("URG", "Urgent I/O condition"), ("XCPU", "CPU time limit exceeded"),
    ("XFSZ", "File size limit exceeded"), ("VTALRM", "Virtual timer expired"),
    ("PROF", "Profiling timer expired"), ("WINCH", "Window changed"), ("IO", "I/O possible"),
    ("PWR", "Power failure"), ("SYS", "Bad system call")]

/-- The highest number of a signal. -/
def last : Nat := 64

/-- The number of the first signal without a meaning of its own. -/
def firstFree : Nat := 34

/-- The name of a signal. The free ones are named by their distance from the nearer end. -/
def name (signal : Nat) : String :=
  let above := signal - firstFree
  let below := last - signal
  if signal = 0 then "EXIT"
  else if signal < firstFree then
    ((usual[signal - 1]?).map Prod.fst).getD (toString signal)
  else if above = 0 then "RTMIN"
  else if below = 0 then "RTMAX"
  else if above ≤ 15 then "RTMIN+" ++ toString above
  else "RTMAX-" ++ toString below

/-- The words for the end of a process by a signal. -/
def words (signal : Nat) : String :=
  if firstFree ≤ signal then "Real-time signal " ++ toString (signal - firstFree)
  else ((usual[signal - 1]?).map Prod.snd).getD ("Unknown signal " ++ toString signal)

/-- The signal of a name in letters of any case, or of a number. -/
def ofText? (text : String) : Option Nat :=
  match Chars.natural? text.toList with
  | some signal => if signal ≤ last then some signal else none
  | none =>
    let wanted := text.toList.map Char.toUpper
    (List.range (last + 1)).find? fun signal => (name signal).toList == wanted

/-- Whether a signal does nothing to a process that does not look at it, or at most lets it
rest for a while. -/
def isHarmless (signal : Nat) : Bool :=
  [0, 17, 18, 19, 20, 21, 22, 23, 28].contains signal

/-- Whether a shell says nothing of a process that the signal has ended. -/
def isQuiet (signal : Nat) : Bool :=
  signal == 2 || signal == 13

/-- The lines that list all signals. -/
def listing : String :=
  "0\n" ++ String.join ((List.range last).map fun signal => name (signal + 1) ++ "\n")

end ServerInventory.Host.Signal
