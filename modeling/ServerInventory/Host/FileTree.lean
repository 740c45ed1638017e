import ServerInventory.StringMap
import ServerInventory.Text.Lines
import ServerInventory.Text.Utf8

/-!
Trees of files, and how a path leads through one. A path is followed name by name: every
name but the last has to lead to a directory, and so does the last one if a slash stands
behind it.
-/

namespace ServerInventory.Host

/-- A place of a tree: the names that lead to it from the root. -/
abbrev Place := List String

/-- What stands at a place. -/
inductive Entry where
  | directory
  /-- A program that may be run, by its own name. -/
  | program (name : String)
  /-- A file that may be read but not run. -/
  | file (content : Bytes)
  /-- Another name of a place that is not a link itself. -/
  | link (target : Place)
deriving DecidableEq, Repr

/-- A tree, and the place in it where paths begin that do not begin at the root. -/
structure FileTree where
  entries : List (Place × Entry) := []
  current : Place := []
deriving Repr

/-- Why a path leads nowhere. -/
inductive PathFault where
  | missing
  /-- Something on the way is no directory. -/
  | noDirectory
  /-- The path, or one of its names, is longer than any may be. -/
  | tooLong
deriving DecidableEq, Repr

namespace FileTree

/-- What stands at a place; the root is always there. -/
def entry? (tree : FileTree) (place : Place) : Option Entry :=
  if place.isEmpty then some .directory else tree.entries.lookup place

/-- Where a name leads from a place. -/
def step (tree : FileTree) (place : Place) (name : String) : Except PathFault Place :=
  if tree.entry? place ≠ some .directory then .error .noDirectory
  else if name = "" || name = "." then .ok place
  else if name = ".." then .ok place.dropLast
  else if 255 < name.utf8ByteSize then .error .tooLong
  else match tree.entry? (place ++ [name]) with
    | none => .error .missing
    | some (.link target) => .ok target
    | some _ => .ok (place ++ [name])

/-- Where a path leads. -/
def place? (tree : FileTree) (path : String) : Except PathFault Place :=
  if path.isEmpty then .error .missing
  else if 4096 ≤ path.utf8ByteSize then .error .tooLong
  else
    let names := (Chars.split '/' path.toList).map String.ofList
    names.foldlM tree.step (if Text.beginsWith path "/" then [] else tree.current)

/-- What stands where a path leads. -/
def find (tree : FileTree) (path : String) : Except PathFault Entry := do
  match tree.entry? (← tree.place? path) with
  | some entry => return entry
  | none => throw .missing

/-- The text of a file, if a path leads to one. -/
def text? (tree : FileTree) (path : String) : Option String :=
  match tree.find path with
  | .ok (.file content) => some (Bytes.toText content)
  | _ => none

/-- The directories that lead to a place. -/
def above (place : Place) : List Place :=
  (List.range place.length).map place.take

/-- A tree with one more entry at a place, and the directories that lead there. -/
def insert (tree : FileTree) (place : Place) (entry : Entry) : FileTree :=
  let missing := (above place).filter fun front => (tree.entry? front).isNone
  { tree with
    entries := (place, entry) :: missing.map (fun front => (front, Entry.directory)) ++
      tree.entries }

/-- A tree with texts in files, whose names are paths from the current directory. -/
def insertTexts (tree : FileTree) (texts : StringMap String) : FileTree :=
  texts.entries.foldl
    (fun tree file =>
      let names := ((Chars.split '/' file.1.toList).map String.ofList).filter (· != "")
      tree.insert (tree.current ++ names) (.file (Bytes.ofText file.2)))
    tree

end FileTree

/-! ## The tree of every host -/

/-- Entries of one kind in a directory, by their names with spaces between them. -/
def entriesIn (directory : Place) (entry : String → Entry) (names : String) :
    List (Place × Entry) :=
  (Chars.words names.toList).map fun name =>
    (directory ++ [String.ofList name], entry (String.ofList name))

/-- A file with a line in it; what the line says matters nowhere. -/
def someFile (_ : String) : Entry :=
  .file (Bytes.ofText "text\n")

/-- The directories, programs and files that are found on every host. Programs are named
after what they are. -/
def usualTree : FileTree :=
  { current := ["work"]
    entries := List.flatten [
      entriesIn [] (fun _ => .directory)
        "boot dev etc home media mnt opt proc root run srv sys tmp usr var work",
      [(["bin"], .link ["usr", "bin"]), (["sbin"], .link ["usr", "sbin"]),
        (["lib"], .link ["usr", "lib"]), (["lib64"], .link ["usr", "lib64"])],
      entriesIn ["usr"] (fun _ => .directory)
        "bin games include lib lib64 libexec local sbin share src",
      entriesIn ["usr", "bin"] .program "cat echo false printf pwd sh sleep test true [",
      [(["usr", "bin", "dash"], .program "sh")],
      entriesIn ["usr", "local"] (fun _ => .directory) "bin etc games include lib sbin share src",
      entriesIn ["usr", "share"] (fun _ => .directory) "doc man",
      entriesIn ["var"] (fun _ => .directory) "backups cache lib local log mail opt spool tmp",
      [(["var", "run"], .link ["run"]), (["var", "lock"], .link ["run", "lock"])],
      entriesIn ["run"] (fun _ => .directory) "lock",
      entriesIn ["proc"] (fun _ => .directory) "self sys net 1",
      entriesIn ["proc"] someFile
        "cmdline cpuinfo filesystems loadavg meminfo mounts stat swaps uptime version",
      entriesIn ["sys"] (fun _ => .directory)
        "block bus class dev devices firmware fs kernel module power",
      entriesIn ["dev"] (fun _ => .directory) "fd pts shm",
      entriesIn ["dev"] (fun _ => .file [])
        "full null ptmx random stderr stdin stdout tty urandom zero",
      entriesIn ["etc"] (fun _ => .directory)
        "alternatives apt default dpkg init.d ld.so.conf.d opt pam.d profile.d security skel",
      entriesIn ["etc"] someFile
        "bash.bashrc debian_version environment fstab group gshadow host.conf hostname hosts
          issue ld.so.cache ld.so.conf login.defs nsswitch.conf os-release passwd profile
          resolv.conf shadow shells subgid subuid"] }

end ServerInventory.Host
