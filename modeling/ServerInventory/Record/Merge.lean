import ServerInventory.Error
import ServerInventory.Record.Diff
import ServerInventory.Record.Patch
import ServerInventory.Text.Lowercase

/-!
Merging what was collected into what is known. A merge carries out the harmless ones among
the differences and counts them; it is done as a whole or not at all. Lists of identified
parts are merged part by part: a collected part goes into every known part with the same
serial number, and the numbers of those that met none are reported.
-/

namespace ServerInventory

/-- The error of two records that are not of one layout. -/
def Mismatch.error (mismatch : Mismatch) : Error :=
  .diff (Change.joinPath mismatch.path) mismatch.reason.describe

/-- The error of a change that cannot be carried out. -/
def PatchFailure.error (failure : PatchFailure) : Error :=
  .patch (Change.joinPath failure.change.path) failure.obstacle.describe

/-- A record into which others were merged, and how many changes that took. -/
structure Merged (α : Type) where
  record : α
  applied : Nat
deriving DecidableEq, Repr

namespace Record

/-- A record after all the harmless changes among some. -/
def commit (record : Record) (changes : List Change) : Except Error (Merged Record) :=
  let accepted := Change.harmless changes
  match record.patch accepted with
  | (amended, none) => .ok ⟨amended, accepted.length⟩
  | (_, some failure) => .error failure.error

/-- The differences that count for a merge of one attribute, or of all of them. -/
def changesFor (field? : Option String) (known collected : Record) :
    Except Error (List Change) :=
  match known.diff collected with
  | .error mismatch => .error mismatch.error
  | .ok changes =>
    match field? with
    | none => .ok changes
    | some field => .ok (changes.filter fun change => change.path.head? == some field)

end Record

section

variable {α : Type} [Recordable α]

/-- The changes that lead from one component to another. -/
def diff (known collected : α) : Except Error (List Change) :=
  Record.changesFor none (Recordable.record known) (Recordable.record collected)

/-- A component after some changes up to the first that cannot be carried out. -/
def patch (known : α) (changes : List Change) : α × Option Error :=
  let patched := (Recordable.record known).patch changes
  (Recordable.ofRecord patched.1, patched.2.map PatchFailure.error)

/-- A component with some harmless changes carried out. -/
def mergeChanges (field? : Option String) (known collected : α) :
    Except Error (Merged α) := do
  let record := Recordable.record known
  let changes ← record.changesFor field? (Recordable.record collected)
  let merged ← record.commit changes
  return ⟨Recordable.ofRecord merged.record, merged.applied⟩

/-- A known component with a collected one merged in. -/
def merge (known collected : α) : Except Error (Merged α) :=
  mergeChanges none known collected

/-- A known component with one attribute of a collected one merged in. -/
def mergeField (known collected : α) (field : String) : Except Error (Merged α) :=
  mergeChanges (some field) known collected

end

/-! ## Parts with serial numbers -/

/-- Whether two serial numbers name one part: they agree but for the case of letters, and
there is something to agree on. -/
def sameSerial (left right : String) : Bool :=
  !left.isEmpty && Text.lowercase left == Text.lowercase right

/-- What came of merging a list of collected parts into a list of known ones. -/
structure JoinSummary where
  /-- The pairs of a collected and a known part with one serial number. -/
  matched : Nat := 0
  /-- The changes that all the merges took. -/
  applied : Nat := 0
  /-- The serial numbers of the collected parts that met no known one. -/
  unmatched : List String := []
deriving DecidableEq, Repr

section

variable {α : Type} [Identified α]

/-- Known parts with one collected part merged into each that has its serial number, and
how many of them there were. The first merge that fails ends the work. -/
def mergeMatching (fragment : α) : List α → List α × Except Error (Nat × Nat)
  | [] => ([], .ok (0, 0))
  | known :: others =>
    if sameSerial (Identified.serial known) (Identified.serial fragment) then
      match merge known fragment with
      | .error error => (known :: others, .error error)
      | .ok merged =>
        let rest := mergeMatching fragment others
        (merged.record :: rest.1,
          rest.2.map fun counts => (counts.1 + 1, counts.2 + merged.applied))
    else
      let rest := mergeMatching fragment others
      (known :: rest.1, rest.2)

/-- Known parts with collected ones merged in by serial number. The first merge that fails
ends the work; what was merged up to there stays. -/
def mergeBySerial (known : List α) : List α → List α × Except Error JoinSummary
  | [] => (known, .ok {})
  | fragment :: fragments =>
    match mergeMatching fragment known with
    | (merged, .error error) => (merged, .error error)
    | (merged, .ok (count, applied)) =>
      let rest := mergeBySerial merged fragments
      (rest.1, rest.2.map fun summary =>
        { matched := count + summary.matched
          applied := applied + summary.applied
          unmatched :=
            if count = 0 then Identified.serial fragment :: summary.unmatched
            else summary.unmatched })

end

end ServerInventory
