import ServerInventory.Device.Kind

/-!
What a pass reports besides the server itself: how each class of components fared, and
which collectors broke down.
-/

namespace ServerInventory

/-- How a class of components fared in a pass. -/
inductive ClassOutcome where
  /-- Nobody was asked. -/
  | skipped
  /-- Nobody had anything to say. -/
  | empty
  /-- Some parts were collected; `unmatched` are the serial numbers of those that met no
  known part. -/
  | merged (fragments applied : Nat) (unmatched : List String)
  /-- Everybody who was asked broke down. -/
  | faulted
deriving DecidableEq, Repr

namespace ClassOutcome

/-- The members that an outcome contributes to the document of a report. -/
def members : ClassOutcome → List (String × Json)
  | .skipped => [("outcome", .text "skipped")]
  | .empty => [("outcome", .text "empty")]
  | .merged fragments applied unmatched =>
    [("outcome", .text "merged"),
     ("fragments", .ofNat fragments),
     ("applied", .ofNat applied),
     ("unmatched", .list (unmatched.map Json.text))]
  | .faulted => [("outcome", .text "faulted")]

end ClassOutcome

/-- A collector that broke down. -/
structure Fault where
  kind : ComponentKind
  utility : String
  reason : String
deriving DecidableEq, Repr

def Fault.document (fault : Fault) : Json :=
  .record [("kind", .text fault.kind.name), ("utility", .text fault.utility),
    ("reason", .text fault.reason)]

/-- What a pass reports besides the server itself. -/
structure Summary where
  /-- The outcome of each class, in the order of collection. -/
  classes : List (ComponentKind × ClassOutcome) := []
  /-- The collectors that broke down, in the order of their calls. -/
  faults : List Fault := []
  /-- How many features of drives were added or changed. -/
  capabilityChanges : Nat := 0
deriving DecidableEq, Repr

namespace Summary

/-- The outcome of a class. -/
def outcome? (summary : Summary) (kind : ComponentKind) : Option ClassOutcome :=
  summary.classes.lookup kind

/-- Whether no collector broke down. -/
def isClean (summary : Summary) : Bool :=
  summary.faults.isEmpty

/-- A class with its outcome. -/
def classDocument (report : ComponentKind × ClassOutcome) : Json :=
  .record (("kind", .text report.1.name) :: report.2.members)

/-- The members of the document of a summary. -/
def members (summary : Summary) : List (String × Json) :=
  [("classes", .list (summary.classes.map classDocument)),
   ("faults", .list (summary.faults.map Fault.document)),
   ("capability_changes", .ofNat summary.capabilityChanges)]

def document (summary : Summary) : Json :=
  .record summary.members

end Summary

end ServerInventory
