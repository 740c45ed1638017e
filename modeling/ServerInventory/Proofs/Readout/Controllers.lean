import ServerInventory.Proofs.Json.Settled
import ServerInventory.Proofs.Text.Lines
import ServerInventory.Readout.Storcli

/-!
What `storcli64 … show all J` says controller by controller. Every entry of its answer
contributes on its own (`Storcli.report_of_lists`), a drive for each member with details in
the order of the members (`Storcli.reportsDetails_drivesOf`), and a drive finds its controller
by a number that both of them write in the same way (`Storcli.controllerOfName_eq`); together
these are `Storcli.report_decomposes`.
-/

namespace ServerInventory

namespace Text

theorem stripEnd?_eq_some_iff {text part rest : String} :
    stripEnd? text part = some rest ↔ text = rest ++ part := by
  rw [stripEnd?, Option.map_eq_some_iff]
  simp only [Chars.stripEnd?_eq_some_iff]
  constructor
  · rintro ⟨chars, same, rfl⟩
    rw [String.ext_iff, same, String.toList_append, String.toList_ofList]
  · rintro rfl
    exact ⟨rest.toList, String.toList_append, String.ofList_toList⟩

end Text

namespace Storcli

/-! ## Entries -/

/-- Whether an output holds an array of controllers with these entries. -/
def Lists (output : String) (entries : List Json) : Prop :=
  (Json.settledOfText? output).bind (Json.member? "Controllers") = some (.list entries)

/-- The output with one entry alone. -/
def alone (entry : Json) : String :=
  (Json.record [("Controllers", .list [entry])]).compact

/-- Whether the controller behind an entry says that it did what it was asked for. -/
def Succeeded (entry : Json) : Prop :=
  ∃ status, entry.member? "Command Status" = some status ∧
    status.member? "Status" = some (.text "Success")

/-- What an entry adds to a report. -/
def contribution (entry : Json) : List StorageController × List Drive :=
  match if answered entry then entry.member? "Response Data" else none with
  | none => ([], [])
  | some answer => ((controller? answer).toList, drivesOf answer)

variable {output : String} {entries : List Json} {entry answer : Json}

theorem answered_iff : answered entry = true ↔ Succeeded entry := by
  simp only [answered, beq_iff_eq, Option.bind_eq_some_iff, Json.text?_eq_some_iff, Succeeded]
  constructor
  · rintro ⟨_, ⟨status, found, said⟩, rfl⟩
    exact ⟨status, found, said⟩
  · rintro ⟨status, found, said⟩
    exact ⟨_, ⟨status, found, said⟩, rfl⟩

theorem flatMap_contribution (entries : List Json) :
    ((entries.filter answered).filterMap (Json.member? "Response Data")).filterMap controller? =
        entries.flatMap (contribution · |>.1) ∧
      ((entries.filter answered).filterMap (Json.member? "Response Data")).flatMap drivesOf =
        entries.flatMap (contribution · |>.2) := by
  induction entries with
  | nil => exact ⟨rfl, rfl⟩
  | cons entry entries ih =>
    rw [List.flatMap_cons, List.flatMap_cons, ← ih.1, ← ih.2, contribution, List.filter_cons]
    cases answered entry with
    | false => exact ⟨rfl, rfl⟩
    | true =>
      simp only [if_true, List.filterMap_cons]
      cases entry.member? "Response Data" with
      | none => exact ⟨rfl, rfl⟩
      | some answer =>
        rw [List.filterMap_cons, List.flatMap_cons]
        dsimp only
        cases controller? answer <;> exact ⟨rfl, rfl⟩

theorem report_of_lists (lists : Lists output entries) :
    report output =
      .ok (entries.flatMap (contribution · |>.1), entries.flatMap (contribution · |>.2)) := by
  obtain ⟨root, seen, found⟩ := Option.bind_eq_some_iff.1 lists
  rw [report, answers, seen]
  dsimp only
  rw [found, ← (flatMap_contribution entries).1, ← (flatMap_contribution entries).2]
  rfl

theorem report_of_lists_alone (lists : Lists output [entry]) :
    report output = .ok (contribution entry) := by
  rw [report_of_lists lists, List.flatMap_singleton, List.flatMap_singleton]

theorem settled_of_lists (lists : Lists output entries) (among : entry ∈ entries) :
    Json.Settled 125 entry := by
  obtain ⟨root, seen, found⟩ := Option.bind_eq_some_iff.1 lists
  obtain ⟨less, room, each⟩ :=
    ((Json.settled_of_settledOfText? seen).member? found).exists_items
  cases room
  exact each entry among

/-- Whatever an output lists can be listed alone. -/
theorem lists_alone (settled : Json.Settled 125 entry) : Lists (alone entry) [entry] := by
  have whole : Json.Settled Json.depthLimit (.record [("Controllers", .list [entry])]) :=
    .record (List.pairwise_singleton _ _)
      (List.forall_mem_singleton.2 (.list (List.forall_mem_singleton.2 settled)))
  rw [Lists, alone, Json.settledOfText?_compact whole]
  rfl

/-! ## Drives -/

/-- Whether a member of an answer gives the details of the drive of some name. -/
def HasDetail (answer : Json) (name : String) (detail : Json) : Prop :=
  answer.member? (name ++ " - Detailed Information") = some detail ∧
    (detail.member? (name ++ " Device attributes")).isSome = true

/-- Whether these are the drives of an answer: one for each member with details, in
ascending order of their names. -/
def ReportsDetails (answer : Json) (drives : List Drive) : Prop :=
  ∃ details : List (String × Json),
    (details.Pairwise fun left right =>
      left.1 ++ " - Detailed Information" < right.1 ++ " - Detailed Information") ∧
    (∀ name detail, (name, detail) ∈ details ↔ HasDetail answer name detail) ∧
    List.Forall₂ (fun named drive =>
      drive? answer (some (named.1 ++ " - Detailed Information"), named.2) = some drive)
      details drives

/-- The name of the drive that a member gives the details of, and the member's value. -/
def detail? (member : String × Json) : Option (String × Json) := do
  let name ← Text.stripEnd? member.1 detailEnding
  let _ ← member.2.member? (name ++ " Device attributes")
  return (name, member.2)

theorem detail?_eq_some_iff {member : String × Json} {name : String} {detail : Json} :
    detail? member = some (name, detail) ↔
      member = (name ++ " - Detailed Information", detail) ∧
        (detail.member? (name ++ " Device attributes")).isSome = true := by
  obtain ⟨key, value⟩ := member
  simp only [detail?, Option.bind_eq_bind, Option.bind_eq_some_iff, Text.stripEnd?_eq_some_iff,
    Option.pure_def, Option.some.injEq, Prod.mk.injEq, Option.isSome_iff_exists]
  constructor
  · rintro ⟨_, rfl, attributes, found, rfl, rfl⟩
    exact ⟨⟨rfl, rfl⟩, attributes, found⟩
  · rintro ⟨⟨rfl, rfl⟩, attributes, found⟩
    exact ⟨name, rfl, attributes, found, rfl, rfl⟩

/-- A member gives a drive exactly if it gives details. -/
theorem rel_detail?_drive? (answer : Json) (member : String × Json) :
    Option.Rel (fun named drive =>
        drive? answer (some (named.1 ++ " - Detailed Information"), named.2) = some drive)
      (detail? member) (drive? answer (some member.1, member.2)) := by
  obtain ⟨key, value⟩ := member
  cases stripped : Text.stripEnd? key detailEnding with
  | none =>
    simp only [detail?, drive?, Option.bind_eq_bind, Option.bind_some, stripped, Option.bind_none]
    exact .none
  | some name =>
    obtain rfl := Text.stripEnd?_eq_some_iff.1 stripped
    cases found : value.member? (name ++ " Device attributes") with
    | none =>
      simp only [detail?, drive?, Option.bind_eq_bind, Option.bind_some, stripped, found,
        Option.bind_none]
      exact .none
    | some attributes =>
      have named : detail? (name ++ detailEnding, value) = some (name, value) :=
        detail?_eq_some_iff.2 ⟨rfl, Option.isSome_iff_exists.2 ⟨attributes, found⟩⟩
      obtain ⟨drive, reported⟩ :
          ∃ drive, drive? answer (some (name ++ detailEnding), value) = some drive := by
        simp only [drive?, Option.bind_eq_bind, Option.bind_some, stripped, found]
        exact ⟨_, rfl⟩
      rw [named, reported]
      exact .some reported

theorem reportsDetails_of_no_members (none : answer.members = []) :
    ReportsDetails answer (drivesOf answer) := by
  refine ⟨[], .nil, fun name detail => ?_, ?_⟩
  · simp [HasDetail, Json.member?, none]
  · rw [drivesOf, none]
    exact .nil

theorem reportsDetails_drivesOf {room : Nat} (settled : Json.Settled room answer) :
    ReportsDetails answer (drivesOf answer) := by
  cases settled with
  | @record room members ascending each =>
    refine ⟨members.filterMap detail?, ?_, fun name detail => ?_, ?_⟩
    · refine ascending.filterMap detail? ?_
      rintro first second before ⟨name, detail⟩ found ⟨other, otherDetail⟩ otherFound
      rw [(detail?_eq_some_iff.1 found).1, (detail?_eq_some_iff.1 otherFound).1] at before
      exact before
    · have distinct : members.Pairwise fun left right => left.1 ≠ right.1 :=
        ascending.imp fun before => ne_of_lt before
      rw [HasDetail, Json.member?_record, StringMap.lookup_eq_some_iff_mem distinct,
        List.mem_filterMap]
      simp only [detail?_eq_some_iff]
      grind
    · show List.Forall₂ _ _ ((members.map fun member => (some member.1, member.2)).filterMap _)
      rw [List.filterMap_map]
      refine List.rel_filterMap ?_ (List.forall₂_same.2 fun _ _ => rfl)
      rintro member _ rfl
      exact rel_detail?_drive? _ member
  | _ => exact reportsDetails_of_no_members rfl

/-! ## Links -/

/-- A drive names its controller by the number that its own name begins with. -/
theorem controllerOfName_eq (number : Nat) (slot : String) :
    controllerOfName ("Drive /c" ++ toString number ++ "/" ++ slot) = toString number := by
  have same : toString number = String.ofList (Nat.toDigits 10 number) := rfl
  have name : ("Drive /c" ++ toString number ++ "/" ++ slot).toList =
      "Drive /c".toList ++ (Nat.toDigits 10 number ++ '/' :: slot.toList) := by
    simp only [same, String.toList_append, String.toList_ofList, List.append_assoc]
    rfl
  have digit := Chars.isDigit_toDigits number
  obtain ⟨c, others, first⟩ :=
    List.exists_cons_of_ne_nil (Nat.toDigits_ne_nil (b := 10) (n := number))
  -- Behind the first `Drive /c` stands a digit, so none is stripped a second time.
  have once : ¬ "Drive /c".toList <+: Nat.toDigits 10 number ++ '/' :: slot.toList := by
    rw [first] at digit ⊢
    intro again
    obtain rfl : 'D' = c := (List.cons_prefix_cons.1 again).1
    exact absurd (digit 'D' List.mem_cons_self) (by decide)
  have before : ∀ c ∈ Nat.toDigits 10 number, (c != '/') = true := by
    intro c inside
    rw [bne_iff_ne]
    rintro rfl
    exact absurd (digit '/' inside) (by decide)
  obtain ⟨bound, length⟩ :
      ∃ bound, ("Drive /c" ++ toString number ++ "/" ++ slot).length = bound + 1 := by
    rw [← String.length_toList, name]
    exact ⟨_, rfl⟩
  rw [controllerOfName, Text.before, Text.stripAllStart, name, length,
    Chars.stripAllStart_append once, String.toList_ofList, List.takeWhile_append_of_pos before,
    List.takeWhile_cons_of_neg (by decide), List.append_nil, same]

theorem storageController_of_drive? {name : String} {detail : Json} {drive : Drive}
    (found : drive? answer (some (name ++ " - Detailed Information"), detail) = some drive) :
    drive.storageController = controllerOfName name := by
  have stripped : Text.stripEnd? (name ++ " - Detailed Information") detailEnding = some name :=
    Text.stripEnd?_eq_some_iff.2 rfl
  simp only [drive?, Option.bind_eq_bind, Option.bind_some, stripped] at found
  obtain ⟨attributes, -, same⟩ := Option.bind_eq_some_iff.1 found
  cases same
  rfl

theorem physicalId_eq {basics : Json} {index : UInt64}
    (known : answer.member? "Basics" = some basics)
    (written : (basics.member? "Controller").bind Json.number? = some (.natural index)) :
    ∃ controller, controller? answer = some controller ∧
      controller.physicalId = toString index.toNat := by
  obtain ⟨document, found, number⟩ := Option.bind_eq_some_iff.1 written
  rw [controller?, known]
  refine ⟨_, rfl, ?_⟩
  dsimp only
  rw [textAt, found]
  cases document with
  | numeral numeral =>
    dsimp only
    rw [show numeral.number? = some (.natural index) from number]
    show String.ofList (Json.Numeral.ofInt index.toNat).toChars = String.ofList _
    simp [Json.Numeral.toChars, Json.Numeral.ofInt]
  | _ => cases number

/-! ## Reports -/

/-- What one entry of a report stands for. -/
structure Contributes (entry : Json) (part : List StorageController × List Drive) : Prop where
  /-- There is an output with this entry alone. -/
  listed : Lists (alone entry) [entry]
  reported : ∀ output, Lists output [entry] → report output = .ok part
  failed : ¬ Succeeded entry → part = ([], [])
  silent : entry.member? "Response Data" = none → part = ([], [])
  controllers : ∀ answer, Succeeded entry → entry.member? "Response Data" = some answer →
    part.1 = (controller? answer).toList
  drives : ∀ answer, Succeeded entry → entry.member? "Response Data" = some answer →
    ReportsDetails answer part.2

theorem contribution_of_succeeded (succeeded : Succeeded entry)
    (data : entry.member? "Response Data" = some answer) :
    contribution entry = ((controller? answer).toList, drivesOf answer) := by
  rw [contribution, if_pos (answered_iff.2 succeeded), data]

theorem contributes_contribution (settled : Json.Settled 125 entry) :
    Contributes entry (contribution entry) where
  listed := lists_alone settled
  reported _ := report_of_lists_alone
  failed failed := by
    rw [contribution, if_neg fun answered => failed (answered_iff.1 answered)]
  silent silent := by
    rw [contribution, silent, ite_self]
  controllers answer succeeded data := by
    rw [contribution_of_succeeded succeeded data]
  drives answer succeeded data := by
    rw [contribution_of_succeeded succeeded data]
    exact reportsDetails_drivesOf (settled.member? data)

/-- A report is put together from what its entries give one by one, and whichever of them
answers for a controller, the drives that bear its number in their names point to it. -/
theorem report_decomposes :
    (∀ output entries, Lists output entries →
      ∃ parts : List (List StorageController × List Drive),
        report output = .ok (parts.flatMap (·.1), parts.flatMap (·.2)) ∧
          List.Forall₂ Contributes entries parts) ∧
    (∀ (index : UInt64) answer basics, answer.member? "Basics" = some basics →
      (basics.member? "Controller").bind Json.number? = some (.natural index) →
        ∃ controller, controller? answer = some controller ∧
          controller.physicalId = toString index.toNat ∧
          ∀ other slot detail drive,
            drive? other (some ("Drive /c" ++ toString index.toNat ++ "/" ++ slot ++
              " - Detailed Information"), detail) = some drive →
            drive.storageController = controller.physicalId) := by
  refine ⟨fun output entries lists => ⟨entries.map contribution, ?_, ?_⟩,
    fun index answer basics known written => ?_⟩
  · rw [report_of_lists lists, List.flatMap_map, List.flatMap_map]
  · rw [List.forall₂_map_right_iff]
    exact List.forall₂_same.2 fun entry among =>
      contributes_contribution (settled_of_lists lists among)
  · obtain ⟨controller, reported, physical⟩ := physicalId_eq known written
    refine ⟨controller, reported, physical, fun other slot detail drive found => ?_⟩
    rw [storageController_of_drive? found, controllerOfName_eq, physical]

def driveDetail : Json :=
  .record [("Drive /c3/e1/s2 Device attributes", .record [])]

def driveAnswer : Json :=
  .record [("Basics", .record [("Controller", .ofNat 3)]),
    ("Drive /c3/e1/s2 - Detailed Information", driveDetail)]

def entryOf (status : String) : Json :=
  .record [("Command Status", .record [("Status", .text status)]), ("Response Data", driveAnswer)]

/-- One controller that failed to answer, and one that did with a drive of its own. -/
theorem report_decomposes_behind_failure :
    ∃ part, report (Json.record
        [("Controllers", .list [entryOf "Failure", entryOf "Success"])]).compact = .ok part ∧
      report (alone (entryOf "Success")) = .ok part ∧ ReportsDetails driveAnswer part.2 ∧
      ∃ controller drive, part.1 = [controller] ∧
        drive? driveAnswer (some "Drive /c3/e1/s2 - Detailed Information", driveDetail) =
          some drive ∧
        drive.storageController = controller.physicalId := by
  obtain ⟨decomposes, links⟩ := report_decomposes
  have answer : Json.Settled 124 driveAnswer :=
    .record (List.pairwise_pair.2 (by decide +kernel)) (List.forall_mem_cons.2
      ⟨.record (List.pairwise_singleton _ _) (List.forall_mem_singleton.2
        (.numeral (Json.Numeral.canonical_ofInt 3) rfl)),
      List.forall_mem_singleton.2 (.record (List.pairwise_singleton _ _)
        (List.forall_mem_singleton.2 (.record .nil nofun)))⟩)
  have entry : ∀ status, Json.Settled 125 (entryOf status) := fun status =>
    .record (List.pairwise_pair.2 (by decide +kernel : "Command Status" < "Response Data"))
      (List.forall_mem_cons.2
      ⟨.record (List.pairwise_singleton _ _) (List.forall_mem_singleton.2 (.text status)),
      List.forall_mem_singleton.2 answer⟩)
  have settled : Json.Settled Json.depthLimit
      (.record [("Controllers", .list [entryOf "Failure", entryOf "Success"])]) :=
    .record (List.pairwise_singleton _ _) (List.forall_mem_singleton.2 (.list
      (List.forall_mem_cons.2 ⟨entry _, List.forall_mem_singleton.2 (entry _)⟩)))
  have lists : Lists (Json.record
      [("Controllers", .list [entryOf "Failure", entryOf "Success"])]).compact
      [entryOf "Failure", entryOf "Success"] := by
    rw [Lists, Json.settledOfText?_compact settled]
    rfl
  obtain ⟨parts, reported, each⟩ := decomposes _ _ lists
  obtain ⟨failedPart, others, failed, rest, rfl⟩ := List.forall₂_cons_left_iff.1 each
  obtain ⟨part, nothing, contributes, none, rfl⟩ := List.forall₂_cons_left_iff.1 rest
  cases none
  have failure : ¬ Succeeded (entryOf "Failure") := by
    rintro ⟨status, ⟨⟩, found⟩
    have same : Json.text "Failure" = .text "Success" := Option.some.inj found
    simp [Json.text] at same
  have success : Succeeded (entryOf "Success") := ⟨_, rfl, rfl⟩
  obtain ⟨controller, known, -, linked⟩ := links 3 driveAnswer _ rfl rfl
  obtain ⟨drive, found⟩ : ∃ drive, drive? driveAnswer
      (some "Drive /c3/e1/s2 - Detailed Information", driveDetail) = some drive :=
    ⟨_, rfl⟩
  refine ⟨part, ?_, contributes.reported _ contributes.listed, contributes.drives _ success rfl,
    controller, drive, ?_, found, ?_⟩
  · rw [reported, failed.failed failure]
    simp only [List.flatMap_cons, List.flatMap_nil, List.nil_append, List.append_nil]
  · rw [contributes.controllers _ success rfl, known]
    rfl
  · exact linked driveAnswer "e1/s2" driveDetail drive found

end Storcli

end ServerInventory
