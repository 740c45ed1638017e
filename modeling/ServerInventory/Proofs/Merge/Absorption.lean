import ServerInventory.Absorb
import ServerInventory.Proofs.Merge.Repetition

/-!
What a server absorbs. Of the found parts those that report on a known part go into it, and
so do those that report on a part found before them; every other one is added to the list, in
the order in which they are found (`newcomers`). So no part with a serial number is lost or
listed twice, and whoever absorbs the same once more only gets the parts without a serial
number again (`Device.absorb_accounts`).
-/

namespace ServerInventory

/-! ## Serial numbers in common -/

section

variable {α : Type} [Identified α] {first second third : α}

theorem reportsOn_iff : reportsOn first second = true ↔
    Identified.serial first ≠ "" ∧
      Text.lowercase (Identified.serial first) = Text.lowercase (Identified.serial second) :=
  decide_eq_true_iff

theorem reportsOn_self (lettered : Identified.serial first ≠ "") :
    reportsOn first first = true :=
  reportsOn_iff.2 ⟨lettered, rfl⟩

theorem reportsOn_symm (reporting : reportsOn first second = true) :
    reportsOn second first = true := by
  obtain ⟨lettered, same⟩ := reportsOn_iff.1 reporting
  refine reportsOn_iff.2 ⟨fun missing => lettered ?_, same.symm⟩
  rw [← Text.lowercase_eq_empty_iff, same, Text.lowercase_eq_empty_iff]
  exact missing

theorem reportsOn_trans (early : reportsOn first second = true)
    (late : reportsOn second third = true) : reportsOn first third = true := by
  obtain ⟨lettered, same⟩ := reportsOn_iff.1 early
  obtain ⟨_, other⟩ := reportsOn_iff.1 late
  exact reportsOn_iff.2 ⟨lettered, same.trans other⟩

/-- Without a serial number nothing is reported. -/
theorem serial_ne_empty_of_reportsOn (reporting : reportsOn first second = true) :
    Identified.serial first ≠ "" :=
  (reportsOn_iff.1 reporting).1

theorem reports_cons_of_silent {collected : List α}
    (silent : ¬ reportsOn first second = true) :
    reports (first :: collected) second = reports collected second :=
  List.filter_cons_of_neg silent

/-! ## Newcomers -/

/-- The fragments that report neither on a known part nor on a fragment before them, each
with the fragments after it. -/
def newcomers (known : List α) : List α → List (α × List α)
  | [] => []
  | fragment :: later =>
    if known.any (reportsOn fragment) then newcomers known later
    else (fragment, later) :: newcomers (fragment :: known) later

/-- The parts of a list after others were found. -/
def absorbed (known found : List α) : List α :=
  known.map (joined found) ++ (newcomers known found).map fun new => joined new.2 new.1

/-- No two parts have one serial number. -/
def DistinctSerials (parts : List α) : Prop :=
  parts.Pairwise fun left right => ¬ reportsOn left right

/-- Whether a part has no serial number. -/
def lacksSerial (part : α) : Bool :=
  Identified.serial part = ""

instance (parts : List α) : Decidable (DistinctSerials parts) :=
  inferInstanceAs (Decidable (parts.Pairwise fun left right => ¬ reportsOn left right))

theorem newcomers_cons_of_met {known : List α} {fragment : α}
    (met : known.any (reportsOn fragment) = true) (later : List α) :
    newcomers known (fragment :: later) = newcomers known later :=
  if_pos met

theorem newcomers_cons_of_new {known : List α} {fragment : α}
    (new : ¬ known.any (reportsOn fragment) = true) (later : List α) :
    newcomers known (fragment :: later) =
      (fragment, later) :: newcomers (fragment :: known) later :=
  if_neg new

/-- Of the known parts only their serial numbers count. -/
theorem newcomers_congr : ∀ (found : List α) {known other : List α},
    (∀ fragment : α, known.any (reportsOn fragment) = other.any (reportsOn fragment)) →
    newcomers known found = newcomers other found
  | [], _, _, _ => rfl
  | fragment :: later, known, other, same => by
    have further : ∀ next : α, (fragment :: known).any (reportsOn next) =
        (fragment :: other).any (reportsOn next) := by
      intro next
      rw [List.any_cons, List.any_cons, same]
    rw [newcomers, newcomers, same, newcomers_congr later same, newcomers_congr later further]

/-- Nobody has reported on a newcomer before it came. -/
theorem not_any_of_mem_newcomers : ∀ (found : List α) {known : List α} {new : α × List α},
    new ∈ newcomers known found → ¬ known.any (reportsOn new.1) = true
  | [], _, _, member => nomatch member
  | fragment :: later, known, new, member => by
    by_cases met : known.any (reportsOn fragment) = true
    · rw [newcomers_cons_of_met met] at member
      exact not_any_of_mem_newcomers later member
    · rw [newcomers_cons_of_new met] at member
      rcases List.mem_cons.1 member with rfl | member
      · exact met
      · intro known
        have unmet := not_any_of_mem_newcomers later member
        rw [List.any_cons, known, Bool.or_true] at unmet
        exact unmet rfl

/-- Newcomers do not report on each other. -/
theorem pairwise_newcomers : ∀ (found known : List α),
    (newcomers known found).Pairwise fun left right => ¬ reportsOn left.1 right.1
  | [], _ => .nil
  | fragment :: later, known => by
    by_cases met : known.any (reportsOn fragment) = true
    · rw [newcomers_cons_of_met met]
      exact pairwise_newcomers later known
    · rw [newcomers_cons_of_new met]
      refine List.pairwise_cons.2 ⟨fun new member reporting => ?_, pairwise_newcomers later _⟩
      have unmet := not_any_of_mem_newcomers later member
      rw [List.any_cons, reportsOn_symm reporting] at unmet
      exact unmet rfl

/-- All that reports on a newcomer comes with it or after it. -/
theorem reports_of_mem_newcomers : ∀ (found : List α) {known : List α} {new : α × List α},
    new ∈ newcomers known found → Identified.serial new.1 ≠ "" →
    reports found new.1 = new.1 :: reports new.2 new.1
  | [], _, _, member, _ => nomatch member
  | fragment :: later, known, new, member, lettered => by
    by_cases met : known.any (reportsOn fragment) = true
    · rw [newcomers_cons_of_met met] at member
      have unmet := not_any_of_mem_newcomers later member
      have silent : ¬ reportsOn fragment new.1 = true := by
        intro reporting
        obtain ⟨part, inside, reported⟩ := List.any_eq_true.1 met
        have through := reportsOn_trans (reportsOn_symm reporting) reported
        exact unmet (List.any_eq_true.2 ⟨part, inside, through⟩)
      rw [reports_cons_of_silent silent]
      exact reports_of_mem_newcomers later member lettered
    · rw [newcomers_cons_of_new met] at member
      rcases List.mem_cons.1 member with rfl | member
      · exact List.filter_cons_of_pos (reportsOn_self lettered)
      · have unmet := not_any_of_mem_newcomers later member
        have silent : ¬ reportsOn fragment new.1 = true := by
          intro reporting
          rw [List.any_cons, reportsOn_symm reporting] at unmet
          exact unmet rfl
        rw [reports_cons_of_silent silent]
        exact reports_of_mem_newcomers later member lettered

/-- Every fragment with a serial number reports on a known part or on a newcomer. -/
theorem any_known_or_newcomer : ∀ (found known : List α) {fragment : α}, fragment ∈ found →
    Identified.serial fragment ≠ "" →
    known.any (reportsOn fragment) = true ∨
      (newcomers known found).any (fun new => reportsOn fragment new.1) = true
  | [], _, _, member, _ => nomatch member
  | first :: later, known, fragment, member, lettered => by
    by_cases met : known.any (reportsOn first) = true
    · rw [newcomers_cons_of_met met]
      rcases List.mem_cons.1 member with rfl | member
      · exact .inl met
      · exact any_known_or_newcomer later known member lettered
    · rw [newcomers_cons_of_new met, List.any_cons]
      rcases List.mem_cons.1 member with rfl | member
      · exact .inr (Bool.or_eq_true_iff.2 (.inl (reportsOn_self lettered)))
      · have either := any_known_or_newcomer later (first :: known) member lettered
        rw [List.any_cons, Bool.or_eq_true] at either
        rw [Bool.or_eq_true]
        rcases either with (here | before) | after
        · exact .inr (.inl here)
        · exact .inl before
        · exact .inr (.inr after)

/-- Where everything with a serial number is known, only parts without one are added. -/
theorem map_newcomers_of_met : ∀ (found known : List α),
    (∀ fragment ∈ found, Identified.serial fragment ≠ "" →
      known.any (reportsOn fragment) = true) →
    (newcomers known found).map (fun new => joined new.2 new.1) = found.filter lacksSerial
  | [], _, _ => rfl
  | fragment :: later, known, met => by
    obtain ⟨first, others⟩ := List.forall_mem_cons.1 met
    by_cases missing : Identified.serial fragment = ""
    · have lacking : lacksSerial fragment = true := decide_eq_true missing
      have new : ¬ known.any (reportsOn fragment) = true := by
        intro reporting
        obtain ⟨part, _, reported⟩ := List.any_eq_true.1 reporting
        exact serial_ne_empty_of_reportsOn reported missing
      have further : ∀ next ∈ later, Identified.serial next ≠ "" →
          (fragment :: known).any (reportsOn next) = true := by
        intro next member lettered
        rw [List.any_cons, others next member lettered, Bool.or_true]
      have alone : joined later fragment = fragment := by
        rw [joined, reports_eq_nil later missing]
        rfl
      rw [newcomers_cons_of_new new, List.map_cons, map_newcomers_of_met later _ further, alone,
        List.filter_cons_of_pos lacking]
    · have kept : ¬ lacksSerial fragment = true := fun lacking =>
        missing (of_decide_eq_true lacking)
      rw [newcomers_cons_of_met (first missing), map_newcomers_of_met later known others,
        List.filter_cons_of_neg kept]

/-- Parts with serial numbers of their own, none of them known, are added as they are. -/
theorem map_newcomers_of_distinct : ∀ (found known : List α), DistinctSerials found →
    (∀ fragment ∈ found, ¬ known.any (reportsOn fragment) = true) →
    (newcomers known found).map (fun new => joined new.2 new.1) = found
  | [], _, _, _ => rfl
  | fragment :: later, known, distinct, unknown => by
    obtain ⟨apart, laterDistinct⟩ := List.pairwise_cons.1 distinct
    obtain ⟨new, others⟩ := List.forall_mem_cons.1 unknown
    have further : ∀ next ∈ later, ¬ (fragment :: known).any (reportsOn next) = true := by
      intro next member reporting
      rw [List.any_cons, Bool.or_eq_true] at reporting
      rcases reporting with here | before
      · exact apart next member (reportsOn_symm here)
      · exact others next member before
    have silent : reports later fragment = [] :=
      List.filter_eq_nil_iff.2 fun next member reporting =>
        apart next member (reportsOn_symm reporting)
    have alone : joined later fragment = fragment := by
      rw [joined, silent]
      rfl
    rw [newcomers_cons_of_new new, List.map_cons,
      map_newcomers_of_distinct later _ laterDistinct further, alone]

/-- A list absorbed into no list stays as it is if no two parts have one serial number. -/
theorem absorbed_nil {found : List α} (distinct : DistinctSerials found) :
    absorbed [] found = found :=
  map_newcomers_of_distinct found [] distinct fun _ _ reporting => nomatch reporting

/-- A list in which all that is found has its place gets the parts without a serial number
once more, after those that are there. -/
theorem absorbed_of_met {found parts : List α}
    (met : ∀ fragment ∈ found, Identified.serial fragment ≠ "" →
      parts.any (reportsOn fragment) = true) :
    absorbed parts found = parts.map (joined found) ++ found.filter lacksSerial := by
  rw [absorbed, map_newcomers_of_met found parts met]

end

/-! ## Lists of parts -/

section

variable {α : Type} [Identified α] [LawfulIdentified α]

theorem any_map_joined (collected known : List α) (fragment : α) :
    (known.map (joined collected)).any (reportsOn fragment) = known.any (reportsOn fragment) := by
  rw [List.any_map]
  refine congrArg known.any (funext fun part => ?_)
  exact reportsOn_joined collected fragment part

/-- What was found goes into the known parts and after them. The induction is on what was
found: the first fragment goes into the parts that it reports on, or else after all of them,
and then it is one of those that the others may report on. -/
theorem absorbList_eq : ∀ found known : List α,
    absorbList known found = .ok (absorbed known found)
  | [], known => by
    have same : joined ([] : List α) = id := rfl
    rw [absorbed, same, List.map_id]
    exact congrArg Except.ok (List.append_nil known).symm
  | fragment :: later, known => by
    have together : joined later ∘ joined [fragment] = joined (fragment :: later) :=
      funext fun part => (joined_append [fragment] later part).symm
    rw [absorbList, mergeMatching_eq]
    dsimp only
    by_cases met : known.any (reportsOn fragment) = true
    · have some : known.countP (reportsOn fragment) ≠ 0 := by
        intro none
        obtain ⟨part, inside, reporting⟩ := List.any_eq_true.1 met
        exact List.countP_eq_zero.1 none part inside reporting
      rw [if_neg some, absorbList_eq later, absorbed, absorbed, List.map_map, together,
        newcomers_congr later (any_map_joined [fragment] known), newcomers_cons_of_met met]
    · have none : known.countP (reportsOn fragment) = 0 :=
        List.countP_eq_zero.2 fun part inside reporting =>
          met (List.any_eq_true.2 ⟨part, inside, reporting⟩)
      have numbers : ∀ next : α, (known.map (joined [fragment]) ++ [fragment]).any
          (reportsOn next) = (fragment :: known).any (reportsOn next) := by
        intro next
        rw [List.any_append, any_map_joined, List.any_cons, List.any_cons, List.any_nil,
          Bool.or_false, Bool.or_comm]
      rw [if_pos none, absorbList_eq later, absorbed, absorbed, List.map_append, List.map_map,
        together, newcomers_congr later numbers, newcomers_cons_of_new met, List.append_assoc]
      rfl

theorem reportsOn_joined_joined (collected other : List α) (left right : α) :
    reportsOn (joined collected left) (joined other right) = reportsOn left right := by
  unfold reportsOn
  rw [serial_joined, serial_joined]

/-- Different serial numbers stay different. -/
theorem distinctSerials_absorbed {known : List α} (found : List α)
    (distinct : DistinctSerials known) : DistinctSerials (absorbed known found) := by
  refine List.pairwise_append.2 ⟨?_, ?_, ?_⟩
  · refine List.pairwise_map.2 (distinct.imp fun {left right} apart => ?_)
    rw [reportsOn_joined_joined]
    exact apart
  · refine List.pairwise_map.2 ((pairwise_newcomers found known).imp fun {left right} apart => ?_)
    rw [reportsOn_joined_joined]
    exact apart
  · intro old oldMember added addedMember reporting
    obtain ⟨part, inside, rfl⟩ := List.mem_map.1 oldMember
    obtain ⟨new, newInside, rfl⟩ := List.mem_map.1 addedMember
    rw [reportsOn_joined_joined] at reporting
    have unmet := not_any_of_mem_newcomers found newInside
    exact unmet (List.any_eq_true.2 ⟨part, inside, reportsOn_symm reporting⟩)

/-- Whatever was found with a serial number has its place in the list. -/
theorem any_absorbed {found : List α} {fragment : α} (known : List α)
    (member : fragment ∈ found) (lettered : Identified.serial fragment ≠ "") :
    (absorbed known found).any (reportsOn fragment) = true := by
  rw [absorbed, List.any_append, any_map_joined, Bool.or_eq_true]
  rcases any_known_or_newcomer found known member lettered with before | after
  · exact .inl before
  · refine .inr ?_
    obtain ⟨new, inside, reporting⟩ := List.any_eq_true.1 after
    refine List.any_eq_true.2 ⟨joined new.2 new.1, List.mem_map_of_mem inside, ?_⟩
    rw [reportsOn_joined]
    exact reporting

variable [Inhabited α] [Repeatable α]

/-- After the work all that was found is in the parts: the known ones end with it, and the
newcomers are made of it. -/
theorem settled_absorbed (known found : List α) : ∀ part ∈ absorbed known found,
    Settled found part := by
  intro part member
  rcases List.mem_append.1 member with old | added
  · obtain ⟨before, _, rfl⟩ := List.mem_map.1 old
    exact settled_joined found before
  · obtain ⟨new, inside, rfl⟩ := List.mem_map.1 added
    by_cases missing : Identified.serial new.1 = ""
    · refine settled_of_serial_eq_empty found ?_
      rw [serial_joined, missing]
    · refine ⟨default, ?_⟩
      rw [reports_joined, reports_of_mem_newcomers found inside missing, List.foldl_cons,
        Repeatable.start]
      rfl

end

/-! ## Servers -/

/-- What becomes of known parts when others are found: every known part is in its place, with
the fragments merged in that report on it, and after the known parts there are the newcomers,
each with the later fragments merged in that report on it. Different serial numbers stay
different. -/
structure Absorption {α : Type} [Identified α] (known found parts : List α) : Prop where
  listed : ∃ kept added : List (Merged α),
    List.Forall₂ (JoinedInto found) known kept ∧
      List.Forall₂ (fun new merged => JoinedInto new.2 new.1 merged) (newcomers known found)
        added ∧
      parts = kept.map (·.record) ++ added.map (·.record)
  distinct : DistinctSerials known → DistinctSerials parts

section

variable {α : Type} [Identified α] [LawfulIdentified α]

theorem joinedInto_joined (collected : List α) (part : α) :
    JoinedInto collected part ⟨joined collected part, joinedCount collected part⟩ := by
  refine ⟨mergeEach_eq (reports collected part) part, serial_joined collected part, ?_⟩
  intro missing
  change joined collected part = part
  rw [joined, reports_eq_nil collected missing]
  rfl

theorem absorption_absorbed (known found : List α) :
    Absorption known found (absorbed known found) := by
  refine ⟨⟨known.map fun part => ⟨joined found part, joinedCount found part⟩,
    (newcomers known found).map fun new => ⟨joined new.2 new.1, joinedCount new.2 new.1⟩,
    ?_, ?_, ?_⟩, distinctSerials_absorbed found⟩
  · exact List.forall₂_map_right_iff.2
      (List.forall₂_same.2 fun part _ => joinedInto_joined found part)
  · exact List.forall₂_map_right_iff.2
      (List.forall₂_same.2 fun new _ => joinedInto_joined new.2 new.1)
  · rw [List.map_map, List.map_map]
    rfl

end

namespace Device

/-- A server after another one was absorbed. -/
def absorbed (known found : Device) : Device :=
  { toIdentity := combine known.toIdentity found.toIdentity
    bmc := combine known.bmc found.bmc
    bios := combine known.bios found.bios
    cpld := combine known.cpld found.cpld
    drives := ServerInventory.absorbed known.drives found.drives
    nics := ServerInventory.absorbed known.nics found.nics
    storageControllers :=
      ServerInventory.absorbed known.storageControllers found.storageControllers }

theorem absorb_eq (known found : Device) : known.absorb found = .ok (known.absorbed found) := by
  rw [absorb, merge_eq, merge_eq, merge_eq, merge_eq, absorbList_eq, absorbList_eq,
    absorbList_eq]
  rfl

/-- A server absorbed into nothing is taken as it is if no two parts of a list have one
serial number. -/
theorem absorbed_blank {found : Device} (drives : DistinctSerials found.drives)
    (nics : DistinctSerials found.nics)
    (storageControllers : DistinctSerials found.storageControllers) :
    absorbed {} found = found := by
  have identity := Repeatable.start found.toIdentity
  have bmc := Repeatable.start found.bmc
  have bios := Repeatable.start found.bios
  have cpld := Repeatable.start found.cpld
  rw [absorbed, absorbed_nil drives, absorbed_nil nics, absorbed_nil storageControllers]
  change Device.mk (combine default found.toIdentity) _ _ (combine default found.bmc)
    (combine default found.bios) (combine default found.cpld) _ = found
  rw [identity, bmc, bios, cpld]

/-- A server that absorbed another one gets its parts without a serial number once more when
it absorbs it again, and does not change otherwise. -/
theorem absorbed_absorbed (known found : Device) :
    (known.absorbed found).absorbed found =
      { known.absorbed found with
        drives := (known.absorbed found).drives ++ found.drives.filter lacksSerial
        nics := (known.absorbed found).nics ++ found.nics.filter lacksSerial
        storageControllers := (known.absorbed found).storageControllers ++
          found.storageControllers.filter lacksSerial } := by
  have lists : ∀ {α : Type} [Identified α] [LawfulIdentified α] [Inhabited α] [Repeatable α]
      (known found : List α), ServerInventory.absorbed (ServerInventory.absorbed known found)
        found = ServerInventory.absorbed known found ++ found.filter lacksSerial := by
    intro α _ _ _ _ known found
    rw [absorbed_of_met fun fragment member lettered => any_absorbed known member lettered,
      map_joined_of_settled (settled_absorbed known found)]
  unfold absorbed
  rw [combine_again, combine_again, combine_again, combine_again, lists, lists, lists]

/-- Absorbing accounts for every part: each of the known and the found ones has one place in
its list, and nothing found once is added a second time, unless it has no serial number by
which it could be recognised. -/
theorem absorb_accounts (known found : Device) : ∃ device, known.absorb found = .ok device ∧
    Absorption known.drives found.drives device.drives ∧
    Absorption known.nics found.nics device.nics ∧
    Absorption known.storageControllers found.storageControllers device.storageControllers ∧
    (DistinctSerials found.drives → DistinctSerials found.nics →
      DistinctSerials found.storageControllers → absorb {} found = .ok found) ∧
    device.absorb found = .ok
      { device with
        drives := device.drives ++ found.drives.filter lacksSerial
        nics := device.nics ++ found.nics.filter lacksSerial
        storageControllers :=
          device.storageControllers ++ found.storageControllers.filter lacksSerial } := by
  refine ⟨known.absorbed found, absorb_eq known found, absorption_absorbed _ _,
    absorption_absorbed _ _, absorption_absorbed _ _, fun drives nics controllers => ?_, ?_⟩
  · rw [absorb_eq, absorbed_blank drives nics controllers]
  · rw [absorb_eq, absorbed_absorbed]

theorem absorb_accounts_into_blank :
    let found : Device :=
      { drives := [{ serial := "S1" }, {}, { serial := "s2" }], nics := [{ serial := "aa:bb" }] }
    DistinctSerials found.drives ∧ DistinctSerials found.nics ∧
      DistinctSerials found.storageControllers ∧ absorb {} found = .ok found := by
  intro found
  have drives : DistinctSerials found.drives := by decide
  have nics : DistinctSerials found.nics := by decide
  have controllers : DistinctSerials found.storageControllers := by decide
  obtain ⟨_, _, _, _, _, blank, _⟩ := absorb_accounts {} found
  exact ⟨drives, nics, controllers, blank drives nics controllers⟩

end Device

end ServerInventory
