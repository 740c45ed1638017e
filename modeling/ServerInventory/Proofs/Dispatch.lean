import ServerInventory.Dispatch
import ServerInventory.Proofs.StringMap
import ServerInventory.Proofs.Vendor

/-!
Who serves a vendor. Only the key of the vendor decides, so that all names of a vendor are
served alike, and a name that nobody serves comes back as it was given
(`Dispatch.resolves_by_key`).
-/

namespace ServerInventory.Dispatch

variable {α : Type} {kind : ComponentKind} {vendor left right : String}
  {table : List (String × α)} {entry : α}

/-- Whether two names are answered alike: by the same entry, or each by the report that nobody
serves it. -/
inductive AnsweredAlike (kind : ComponentKind) (left right : String) :
    Except Error α → Except Error α → Prop
  | served (entry : α) : AnsweredAlike kind left right (.ok entry) (.ok entry)
  | unserved : AnsweredAlike kind left right (.error (.utilityNotIdentified kind.name left))
      (.error (.utilityNotIdentified kind.name right))

theorem lookup_alike (same : Vendor.canonical left = Vendor.canonical right)
    (table : List (String × α)) :
    AnsweredAlike kind left right (lookup kind left table) (lookup kind right table) := by
  rw [lookup, lookup, ← same]
  cases table.lookup (Vendor.canonical left) with
  | none => exact .unserved
  | some entry => exact .served entry

theorem lookup_eq_ok_iff (distinct : table.Pairwise fun left right => left.1 ≠ right.1) :
    lookup kind vendor table = .ok entry ↔ (Vendor.canonical vendor, entry) ∈ table := by
  rw [← StringMap.lookup_eq_some_iff_mem distinct, lookup]
  cases table.lookup (Vendor.canonical vendor) with
  | none => exact iff_of_false nofun nofun
  | some found => rw [Except.ok.injEq, Option.some.injEq]

/-- Who is served at all. -/
theorem exists_lookup_eq_ok_iff :
    (∃ entry, lookup kind vendor table = .ok entry) ↔
      Vendor.canonical vendor ∈ table.map Prod.fst := by
  rw [lookup]
  generalize Vendor.canonical vendor = key
  cases found : table.lookup key with
  | none =>
    refine iff_of_false nofun fun among => ?_
    obtain ⟨entry, listed, same⟩ := List.mem_map.1 among
    exact bne_iff_ne.1 (List.lookup_eq_none_iff.1 found entry listed) same.symm
  | some entry =>
    obtain ⟨_, _, whole, -⟩ := List.lookup_eq_some_iff.1 found
    refine iff_of_true ⟨entry, rfl⟩ (List.mem_map.2 ⟨(key, entry), ?_, rfl⟩)
    rw [whole]
    exact List.mem_append_right _ List.mem_cons_self

theorem exists_storageControllers_iff :
    (∃ collector, storageControllers vendor = .ok collector) ↔
      Vendor.canonical vendor ∈ [Vendor.marvell, Vendor.broadcom] := by
  rw [storageControllers, exists_lookup_eq_ok_iff]
  rfl

theorem exists_drives_iff :
    (∃ collector, drives vendor = .ok collector) ↔
      Vendor.canonical vendor ∈ [Vendor.micron, Vendor.marvell, Vendor.broadcom] := by
  rw [drives, exists_lookup_eq_ok_iff]
  rfl

/-- Firmware of a class is installed by whoever installs it for that class and the key of the
vendor. -/
theorem updater_eq_ok_iff {updater : Updater} :
    Dispatch.updater kind vendor = .ok updater ↔
      updater.kind = kind ∧ updater.vendor = Vendor.canonical vendor := by
  have distinct : ((Updater.all.filter fun updater => updater.kind == kind).map fun updater =>
      (updater.vendor, updater)).Pairwise fun left right => left.1 ≠ right.1 := by
    cases kind <;> decide
  have listed : updater ∈ Updater.all := by
    cases updater <;> decide
  rw [Dispatch.updater, lookup_eq_ok_iff distinct]
  simp only [List.mem_map, List.mem_filter, beq_iff_eq, Prod.mk.injEq]
  constructor
  · rintro ⟨_, ⟨-, of_kind⟩, same, rfl⟩
    exact ⟨of_kind, same⟩
  · rintro ⟨of_kind, same⟩
    exact ⟨updater, ⟨listed, of_kind⟩, same, rfl⟩

/-- The key of a vendor is its own key, and that of every other way to write it; the name, its
key and all of these are answered alike whoever is asked for, and nobody but a vendor's own
utility, for the class that was asked for, answers. -/
theorem resolves_by_key :
    (∀ name, Vendor.canonical (Vendor.canonical name) = Vendor.canonical name) ∧
    (∀ left right, Vendor.Respells left right →
      Vendor.canonical left = Vendor.canonical right) ∧
    (∀ vendor ∈ Vendor.spellings, ∀ spelling ∈ vendor.2,
      Vendor.canonical spelling = vendor.1) ∧
    (∀ left right, Vendor.Respells left right ∨ right = Vendor.canonical left →
      AnsweredAlike .storageController left right (storageControllers left)
          (storageControllers right) ∧
        AnsweredAlike .drive left right (drives left) (drives right) ∧
        ∀ kind, AnsweredAlike kind left right (updater kind left) (updater kind right)) ∧
    (∀ vendor, (∃ collector, storageControllers vendor = .ok collector) ↔
      Vendor.canonical vendor ∈ [Vendor.marvell, Vendor.broadcom]) ∧
    (∀ vendor, (∃ collector, drives vendor = .ok collector) ↔
      Vendor.canonical vendor ∈ [Vendor.micron, Vendor.marvell, Vendor.broadcom]) ∧
    (∀ kind vendor installer, updater kind vendor = .ok installer ↔
      installer.kind = kind ∧ installer.vendor = Vendor.canonical vendor) := by
  refine ⟨Vendor.canonical_canonical, fun _ _ => Vendor.canonical_of_respells,
    fun vendor known => (Vendor.canonical_of_mem_spellings known).2, fun left right alike => ?_,
    fun _ => exists_storageControllers_iff, fun _ => exists_drives_iff,
    fun _ _ _ => updater_eq_ok_iff⟩
  have same : Vendor.canonical left = Vendor.canonical right := by
    rcases alike with respells | key
    · exact Vendor.canonical_of_respells respells
    · rw [key, Vendor.canonical_canonical]
  exact ⟨lookup_alike same _, lookup_alike same _, fun kind => lookup_alike same _⟩

/-- A vendor between blanks of two kinds and in capitals, for the management controllers of
whom one utility installs firmware. -/
theorem resolves_by_key_capitals :
    Vendor.Respells "super micro computer, inc." "\u3000Super Micro Computer, INC.\t" ∧
      updater .bmc "\u3000Super Micro Computer, INC.\t" = .ok .sumBmc := by
  obtain ⟨-, respelled, known, -, -, -, installs⟩ := resolves_by_key
  have respells : Vendor.Respells "super micro computer, inc."
      "\u3000Super Micro Computer, INC.\t" :=
    ⟨"super micro computer, inc.".toList, "Super Micro Computer, INC.".toList, by decide +kernel,
      ⟨[], [], by decide +kernel, rfl, rfl⟩,
      ['\u3000'], ['\t'], by decide +kernel, by decide, by decide⟩
  have key : Vendor.canonical "super micro computer, inc." = Vendor.supermicro :=
    known _ (List.mem_cons_of_mem _ List.mem_cons_self) _ (by simp)
  refine ⟨respells, (installs .bmc _ .sumBmc).2 ⟨rfl, ?_⟩⟩
  rw [← respelled _ _ respells]
  exact key.symm

end ServerInventory.Dispatch
