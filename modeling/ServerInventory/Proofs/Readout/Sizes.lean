import ServerInventory.Proofs.Readout.Blocks
import ServerInventory.Proofs.Readout.Preorder
import ServerInventory.Proofs.Readout.Serials
import ServerInventory.Proofs.Text.Decimal
import ServerInventory.Proofs.Text.Returns

/-!
Sizes in bytes. `dmidecode` and `mvcli` print a number with a binary unit, `lshw` a number of
bytes, and none of these is bounded by a signed word. A size that fits one is kept and any
other is unknown, whether it is the number itself that is too large or its product with the
unit (`sizes_never_wrap`).
-/

namespace ServerInventory

/-! ## Words -/

namespace Chars

variable {word blanks rest : Chars}

theorem words_visible_append (filled : word ≠ []) (visible : ∀ c ∈ word, isBlank c = false)
    (ends : ∀ c ∈ rest.head?, isBlank c = true) : words (word ++ rest) = word :: words rest := by
  induction word with
  | nil => exact absurd rfl filled
  | cons c word ih =>
    obtain ⟨first, others⟩ := List.forall_mem_cons.1 visible
    rw [List.cons_append, words_cons, if_neg (Bool.not_eq_true _ ▸ first)]
    cases word with
    | nil =>
      cases rest with
      | nil => rfl
      | cons next rest =>
        dsimp only [List.nil_append]
        rw [if_pos (ends next rfl)]
    | cons next word =>
      dsimp only [List.cons_append]
      rw [if_neg (Bool.not_eq_true _ ▸ others next List.mem_cons_self), ← List.cons_append,
        ih (List.cons_ne_nil _ _) others, pushFront]

theorem words_visible (filled : word ≠ []) (visible : ∀ c ∈ word, isBlank c = false) :
    words word = [word] := by
  have alone : words (word ++ []) = word :: words [] := words_visible_append filled visible nofun
  rwa [List.append_nil] at alone

theorem words_blank_append (blank : allBlank blanks = true) :
    words (blanks ++ rest) = words rest := by
  induction blanks with
  | nil => rfl
  | cons c blanks ih =>
    rw [allBlank, List.all_cons, Bool.and_eq_true] at blank
    rw [List.cons_append, words_cons, if_pos blank.1, ih blank.2]

end Chars

/-! ## Words of 64 bits -/

/-- Whether a field holds a number of bytes, or zero if that does not fit a signed word. -/
def Holds (field : Int64) (bytes : Int) : Prop :=
  field.toInt = if -2 ^ 63 ≤ bytes ∧ bytes < 2 ^ 63 then bytes else 0

theorem fitsInt64_iff {value : Int} :
    fitsInt64 value = true ↔ -2 ^ 63 ≤ value ∧ value < 2 ^ 63 := by
  simp only [fitsInt64, Bool.and_eq_true, decide_eq_true_eq]
  omega

theorem holds_zero {bytes : Int} (beyond : ¬(-2 ^ 63 ≤ bytes ∧ bytes < 2 ^ 63)) :
    Holds 0 bytes := by
  rw [Holds, if_neg beyond]
  rfl

theorem holds_int64? (bytes : Int) : Holds ((int64? bytes).getD 0) bytes := by
  rw [int64?]
  split
  · next fits =>
    have bounds := fitsInt64_iff.1 fits
    rw [Holds, if_pos bounds]
    exact Int64.toInt_ofInt_of_le (by omega) (by omega)
  · next beyond => exact holds_zero fun bounds => beyond (fitsInt64_iff.2 bounds)

/-- A number that does not fit a word by itself does not fit one in a unit either. -/
theorem Size.holds_scaled (number : Int) {factor : Int} (positive : 0 < factor) :
    Holds (((int64? number).map (product · factor)).getD 0) (number * factor) := by
  by_cases fits : fitsInt64 number = true
  · have bounds := fitsInt64_iff.1 fits
    have same : (Int64.ofInt number).toInt = number :=
      Int64.toInt_ofInt_of_le (by omega) (by omega)
    rw [int64?, if_pos fits, Option.map_some, Option.getD_some, product, same]
    exact holds_int64? _
  · rw [int64?, if_neg fits]
    refine holds_zero fun bounds => fits (fitsInt64_iff.2 ?_)
    -- A factor of at least one takes the number no closer to zero.
    rcases Int.le_total 0 number with natural | negative
    · have grows : number ≤ number * factor := le_mul_of_one_le_right natural positive
      omega
    · have falls : number * factor ≤ number := mul_le_of_one_le_right negative positive
      omega

/-! ## Printed sizes -/

namespace Size

/-- The binary units in small letters, and the powers of two that they stand for. -/
def units : List (String × Nat) :=
  [("bytes", 0), ("kb", 10), ("mb", 20), ("gb", 30)]

/-- Whether a text gives a number of bytes in a binary unit, or in none. -/
inductive IsBinary : Chars → Int → Prop
  | plain {number : Chars} {value : Int} (written : Chars.IsDecimal number value) :
      IsBinary number value
  | scaled {number blanks unit : Chars} {value : Int} {small : String} {exponent : Nat}
      (written : Chars.IsDecimal number value) (apart : blanks ≠ [])
      (blank : Chars.allBlank blanks = true) (known : (small, exponent) ∈ units)
      (spelled : unit.map Char.toLower = small.toList) :
      IsBinary (number ++ blanks ++ unit) (value * 2 ^ exponent)

/-- Whether a text gives a number of bytes in units of 1024, with a `K` of either case behind
the number. -/
inductive IsKibi : Chars → Int → Prop
  | scaled {number : Chars} {value : Int} {unit : Char} (written : Chars.IsDecimal number value)
      (known : unit = 'K' ∨ unit = 'k') : IsKibi (number ++ [unit]) (value * 1024)

theorem units_known : (units.all fun unit =>
    binaryUnit? (some unit.1.toList) == some (2 ^ unit.2) && !unit.1.toList.isEmpty &&
      unit.1.toList.all fun c => decide (c.toNat < 0x80) && !Chars.isBlank c) = true := by
  decide +kernel

/-- A unit in letters of any case is one word, and is known. -/
theorem unit_known {unit : Chars} {small : String} {exponent : Nat}
    (known : (small, exponent) ∈ units) (spelled : unit.map Char.toLower = small.toList) :
    unit ≠ [] ∧ (∀ c ∈ unit, Chars.isBlank c = false) ∧
      binaryUnit? (some (Chars.lowercase unit)) = some (2 ^ exponent) := by
  have entry := List.all_eq_true.1 units_known _ known
  simp only [Bool.and_eq_true, beq_iff_eq, Bool.not_eq_true', List.isEmpty_eq_false_iff,
    List.all_eq_true, decide_eq_true_eq] at entry
  obtain ⟨⟨value, filled⟩, plain⟩ := entry
  rw [← spelled] at value filled plain
  have each := Chars.plain_of_map_toLower plain
  refine ⟨fun empty => filled (List.map_eq_nil_iff.2 empty), fun c among => (each c among).2, ?_⟩
  rw [Chars.lowercase_of_ascii fun c among => (each c among).1]
  exact value

variable {text : Chars} {bytes : Int}

theorem binaryBytes_eq {number : Chars} {value factor : Int} {others : List Chars}
    (words : Chars.words text = number :: others) (written : Chars.IsDecimal number value)
    (known : binaryUnit? (others.head?.map Chars.lowercase) = some factor) :
    binaryBytes (String.ofList text) =
      ((int64? value).map (product · factor)).getD 0 := by
  have second : (number :: others)[1]? = others.head? := by
    rw [List.getElem?_cons_succ, List.head?_eq_getElem?]
  rw [binaryBytes, String.toList_ofList, words, second, List.head?_cons, Option.bind_some,
    written.integer?_eq, Option.bind_some, known]
  cases int64? value <;> rfl

theorem IsBinary.holds (size : IsBinary text bytes) :
    Holds (binaryBytes (String.ofList text)) bytes := by
  cases size with
  | plain written =>
    have words := Chars.words_visible written.ne_nil written.visible
    rw [binaryBytes_eq words written rfl]
    simpa only [Int.mul_one] using holds_scaled bytes Int.one_pos
  | @scaled number blanks unit value small exponent written apart blank known spelled =>
    obtain ⟨filled, visible, known⟩ := unit_known known spelled
    have ends : ∀ c ∈ (blanks ++ unit).head?, Chars.isBlank c = true := by
      obtain ⟨first, others, rfl⟩ := List.exists_cons_of_ne_nil apart
      rintro _ ⟨⟩
      exact Chars.allBlank_iff.1 blank first List.mem_cons_self
    have words : Chars.words (number ++ (blanks ++ unit)) = [number, unit] := by
      rw [Chars.words_visible_append written.ne_nil written.visible ends,
        Chars.words_blank_append blank, Chars.words_visible filled visible]
    rw [List.append_assoc, binaryBytes_eq words written known]
    exact holds_scaled value (Int.pow_pos (by decide))

theorem IsKibi.holds (size : IsKibi text bytes) :
    Holds (kibibytes (String.ofList text)) bytes := by
  obtain @⟨number, value, unit, written, known⟩ := size
  have visible : ∀ c ∈ number ++ [unit], Chars.isBlank c = false :=
    List.forall_mem_append.2 ⟨written.visible, List.forall_mem_singleton.2 (by
      rcases known with rfl | rfl <;> decide)⟩
  have isUnit : (unit == 'K' || unit == 'k') = true := by
    rcases known with rfl | rfl <;> rfl
  have noUnit : ∀ c ∈ number, ¬(c == 'K' || c == 'k') = true := by
    intro c among isUnit
    have numeric := written.isNumeric_of_mem c among
    rw [Bool.or_eq_true, beq_iff_eq, beq_iff_eq] at isUnit
    rcases isUnit with rfl | rfl <;> exact absurd numeric (by decide)
  -- All letters at the end are cut off, and a number has none.
  have digits : ((number ++ [unit]).reverse.dropWhile fun c => c == 'K' || c == 'k').reverse =
      number :=
    (List.rdropWhile_concat_pos (fun c => c == 'K' || c == 'k') number unit isUnit).trans
      (List.rdropWhile_eq_self_iff.2 fun filled => noUnit _ (List.getLast_mem filled))
  have same : kibibytes (String.ofList (number ++ [unit])) =
      ((int64? value).map (product · 1024)).getD 0 := by
    rw [kibibytes, String.toList_ofList, (Chars.Trimmed.of_visible visible).trim_eq, digits,
      written.integer?_eq, Option.bind_some]
    cases int64? value <;> rfl
  rw [same]
  exact holds_scaled value (by decide)

theorem IsBinary.exists_first (size : IsBinary text bytes) :
    ∃ c rest, text = c :: rest ∧ Chars.isNumeric c = true := by
  have first : ∀ {number : Chars} {value : Int} (rest : Chars), Chars.IsDecimal number value →
      ∃ c others, number ++ rest = c :: others ∧ Chars.isNumeric c = true := by
    intro number value rest written
    obtain ⟨c, others, rfl⟩ := List.exists_cons_of_ne_nil written.ne_nil
    exact ⟨c, others ++ rest, rfl, written.isNumeric_of_mem c List.mem_cons_self⟩
  cases size with
  | plain written =>
    have found := first [] written
    rwa [List.append_nil] at found
  | @scaled number blanks unit value small exponent written =>
    rw [List.append_assoc]
    exact first (blanks ++ unit) written

theorem IsKibi.ne_nil (size : IsKibi text bytes) : text ≠ [] := by
  cases size with
  | scaled => exact List.concat_ne_nil _ _

end Size

/-! ## Values of blocks -/

/-- No placeholder begins like a number. -/
theorem placeholders_lettered :
    (placeholders.all fun text => text.toList.head?.all fun c => !Chars.isNumeric c) = true := by
  decide +kernel

theorem not_isPlaceholder_of_first {text rest : Chars} {c : Char}
    (trimmed : Chars.trim text = c :: rest) (numeric : Chars.isNumeric c = true) :
    ¬IsPlaceholder (String.ofList text) := by
  intro placeholder
  have lettered := List.all_eq_true.1 placeholders_lettered _ placeholder
  have small := isSmall_of_isNumeric numeric
  rw [Text.toList_lowercase, Text.toList_trim, String.toList_ofList, trimmed, Chars.lowercase,
    Chars.lowercaseFrom, if_neg small.ne_sigma, small.smallForm_eq, List.singleton_append,
    List.head?_cons, Option.all_some, numeric] at lettered
  cases lettered

theorem Block.Gives.value?_ofLines {lines : List Chars} {key : String} {value : Chars}
    (gives : Gives lines key value) (filled : Chars.trim value ≠ []) :
    (ofLines lines).value? [key] = some (String.ofList (Chars.trim value)) := by
  have shown : (!(String.ofList (Chars.trim value)).isEmpty) = true := by
    rw [Bool.not_eq_true', ← Bool.not_eq_true, String.isEmpty_iff, ← String.toList_inj,
      String.toList_ofList]
    exact filled
  rw [value?, List.filterMap_cons_some gives.get?_ofLines, List.filterMap_nil, List.find?_cons,
    shown]

variable {lines : List Chars} {key : String} {value : Chars} {bytes : Int}

theorem Size.IsBinary.holds_text (size : IsBinary (Chars.trim value) bytes)
    (gives : Block.Gives lines key value) :
    Holds (binaryBytes ((Block.ofLines lines).text [key])) bytes := by
  obtain ⟨c, rest, text, numeric⟩ := size.exists_first
  have filled : Chars.trim value ≠ [] := text ▸ List.cons_ne_nil c rest
  have known : ¬IsPlaceholder (String.ofList (Chars.trim value)) :=
    not_isPlaceholder_of_first ((Chars.trim_trim value).trans text) numeric
  have printed : (Block.ofLines lines).text [key] = String.ofList (Chars.trim value) := by
    rw [Block.text, gives.value?_ofLines filled, Option.map_some, Option.getD_some,
      cleaned_of_not_isPlaceholder known, Text.trim, String.toList_ofList, Chars.trim_trim]
  rw [printed]
  exact size.holds

theorem Size.IsKibi.holds_value (size : IsKibi (Chars.trim value) bytes)
    (gives : Block.Gives lines key value) :
    Holds ((((Block.ofLines lines).value? [key]).map kibibytes).getD 0) bytes := by
  rw [gives.value?_ofLines size.ne_nil, Option.map_some, Option.getD_some]
  exact size.holds

/-! ## Sizes of all utilities -/

/-- Whether a field holds what is told of a size, if anything is. -/
def HoldsTold (field : Int64) (told : Option Nat) : Prop :=
  ∀ size : Nat, told = some size → Holds field size

theorem holdsTold_ofNatural? (told : Option Nat) : HoldsTold (Size.ofNatural? told) told := by
  rintro size rfl
  rw [Size.ofNatural?, Option.bind_some]
  exact holds_int64? size

/-- A size is kept if a signed word holds it and unknown otherwise: one that `dmidecode` prints
with a binary unit or with none, one that `mvcli` prints in units of 1024, and one that a node of
`lshw` has for the system firmware, a drive or a network card. -/
theorem sizes_never_wrap :
    (∀ value : Int, Chars.IsDecimal (toString value).toList value) ∧
    (∀ output lines rest, Block.linesOfText Dmidecode.marker output = lines :: rest →
      ∃ bios, Dmidecode.bios? output = some bios ∧
        ∀ value bytes, Size.IsBinary (Chars.trim value) bytes →
          (Block.Gives lines "ROM Size" value → Holds bios.capacityBytes bytes) ∧
          (Block.Gives lines "Runtime Size" value → Holds bios.sizeBytes bytes)) ∧
    (∀ output lines value bytes, lines ∈ Block.linesOfText Mvcli.driveMarker output →
      Block.Gives lines "Size" value → Size.IsKibi (Chars.trim value) bytes →
        Mvcli.drive (Block.ofLines lines) ∈ Mvcli.drives output ∧
          Holds (Mvcli.drive (Block.ofLines lines)).capacityBytes bytes) ∧
    (∀ output tree, Lshw.Describes output tree →
      ∃ device, Lshw.device output = .ok device ∧
        (∀ node, (tree.preorder.filter Lshw.NodeInfo.isFirmware).getLast? = some node →
          HoldsTold device.bios.sizeBytes node.size ∧
            HoldsTold device.bios.capacityBytes node.capacity) ∧
        List.Forall₂ (fun node drive => HoldsTold drive.capacityBytes node.size)
          (tree.preorder.filter Lshw.NodeInfo.isDrive) device.drives ∧
        List.Forall₂ (fun node nic => HoldsTold nic.speedBits (node.capacity.or node.size))
          (tree.preorder.filter Lshw.NodeInfo.isNetwork) device.nics) ∧
    (∀ output members tree, Json.settledOfText? output = some (.object members) →
      tree.ToldBy (.object members) → Lshw.Describes output tree) := by
  refine ⟨Chars.decimal_toString, ?_, ?_, ?_, fun _ _ _ => Lshw.describes_of_toldBy⟩
  · intro output lines rest blocks
    refine ⟨Dmidecode.biosOfBlock (Block.ofLines lines), ?_, fun value bytes size =>
      ⟨size.holds_text, size.holds_text⟩⟩
    rw [Dmidecode.bios?, Block.ofText, blocks, List.map_cons, List.head?_cons, Option.map_some]
  · intro output lines value bytes among gives size
    exact ⟨List.mem_map_of_mem (List.mem_map_of_mem among), size.holds_value gives⟩
  · intro output tree described
    refine ⟨Lshw.deviceOfTree tree, Lshw.device_eq_ok_iff.2 ⟨tree, described, rfl⟩, ?_⟩
    rw [Lshw.deviceOfTree_eq]
    refine ⟨fun node last => ?_, ?_, ?_⟩
    · rw [last]
      exact ⟨holdsTold_ofNatural? node.size, holdsTold_ofNatural? node.capacity⟩
    · exact List.forall₂_map_right_iff.2 (List.forall₂_same.2 fun node _ =>
        holdsTold_ofNatural? node.size)
    · exact List.forall₂_map_right_iff.2 (List.forall₂_same.2 fun node _ =>
        holdsTold_ofNatural? (node.capacity.or node.size))

def Lshw.cardDocument : Json :=
  .record [("capacity", .ofNat 0x8000000000000000), ("class", .text "network")]

def Lshw.card : NodeInfo :=
  { classification := "network", capacity := some 0x8000000000000000 }

/-- The largest size in a unit that fits a word, and for each utility the first one beyond. -/
theorem sizes_never_wrap_at_bounds :
    (∃ bios, Dmidecode.bios?
        "BIOS Information\n\tROM Size: 8589934591 GB\n\tRuntime Size: 8589934592 gb\n" =
          some bios ∧
      bios.capacityBytes.toInt = 8589934591 * 2 ^ 30 ∧ bios.sizeBytes.toInt = 0) ∧
    (∃ drive ∈ Mvcli.drives "PD ID: 0\nSize: 9007199254740992K\n",
      drive.capacityBytes.toInt = 0) ∧
    ∃ device nic, Lshw.device Lshw.cardDocument.compact = .ok device ∧
      device.nics = [nic] ∧ nic.speedBits.toInt = 0 := by
  obtain ⟨usual, dmidecode, mvcli, lshw, tells⟩ := sizes_never_wrap
  refine ⟨?_, ?_, ?_⟩
  · have fits : Size.IsBinary (Chars.trim " 8589934591 GB".toList) (8589934591 * 2 ^ 30) :=
      .scaled (usual 8589934591) (List.cons_ne_nil ' ' []) (by decide)
        (by decide +kernel : ("gb", 30) ∈ Size.units) (by decide : "GB".toList.map _ = _)
    have beyond : Size.IsBinary (Chars.trim " 8589934592 gb".toList) (8589934592 * 2 ^ 30) :=
      .scaled (usual 8589934592) (List.cons_ne_nil ' ' []) (by decide)
        (by decide +kernel : ("gb", 30) ∈ Size.units) (by decide : "gb".toList.map _ = _)
    obtain ⟨bios, found, sizes⟩ := dmidecode
      "BIOS Information\n\tROM Size: 8589934591 GB\n\tRuntime Size: 8589934592 gb\n"
      ["BIOS Information".toList, "\tROM Size: 8589934591 GB".toList,
        "\tRuntime Size: 8589934592 gb".toList] [] (by decide +kernel)
    have capacity := (sizes _ _ fits).1
      ⟨["BIOS Information".toList], "\tROM Size".toList, ["\tRuntime Size: 8589934592 gb".toList],
        by decide, by decide, by decide +kernel, by decide +kernel⟩
    have size := (sizes _ _ beyond).2
      ⟨["BIOS Information".toList, "\tROM Size: 8589934591 GB".toList], "\tRuntime Size".toList, [],
        by decide, by decide, by decide +kernel, nofun⟩
    exact ⟨bios, found, capacity.trans (if_pos (by decide)), size.trans (if_neg (by decide))⟩
  · have beyond : Size.IsKibi (Chars.trim " 9007199254740992K".toList) (9007199254740992 * 1024) :=
      .scaled (usual 9007199254740992) (.inl rfl)
    obtain ⟨among, capacity⟩ := mvcli "PD ID: 0\nSize: 9007199254740992K\n"
      ["PD ID: 0".toList, "Size: 9007199254740992K".toList] _ _ (by decide +kernel)
      ⟨["PD ID: 0".toList], "Size".toList, [], by decide, by decide, by decide +kernel, nofun⟩
      beyond
    exact ⟨_, among, capacity.trans (if_neg (by decide))⟩
  · have settled : Json.Settled Json.depthLimit Lshw.cardDocument :=
      .record (List.pairwise_pair.2 (by decide +kernel : "capacity" < "class"))
        (List.forall_mem_cons.2 ⟨.numeral (Json.Numeral.canonical_ofInt _) rfl,
          List.forall_mem_singleton.2 (.text _)⟩)
    have told : (Lshw.Node.mk Lshw.card []).ToldBy Lshw.cardDocument :=
      ⟨⟨_, rfl⟩, ⟨rfl, rfl, rfl, rfl, rfl, rfl, rfl, rfl, rfl, rfl, rfl, rfl,
        ⟨0x8000000000000000, rfl, rfl⟩, rfl⟩, rfl⟩
    obtain ⟨device, read, -, -, cards⟩ :=
      lshw _ _ (tells _ _ _ (Json.settledOfText?_compact settled) told)
    obtain ⟨nic, others, speed, none, same⟩ := List.forall₂_cons_left_iff.1
      (cards : List.Forall₂ _ [Lshw.card] device.nics)
    cases none
    exact ⟨device, nic, read, same, (speed _ rfl).trans (if_neg (by decide))⟩

end ServerInventory
