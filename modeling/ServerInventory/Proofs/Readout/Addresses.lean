import ServerInventory.Proofs.Merge.Join
import ServerInventory.Proofs.Readout.Blocks
import ServerInventory.Proofs.Readout.Serials
import ServerInventory.Proofs.Text.Hexadecimal

/-!
Network cards known by their addresses. `lshw` prints an address with colons and `mlxup`
with or without them, each in letters of any case. Both parsers bring it to the one
spelling of the address, which determines the address, so the cards that the two utilities
report join exactly when they are one card (`cards_join_by_address`).
-/

namespace ServerInventory

/-! ## Spelling -/

namespace Mac

/-- A MAC address. -/
abbrev Address := Fin (2 ^ 48)

/-- The two digits of a byte. -/
def byteDigits (byte : Nat) : Char × Char :=
  ((byte / 16).digitChar, (byte % 16).digitChar)

/-- The digits of the last `count` bytes of a number, the highest byte first. -/
def bytesDigits : (count : Nat) → Nat → List (Char × Char)
  | 0, _ => []
  | count + 1, value => bytesDigits count (value / 256) ++ [byteDigits (value % 256)]

/-- The digits of an address, byte by byte. -/
def Address.digits (address : Address) : List (Char × Char) :=
  bytesDigits 6 address

/-- Pairs of digits one after the other. -/
def bare (digits : List (Char × Char)) : Chars :=
  digits.flatMap fun pair => [pair.1, pair.2]

/-- Pairs of digits with colons between them. -/
def separated : List (Char × Char) → Chars
  | [] => []
  | [pair] => [pair.1, pair.2]
  | pair :: next :: digits => pair.1 :: pair.2 :: ':' :: separated (next :: digits)

example : separated (Address.digits 0xB8CEF6A1B2C3) = "b8:ce:f6:a1:b2:c3".toList := by decide

theorem bare_cons (pair : Char × Char) (digits : List (Char × Char)) :
    bare (pair :: digits) = pair.1 :: pair.2 :: bare digits := rfl

theorem length_bare (digits : List (Char × Char)) :
    (bare digits).length = 2 * digits.length := by
  induction digits with
  | nil => rfl
  | cons pair digits ih =>
    rw [bare_cons, List.length_cons, List.length_cons, ih, List.length_cons]
    omega

/-- Colons are put where they belong. -/
theorem colonize_bare : ∀ digits : List (Char × Char), colonize (bare digits) = separated digits
  | [] => rfl
  | [_] => rfl
  | pair :: next :: digits => by
    rw [bare_cons, bare_cons, colonize, ← bare_cons, colonize_bare (next :: digits), separated]

theorem mem_separated {digits : List (Char × Char)} {c : Char} (among : c ∈ separated digits) :
    c = ':' ∨ c ∈ bare digits :=
  mem_colonize (colonize_bare digits ▸ among)

/-- The digits can be read off their spelling. -/
theorem separated_inj : ∀ {left right : List (Char × Char)}, left.length = right.length →
    separated left = separated right → left = right
  | [], [], _, _ => rfl
  | [(a, b)], [(c, d)], _, same => by
    simp only [separated, List.cons.injEq, and_true] at same
    rw [same.1, same.2]
  | (a, b) :: next :: left, (c, d) :: other :: right, length, same => by
    simp only [separated, List.cons.injEq, true_and] at same
    obtain ⟨rfl, rfl, rest⟩ := same
    rw [separated_inj (Nat.succ.inj length) rest]

theorem digitChar_inj {left right : Nat} (leftBound : left < 16) (rightBound : right < 16)
    (same : left.digitChar = right.digitChar) : left = right := by
  have values := congrArg Chars.hexValue? same
  rw [Chars.hexValue?_digitChar leftBound, Chars.hexValue?_digitChar rightBound] at values
  exact Option.some.inj values

theorem byteDigits_inj {left right : Nat} (leftBound : left < 256) (rightBound : right < 256)
    (same : byteDigits left = byteDigits right) : left = right := by
  obtain ⟨high, low⟩ := Prod.mk.inj same
  have quotient := digitChar_inj (by omega) (by omega) high
  have remainder := digitChar_inj (by omega) (by omega) low
  omega

theorem length_bytesDigits (count value : Nat) : (bytesDigits count value).length = count := by
  induction count generalizing value with
  | zero => rfl
  | succ count ih => rw [bytesDigits, List.length_append, ih, List.length_singleton]

theorem bytesDigits_inj {count left right : Nat} (leftBound : left < 256 ^ count)
    (rightBound : right < 256 ^ count)
    (same : bytesDigits count left = bytesDigits count right) : left = right := by
  induction count generalizing left right with
  | zero => omega
  | succ count ih =>
    rw [Nat.pow_succ] at leftBound rightBound
    obtain ⟨higher, lowest⟩ := List.append_inj' same rfl
    have quotient := ih (Nat.div_lt_of_lt_mul (by omega)) (Nat.div_lt_of_lt_mul (by omega)) higher
    have remainder := byteDigits_inj (Nat.mod_lt left (by decide)) (Nat.mod_lt right (by decide))
      (List.singleton_inj.1 lowest)
    omega

theorem Address.separated_digits_inj {left right : Address}
    (same : separated left.digits = separated right.digits) : left = right := by
  have digits := separated_inj
    ((length_bytesDigits 6 left).trans (length_bytesDigits 6 right).symm) same
  exact Fin.ext (bytesDigits_inj left.isLt right.isLt digits)

/-! ## Printed addresses -/

/-- Whether a text spells something out in letters of any case, with blanks around it. -/
def Prints (spelling text : Chars) : Prop :=
  ∃ front core back, text = front ++ core ++ back ∧ Chars.allBlank front = true ∧
    Chars.allBlank back = true ∧ core.map Char.toLower = spelling

theorem isSmallHex_of_mem_bytesDigits {count value : Nat} {c : Char}
    (among : c ∈ bare (bytesDigits count value)) :
    Chars.IsSmallHex c := by
  induction count generalizing value with
  | zero => cases among
  | succ count ih =>
    rw [bytesDigits, bare, List.flatMap_append] at among
    rcases List.mem_append.1 among with higher | lowest
    · exact ih higher
    · simp only [List.flatMap_cons, List.flatMap_nil, List.append_nil, List.mem_cons,
        List.not_mem_nil, or_false, byteDigits] at lowest
      rcases lowest with rfl | rfl
      · exact Chars.isSmallHex_digitChar (by omega)
      · exact Chars.isSmallHex_digitChar (by omega)

theorem Prints.lowercase_trim {spelling text : Chars} (prints : Prints spelling text)
    (plain : ∀ c ∈ spelling, c.toNat < 0x80 ∧ Chars.isBlank c = false) :
    Chars.lowercase (Chars.trim text) = spelling := by
  obtain ⟨front, core, back, rfl, blankFront, blankBack, rfl⟩ := prints
  have each := Chars.plain_of_map_toLower plain
  have trimmed : Chars.Trimmed core := .of_visible fun c among => (each c among).2
  rw [Chars.trim_surrounded blankFront blankBack, trimmed.trim_eq,
    Chars.lowercase_of_ascii fun c among => (each c among).1]

theorem plain_of_isHexDigit {c : Char} (digit : Chars.isHexDigit c = true) :
    c.toNat < 0x80 ∧ Chars.isBlank c = false := by
  have bounds := Chars.isHexDigit_iff_toNat.1 digit
  exact ⟨by omega, Chars.not_isBlank_of_isHexDigit digit⟩

theorem Address.lowercase_trim_of_bare {address : Address} {text : Chars}
    (prints : Prints (bare address.digits) text) :
    Chars.lowercase (Chars.trim text) = bare address.digits :=
  prints.lowercase_trim fun _ among => plain_of_isHexDigit (isSmallHex_of_mem_bytesDigits among).1

theorem Address.lowercase_trim_of_separated {address : Address} {text : Chars}
    (prints : Prints (separated address.digits) text) :
    Chars.lowercase (Chars.trim text) = separated address.digits := by
  refine prints.lowercase_trim fun c among => ?_
  rcases mem_separated among with rfl | digit
  · decide
  · exact plain_of_isHexDigit (isSmallHex_of_mem_bytesDigits digit).1

theorem Address.colon_mem_separated (address : Address) : ':' ∈ separated address.digits := by
  rw [← colonize_bare]
  refine colon_mem_colonize ?_
  rw [length_bare, Address.digits, length_bytesDigits]
  decide

/-- The one spelling is in small letters. -/
theorem Address.lowercase_separated (address : Address) :
    Chars.lowercase (separated address.digits) = separated address.digits := by
  have small : (separated address.digits).map Char.toLower = separated address.digits := by
    refine (List.map_congr_left fun c among => ?_).trans (List.map_id _)
    rcases mem_separated among with rfl | digit
    · rfl
    · exact (isSmallHex_of_mem_bytesDigits digit).2
  have itself : Prints (separated address.digits) (separated address.digits) :=
    ⟨[], _, [], (List.append_nil _).symm, rfl, rfl, small⟩
  rw [← Address.lowercase_trim_of_separated itself, Chars.lowercase_lowercase]

/-- Whether a text prints an address, with colons or without. -/
def Address.PrintedBy (address : Address) (text : Chars) : Prop :=
  Prints (bare address.digits) text ∨ Prints (separated address.digits) text

/-- A printed address is brought to its one spelling. -/
theorem Address.PrintedBy.toList_format {address : Address} {text : Chars}
    (printed : address.PrintedBy text) :
    (format (String.ofList (Chars.trim text))).toList = separated address.digits := by
  have cases := Mac.toList_format (String.ofList (Chars.trim text))
  rw [String.toList_ofList, Chars.trim_trim] at cases
  rcases printed with prints | prints
  · have small := Address.lowercase_trim_of_bare prints
    rw [small, colonize_bare] at cases
    have isBare : IsBare (bare address.digits) := by
      refine ⟨?_, fun c among => (isSmallHex_of_mem_bytesDigits among).1⟩
      rw [length_bare, Address.digits, length_bytesDigits]
    rcases cases with ⟨-, other⟩ | ⟨same, -⟩
    · exact absurd isBare other
    · exact same
  · have small := Address.lowercase_trim_of_separated prints
    rw [small] at cases
    rcases cases with ⟨same, -⟩ | ⟨-, isBare⟩
    · exact same
    · exact absurd (isBare.2 ':' address.colon_mem_separated) (by decide)

end Mac

/-! ## Cards -/

/-- A network card that `lshw` reports under an address. -/
def Lshw.PrintsCard (output : String) (address : Mac.Address) (card : Nic) : Prop :=
  ∃ tree node, Describes output tree ∧ node ∈ tree.preorder ∧ node.classification = "network" ∧
    Mac.Prints (Mac.separated address.digits) node.serial.toList ∧ card = node.nic

/-- A network card that `mlxup --query` reports under an address. -/
def Mlxup.PrintsCard (output : String) (address : Mac.Address) (card : Nic) : Prop :=
  ∃ lines value, lines ∈ Block.linesOfText marker output ∧ Block.Gives lines "Base MAC" value ∧
    address.PrintedBy value ∧ card = nic lines

variable {output : String} {address : Mac.Address} {card : Nic}

theorem Lshw.PrintsCard.reported (prints : Lshw.PrintsCard output address card) :
    ∃ device, Lshw.device output = .ok device ∧ card ∈ device.nics := by
  obtain ⟨tree, node, described, among, network, -, rfl⟩ := prints
  refine ⟨deviceOfTree tree, device_eq_ok_iff.2 ⟨tree, described, rfl⟩, ?_⟩
  rw [deviceOfTree_eq]
  exact List.mem_map_of_mem (List.mem_filter.2 ⟨among, beq_iff_eq.2 network⟩)

theorem Mlxup.PrintsCard.reported (prints : Mlxup.PrintsCard output address card) :
    card ∈ Mlxup.nics output := by
  obtain ⟨lines, value, among, -, -, rfl⟩ := prints
  exact List.mem_map_of_mem among

theorem Lshw.PrintsCard.serial_eq (prints : Lshw.PrintsCard output address card) :
    card.serial.toList = Mac.separated address.digits := by
  obtain ⟨tree, node, -, -, -, printed, rfl⟩ := prints
  have small := Mac.Address.lowercase_trim_of_separated printed
  have known : ¬IsPlaceholder node.serial :=
    Mac.not_isPlaceholder_of_colon (small ▸ address.colon_mem_separated)
  dsimp only [NodeInfo.nic, NodeInfo.identity]
  rw [cleaned_of_not_isPlaceholder known, Text.toList_lowercase, Text.toList_trim, small]

theorem Mlxup.PrintsCard.serial_eq (prints : Mlxup.PrintsCard output address card) :
    card.serial.toList = Mac.separated address.digits := by
  obtain ⟨lines, value, -, gives, printed, rfl⟩ := prints
  rw [serial_nic, printedAddress, Block.printed_of_get? gives.get?_ofLines, printed.toList_format]

/-- Serial numbers in the one spelling are compared as they stand. -/
theorem sameSerial_iff_of_spelled {left right : Mac.Address} {first second : String}
    (leftSpelled : first.toList = Mac.separated left.digits)
    (rightSpelled : second.toList = Mac.separated right.digits) :
    sameSerial first second = true ↔ left = right := by
  have nonempty : first.isEmpty = false := by
    rw [← Bool.not_eq_true, String.isEmpty_iff]
    rintro rfl
    have colon := left.colon_mem_separated
    rw [← leftSpelled] at colon
    cases colon
  rw [sameSerial, nonempty, Bool.not_false, Bool.true_and, beq_iff_eq, ← String.toList_inj,
    Text.toList_lowercase, Text.toList_lowercase, leftSpelled, rightSpelled,
    left.lowercase_separated, right.lowercase_separated]
  exact ⟨Mac.Address.separated_digits_inj, fun same => same ▸ rfl⟩

/-- The cards that the two utilities report are merged into one exactly if they are reported
under one address, and an address in its one spelling keeps it. -/
theorem cards_join_by_address :
    (∀ (left right : Mac.Address) (output query : String) (known card : Nic),
      Lshw.PrintsCard output left known → Mlxup.PrintsCard query right card →
        (∃ device, Lshw.device output = .ok device ∧ known ∈ device.nics) ∧
        card ∈ Mlxup.nics query ∧
        (sameSerial known.serial card.serial = true ↔ left = right) ∧
        ∃ merged applied, mergeBySerial [known] [card] = ([merged], .ok
          { matched := if left = right then 1 else 0
            applied
            unmatched := if left = right then [] else [card.serial] })) ∧
    ∀ text, Mac.format (Mac.format text) = Mac.format text := by
  refine ⟨fun left right output query known card printed listed => ?_, Mac.format_format⟩
  have same := sameSerial_iff_of_spelled printed.serial_eq listed.serial_eq
  refine ⟨printed.reported, listed.reported, same, ?_⟩
  have reporting : reportsOn card known = decide (left = right) := by
    rw [← sameSerial_eq_reportsOn, Bool.eq_iff_iff, decide_eq_true_iff]
    exact same
  have matched : matchedPairs [known] [card] = if left = right then 1 else 0 := by
    rw [matchedPairs_cons, List.countP_singleton, reporting]
    simp only [decide_eq_true_eq]
    rfl
  have unmatched : (strangers [known] [card]).map Identified.serial =
      if left = right then [] else [card.serial] := by
    rw [strangers, List.filter_cons, List.any_cons, reporting]
    by_cases one : left = right
    · simp [one]
    · simp [one]
      rfl
  rw [mergeBySerial_eq, matched, unmatched]
  exact ⟨_, _, rfl⟩

/-- One card, with a colon between each two digits in the one output and blanks around them
in the other. -/
theorem cards_join_by_address_once :
    ∃ known card,
      Lshw.PrintsCard "\x7b\"class\": \"network\", \"serial\": \"B8:CE:F6:A1:B2:C3\"\x7d"
        0xB8CEF6A1B2C3 known ∧
      Mlxup.PrintsCard "Device Type: ConnectX5\nBase MAC:  b8cef6a1b2C3 \n" 0xB8CEF6A1B2C3 card ∧
      sameSerial known.serial card.serial = true := by
  have printed : (((Json.settledOfText?
      "\x7b\"class\": \"network\", \"serial\": \"B8:CE:F6:A1:B2:C3\"\x7d").bind Lshw.root?).bind
        (Lshw.Node.reader Json.depthLimit)).map
          (fun tree => (tree.info.classification, tree.info.serial)) =
      some ("network", "B8:CE:F6:A1:B2:C3") := by decide +kernel
  obtain ⟨⟨node, children⟩, described, said⟩ := Option.map_eq_some_iff.1 printed
  obtain ⟨network, serial⟩ := Prod.mk.inj said
  dsimp only [Lshw.Node.info] at network serial
  have known : Lshw.PrintsCard
      "\x7b\"class\": \"network\", \"serial\": \"B8:CE:F6:A1:B2:C3\"\x7d" 0xB8CEF6A1B2C3
      node.nic := by
    refine ⟨_, node, described, List.mem_cons_self, network, ?_, rfl⟩
    rw [serial]
    exact ⟨[], "B8:CE:F6:A1:B2:C3".toList, [], by decide, rfl, rfl, by decide⟩
  have card : Mlxup.PrintsCard "Device Type: ConnectX5\nBase MAC:  b8cef6a1b2C3 \n" 0xB8CEF6A1B2C3
      (Mlxup.nic ["Device Type: ConnectX5".toList, "Base MAC:  b8cef6a1b2C3 ".toList]) := by
    refine ⟨_, "  b8cef6a1b2C3 ".toList, by decide +kernel,
      ⟨["Device Type: ConnectX5".toList], "Base MAC".toList, [], by decide, by decide,
        by decide +kernel, nofun⟩, ?_, rfl⟩
    exact .inl ⟨[' ', ' '], "b8cef6a1b2C3".toList, [' '], by decide, by decide, by decide, by decide⟩
  exact ⟨_, _, known, card, (cards_join_by_address.1 _ _ _ _ _ _ known card).2.2.1.2 rfl⟩

end ServerInventory
