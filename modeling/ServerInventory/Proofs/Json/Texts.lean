import ServerInventory.Proofs.Json.Numbers

/-!
Every document whose strings are texts and whose numerals can be written is read from the
text it is written as, on one line (`Json.ofText?_compact`) and on many
(`Json.ofText?_pretty`).

The two halves meet at `Json.Reads`: a text is read as a document wherever it stands. Reading
has one lemma for each production of the grammar, with blanks wherever they may stand, and
writing is an induction over the document for each of the two forms.
-/

namespace ServerInventory.Json

/-! ## Documents that can be written -/

/-- A document in which strings are texts and numerals are canonical. -/
inductive Legible : Json → Prop
  | null : Legible .null
  | flag (value : Bool) : Legible (.flag value)
  | numeral {value : Numeral} (canonical : value.Canonical) : Legible (.numeral value)
  | text (content : String) : Legible (text content)
  | list {items : List Json} (each : ∀ item ∈ items, Legible item) : Legible (.list items)
  | record {members : List (String × Json)} (each : ∀ member ∈ members, Legible member.2) :
      Legible (record members)

/-- A document in which at most `room` lists and objects are open at once, strings are texts
and numerals are integers of 64 bits. -/
inductive Proper : (room : Nat) → Json → Prop
  | null {room : Nat} : Proper room .null
  | flag {room : Nat} (value : Bool) : Proper room (.flag value)
  | integer {room : Nat} {value : Int} (fits : fitsInt64 value = true) :
      Proper room (ofInt value)
  | text {room : Nat} (content : String) : Proper room (text content)
  | list {room : Nat} {items : List Json} (each : ∀ item ∈ items, Proper room item) :
      Proper (room + 1) (.list items)
  | record {room : Nat} {members : List (String × Json)}
      (each : ∀ member ∈ members, Proper room member.2) : Proper (room + 1) (record members)

theorem Proper.legible {room : Nat} {document : Json} (proper : Proper room document) :
    Legible document := by
  induction proper with
  | null => exact .null
  | flag value => exact .flag value
  | integer => exact .numeral (Numeral.canonical_ofInt _)
  | text content => exact .text content
  | list _ ih => exact .list ih
  | record _ ih => exact .record ih

/-- The members of an object as they are named in a document. -/
def named (members : List (String × Json)) : List (Quoted × Json) :=
  members.map fun member => (some member.1, member.2)

/-! ## Blanks -/

def Blank (text : Chars) : Prop :=
  ∀ c ∈ text, isSpace c = true

theorem Blank.nil : Blank [] := by
  intro c member
  cases member

theorem blank_space : Blank [' '] := by
  intro c inside
  cases List.mem_singleton.1 inside
  rfl

variable {spaces after body rest written : Chars} {fuel : Nat} {document : Json}
  {items : List Json} {members : List (Quoted × Json)}

theorem skipSpace_blank (blank : Blank spaces) (rest : Chars) :
    skipSpace (spaces ++ rest) = skipSpace rest :=
  List.dropWhile_append_of_pos blank

theorem skipSpace_cons {c : Char} (visible : isSpace c = false) (rest : Chars) :
    skipSpace (c :: rest) = c :: rest :=
  List.dropWhile_cons_of_neg (Bool.eq_false_iff.1 visible)

theorem value?_congr {left right : Chars} (same : skipSpace left = skipSpace right) :
    value? fuel left = value? fuel right := by
  cases fuel with
  | zero => rw [value?, value?]
  | succ fuel => rw [value?, value?, same]

example : value? 6 "\n[\x7b\"port\": 7\x7d]".toList =
    value? 6 "[\x7b\"port\": 7\x7d]".toList := by cbv

theorem endsNumeral_blank (blank : Blank spaces) (ends : EndsNumeral rest) :
    EndsNumeral (spaces ++ rest) := by
  cases spaces with
  | nil => exact ends
  | cons c spaces =>
    intro first same
    cases same
    have space := blank c List.mem_cons_self
    unfold isSpace at space
    simp only [Bool.or_eq_true, beq_iff_eq] at space
    rcases space with ((rfl | rfl) | rfl) | rfl <;> decide

theorem endsNumeral_cons {c : Char}
    (stops : Chars.isDigit c = false ∧ c ≠ '.' ∧ c ≠ 'e' ∧ c ≠ 'E') :
    EndsNumeral (c :: rest) := by
  rintro _ ⟨⟩
  exact stops

/-! ## Reading -/

/-- A text that is read as a document wherever it stands. A value takes at most two steps for
each of its characters. -/
def Reads (document : Json) (written : Chars) : Prop :=
  ∀ fuel rest, 2 * written.length ≤ fuel → EndsNumeral rest →
    value? fuel (written ++ rest) = some (document, rest)

/-- A text that is read as the items of a list, its closing bracket included. -/
def ReadsItems (items : List Json) (written : Chars) : Prop :=
  ∀ fuel rest, 2 * written.length < fuel →
    items? fuel (written ++ rest) = some (items, rest)

/-- A text that is read as the members of an object, its closing brace included. -/
def ReadsMembers (members : List (Quoted × Json)) (written : Chars) : Prop :=
  ∀ fuel rest, 2 * written.length < fuel →
    members? fuel (written ++ rest) = some (members, rest)

theorem Reads.indent (reads : Reads document written) (blank : Blank spaces) :
    Reads document (spaces ++ written) := by
  intro fuel rest room ends
  rw [List.append_assoc, value?_congr (skipSpace_blank blank _)]
  rw [List.length_append] at room
  exact reads fuel rest (by omega) ends

theorem exists_fuel {least : Nat} (room : least < fuel) :
    ∃ less, fuel = less + 1 ∧ least ≤ less :=
  ⟨fuel - 1, by omega, by omega⟩

/-! ### Scalars -/

theorem reads_null : Reads .null ['n', 'u', 'l', 'l'] := by
  intro fuel rest room _
  obtain ⟨fuel, rfl, -⟩ := exists_fuel (Nat.lt_of_lt_of_le (Nat.zero_lt_succ _) room)
  rw [value?]
  rfl

theorem reads_flag (value : Bool) :
    Reads (.flag value) (if value then "true" else "false").toList := by
  intro fuel rest room _
  cases value
  all_goals
    obtain ⟨fuel, rfl, -⟩ := exists_fuel (Nat.lt_of_lt_of_le (Nat.zero_lt_succ _) room)
    rw [value?]
    rfl

theorem reads_text (content : String) :
    Reads (text content) ('"' :: escape content.toList ++ ['"']) := by
  intro fuel rest room _
  obtain ⟨fuel, rfl, -⟩ := exists_fuel (Nat.lt_of_lt_of_le (Nat.zero_lt_succ _) room)
  rw [value?, List.append_assoc, List.cons_append, skipSpace_cons (by decide)]
  show ((string? (escape content.toList ++ '"' :: rest)).map _) = _
  rw [string?_escape]
  rfl

theorem value?_digits {c : Char} (digit : Chars.isDigit c = true) (more : Chars) :
    value? (fuel + 1) (c :: more) =
      (numeral? false (c :: more)).map fun result => (.numeral result.1, result.2) := by
  have visible : isSpace c = false := by
    unfold isSpace
    simp only [Bool.or_eq_false_iff, beq_eq_false_iff_ne]
    refine ⟨⟨⟨?_, ?_⟩, ?_⟩, ?_⟩ <;> rintro rfl <;> exact absurd digit (by decide)
  rw [value?, skipSpace_cons visible]
  split
  case h_8 => rfl
  all_goals
    rename_i same
    cases (List.cons.inj same).1
    exact absurd digit (by decide)

theorem reads_numeral {numeral : Numeral} (canonical : numeral.Canonical) :
    Reads (.numeral numeral) numeral.toChars := by
  intro fuel rest room ends
  have read := numeral?_unsigned canonical ends
  rw [Numeral.toChars_eq] at room ⊢
  cases negative : numeral.negative with
  | true =>
    rw [negative] at read room
    obtain ⟨fuel, rfl, -⟩ := exists_fuel (Nat.lt_of_lt_of_le (Nat.zero_lt_succ _) room)
    rw [value?]
    show ((numeral? true (numeral.unsigned ++ rest)).map _) = _
    rw [read]
    rfl
  | false =>
    rw [negative] at read room
    -- The first character decides how the value is read, so it is taken out of the digits.
    obtain ⟨c, more, whole⟩ := List.exists_cons_of_ne_nil canonical.whole_filled
    have digit : Chars.isDigit c = true :=
      canonical.whole c (by rw [whole]; exact List.mem_cons_self)
    rw [Numeral.unsigned, whole] at read room ⊢
    obtain ⟨fuel, rfl, -⟩ := exists_fuel (Nat.lt_of_lt_of_le (Nat.zero_lt_succ _) room)
    show value? (fuel + 1) (c :: (more ++ _ ++ rest)) = _
    rw [value?_digits digit]
    show ((numeral? false (c :: more ++ _ ++ rest)).map _) = _
    rw [read]
    rfl

/-! ### Lists -/

theorem value?_close : value? fuel (']' :: rest) = none := by
  cases fuel with
  | zero => rw [value?]
  | succ fuel =>
    rw [value?, skipSpace_cons (by decide)]
    rfl

theorem items?_close (closed : skipSpace body = ']' :: rest) : items? fuel body = none := by
  cases fuel with
  | zero => rw [items?]
  | succ fuel =>
    have none : value? fuel body = value? fuel (']' :: rest) :=
      value?_congr (closed.trans (skipSpace_cons (by decide) rest).symm)
    rw [items?, none, value?_close]
    rfl

theorem value?_list : value? (fuel + 1) ('[' :: rest) =
    match skipSpace rest with
    | ']' :: after => some (.list [], after)
    | _ => (items? fuel rest).map fun result => (.list result.1, result.2) := by
  rw [value?, skipSpace_cons (by decide)]
  rfl

theorem reads_list (reads : ReadsItems items body) : Reads (.list items) ('[' :: body) := by
  intro fuel rest room _
  obtain ⟨fuel, rfl, room⟩ := exists_fuel room
  have read := reads fuel rest (by simp at room; omega)
  rw [List.cons_append, value?_list]
  split
  · rename_i closed
    rw [items?_close closed] at read
    cases read
  · rw [read]
    rfl

theorem reads_emptyList (blank : Blank spaces) : Reads (.list []) ('[' :: (spaces ++ [']'])) := by
  intro fuel rest room _
  obtain ⟨fuel, rfl, -⟩ := exists_fuel (Nat.lt_of_lt_of_le (Nat.zero_lt_succ _) room)
  rw [List.cons_append, value?_list, List.append_assoc, skipSpace_blank blank]
  rfl

theorem readsItems_last (reads : Reads document written) (blank : Blank spaces) :
    ReadsItems [document] (written ++ (spaces ++ [']'])) := by
  intro fuel rest room
  obtain ⟨fuel, rfl, room⟩ := exists_fuel room
  simp only [List.length_append] at room
  have ends : EndsNumeral (spaces ++ ']' :: rest) :=
    endsNumeral_blank blank (endsNumeral_cons (by decide))
  rw [items?, List.append_assoc, List.append_assoc, List.singleton_append,
    reads fuel _ (by omega) ends]
  dsimp only [Option.bind_eq_bind, Option.bind_some]
  rw [skipSpace_blank blank]
  rfl

theorem readsItems_cons (first : Reads document written) (blank : Blank spaces)
    (others : ReadsItems items body) :
    ReadsItems (document :: items) (written ++ (spaces ++ ',' :: body)) := by
  intro fuel rest room
  obtain ⟨fuel, rfl, room⟩ := exists_fuel room
  simp only [List.length_append, List.length_cons] at room
  have ends : EndsNumeral (spaces ++ ',' :: (body ++ rest)) :=
    endsNumeral_blank blank (endsNumeral_cons (by decide))
  rw [items?, List.append_assoc, List.append_assoc, List.cons_append,
    first fuel _ (by omega) ends]
  dsimp only [Option.bind_eq_bind, Option.bind_some]
  rw [skipSpace_blank blank, skipSpace_cons (by decide)]
  show (items? fuel (body ++ rest)).bind _ = _
  rw [others fuel rest (by omega)]
  rfl

/-! ### Objects -/

theorem value?_object : value? (fuel + 1) ('\x7b' :: rest) =
    match skipSpace rest with
    | '\x7d' :: after => some (.object [], after)
    | _ => (members? fuel rest).map fun result => (.object result.1, result.2) := by
  rw [value?, skipSpace_cons (by decide)]
  rfl

theorem members?_close (closed : skipSpace body = '\x7d' :: rest) : members? fuel body = none := by
  cases fuel with
  | zero => rw [members?]
  | succ fuel =>
    rw [members?, closed]
    rfl

theorem reads_object (reads : ReadsMembers members body) :
    Reads (.object members) ('\x7b' :: body) := by
  intro fuel rest room _
  obtain ⟨fuel, rfl, room⟩ := exists_fuel room
  have read := reads fuel rest (by simp at room; omega)
  rw [List.cons_append, value?_object]
  split
  · rename_i closed
    rw [members?_close closed] at read
    cases read
  · rw [read]
    rfl

theorem reads_emptyObject (blank : Blank spaces) :
    Reads (.object []) ('\x7b' :: (spaces ++ ['\x7d'])) := by
  intro fuel rest room _
  obtain ⟨fuel, rfl, -⟩ := exists_fuel (Nat.lt_of_lt_of_le (Nat.zero_lt_succ _) room)
  rw [List.cons_append, value?_object, List.append_assoc, skipSpace_blank blank]
  rfl

/-- A name as it is written in front of the value of a member. -/
def writtenName (name : String) : Chars :=
  '"' :: escape name.toList ++ ['"', ':']

/-- The first member is read, and what follows its value decides how it goes on. -/
theorem members?_member (name : String) (blank : Blank spaces) (first : Reads document written)
    (room : 2 * written.length ≤ fuel) (ends : EndsNumeral rest) :
    members? (fuel + 1) (spaces ++ (writtenName name ++ (written ++ rest))) =
      match skipSpace rest with
      | '\x7d' :: after => some ([(some name, document)], after)
      | ',' :: after =>
        (members? fuel after).bind fun result =>
          some ((some name, document) :: result.1, result.2)
      | _ => none := by
  rw [members?, skipSpace_blank blank]
  show (string? (escape name.toList ++ ['"', ':'] ++ (written ++ rest))).bind _ = _
  rw [List.append_assoc]
  show (string? (escape name.toList ++ '"' :: ':' :: (written ++ rest))).bind _ = _
  rw [string?_escape]
  dsimp only [Option.bind_some]
  rw [skipSpace_cons (by decide)]
  show (value? fuel (written ++ rest)).bind _ = _
  rw [first fuel rest room ends]
  rfl

theorem readsMembers_last (name : String) (before : Blank spaces)
    (reads : Reads document written) (blank : Blank after) :
    ReadsMembers [(some name, document)]
      (spaces ++ (writtenName name ++ (written ++ (after ++ ['\x7d'])))) := by
  intro fuel rest room
  obtain ⟨fuel, rfl, room⟩ := exists_fuel room
  simp only [List.length_append] at room
  have ends : EndsNumeral (after ++ '\x7d' :: rest) :=
    endsNumeral_blank blank (endsNumeral_cons (by decide))
  have first := members?_member name before reads (by omega : _ ≤ fuel) ends
  rw [skipSpace_blank blank] at first
  simp only [List.append_assoc, List.singleton_append]
  exact first

theorem readsMembers_cons (name : String) (before : Blank spaces)
    (first : Reads document written) (blank : Blank after) (others : ReadsMembers members body) :
    ReadsMembers ((some name, document) :: members)
      (spaces ++ (writtenName name ++ (written ++ (after ++ ',' :: body)))) := by
  intro fuel rest room
  obtain ⟨fuel, rfl, room⟩ := exists_fuel room
  simp only [List.length_append, List.length_cons] at room
  have ends : EndsNumeral (after ++ ',' :: (body ++ rest)) :=
    endsNumeral_blank blank (endsNumeral_cons (by decide))
  have read := members?_member name before first (by omega : _ ≤ fuel) ends
  rw [skipSpace_blank blank, skipSpace_cons (by decide)] at read
  simp only [List.append_assoc, List.cons_append]
  refine read.trans ?_
  show (members? fuel (body ++ rest)).bind _ = _
  rw [others fuel rest (by omega)]
  rfl

/-! ## Whole texts -/

theorem ofText?_of_reads {text : String} (reads : Reads document text.toList) :
    ofText? text = some document := by
  have read := reads (2 * text.toList.length + 2) [] (Nat.le_add_right _ _) (by rintro _ ⟨⟩)
  rw [List.append_nil] at read
  unfold ofText? ofChars?
  rw [read]
  rfl

/-! ## Writing on one line -/

theorem toList_comma : ",".toList = [','] := rfl

theorem readsItems_compact (filled : items ≠ [])
    (each : ∀ item ∈ items, Reads item (compact item).toList) :
    ReadsItems items ((compactItems items).toList ++ [']']) := by
  induction items with
  | nil => exact absurd rfl filled
  | cons item others ih =>
    have first := each item List.mem_cons_self
    cases others with
    | nil => exact readsItems_last first .nil
    | cons next others =>
      have rest := ih (List.cons_ne_nil _ _) fun item inside =>
        each item (List.mem_cons_of_mem _ inside)
      have read := readsItems_cons first .nil rest
      rw [compactItems]
      · simp only [String.toList_append, List.append_assoc, toList_comma]
        exact read
      · exact List.cons_ne_nil next others

theorem toList_writeName (name : String) (rest : Chars) :
    (writeString (some name)).toList ++ (":".toList ++ rest) = writtenName name ++ rest := by
  have colon : ":".toList = [':'] := rfl
  rw [toList_writeString, colon]
  simp only [writtenName, Option.getD_some, List.cons_append, List.append_assoc, List.nil_append]

theorem readsMembers_compact {members : List (String × Json)} (filled : members ≠ [])
    (each : ∀ member ∈ members, Reads member.2 (compact member.2).toList) :
    ReadsMembers (named members) ((compactMembers (named members)).toList ++ ['\x7d']) := by
  induction members with
  | nil => exact absurd rfl filled
  | cons member others ih =>
    have first := each member List.mem_cons_self
    cases others with
    | nil =>
      have read := readsMembers_last member.1 .nil first .nil
      show ReadsMembers _ ((writeString (some member.1) ++ ":" ++ compact member.2).toList ++ _)
      simp only [String.toList_append, List.append_assoc, toList_writeName]
      exact read
    | cons next others =>
      have rest := ih (List.cons_ne_nil _ _) fun item inside =>
        each item (List.mem_cons_of_mem _ inside)
      show ReadsMembers _ ((writeString (some member.1) ++ ":" ++ compact member.2 ++ "," ++
        compactMembers (named (next :: others))).toList ++ _)
      have read := readsMembers_cons member.1 .nil first .nil rest
      simp only [String.toList_append, List.append_assoc, toList_writeName, toList_comma]
      exact read

theorem reads_compact (legible : Legible document) :
    Reads document (compact document).toList := by
  induction legible with
  | null => exact reads_null
  | flag value => exact reads_flag value
  | numeral canonical =>
    unfold compact writeScalar
    rw [String.toList_ofList]
    exact reads_numeral canonical
  | text content =>
    unfold text compact writeScalar
    rw [toList_writeString]
    exact reads_text content
  | @list items _ each =>
    rw [compact]
    simp only [String.toList_append, List.append_assoc]
    cases items with
    | nil => exact reads_emptyList .nil
    | cons item others =>
      exact reads_list (readsItems_compact (List.cons_ne_nil _ _) each)
  | @record members _ each =>
    unfold record
    rw [compact]
    simp only [String.toList_append, List.append_assoc]
    cases members with
    | nil => exact reads_emptyObject .nil
    | cons member others =>
      exact reads_object (readsMembers_compact (List.cons_ne_nil _ _) each)

theorem ofText?_compact (legible : Legible document) : ofText? document.compact = some document :=
  ofText?_of_reads (reads_compact legible)

/-! ## Writing on many lines -/

theorem blank_newLine (depth : Nat) : Blank (newLine depth).toList := by
  intro c inside
  unfold newLine at inside
  rw [String.toList_append, List.mem_append] at inside
  rcases inside with line | indent
  · cases List.mem_singleton.1 line
    rfl
  · rw [String.toList_ofList] at indent
    cases List.eq_of_mem_replicate indent
    rfl

theorem readsItems_pretty {first : Json} (reads : Reads first written) (depth : Nat)
    (blank : Blank after)
    (each : ∀ item ∈ items, ∀ depth, Reads item (prettyAt depth item).toList) :
    ReadsItems (first :: items)
      (written ++ ((prettyItems depth items).toList ++ (after ++ [']']))) := by
  induction items generalizing first written with
  | nil => exact readsItems_last reads blank
  | cons next others ih =>
    have second := (each next List.mem_cons_self depth).indent (blank_newLine depth)
    have rest := ih second fun item inside => each item (List.mem_cons_of_mem _ inside)
    have read := readsItems_cons reads .nil rest
    rw [prettyItems]
    simp only [String.toList_append, List.append_assoc, toList_comma] at read ⊢
    exact read

theorem toList_writeSpacedName (name : String) (rest : Chars) :
    (writeString (some name)).toList ++ (": ".toList ++ rest) =
      writtenName name ++ ([' '] ++ rest) := by
  have colon : ": ".toList = ":".toList ++ [' '] := rfl
  rw [colon, List.append_assoc, toList_writeName]

theorem readsMembers_pretty (name : String) {first : Json} {members : List (String × Json)}
    (before : Blank spaces) (reads : Reads first written) (depth : Nat) (blank : Blank after)
    (each : ∀ member ∈ members, ∀ depth, Reads member.2 (prettyAt depth member.2).toList) :
    ReadsMembers ((some name, first) :: named members)
      (spaces ++ (writtenName name ++ (written ++
        ((prettyMembers depth (named members)).toList ++ (after ++ ['\x7d']))))) := by
  induction members generalizing name first written spaces with
  | nil => exact readsMembers_last name before reads blank
  | cons next others ih =>
    have second := (each next List.mem_cons_self depth).indent blank_space
    have rest := ih next.1 (blank_newLine depth) second fun member inside =>
      each member (List.mem_cons_of_mem _ inside)
    have read := readsMembers_cons name before reads .nil rest
    show ReadsMembers _ (spaces ++ (writtenName name ++ (written ++ (("," ++ newLine depth ++
      writeString (some next.1) ++ ": " ++ prettyAt depth next.2 ++
      prettyMembers depth (named others)).toList ++ (after ++ ['\x7d'])))))
    simp only [String.toList_append, List.append_assoc, toList_writeSpacedName,
      toList_comma] at read ⊢
    exact read

theorem reads_pretty (legible : Legible document) (depth : Nat) :
    Reads document (prettyAt depth document).toList := by
  induction legible generalizing depth with
  | null =>
    rw [prettyAt]
    · exact reads_null
    all_goals nofun
  | flag value =>
    rw [prettyAt]
    · exact reads_flag value
    all_goals nofun
  | numeral canonical =>
    rw [prettyAt, writeScalar, String.toList_ofList]
    · exact reads_numeral canonical
    all_goals nofun
  | text content =>
    unfold text
    rw [prettyAt, writeScalar, toList_writeString]
    · exact reads_text content
    all_goals nofun
  | @list items _ each =>
    cases items with
    | nil =>
      rw [prettyAt]
      exact reads_emptyList .nil
    | cons item others =>
      have first := (each item List.mem_cons_self (depth + 1)).indent (blank_newLine (depth + 1))
      have read := readsItems_pretty first (depth + 1) (blank_newLine depth) fun other inside =>
        each other (List.mem_cons_of_mem _ inside)
      rw [prettyAt]
      simp only [String.toList_append, List.append_assoc] at read ⊢
      exact reads_list read
  | @record members _ each =>
    unfold record
    cases members with
    | nil =>
      rw [List.map_nil, prettyAt]
      exact reads_emptyObject .nil
    | cons member others =>
      have first := (each member List.mem_cons_self (depth + 1)).indent blank_space
      have read := readsMembers_pretty member.1 (blank_newLine (depth + 1)) first
        (depth + 1) (blank_newLine depth) fun other inside =>
          each other (List.mem_cons_of_mem _ inside)
      rw [List.map_cons, prettyAt]
      simp only [String.toList_append, List.append_assoc, toList_writeSpacedName] at read ⊢
      exact reads_object read

theorem ofText?_pretty (legible : Legible document) : ofText? document.pretty = some document :=
  ofText?_of_reads (reads_pretty legible 0)

end ServerInventory.Json
