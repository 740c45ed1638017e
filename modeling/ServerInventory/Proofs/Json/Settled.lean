import ServerInventory.Proofs.Json.Locality
import ServerInventory.Proofs.Json.Readers

/-!
Settled documents: what a reader sees of a text who has no record in mind. Everything that
is read and settled is of this kind (`Json.settled_of_settledOfText?`), and a document of
this kind is the one that is seen in the text it is written as
(`Json.settledOfText?_compact`). How many lists and objects are open around a document
matters only if there are too many (`Json.settle?_of_nesting`).
-/

namespace ServerInventory.Json

/-- A document in which at most `room` lists and objects are open at once, strings are texts,
numerals are numbers, and members stand in ascending order of their names. -/
inductive Settled : (room : Nat) → Json → Prop
  | null {room : Nat} : Settled room .null
  | flag {room : Nat} (value : Bool) : Settled room (.flag value)
  | numeral {room : Nat} {value : Numeral} (canonical : value.Canonical)
      (known : value.number?.isSome = true) : Settled room (.numeral value)
  | text {room : Nat} (content : String) : Settled room (text content)
  | list {room : Nat} {items : List Json} (each : ∀ item ∈ items, Settled room item) :
      Settled (room + 1) (.list items)
  | record {room : Nat} {members : List (String × Json)}
      (ascending : members.Pairwise fun left right => left.1 < right.1)
      (each : ∀ member ∈ members, Settled room member.2) : Settled (room + 1) (record members)

variable {room : Nat} {document settled : Json}

theorem Settled.legible (settled : Settled room document) : Legible document := by
  induction settled with
  | null => exact .null
  | flag value => exact .flag value
  | numeral canonical _ => exact .numeral canonical
  | text content => exact .text content
  | list _ ih => exact .list ih
  | record _ _ ih => exact .record ih

theorem Settled.exists_record {members : List (Quoted × Json)}
    (settled : Settled room (.object members)) :
    ∃ (less : Nat) (named : List (String × Json)), room = less + 1 ∧
      Json.object members = Json.record named ∧
        (named.Pairwise fun left right => left.1 < right.1) ∧ ∀ member ∈ named, Settled less member.2 := by
  generalize same : Json.object members = document at settled
  cases settled with
  | record ascending each => exact ⟨_, _, rfl, rfl, ascending, each⟩
  | _ => cases same

theorem Settled.exists_items {items : List Json} (settled : Settled room (.list items)) :
    ∃ less, room = less + 1 ∧ ∀ item ∈ items, Settled less item := by
  cases settled with
  | list each => exact ⟨_, rfl, each⟩

/-- The members of a settled document are settled. -/
theorem Settled.member? {name : String} {value : Json} (settled : Settled (room + 1) document)
    (found : document.member? name = some value) : Settled room value := by
  cases settled with
  | record _ each =>
    rw [member?_record] at found
    obtain ⟨_, _, members, -⟩ := List.lookup_eq_some_iff.1 found
    exact each (name, value) (members ▸ List.mem_append_right _ List.mem_cons_self)
  | _ => cases found

/-! ## Sorted members -/

theorem insertMember_eq_insertEntry (name : String) (value : Json)
    (members : List (String × Json)) :
    insertMember name value members = StringMap.insertEntry name value members := by
  induction members with
  | nil => rfl
  | cons member rest ih => rw [insertMember, StringMap.insertEntry, ih]

theorem sortMembers_eq_entries (members : List (String × Json)) :
    sortMembers members = (StringMap.ofList members).entries := by
  have along : ∀ map : StringMap Json,
      members.foldl (fun sorted member => insertMember member.1 member.2 sorted) map.entries =
        (members.foldl (fun map member => map.insert member.1 member.2) map).entries := by
    induction members with
    | nil => exact fun _ => rfl
    | cons member rest ih =>
      intro map
      rw [List.foldl_cons, List.foldl_cons, ← ih, insertMember_eq_insertEntry]
      rfl
  exact along .empty

theorem sortMembers_of_ascending {members : List (String × Json)}
    (ascending : members.Pairwise fun left right => left.1 < right.1) :
    sortMembers members = members := by
  rw [sortMembers_eq_entries]
  exact congrArg StringMap.entries (StringMap.ofList_entries ⟨members, ascending⟩)

theorem mem_of_mem_sortMembers {members : List (String × Json)} {member : String × Json}
    (among : member ∈ sortMembers members) : member ∈ members := by
  obtain ⟨name, value⟩ := member
  rw [sortMembers_eq_entries, ← StringMap.get?_eq_some_iff, StringMap.get?_ofList] at among
  obtain ⟨_, _, whole, -⟩ := List.lookup_eq_some_iff.1 among
  rw [← List.mem_reverse, whole]
  exact List.mem_append_right _ List.mem_cons_self

/-! ## Settling -/

/-- A settled document is left as it is. -/
theorem Settled.settle?_eq (settled : Settled room document) :
    settle? room document = some document := by
  induction settled with
  | null => exact settle?.eq_1 _
  | flag value => exact settle?.eq_2 _ _
  | @numeral _ value _ known =>
    rw [settle?.eq_3]
    obtain ⟨number, found⟩ := Option.isSome_iff_exists.1 known
    rw [found]
    rfl
  | text content => exact settle?.eq_4 _ _
  | @list _ items _ ih =>
    have read := mapM_map (settle? _) id items ih
    rw [List.map_id] at read
    rw [settle?, read]
    rfl
  | @record _ members ascending _ ih =>
    have read := mapM_map (namedMember? (settle? _))
      (fun member : String × Json => (some member.1, member.2)) members fun member inside =>
        namedMember?_some (ih member inside)
    rw [Json.record, settle?, read, Option.map_some, sortMembers_of_ascending ascending]
    rfl

/-- A document that a text can write, whatever is in its strings. -/
inductive Readable : Json → Prop
  | null : Readable .null
  | flag (value : Bool) : Readable (.flag value)
  | numeral {value : Numeral} (canonical : value.Canonical) : Readable (.numeral value)
  | quoted (content : Quoted) : Readable (.quoted content)
  | list {items : List Json} (each : ∀ item ∈ items, Readable item) : Readable (.list items)
  | object {members : List (Quoted × Json)} (each : ∀ member ∈ members, Readable member.2) :
      Readable (.object members)

/-- What settling leaves of a document that a text can write is settled. -/
theorem Readable.settled_of_settle? (readable : Readable document)
    (read : settle? room document = some settled) : Settled room settled := by
  induction readable generalizing room settled with
  | null =>
    rw [settle?.eq_1] at read
    cases read
    exact .null
  | flag value =>
    rw [settle?.eq_2] at read
    cases read
    exact .flag value
  | numeral canonical =>
    rw [settle?.eq_3] at read
    obtain ⟨number, found, rfl⟩ := Option.map_eq_some_iff.1 read
    exact .numeral canonical (by rw [found]; rfl)
  | quoted content =>
    rw [settle?.eq_4] at read
    obtain ⟨content, -, rfl⟩ := Option.map_eq_some_iff.1 read
    exact .text content
  | list _ ih =>
    cases room with
    | zero => cases (settle?.eq_7 _).symm.trans read
    | succ room =>
      rw [settle?] at read
      obtain ⟨values, found, rfl⟩ := Option.map_eq_some_iff.1 read
      refine .list fun value inside => ?_
      obtain ⟨item, among, here⟩ := exists_of_mem_mapM found inside
      exact ih item among here
  | object _ ih =>
    cases room with
    | zero => cases (settle?.eq_8 _).symm.trans read
    | succ room =>
      rw [settle?] at read
      obtain ⟨members, found, rfl⟩ := Option.map_eq_some_iff.1 read
      refine .record ?_ fun member inside => ?_
      · rw [sortMembers_eq_entries]
        exact (StringMap.ofList members).ascending
      · obtain ⟨raw, among, here⟩ := exists_of_mem_mapM found (mem_of_mem_sortMembers inside)
        exact ih raw among (read_of_namedMember? here).2

/-! ## Everything that is read -/

section

variable {fuel : Nat} {text rest : Chars}

theorem readable_of_value?
    (items : ∀ {text items rest}, items? fuel text = some (items, rest) →
      ∀ item ∈ items, Readable item)
    (members : ∀ {text members rest}, members? fuel text = some (members, rest) →
      ∀ member ∈ members, Readable member.2)
    (read : value? (fuel + 1) text = some (document, rest)) : Readable document := by
  rw [value?] at read
  split at read
  · cases read
    exact .null
  · cases read
    exact .flag true
  · cases read
    exact .flag false
  · obtain ⟨_, -, same⟩ := Option.map_eq_some_iff.1 read
    cases same
    exact .quoted _
  · split at read
    · cases read
      exact .list (List.forall_mem_nil _)
    · obtain ⟨_, found, same⟩ := Option.map_eq_some_iff.1 read
      cases same
      exact .list (items found)
  · split at read
    · cases read
      exact .object (List.forall_mem_nil _)
    · obtain ⟨_, found, same⟩ := Option.map_eq_some_iff.1 read
      cases same
      exact .object (members found)
  · obtain ⟨_, found, same⟩ := Option.map_eq_some_iff.1 read
    cases same
    exact .numeral (canonical_of_numeral? found)
  · obtain ⟨_, found, same⟩ := Option.map_eq_some_iff.1 read
    cases same
    exact .numeral (canonical_of_numeral? found)

theorem readable_of_items? {items : List Json}
    (value : ∀ {text document rest}, value? fuel text = some (document, rest) → Readable document)
    (others : ∀ {text items rest}, items? fuel text = some (items, rest) →
      ∀ item ∈ items, Readable item)
    (read : items? (fuel + 1) text = some (items, rest)) : ∀ item ∈ items, Readable item := by
  simp only [items?, Option.bind_eq_bind, Option.bind_eq_some_iff] at read
  obtain ⟨⟨item, behind⟩, found, read⟩ := read
  split at read
  · cases read
    exact List.forall_mem_singleton.2 (value found)
  · obtain ⟨⟨rest, left⟩, later, same⟩ := Option.bind_eq_some_iff.1 read
    cases same
    exact List.forall_mem_cons.2 ⟨value found, others later⟩
  · cases read

theorem readable_of_members? {members : List (Quoted × Json)}
    (value : ∀ {text document rest}, value? fuel text = some (document, rest) → Readable document)
    (others : ∀ {text members rest}, members? fuel text = some (members, rest) →
      ∀ member ∈ members, Readable member.2)
    (read : members? (fuel + 1) text = some (members, rest)) :
    ∀ member ∈ members, Readable member.2 := by
  rw [members?] at read
  split at read
  · simp only [Option.bind_eq_bind, Option.bind_eq_some_iff] at read
    obtain ⟨⟨name, behind⟩, -, read⟩ := read
    split at read
    · obtain ⟨⟨document, left⟩, found, read⟩ := Option.bind_eq_some_iff.1 read
      split at read
      · cases read
        exact List.forall_mem_singleton.2 (value found)
      · obtain ⟨⟨rest, left⟩, later, same⟩ := Option.bind_eq_some_iff.1 read
        cases same
        exact List.forall_mem_cons.2 ⟨value found, others later⟩
      · cases read
    · cases read
  · cases read

end

theorem readable_of_read (fuel : Nat) :
    (∀ {text document rest}, value? fuel text = some (document, rest) → Readable document) ∧
    (∀ {text items rest}, items? fuel text = some (items, rest) →
      ∀ item ∈ items, Readable item) ∧
    (∀ {text members rest}, members? fuel text = some (members, rest) →
      ∀ member ∈ members, Readable member.2) := by
  induction fuel with
  | zero =>
    refine ⟨fun read => ?_, fun read => ?_, fun read => ?_⟩
    · rw [value?] at read
      cases read
    · rw [items?] at read
      cases read
    · rw [members?] at read
      cases read
  | succ fuel ih =>
    obtain ⟨value, items, members⟩ := ih
    exact ⟨readable_of_value? items members, readable_of_items? value items,
      readable_of_members? value members⟩

variable {text : String}

theorem readable_of_ofText? (read : ofText? text = some document) : Readable document := by
  rw [ofText?, ofChars?] at read
  split at read
  · next found =>
    split at read
    · cases read
      exact (readable_of_read _).1 found
    · cases read
  · cases read

theorem settled_of_settledOfText? (read : settledOfText? text = some document) :
    Settled depthLimit document := by
  obtain ⟨raw, found, settles⟩ := Option.bind_eq_some_iff.1 read
  exact (readable_of_ofText? found).settled_of_settle? settles

/-- A settled document is the one that is seen in the text it is written as. -/
theorem settledOfText?_compact (settled : Settled depthLimit document) :
    settledOfText? document.compact = some document := by
  rw [settledOfText?, ofText?_compact settled.legible]
  exact settled.settle?_eq

/-! ## Nesting -/

mutual

/-- How many lists and objects are open at once in a document. -/
def nesting : Json → Nat
  | .list items => nestingOfItems items + 1
  | .object members => nestingOfMembers members + 1
  | .null | .flag _ | .numeral _ | .quoted _ => 0

def nestingOfItems : List Json → Nat
  | [] => 0
  | item :: items => max (nesting item) (nestingOfItems items)

def nestingOfMembers : List (Quoted × Json) → Nat
  | [] => 0
  | (_, value) :: members => max (nesting value) (nestingOfMembers members)

end

mutual

/-- What is settled does not depend on the room, if there is enough. -/
theorem settle?_of_nesting : ∀ {room other : Nat} {document : Json}, document.nesting ≤ room →
    document.nesting ≤ other → settle? room document = settle? other document
  | _, _, .null, _, _ => (settle?.eq_1 _).trans (settle?.eq_1 _).symm
  | _, _, .flag _, _, _ => (settle?.eq_2 _ _).trans (settle?.eq_2 _ _).symm
  | _, _, .numeral _, _, _ => (settle?.eq_3 _ _).trans (settle?.eq_3 _ _).symm
  | _, _, .quoted _, _, _ => (settle?.eq_4 _ _).trans (settle?.eq_4 _ _).symm
  | _, _, .list _, here, there => by
    rw [nesting] at here there
    obtain ⟨room, rfl, inside⟩ := exists_fuel here
    obtain ⟨other, rfl, within⟩ := exists_fuel there
    rw [settle?, settle?, mapM_settle?_of_nesting inside within]
  | _, _, .object _, here, there => by
    rw [nesting] at here there
    obtain ⟨room, rfl, inside⟩ := exists_fuel here
    obtain ⟨other, rfl, within⟩ := exists_fuel there
    rw [settle?, settle?, mapM_namedMember?_of_nesting inside within]

theorem mapM_settle?_of_nesting : ∀ {room other : Nat} {items : List Json},
    nestingOfItems items ≤ room → nestingOfItems items ≤ other →
      items.mapM (settle? room) = items.mapM (settle? other)
  | _, _, [], _, _ => rfl
  | _, _, _ :: _, here, there => by
    rw [nestingOfItems, Nat.max_le] at here there
    rw [List.mapM_cons, List.mapM_cons, settle?_of_nesting here.1 there.1,
      mapM_settle?_of_nesting here.2 there.2]

theorem mapM_namedMember?_of_nesting : ∀ {room other : Nat} {members : List (Quoted × Json)},
    nestingOfMembers members ≤ room → nestingOfMembers members ≤ other →
      members.mapM (namedMember? (settle? room)) = members.mapM (namedMember? (settle? other))
  | _, _, [], _, _ => rfl
  | _, _, (_, _) :: _, here, there => by
    rw [nestingOfMembers, Nat.max_le] at here there
    rw [List.mapM_cons, List.mapM_cons, mapM_namedMember?_of_nesting here.2 there.2,
      namedMember?, namedMember?, settle?_of_nesting here.1 there.1]

end

end ServerInventory.Json
