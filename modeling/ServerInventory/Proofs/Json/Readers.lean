import ServerInventory.Json.Reader
import ServerInventory.Proofs.Json.Texts
import ServerInventory.Proofs.StringMap

/-!
Readers that take values back from the documents they are written as (`Json.Faithful`), one
lemma for each way to read: texts, flags, integers, lists and maps. What a faithful reader
takes back from documents it takes back from texts as well (`Json.Faithful.roundTrips`).
-/

namespace ServerInventory.Json

variable {α β : Type} {room : Nat} {document : Json}

/-! ## Integers -/

theorem number?_ofInt {value : Int} (fits : fitsInt64 value = true) :
    (∃ word : UInt64, (ofInt value).number? = some (.natural word) ∧ (word.toNat : Int) = value) ∨
    (∃ word : Int64, (ofInt value).number? = some (.negative word) ∧ word.toInt = value) := by
  unfold fitsInt64 at fits
  simp only [Bool.and_eq_true, decide_eq_true_eq] at fits
  obtain ⟨least, greatest⟩ := fits
  unfold ofInt number? Numeral.number? Numeral.ofInt
  simp only [Chars.digitsValue_toDigits, Option.isNone_none, Bool.and_self, Bool.true_and]
  by_cases negative : value < 0
  · right
    have small : (value.natAbs : Int) = -value := Int.ofNat_natAbs_of_nonpos (Int.le_of_lt negative)
    have positive : 0 < value.natAbs := by omega
    have bounded : value.natAbs ≤ 0x8000000000000000 := by omega
    refine ⟨Int64.ofInt value, ?_, Int64.toInt_ofInt_of_le least greatest⟩
    simp [negative, positive, bounded, small]
  · left
    have small : (value.natAbs : Int) = value := Int.natAbs_of_nonneg (Int.not_lt.1 negative)
    have bounded : value.natAbs < UInt64.size := by rw [UInt64.size]; omega
    refine ⟨UInt64.ofNat value.natAbs, ?_, ?_⟩
    · simp [negative, bounded]
    · rw [UInt64.toNat_ofNat_of_lt' bounded, small]

theorem integer_ofInt (narrow : Int → Option α) {value : Int} (fits : fitsInt64 value = true) :
    Reader.integer narrow room (ofInt value) = narrow value := by
  unfold Reader.integer
  rcases number?_ofInt fits with ⟨word, read, same⟩ | ⟨word, read, same⟩
  all_goals rw [read, ← same]

theorem naturalBelow_of_number? {word : UInt64} (number : document.number? = some (.natural word)) :
    Reader.naturalBelow UInt64.size room document = some word.toNat := by
  have within : (0 ≤ (word.toNat : Int) && (word.toNat : Int) < (UInt64.size : Int)) = true := by
    have bound := word.toNat_lt
    simp only [UInt64.size, Bool.and_eq_true, decide_eq_true_eq]
    omega
  rw [Reader.naturalBelow, Reader.integer, number]
  dsimp only
  rw [if_pos within, Int.toNat_natCast]

/-! ## Lists of documents and of members -/

/-- What was written item by item is read item by item. -/
theorem mapM_map (f : α → Option β) (write : β → α) (items : List β)
    (each : ∀ item ∈ items, f (write item) = some item) :
    (items.map write).mapM f = some items := by
  induction items with
  | nil => rfl
  | cons first others ih =>
    have rest := ih fun item inside => each item (List.mem_cons_of_mem first inside)
    rw [List.map_cons, List.mapM_cons, each first List.mem_cons_self, rest]
    rfl

theorem exists_mapM {f : α → Option β} {items : List α}
    (each : ∀ item ∈ items, ∃ value, f item = some value) :
    ∃ values, items.mapM f = some values := by
  induction items with
  | nil => exact ⟨[], rfl⟩
  | cons first others ih =>
    obtain ⟨value, here⟩ := each first List.mem_cons_self
    obtain ⟨values, rest⟩ := ih fun item inside => each item (List.mem_cons_of_mem first inside)
    rw [List.mapM_cons, here, rest]
    exact ⟨_, rfl⟩

/-- What comes out of a list comes out of one of its items. -/
theorem exists_of_mem_mapM {f : α → Option β} {items : List α} {values : List β}
    (read : items.mapM f = some values) {value : β} (inside : value ∈ values) :
    ∃ item ∈ items, f item = some value := by
  induction items generalizing values with
  | nil =>
    cases read
    cases inside
  | cons first others ih =>
    simp only [List.mapM_cons, Option.bind_eq_bind, Option.bind_eq_some_iff] at read
    obtain ⟨here, readFirst, rest, readRest, same⟩ := read
    cases same
    rcases List.mem_cons.1 inside with rfl | later
    · exact ⟨first, List.mem_cons_self, readFirst⟩
    · obtain ⟨item, among, found⟩ := ih readRest later
      exact ⟨item, List.mem_cons_of_mem first among, found⟩

theorem namedMember?_some {f : Json → Option α} {value : α} {name : String}
    (read : f document = some value) :
    namedMember? f (some name, document) = some (name, value) := by
  unfold namedMember?
  dsimp only [Option.bind_eq_bind, Option.bind_some]
  rw [read]
  rfl

theorem read_of_namedMember? {f : Json → Option α} {member : Quoted × Json} {read : String × α}
    (found : namedMember? f member = some read) :
    member.1 = some read.1 ∧ f member.2 = some read.2 := by
  simp only [namedMember?, Option.bind_eq_bind, Option.bind_eq_some_iff] at found
  obtain ⟨name, named, value, readValue, same⟩ := found
  cases same
  exact ⟨named, readValue⟩

theorem exists_settle? (proper : Proper room document) :
    ∃ settled, settle? room document = some settled := by
  induction proper with
  | @null room => cases room <;> exact ⟨_, rfl⟩
  | @flag room value => cases room <;> exact ⟨_, rfl⟩
  | @integer room value fits =>
    have known : ∃ number, (Numeral.ofInt value).number? = some number := by
      rcases number?_ofInt fits with ⟨word, read, -⟩ | ⟨word, read, -⟩
      · exact ⟨_, read⟩
      · exact ⟨_, read⟩
    obtain ⟨number, read⟩ := known
    have settled : settle? room (ofInt value) = some (ofInt value) := by
      unfold ofInt settle?
      rw [read]
      rfl
    exact ⟨_, settled⟩
  | @text room content => cases room <;> exact ⟨_, rfl⟩
  | @list room items _ ih =>
    obtain ⟨settled, read⟩ := exists_mapM ih
    rw [settle?, read]
    exact ⟨_, rfl⟩
  | @record room members _ ih =>
    have each : ∀ member ∈ named members,
        ∃ settled, namedMember? (settle? room) member = some settled := by
      refine List.forall_mem_map.2 fun member inside => ?_
      obtain ⟨settled, read⟩ := ih member inside
      exact ⟨_, namedMember?_some read⟩
    obtain ⟨settled, read⟩ := exists_mapM each
    unfold named at read
    unfold record
    rw [settle?, read]
    exact ⟨_, rfl⟩

/-! ## Members of a record -/

theorem members?_record_of_settle? {layout : Layout} {members : List (String × Json)}
    (distinct : (members.map Prod.fst).Nodup)
    (settle : ∀ member ∈ members, ∃ settled, settle? room member.2 = some settled) :
    layout.members? (room + 1) (record members) = some ⟨room, members⟩ := by
  have read := mapM_map (namedMember? some)
    (fun member : String × Json => (some member.1, member.2)) members fun member _ =>
      namedMember?_some rfl
  have once : layout.names.all (fun name =>
      decide ((members.filter (·.1 == name)).length ≤ 1)) = true := by
    rw [List.all_eq_true]
    intro name _
    have count := List.nodup_iff_count_le_one.1 distinct name
    rw [List.count, List.countP_map, List.countP_eq_length_filter] at count
    exact decide_eq_true count
  have settled : members.all (fun member => (settle? room member.2).isSome) = true := by
    rw [List.all_eq_true]
    intro member inside
    obtain ⟨settled, read⟩ := settle member inside
    rw [read]
    rfl
  unfold record
  rw [Layout.members?, read]
  dsimp only [Option.bind_eq_bind, Option.bind_some]
  rw [once, settled, Bool.or_true]
  rfl

theorem members?_record {layout : Layout} {members : List (String × Json)}
    (distinct : (members.map Prod.fst).Nodup)
    (proper : ∀ member ∈ members, Proper room member.2) :
    layout.members? (room + 1) (record members) = some ⟨room, members⟩ :=
  members?_record_of_settle? distinct fun member inside => exists_settle? (proper member inside)

section

variable {found : List (String × Json)} {name : String} {reader : Reader α} {absent : α}

theorem required_eq (written : found.lookup name = some document) :
    Members.required ⟨room, found⟩ name reader = reader room document := by
  unfold Members.required
  rw [written]
  rfl

theorem defaulted_eq (written : found.lookup name = some document) :
    Members.defaulted ⟨room, found⟩ name reader absent = reader room document := by
  unfold Members.defaulted
  dsimp only
  rw [written]

theorem defaulted_absent (missing : found.lookup name = none) :
    Members.defaulted ⟨room, found⟩ name reader absent = some absent := by
  unfold Members.defaulted
  dsimp only
  rw [missing]

end

theorem member?_record (members : List (String × Json)) (name : String) :
    (record members).member? name = members.lookup name := by
  unfold record member? Json.members
  induction members with
  | nil => rfl
  | cons member others ih =>
    have same : (some name == some member.1) = (name == member.1) := rfl
    rw [List.map_cons, List.lookup_cons, List.lookup_cons, ih, same]

theorem text?_eq_some_iff {content : String} :
    document.text? = some content ↔ document = text content := by
  cases document <;> simp [text?, text]

/-! ## Faithful readers -/

/-- A reader that takes every value back from the document it is written as, with room for
the lists and objects of that document. -/
structure Faithful (reader : Reader α) (write : α → Json) (room : Nat) : Prop where
  proper : ∀ value, Proper room (write value)
  read : ∀ value, reader room (write value) = some value

section

variable {reader : Reader α} {write : α → Json}

theorem faithful_text : Faithful Reader.text text room :=
  ⟨.text, fun _ => rfl⟩

theorem faithful_flag : Faithful Reader.flag .flag room :=
  ⟨.flag, fun _ => rfl⟩

theorem fitsInt64_toInt (value : Int64) : fitsInt64 value.toInt = true := by
  unfold fitsInt64
  simp only [Bool.and_eq_true, decide_eq_true_eq]
  exact ⟨value.le_toInt, value.toInt_lt⟩

theorem fitsInt64_toInt32 (value : Int32) : fitsInt64 value.toInt = true := by
  have least := value.le_toInt
  have greatest := value.toInt_lt
  unfold fitsInt64
  simp only [Bool.and_eq_true, decide_eq_true_eq]
  omega

theorem faithful_int64 : Faithful Reader.int64 (fun value => ofInt value.toInt) room := by
  refine ⟨fun value => .integer (fitsInt64_toInt value), fun value => ?_⟩
  refine (integer_ofInt _ (fitsInt64_toInt value)).trans ?_
  unfold int64?
  rw [if_pos (fitsInt64_toInt value), Int64.ofInt_toInt]

theorem faithful_int32 : Faithful Reader.int32 (fun value => ofInt value.toInt) room := by
  refine ⟨fun value => .integer (fitsInt64_toInt32 value), fun value => ?_⟩
  refine (integer_ofInt _ (fitsInt64_toInt32 value)).trans ?_
  have fits : fitsInt32 value.toInt = true := by
    unfold fitsInt32
    simp only [Bool.and_eq_true, decide_eq_true_eq]
    exact ⟨value.le_toInt, value.toInt_lt⟩
  unfold int32?
  rw [if_pos fits, Int32.ofInt_toInt]

theorem Faithful.list (faithful : Faithful reader write room) :
    Faithful (.listOf reader) (fun items => .list (items.map write)) (room + 1) := by
  refine ⟨fun items => .list (List.forall_mem_map.2 fun item _ => faithful.proper item),
    fun items => ?_⟩
  exact mapM_map (reader room) write items fun item _ => faithful.read item

theorem Faithful.map (faithful : Faithful reader write room) :
    Faithful (.mapOf reader)
      (fun map => record (map.entries.map fun entry => (entry.1, write entry.2))) (room + 1) := by
  refine ⟨fun map => .record (List.forall_mem_map.2 fun entry _ => faithful.proper entry.2),
    fun map => ?_⟩
  have entries := mapM_map (namedMember? (reader room))
    (fun entry : String × α => (some entry.1, write entry.2)) map.entries fun entry _ =>
      namedMember?_some (faithful.read entry.2)
  unfold record
  rw [List.map_map, Reader.mapOf]
  show Option.map _ (List.mapM _ (map.entries.map fun entry => (some entry.1, write entry.2))) = _
  rw [entries, Option.map_some, StringMap.ofList_entries]

/-- Every value is taken back from the text it is written as, on one line or on many. -/
def RoundTrips (reader : Reader α) (write : α → Json) : Prop :=
  ∀ value, reader.ofText? (write value).compact = some value ∧
    reader.ofText? (write value).pretty = some value

theorem Faithful.roundTrips (faithful : Faithful reader write depthLimit) :
    RoundTrips reader write := by
  intro value
  unfold Reader.ofText?
  have legible := (faithful.proper value).legible
  rw [ofText?_compact legible, ofText?_pretty legible]
  exact ⟨faithful.read value, faithful.read value⟩

end

end ServerInventory.Json
