import Mathlib
import ServerInventory.Readout.Lshw

/-!
The server of a device tree, read off the list of its nodes. Each node adds at most one
part to the server, and which one depends on the node alone; so the parts of the server
are those of the nodes in preorder, class by class.
-/

namespace ServerInventory.Lshw

/-! ## Preorder -/

namespace Node

def info : Node → NodeInfo
  | .mk info _ => info

mutual

/-- The nodes of a tree, each before the nodes below it. -/
def preorder : Node → List NodeInfo
  | .mk info children => info :: preorders children

def preorders : List Node → List NodeInfo
  | [] => []
  | tree :: trees => tree.preorder ++ preorders trees

end

end Node

mutual

theorem addTree_eq (device : Device) :
    ∀ tree : Node, addTree device tree = tree.preorder.foldl addNode device
  | .mk info children => by
    rw [addTree, Node.preorder, List.foldl_cons, addTrees_eq]

theorem addTrees_eq (device : Device) :
    ∀ trees : List Node, addTrees device trees = (Node.preorders trees).foldl addNode device
  | [] => rfl
  | tree :: trees => by
    rw [addTrees, Node.preorders, List.foldl_append, ← addTree_eq, addTrees_eq]

end

/-! ## What the nodes add -/

namespace NodeInfo

def isFirmware (node : NodeInfo) : Bool :=
  node.classification == "memory" && node.id == "firmware"

def isNetwork (node : NodeInfo) : Bool :=
  node.classification == "network"

def isStorage (node : NodeInfo) : Bool :=
  node.classification == "storage"

end NodeInfo

theorem NodeInfo.classification_of_isDrive {node : NodeInfo} (drive : node.isDrive = true) :
    node.classification = "disk" := by
  simp only [isDrive, Bool.and_eq_true, beq_iff_eq] at drive
  exact drive.1.1

/-- A node adds to the one part of the server that its class stands for. -/
theorem addNode_eq (device : Device) (node : NodeInfo) :
    addNode device node =
      { device with
        bios := if node.isFirmware then node.bios else device.bios
        nics := device.nics ++ if node.isNetwork then [node.nic] else []
        storageControllers :=
          device.storageControllers ++ if node.isStorage then [node.storageController] else []
        drives := device.drives ++ if node.isDrive then [node.drive] else [] } := by
  simp only [addNode, NodeInfo.isFirmware, NodeInfo.isNetwork, NodeInfo.isStorage,
    Bool.and_eq_true, beq_iff_eq]
  by_cases disk : node.isDrive = true
  · simp [NodeInfo.classification_of_isDrive disk, disk]
  · by_cases network : node.classification = "network"
    · simp [network, disk]
    · by_cases storage : node.classification = "storage"
      · simp [storage, disk]
      · by_cases firmware : node.classification = "memory" ∧ node.id = "firmware"
        · simp [firmware, disk]
        · simp [firmware, network, storage, disk]

/-- The nodes of one kind, one part for each. -/
theorem foldl_addNode_parts {α : Type} (parts : Device → List α) (kind : NodeInfo → Bool)
    (part : NodeInfo → α)
    (step : ∀ device node,
      parts (addNode device node) = parts device ++ if kind node then [part node] else [])
    (nodes : List NodeInfo) (device : Device) :
    parts (nodes.foldl addNode device) = parts device ++ (nodes.filter kind).map part := by
  induction nodes generalizing device with
  | nil => exact (List.append_nil _).symm
  | cons node nodes ih =>
    rw [List.foldl_cons, ih, step, List.append_assoc, List.filter_cons]
    split <;> rfl

/-- Of several nodes for the system firmware the last counts. -/
theorem foldl_addNode_bios (nodes : List NodeInfo) (device : Device) :
    (nodes.foldl addNode device).bios =
      (((nodes.filter NodeInfo.isFirmware).getLast?).map NodeInfo.bios).getD device.bios := by
  induction nodes generalizing device with
  | nil => rfl
  | cons node nodes ih =>
    rw [List.foldl_cons, ih, addNode_eq, List.filter_cons]
    by_cases firmware : node.isFirmware = true
    · rw [if_pos firmware, if_pos firmware, List.getLast?_cons, Option.map_some, Option.getD_some]
      exact Option.getD_map NodeInfo.bios node _
    · simp only [firmware, Bool.false_eq_true, if_false]

theorem foldl_addNode_rest (nodes : List NodeInfo) (device : Device) :
    (nodes.foldl addNode device).toIdentity = device.toIdentity ∧
      (nodes.foldl addNode device).bmc = device.bmc ∧
      (nodes.foldl addNode device).cpld = device.cpld := by
  induction nodes generalizing device with
  | nil => exact ⟨rfl, rfl, rfl⟩
  | cons node nodes ih =>
    have step := ih (addNode device node)
    rw [addNode_eq] at step
    rw [List.foldl_cons, addNode_eq]
    exact step

/-- The server that a tree describes, class by class. -/
theorem deviceOfTree_eq (tree : Node) :
    deviceOfTree tree =
      { toIdentity := tree.info.identity
        drives := (tree.preorder.filter NodeInfo.isDrive).map NodeInfo.drive
        nics := (tree.preorder.filter NodeInfo.isNetwork).map NodeInfo.nic
        bios := (((tree.preorder.filter NodeInfo.isFirmware).getLast?).map NodeInfo.bios).getD {}
        storageControllers :=
          (tree.preorder.filter NodeInfo.isStorage).map NodeInfo.storageController } := by
  obtain ⟨info, children⟩ := tree
  rw [deviceOfTree, addTree_eq]
  generalize (Node.mk info children).preorder = nodes
  have start := foldl_addNode_rest nodes { toIdentity := info.identity }
  have bios := foldl_addNode_bios nodes { toIdentity := info.identity }
  have drives := foldl_addNode_parts (·.drives) NodeInfo.isDrive NodeInfo.drive
    (fun device node => by rw [addNode_eq]) nodes { toIdentity := info.identity }
  have nics := foldl_addNode_parts (·.nics) NodeInfo.isNetwork NodeInfo.nic
    (fun device node => by rw [addNode_eq]) nodes { toIdentity := info.identity }
  have controllers := foldl_addNode_parts (·.storageControllers) NodeInfo.isStorage
    NodeInfo.storageController (fun device node => by rw [addNode_eq]) nodes
    { toIdentity := info.identity }
  generalize nodes.foldl addNode { toIdentity := info.identity } = device at *
  obtain ⟨identity, deviceDrives, deviceNics, bmc, deviceBios, cpld, deviceControllers⟩ := device
  simp only [List.nil_append] at *
  obtain ⟨rfl, rfl, rfl⟩ := start
  subst drives nics bios controllers
  rfl

/-! ## From the output to the tree -/

/-- Whether an output of `lshw -json` writes a tree. -/
def Describes (output : String) (tree : Node) : Prop :=
  ((Json.settledOfText? output).bind root?).bind (Node.reader Json.depthLimit) = some tree

theorem device_eq_ok_iff {output : String} {device : Device} :
    Lshw.device output = .ok device ↔ ∃ tree, Describes output tree ∧ device = deviceOfTree tree := by
  rw [Lshw.device]
  simp only [Describes]
  rcases Json.settledOfText? output with _ | document
  · simp
  · dsimp only [Option.bind_some]
    rcases root? document with _ | root
    · simp
    · dsimp only [Option.bind_some]
      rcases Node.reader Json.depthLimit root with _ | tree
      · simp
      · simp only [Except.ok.injEq, Option.some.injEq, exists_eq_left']
        exact eq_comm

end ServerInventory.Lshw
