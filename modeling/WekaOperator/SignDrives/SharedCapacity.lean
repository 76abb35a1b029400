import WekaOperator.Allocator.Drives
import WekaOperator.SignDrives.Node

/-! The shared capacity of a node, read three times: published in its status (`node_drives.go`), in the planner's
    inventory (`collect.go`), and by the allocator, which separates the drives by type (`node_info.go`,
    `container_allocator.go`). -/

namespace WekaOperator.SignDrives
open Lib Planner

/-! ### What the allocator reads of a node -/

/-- An annotation, or its default. -/
def unmarshal {α : Type} (what : String) (absent : α) : Annotation α → Except String α
  | .absent => .ok absent
  | .empty => .error s!"failed to unmarshal {what}: unexpected end of JSON input"
  | .malformed err => .error s!"failed to unmarshal {what}: {err}"
  | .value v => .ok v

/-- Drives that are not blocked. -/
def filterBlockedSharedDrives (drives : List SharedDriveInfo) (blockedPhysicalUUIDs blockedSerials : List String) :
    List SharedDriveInfo :=
  if blockedPhysicalUUIDs.length = 0 ∧ blockedSerials.length = 0 then drives
  else drives.filter fun drive => drive.physicalUUID ∉ blockedPhysicalUUIDs ∧ drive.serial ∉ blockedSerials

/-- The drives as the allocator sees them. -/
structure AllocatorNodeInfo where
  availableDrives : List DriveEntry := []
  sharedDrives : List SharedDriveInfo := []
  blockedDriveCount : Nat := 0

/-- Reads them. -/
def parseAllocatorNodeInfo (node : Node) : Except String AllocatorNodeInfo := do
  let blockedSerials ← unmarshal "blocked-drives" [] node.annotations.blockedDrives
  let entries ← (readDriveAnnotations node.annotations.fullDrives).mapError fun e => s!"failed to read drive annotations: {e}"
  let availableDrives := entries.filter (·.serial ∉ blockedSerials)
  let blockedDriveCount := blockedSerials.length
  match node.annotations.sharedDrives with
  | .absent => return { availableDrives, blockedDriveCount }
  | present =>
    let drives ← unmarshal "shared-drives" [] present
    let blockedUUIDs ← unmarshal "blocked-shared-drives" [] node.annotations.blockedPhysicalUuids
    return { availableDrives, blockedDriveCount, sharedDrives := filterBlockedSharedDrives drives blockedUUIDs blockedSerials }

/-! ### Three sums -/

/-- The blocked serials. -/
def readBlockedDriveSerials (node : Node) : Except String (List String) :=
  match node.annotations.blockedDrives with
  | .absent | .empty => .ok []
  | .malformed err => .error s!"failed to unmarshal weka.io/blocked-drives annotation: {err}"
  | .value serials => .ok serials

/-- Adds a drive to the sums. -/
def addSharedDrive (sums : Int × Int) (sd : SharedDriveInfo) : Int × Int :=
  if sd.type = "TLC" then (sums.1 + sd.capacityGiB, sums.2)
  else if sd.type = "QLC" then (sums.1, sums.2 + sd.capacityGiB)
  else sums

/-- TLC and QLC capacity. -/
def sumSharedDriveCapacity (drives : List SharedDriveInfo) : Int × Int := drives.foldl addSharedDrive (0, 0)

/-- The drive as the allocator has it. -/
def SharedDriveInfo.forAllocator (d : SharedDriveInfo) : Allocator.SharedDriveInfo where
  physicalUUID := d.physicalUUID
  serial := d.serial
  capacityGiB := d.capacityGiB
  type := if d.type = "TLC" then some .tlc else if d.type = "QLC" then some .qlc else none

/-- The capacity the allocator has of a type. -/
def separatedCapacity (drives : List SharedDriveInfo) (p : PoolKind) : Int :=
  ((Allocator.typedDrives (drives.map (·.forAllocator)) p).map (·.capacityGiB)).sum

/-- Both types. -/
def separatedCapacities (drives : List SharedDriveInfo) : Int × Int :=
  (separatedCapacity drives .tlc, separatedCapacity drives .qlc)

/-- The capacity of a type. -/
def capacityOfType (drives : List SharedDriveInfo) (type : String) : Int :=
  ((drives.filter (·.type = type)).map (·.capacityGiB)).sum

/-- The capacity of no type. -/
def untypedCapacity (drives : List SharedDriveInfo) : Int :=
  ((drives.filter fun d => d.type ≠ "TLC" ∧ d.type ≠ "QLC").map (·.capacityGiB)).sum

variable {drives : List SharedDriveInfo} {uuids serials : List String} {node : Node}

theorem capacityOfType_cons (d : SharedDriveInfo) (drives : List SharedDriveInfo) (type : String) :
    capacityOfType (d :: drives) type = (if d.type = type then d.capacityGiB else 0) + capacityOfType drives type := by
  unfold capacityOfType
  by_cases h : d.type = type
  · simp [h]
  · simp [h]

theorem foldl_addSharedDrive (sums : Int × Int) : drives.foldl addSharedDrive sums =
    (sums.1 + capacityOfType drives "TLC", sums.2 + capacityOfType drives "QLC") := by
  induction drives generalizing sums with
  | nil => simp [capacityOfType]
  | cons d drives ih =>
    rw [List.foldl_cons, ih, capacityOfType_cons, capacityOfType_cons, addSharedDrive]
    by_cases tlc : d.type = "TLC"
    · simp [tlc, add_assoc]
    by_cases qlc : d.type = "QLC"
    · simp [qlc, add_assoc]
    · simp [tlc, qlc]

theorem sumSharedDriveCapacity_eq (drives : List SharedDriveInfo) :
    sumSharedDriveCapacity drives = (capacityOfType drives "TLC", capacityOfType drives "QLC") := by
  rw [sumSharedDriveCapacity, foldl_addSharedDrive, zero_add, zero_add]

theorem separatedCapacities_eq (drives : List SharedDriveInfo) :
    separatedCapacities drives = (capacityOfType drives "TLC", capacityOfType drives "QLC") := by
  have separated : ∀ p type, (∀ d : SharedDriveInfo, d.forAllocator.type = some p ↔ d.type = type) →
      separatedCapacity drives p = capacityOfType drives type := by
    intro p type h
    unfold separatedCapacity Allocator.typedDrives capacityOfType
    rw [List.filter_map, List.map_map]
    congr 2
    exact List.filter_congr fun d _ => decide_eq_decide.mpr (h d)
  refine Prod.ext (separated .tlc "TLC" fun d => ?_) (separated .qlc "QLC" fun d => ?_)
  · by_cases tlc : d.type = "TLC" <;> by_cases qlc : d.type = "QLC" <;> simp [SharedDriveInfo.forAllocator, tlc, qlc]
  · by_cases qlc : d.type = "QLC" <;> by_cases tlc : d.type = "TLC" <;> simp [SharedDriveInfo.forAllocator, tlc, qlc]

theorem sum_not_qlc (drives : List SharedDriveInfo) :
    ((drives.filter (·.type ≠ "QLC")).map (·.capacityGiB)).sum = capacityOfType drives "TLC" + untypedCapacity drives := by
  induction drives with
  | nil => rfl
  | cons d drives ih =>
    simp only [capacityOfType, untypedCapacity] at ih ⊢
    by_cases qlc : d.type = "QLC"
    · simp_all
    by_cases tlc : d.type = "TLC"
    · simp_all [add_assoc]
    · simp_all [add_left_comm]

/-! ### Agreement -/

/-- Drives that are not blocked, by the other filter. -/
def unblockedDrives (drives : List SharedDriveInfo) (blockedPhysicalUUIDs blockedSerials : List String) :
    List SharedDriveInfo :=
  drives.filter fun drive => drive.physicalUUID ∉ blockedPhysicalUUIDs ∧ drive.serial ∉ blockedSerials

theorem filterBlockedSharedDrives_eq : filterBlockedSharedDrives drives uuids serials = unblockedDrives drives uuids serials := by
  unfold filterBlockedSharedDrives
  split
  · next h =>
    rw [List.length_eq_zero_iff, List.length_eq_zero_iff] at h
    simp [unblockedDrives, h]
  · rfl

theorem unmarshal_eq_of_read {what : String} {values values' : List String} {a : Annotation (List String)}
    (h : unmarshal what [] a = .ok values) (read : a = .absent ∧ values' = [] ∨ a = .empty ∨ a = .value values') :
    values = values' := by
  rcases read with ⟨rfl, rfl⟩ | rfl | rfl
  · exact (Except.ok.inj h).symm
  · cases h
  · exact (Except.ok.inj h).symm

theorem readBlockedDriveSerials_cases (h : readBlockedDriveSerials node = .ok serials) :
    node.annotations.blockedDrives = .absent ∧ serials = [] ∨ node.annotations.blockedDrives = .empty ∨
      node.annotations.blockedDrives = .value serials := by
  unfold readBlockedDriveSerials at h
  split at h <;> simp_all

theorem readBlockedDrivePhysicalUUIDs_cases (h : readBlockedDrivePhysicalUUIDs node = .ok uuids) :
    node.annotations.blockedPhysicalUuids = .absent ∧ uuids = [] ∨ node.annotations.blockedPhysicalUuids = .empty ∨
      node.annotations.blockedPhysicalUuids = .value uuids := by
  unfold readBlockedDrivePhysicalUUIDs at h
  split at h <;> simp_all

variable {info : AllocatorNodeInfo}

theorem parseAllocatorNodeInfo_sharedDrives (drivesRead : readNodeSharedDrives node = .ok drives)
    (uuidsRead : readBlockedDrivePhysicalUUIDs node = .ok uuids) (serialsRead : readBlockedDriveSerials node = .ok serials)
    (parsed : parseAllocatorNodeInfo node = .ok info) : info.sharedDrives = unblockedDrives drives uuids serials := by
  unfold parseAllocatorNodeInfo at parsed
  obtain ⟨blockedSerials, hserials, parsed⟩ := bind_eq_ok parsed
  obtain ⟨entries, -, parsed⟩ := bind_eq_ok parsed
  obtain rfl := unmarshal_eq_of_read hserials (readBlockedDriveSerials_cases serialsRead)
  unfold readNodeSharedDrives at drivesRead
  split at drivesRead
  · next absent =>
    rw [absent] at parsed
    cases drivesRead
    cases parsed
    rfl
  · next empty =>
    rw [empty] at parsed
    cases parsed
  · cases drivesRead
  · next listed present =>
    rw [present] at parsed
    obtain ⟨found, hfound, parsed⟩ := bind_eq_ok parsed
    obtain ⟨blockedUUIDs, huuids, parsed⟩ := bind_eq_ok parsed
    cases hfound
    obtain rfl := unmarshal_eq_of_read huuids (readBlockedDrivePhysicalUUIDs_cases uuidsRead)
    cases drivesRead
    cases parsed
    exact filterBlockedSharedDrives_eq

/-- The published capacities. -/
def Node.publishedCapacity (node : Node) : Option Int × Option Int :=
  (node.status.allocatable.sharedCapacity, node.status.allocatable.sharedCapacityQLC)

theorem publishedCapacity_eq : (setSharedDriveCapacityResources node drives uuids serials).publishedCapacity =
    (some (capacityOfType (unblockedDrives drives uuids serials) "TLC" + untypedCapacity (unblockedDrives drives uuids serials)),
      some (capacityOfType (unblockedDrives drives uuids serials) "QLC")) := by
  rw [← sum_not_qlc]
  rfl

/-- For every node whose annotations can be read, the published, the planned and the separated capacities are the same
    exactly if the drives of no known type that are not blocked add up to nothing: those are published as TLC, and
    nobody uses them. -/
theorem sharedCapacity_agrees_iff (drivesRead : readNodeSharedDrives node = .ok drives)
    (uuidsRead : readBlockedDrivePhysicalUUIDs node = .ok uuids) (serialsRead : readBlockedDriveSerials node = .ok serials)
    (parsed : parseAllocatorNodeInfo node = .ok info) :
    ((setSharedDriveCapacityResources node drives uuids serials).publishedCapacity =
        Prod.map some some (sumSharedDriveCapacity info.sharedDrives) ∧
      sumSharedDriveCapacity info.sharedDrives = separatedCapacities info.sharedDrives ∧
      (setSharedDriveCapacityResources node drives uuids serials).publishedCapacity =
        Prod.map some some (separatedCapacities info.sharedDrives)) ↔
      untypedCapacity (unblockedDrives drives uuids serials) = 0 := by
  have shared := parseAllocatorNodeInfo_sharedDrives drivesRead uuidsRead serialsRead parsed
  rw [publishedCapacity_eq, sumSharedDriveCapacity_eq, separatedCapacities_eq, shared]
  simp

def typedDrivesOfNode : List SharedDriveInfo :=
  [⟨"p1", "s1", 1000, "TLC", ""⟩, ⟨"p2", "s2", 2000, "", ""⟩, ⟨"p3", "s3", 500, "QLC", ""⟩]

def typedNode : Node where
  name := "n1"
  annotations := {
    sharedDrives := .value typedDrivesOfNode
    blockedDrives := .value ["s3"]
    blockedPhysicalUuids := .value ["p2"] }

theorem sharedCapacity_agrees_typedNode :
    (setSharedDriveCapacityResources typedNode typedDrivesOfNode ["p2"] ["s3"]).publishedCapacity = (some 1000, some 0) := by
  have parsed : parseAllocatorNodeInfo typedNode =
      .ok { sharedDrives := [⟨"p1", "s1", 1000, "TLC", ""⟩], blockedDriveCount := 1 } := rfl
  have typed : untypedCapacity (unblockedDrives typedDrivesOfNode ["p2"] ["s3"]) = 0 := by decide
  exact ((sharedCapacity_agrees_iff rfl rfl rfl parsed).mpr typed).1

/-- A drive without a type is published as TLC that the planner and the allocator do not have. -/
theorem untyped_published_unused :
    let node : Node := { name := "n1", annotations := { sharedDrives := .value [⟨"p2", "s2", 2000, "", ""⟩] } }
    (setSharedDriveCapacityResources node [⟨"p2", "s2", 2000, "", ""⟩] [] []).publishedCapacity = (some 2000, some 0) ∧
      (parseAllocatorNodeInfo node).map (fun info => sumSharedDriveCapacity info.sharedDrives) = .ok (0, 0) ∧
      (parseAllocatorNodeInfo node).map (fun info => separatedCapacities info.sharedDrives) = .ok (0, 0) := by
  decide

end WekaOperator.SignDrives
