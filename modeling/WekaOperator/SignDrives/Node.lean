import WekaOperator.Lib.Collections
import WekaOperator.Operations.Common

/-! The drive bookkeeping on a node (`drives.go`, `node_drives.go`, `drive_type_overrides.go`, `hashes.go`): the
    annotations that list its drives and the blocked ones, how they are read, and the resources published in its
    status. -/

namespace WekaOperator.SignDrives
open Lib

/-- The functions on texts that the code calls. -/
structure Text where
  sha256 : String → String
  trimSpace : String → String
  equalFold : String → String → Bool

/-! ### The node -/

/-- An annotation, parsed. -/
inductive Annotation (α : Type)
  | absent
  | empty
  | malformed (err : String)
  | value (v : α)
  deriving DecidableEq, Repr

/-- A whole drive. -/
structure DriveEntry where
  serial : String
  capacityGiB : Int
  deriving DecidableEq, Repr

/-- A shared drive. -/
structure SharedDriveInfo where
  physicalUUID : String
  serial : String
  capacityGiB : Int
  type : String
  model : String
  deriving DecidableEq, Repr

/-- A rule for the type of drives. -/
structure DriveTypeOverrideRule where
  model : String
  capacityGiB : Int
  type : String
  deriving DecidableEq, Repr

/-- The annotations about drives. -/
structure Annotations where
  fullDrives : Annotation (List DriveEntry) := .absent
  sharedDrives : Annotation (List SharedDriveInfo) := .absent
  blockedDrives : Annotation (List String) := .absent
  blockedPhysicalUuids : Annotation (List String) := .absent
  driveTypeOverrides : Annotation (List DriveTypeOverrideRule) := .absent
  signHash : Option String := none
  deriving DecidableEq, Repr

/-- The resources about drives. -/
structure Resources where
  drives : Option Int := none
  sharedCapacity : Option Int := none
  sharedCapacityQLC : Option Int := none
  deriving DecidableEq, Repr

/-- The status, as far as it is read. -/
structure NodeStatus where
  bootID : String := ""
  capacity : Resources := {}
  allocatable : Resources := {}
  deriving DecidableEq, Repr

/-- A node. -/
structure Node where
  name : String
  annotations : Annotations := {}
  status : NodeStatus := {}
  deriving DecidableEq, Repr

/-! ### Reading the annotations -/

/-- The whole drives. -/
def readDriveAnnotations : Annotation (List DriveEntry) → Except String (List DriveEntry)
  | .absent | .empty => .ok []
  | .malformed err => .error s!"failed to parse weka-full-drives: {err}"
  | .value entries => .ok (entries.filter (0 < ·.capacityGiB))

/-- The shared drives. -/
def readNodeSharedDrives (node : Node) : Except String (List SharedDriveInfo) :=
  match node.annotations.sharedDrives with
  | .absent | .empty => .ok []
  | .malformed err => .error s!"failed to parse shared drives annotation: {err}"
  | .value drives => .ok drives

/-- The blocked UUIDs. -/
def readBlockedDrivePhysicalUUIDs (node : Node) : Except String (List String) :=
  match node.annotations.blockedPhysicalUuids with
  | .absent | .empty => .ok []
  | .malformed err => .error s!"failed to unmarshal weka.io/blocked-drives-physical-uuids annotation: {err}"
  | .value uuids => .ok uuids

/-- The rules. -/
def readDriveTypeOverrides (node : Node) : Except String (List DriveTypeOverrideRule) :=
  match node.annotations.driveTypeOverrides with
  | .absent | .empty => .ok []
  | .malformed err => .error s!"failed to parse drive-type-overrides: {err}"
  | .value rules => .ok rules

/-- The blocked serials. -/
def unmarshalBlockedDrives (node : Node) : Except String (List String) :=
  match node.annotations.blockedDrives with
  | .absent => .ok []
  | .empty => .error "error unmarshalling blocked drives: unexpected end of JSON input"
  | .malformed err => .error s!"error unmarshalling blocked drives: {err}"
  | .value serials => .ok serials

/-! ### Drives -/

/-- The largest first. -/
def sortDriveEntriesDesc (entries : List DriveEntry) : List DriveEntry :=
  entries.insertionSort fun a b => b.capacityGiB < a.capacityGiB ∨ (a.capacityGiB = b.capacityGiB ∧ a.serial < b.serial)

/-- Sorted serials. -/
def sortSerials (serials : List String) : List String := serials.insertionSort (· < ·)

/-- What is new, else what was known. -/
def mergeSharedDriveInfo (existing incoming : SharedDriveInfo) : SharedDriveInfo where
  physicalUUID := if incoming.physicalUUID = "" then existing.physicalUUID else incoming.physicalUUID
  serial := if incoming.serial = "" then existing.serial else incoming.serial
  capacityGiB := if incoming.capacityGiB = 0 then existing.capacityGiB else incoming.capacityGiB
  type := if incoming.type = "" then existing.type else incoming.type
  model := if incoming.model = "" then existing.model else incoming.model

/-- The rule is about the drive. -/
def driveTypeOverrideRuleMatches (text : Text) (rule : DriveTypeOverrideRule) (drive : SharedDriveInfo) : Bool :=
  let ruleModel := text.trimSpace rule.model
  if ruleModel ≠ "" ∧ text.equalFold ruleModel (text.trimSpace drive.model) = false then false
  else if rule.capacityGiB ≠ 0 ∧ rule.capacityGiB ≠ drive.capacityGiB then false
  else ruleModel ≠ "" ∨ rule.capacityGiB ≠ 0

/-- The drives with their types. -/
def applyDriveTypeOverrides (text : Text) (drives : List SharedDriveInfo) (rules : List DriveTypeOverrideRule) :
    List SharedDriveInfo :=
  drives.map fun drive =>
    match rules.find? fun rule => (rule.type = "TLC" ∨ rule.type = "QLC") ∧ driveTypeOverrideRuleMatches text rule drive with
    | some rule => { drive with type := rule.type }
    | none => drive

/-! ### The published resources -/

/-- How many drives are not blocked. -/
def availableDrives (totalSerials blockedSerials : List String) : Int := (totalSerials.filter (· ∉ blockedSerials)).length

/-- Publishes that number. -/
def setNodeDriveAllocatable (node : Node) (totalSerials blockedSerials : List String) : Node :=
  let available := availableDrives totalSerials blockedSerials
  { node with
    status.capacity.drives := some available
    status.allocatable.drives := some available }

/-- TLC and QLC capacity that is not blocked. -/
def sumSharedDriveCapacityByType (drives : List SharedDriveInfo) (blockedPhysicalUUIDs blockedSerials : List String) :
    Int × Int :=
  let unblocked := drives.filter fun drive => drive.physicalUUID ∉ blockedPhysicalUUIDs ∧ drive.serial ∉ blockedSerials
  (((unblocked.filter (·.type ≠ "QLC")).map (·.capacityGiB)).sum, ((unblocked.filter (·.type = "QLC")).map (·.capacityGiB)).sum)

/-- Publishes these capacities. -/
def setSharedDriveCapacityResources (node : Node) (drives : List SharedDriveInfo)
    (blockedPhysicalUUIDs blockedSerials : List String) : Node :=
  let sums := sumSharedDriveCapacityByType drives blockedPhysicalUUIDs blockedSerials
  { node with
    status.capacity.sharedCapacity := some sums.1
    status.allocatable.sharedCapacity := some sums.1
    status.capacity.sharedCapacityQLC := some sums.2
    status.allocatable.sharedCapacityQLC := some sums.2 }

/-- The hash of a signed node. -/
def calculateNodeDriveSignHash (text : Text) (node : Node) : String := text.sha256 node.status.bootID

/-! ### What is counted does not depend on the order -/

theorem availableDrives_perm {a b : List String} (h : a.Perm b) (blocked : List String) :
    availableDrives a blocked = availableDrives b blocked := by
  unfold availableDrives
  rw [(h.filter _).length_eq]

theorem sumSharedDriveCapacityByType_congr {blocked blocked' : List String} (h : ∀ s, s ∈ blocked ↔ s ∈ blocked')
    (drives : List SharedDriveInfo) (uuids : List String) :
    sumSharedDriveCapacityByType drives uuids blocked = sumSharedDriveCapacityByType drives uuids blocked' := by
  simp only [sumSharedDriveCapacityByType, h]

theorem mergeSharedDriveInfo_serial {existing incoming : SharedDriveInfo} (h : incoming.serial ≠ "") :
    (mergeSharedDriveInfo existing incoming).serial = incoming.serial := if_neg h

end WekaOperator.SignDrives
