import WekaOperator.Lib.Arith
import WekaOperator.Operations.Common

/-! The campaign record of migrate-to-drive-sharing (`migrate_drive_sharing_types.go`), what the campaign reads, and
    the pure parts of its planning: the frozen container set, the capacity figures and the drive inventory of a
    container. -/

namespace WekaOperator.Migrate
open Lib Operations

/-! ### The record -/

/-- The phases of a container's migration. -/
inductive Phase
  | pending | inFlight | done | skipped
  deriving DecidableEq, Repr

/-- The sub-phases of a container in flight. -/
inductive SubPhase
  | unset | gate | draining | signing | proxy | rejoining
  deriving DecidableEq, Repr

/-- The text in the status. -/
def SubPhase.text : SubPhase → String
  | .unset => ""
  | .gate => "Gate"
  | .draining => "Draining"
  | .signing => "Signing"
  | .proxy => "Proxy"
  | .rejoining => "Rejoining"

/-- Where the capacity of a container comes from. -/
inductive CapacitySource
  | unset | weka | annotations
  deriving DecidableEq, Repr

/-- The entry of a container in the record. -/
structure ContainerState where
  node : String
  container : String
  phase : Phase
  subPhase : SubPhase := .unset
  serials : List String := []
  driveUuids : List String := []
  capacityBytes : Int := 0
  capacitySource : CapacitySource := .unset
  replacement : String := ""
  signOp : String := ""
  signAttempts : Nat := 0
  signDone : Bool := false
  signFailedAt : Option Int := none
  proxyRestarted : Bool := false
  startedAt : Option Int := none
  blockedSince : Option Int := none
  reason : String := ""
  deriving DecidableEq, Repr

/-- The record of a campaign, as stored in the owner's status. -/
structure Result where
  cluster : String := ""
  total : Nat := 0
  done : Nat := 0
  current : String := ""
  containers : List ContainerState := []
  oldTotalBytes : Int := 0
  newTotalBytes : Int := 0
  provisionedBytes : Int := 0
  capacityChecked : Bool := false
  blocked : List ClusterVerdict := []
  err : String := ""
  blockedSince : Option Int := none
  deriving DecidableEq, Repr

/-- Replaces an entry. -/
def Result.set (r : Result) (idx : Nat) (s : ContainerState) : Result :=
  { r with containers := r.containers.set idx s }

/-! ### What the campaign reads -/

/-- The options handed on to the sign-drives operation. -/
structure SignOptions where
  allowEraseWekaPartitions : Bool := false
  allowEraseNonWekaPartitions : Bool := false
  allowNonEmptyDevice : Bool := false
  skipTrimFormat : Bool := false
  deriving DecidableEq, Repr

/-- What the campaign is asked to do. -/
structure Payload where
  clusterNamespace : String
  clusterName : String
  paused : Bool := false
  nodeSelector : Labels := []
  signOptions : Option SignOptions := none
  deriving DecidableEq, Repr

/-- What stays the same over a campaign; `getHash` shortens long names. -/
structure Campaign where
  opName : String
  ownerNamespace : String
  ownerUID : String
  operatorNamespace : String
  getHash : String → Nat → String

/-- The operation as loaded. -/
structure Owner where
  deleting : Bool
  payload : Payload
  status : OwnerStatus
  result : Option Result
  deriving DecidableEq, Repr

/-- A sign-drives policy, as far as the guard reads it. -/
structure PolicyView where
  namespaceName : String
  name : String
  exclusiveSign : Option Labels
  deriving DecidableEq, Repr

/-- The sizing of the cluster's drive containers. -/
structure Template where
  driveContainers : Int
  containerCapacity : Int
  numDrives : Int
  driveCapacity : Int
  deriving DecidableEq, Repr

/-- What the campaign reads of the cluster. -/
structure Cluster where
  driveSharing : Bool
  usesClusterCapacity : Bool
  migrationAnnotation : String
  template : Option Template
  deriving DecidableEq, Repr

/-- Capacities and protection of the weka cluster. -/
structure WekaStatus where
  totalBytes : Int
  unprovisionedBytes : Int
  stripeWidth : Int
  redundancyLevel : Int
  hotSpare : Int
  deriving DecidableEq, Repr

/-- A drive container, as listed. -/
structure DriveContainer where
  name : String
  node : String
  usesDriveSharing : Bool
  markedForDeletion : Bool := false
  status : String := ""
  virtualDrives : Nat := 0
  createdAt : Int := 0
  deriving DecidableEq, Repr

/-- A drive container, as loaded before it is drained. -/
structure WekaContainer where
  name : String
  drives : List String
  clusterContainerID : Option Int
  skipDrivesForceResign : Bool := false
  deleting : Bool := false
  deriving DecidableEq, Repr

/-- The ssdproxy container of a node. -/
structure SsdProxy where
  namespaceName : String
  name : String
  status : String
  hugepages : Nat
  hugepagesRequest : Nat
  deriving DecidableEq, Repr

/-- Its pod. -/
structure ProxyPod where
  phase : String
  hugepages : Option Nat
  deriving DecidableEq, Repr

/-- A sign-drives operation, as looked up. -/
structure ChildView where
  phase : String
  result : String
  deriving DecidableEq, Repr

/-- A sign-drives operation to create. -/
structure ChildSignOp where
  namespaceName : String
  name : String
  deviceSerials : List String
  hostname : String
  options : SignOptions
  owned : Bool
  deriving DecidableEq, Repr

/-- A drive that weka reports. -/
structure WekaDrive where
  uuid : String
  sizeBytes : Nat
  deriving DecidableEq, Repr

/-- An entry of the full-drives annotation. -/
structure DriveEntry where
  serial : String
  capacityGiB : Int
  deriving DecidableEq, Repr

/-- An entry of the shared-drives annotation. -/
structure SharedDriveInfo where
  serial : String
  physicalUUID : String
  deriving DecidableEq, Repr

def gibBytes : Int := 2 ^ 30

/-- In seconds. -/
def signRetryBackoff : Int := 60

def maxChildOpNameLength : Nat := 63

/-! ### Planning -/

/-- A container to migrate. -/
structure Target where
  name : String
  node : String
  deriving DecidableEq, Repr

/-- By node, then by name. -/
def stateOrder (a b : ContainerState) : Prop := a.node < b.node ∨ (a.node = b.node ∧ a.container ≤ b.container)

instance : DecidableRel stateOrder := fun _ _ => inferInstanceAs (Decidable (_ ∨ _))

/-- The entries in their order. -/
def sortMigrationStates (states : List ContainerState) : List ContainerState := states.insertionSort stateOrder

/-- A Pending entry follows its container to another node, or is skipped when that is gone. -/
def refreshState (exclusive : List Target) (s : ContainerState) : ContainerState :=
  if s.phase = .pending then
    -- The last listed target of a name wins, as in the source's map.
    match (exclusive.filter (·.name = s.container)).getLast? with
    | none =>
      { s with phase := .skipped, reason := "drive container is gone or no longer exclusive; nothing to migrate" }
    | some t => { s with node := t.node }
  else s

/-- The first plan takes up all containers; later ones only refresh the Pending entries. -/
def planMigrationContainers (previous : List ContainerState) (exclusive sharing : List Target) : List ContainerState :=
  if previous.length = 0 then
    sortMigrationStates (
      exclusive.map (fun t => { node := t.node, container := t.name, phase := .pending }) ++
      sharing.map fun t =>
        { node := t.node, container := t.name, phase := .skipped, reason := "already uses drive sharing" })
  else sortMigrationStates (previous.map (refreshState exclusive))

/-- How many entries are settled. -/
def countMigrationDoneOrSkipped (states : List ContainerState) : Nat :=
  (states.filter fun s => s.phase = .done ∨ s.phase = .skipped).length

/-- The first entry in a phase. -/
def indexOfMigrationPhase (states : List ContainerState) (phase : Phase) : Option Nat :=
  states.findIdx? (·.phase = phase)

/-- The nodes with work left. -/
def pendingNodes (states : List ContainerState) : List String :=
  ((states.filter fun s => (s.phase = .pending ∨ s.phase = .inFlight) ∧ s.node ≠ "").map (·.node)).dedup

/-- Exclusive and sharing containers on the selected nodes. -/
def splitTargets (containers : List DriveContainer) (nodeFilter : Option (List String)) : List Target × List Target :=
  let selected := containers.filter fun c => nodeFilter.all (c.node ∈ ·)
  ((selected.filter (!·.usesDriveSharing)).map fun c => ⟨c.name, c.node⟩,
    (selected.filter (·.usesDriveSharing)).map fun c => ⟨c.name, c.node⟩)

/-! ### Capacity -/

/-- Raw capacity behind a usable one, with a tenth kept back. -/
def rawCapacityGiB (clusterCapGiB sw rl hs : Int) : Int :=
  if sw ≤ 0 then 0 else truncate ((clusterCapGiB : ℚ) * (sw + rl + hs) / sw / (9 / 10))

/-- The same in bytes; the usable figure where the scheme is unknown. -/
def rawBytesFromUsable (usableBytes : Int) (status : WekaStatus) : Int :=
  let raw := rawCapacityGiB (usableBytes.tdiv gibBytes) status.stripeWidth status.redundancyLevel status.hotSpare
  if raw = 0 then usableBytes else raw * gibBytes

/-- The raw capacity of the new layout. -/
def migrationNewTotalBytes : Option Template → Int
  | none => 0
  | some t =>
    let perContainerGiB := if t.containerCapacity = 0 then t.numDrives * t.driveCapacity else t.containerCapacity
    t.driveContainers * perContainerGiB * gibBytes

/-- Counts the capacity of a wanted serial once. -/
def countAnnotated (acc : Int × List String) (e : DriveEntry) : Int × List String :=
  if e.serial ∈ acc.2 ∧ 0 < e.capacityGiB then (acc.1 + e.capacityGiB * gibBytes, acc.2.filter (· ≠ e.serial))
  else acc

/-- The annotated capacity of the serials, all of which have to be there. -/
def annotatedCapacityBytes (node : String) (entries : List DriveEntry) (serials : List String) : Except String Int :=
  let (total, wanted) := (entries.filter (0 < ·.capacityGiB)).foldl countAnnotated (0, serials)
  if wanted.length > 0 then
    let missing := " ".intercalate (wanted.dedup.insertionSort (· ≤ ·))
    .error s!"weka.io/weka-full-drives on node {node} has no capacity for serials [{missing}]"
  else .ok total

/-! ### Signing and the proxy -/

/-- The name of a container's operation, shortened by a hash. -/
def childSignOpName (c : Campaign) (container : String) : String :=
  let name := s!"{c.opName}-sign-{container}"
  if name.length ≤ maxChildOpNameLength then name
  else
    let suffix := "-" ++ c.getHash name 8
    (name.take (maxChildOpNameLength - suffix.length)).toString ++ suffix

/-- The operation that signs the drives of an entry. -/
def buildChildSignOp (c : Campaign) (payload : Payload) (ns name : String) (s : ContainerState) : ChildSignOp :=
  { namespaceName := ns
    name := name
    deviceSerials := s.serials
    hostname := s.node
    options := { payload.signOptions.getD {} with allowEraseWekaPartitions := true }
    owned := c.ownerNamespace = ns }

/-- The serials that the annotation does not have yet. -/
def missingSerials (shared : List SharedDriveInfo) (serials : List String) : List String :=
  serials.filter fun serial => !shared.any fun d => d.physicalUUID ≠ "" ∧ d.serial = serial

/-- The reason shown when the operation is Done but serials are missing. -/
def signDoneWithSerialsMissingReason (ns name : String) (missing : List String) (node : String) : String :=
  s!"sign-drives {ns}/{name} reported Done but serials " ++ ", ".intercalate missing ++ " are still absent from " ++
    s!"weka.io/weka-shared-drives on node {node}"

/-- Drives of the entry that the proxy does not list. -/
def unseenDrives (shared : List SharedDriveInfo) (serials physical : List String) : List String :=
  (((shared.filter fun d => d.serial ∈ serials ∧ d.physicalUUID ≠ "").map (·.physicalUUID)).dedup).filter (· ∉ physical)

/-- Containers of the campaign and the replacements of other entries. -/
def claimedNames (states : List ContainerState) (s : ContainerState) : List String :=
  states.flatMap fun t => t.container :: (if t.replacement ≠ "" ∧ t.container ≠ s.container then [t.replacement] else [])

/-- A drive-sharing container that no entry has, on the node if there is one. -/
def pickReplacement (states : List ContainerState) (s : ContainerState) (containers : List DriveContainer) :
    Option DriveContainer :=
  let eligible := containers.filter fun c =>
    c.usesDriveSharing ∧ c.name ∉ claimedNames states s ∧ ¬c.markedForDeletion ∧ c.node ≠ ""
  match eligible.find? (·.node = s.node) with
  | some c => some c
  | none => eligible.find? fun c => s.startedAt.any (· < c.createdAt)

end WekaOperator.Migrate
