import WekaOperator.Operations.Common

/-! Virtual drives, the pure core of the stale-drive scan (`stale_virtual_drives.go`), and the API and proxy calls
    that the cleanup and the drive containers make. -/

namespace WekaOperator.StaleDrives
open Lib Operations

/-! ### Virtual drives -/

/-- A virtual drive of a container. -/
structure VirtualDrive where
  virtualUUID : String
  label : String
  physicalUUID : String
  capacityGiB : Int
  deriving DecidableEq, Repr

/-- A drive of a proxy. -/
structure ProxyDrive where
  virtualUUID : String
  physicalUUID : String
  clusterGUID : String
  sizeGB : Int
  deriving DecidableEq, Repr

/-- The drive waits for its UUID. -/
def vidPending (vd : VirtualDrive) : Bool := vd.label ≠ "" ∧ vd.virtualUUID = ""

/-- Its UUID is not the one it was to have. -/
def vidLost (vd : VirtualDrive) : Bool := vd.label ≠ "" ∧ vd.virtualUUID ≠ "" ∧ vd.virtualUUID ≠ vd.label

/-! ### The scan -/

/-- A drive found on a node. -/
structure ScannedVID where
  node : String
  vd : ProxyDrive
  deriving DecidableEq, Repr

/-- Why a drive is stale. -/
inductive Category
  | deadCluster | liveClusterUnclaimed
  deriving DecidableEq, Repr

/-- A stale drive. -/
structure StaleInfo where
  node : String
  physicalUUID : String
  virtualUUID : String
  ownerClusterGUID : String
  sizeGB : Int
  category : Category
  deriving DecidableEq, Repr

/-- What containers claim. -/
structure Claims where
  claimed : List String
  pendingPhysical : List String
  deriving DecidableEq, Repr

/-- The claims of the allocations. -/
def buildClaimedSet (allocations : List (List VirtualDrive)) : Claims where
  claimed := (allocations.flatten.filter (·.virtualUUID ≠ "")).map (·.virtualUUID)
  pendingPhysical := (allocations.flatten.filter (·.virtualUUID = "")).map (·.physicalUUID)

/-- The drive is not claimed. -/
def Claims.unclaimed (c : Claims) (virtualUUID physicalUUID : String) : Bool :=
  virtualUUID ∉ c.claimed ∧ physicalUUID ∉ c.pendingPhysical

/-- The category of a drive. -/
def categorize (liveGUIDs : List String) (vd : ProxyDrive) : Category :=
  if vd.clusterGUID ∈ liveGUIDs then .liveClusterUnclaimed else .deadCluster

/-- By node, then by UUID. -/
def staleOrder (a b : StaleInfo) : Prop := a.node < b.node ∨ (a.node = b.node ∧ a.virtualUUID ≤ b.virtualUUID)

instance : DecidableRel staleOrder := fun _ _ => inferInstanceAs (Decidable (_ ∨ _))

/-- A sort by that order; Go's is not stable. -/
structure Sorting where
  sort : List StaleInfo → List StaleInfo
  perm : ∀ l, (sort l).Perm l
  sorted : ∀ l, (sort l).Pairwise staleOrder

/-- The stale drives, and how many pending ones were skipped. -/
def computeStaleVids (sorting : Sorting) (scanned : List ScannedVID) (claims : Claims) (liveGUIDs : List String) (onlyNonExisting : Bool) :
    List StaleInfo × Nat :=
  let unclaimed := scanned.filter fun s => claims.unclaimed s.vd.virtualUUID s.vd.physicalUUID
  let infos := unclaimed.map fun s =>
    { node := s.node
      physicalUUID := s.vd.physicalUUID
      virtualUUID := s.vd.virtualUUID
      ownerClusterGUID := s.vd.clusterGUID
      sizeGB := s.vd.sizeGB
      category := categorize liveGUIDs s.vd : StaleInfo }
  let kept := infos.filter fun i => !onlyNonExisting || i.category = .deadCluster
  (sorting.sort kept,
    (scanned.filter fun s => s.vd.virtualUUID ∉ claims.claimed ∧ s.vd.physicalUUID ∈ claims.pendingPhysical).length)

/-- What the fingerprint is of. -/
def StaleInfo.key (i : StaleInfo) : String × String × String := (i.node, i.virtualUUID, i.ownerClusterGUID)

/-- A digest without collisions. -/
structure Digest where
  sum : List (String × String × String) → String
  injective : Function.Injective sum
  nonempty : ∀ l, sum l ≠ ""

/-- The fingerprint of stale drives. -/
def fingerprintStaleVids (digest : Digest) (stale : List StaleInfo) : String :=
  if stale.length = 0 then "" else digest.sum (stale.map (·.key))

/-- The fingerprint is that of the last result. -/
def deletionEligible (staleCount : Nat) (currentFingerprint previousFingerprint : String) : Bool :=
  staleCount > 0 ∧ currentFingerprint ≠ "" ∧ currentFingerprint = previousFingerprint

/-- The result of a scan. -/
structure Result where
  scannedNodes : Nat
  staleCount : Nat
  staleTiB : ℚ
  skippedPendingCount : Nat
  fingerprint : String
  deletionEligible : Bool := false
  staleVids : List StaleInfo
  deleted : List String := []
  err : String := ""
  deriving DecidableEq

/-- What the operation is asked to do. -/
structure Payload where
  nodeSelector : Labels := []
  deleteStaleVids : Bool
  onlyNonExistingClusters : Bool := false
  deriving DecidableEq, Repr

/-- The operation as loaded. -/
structure Owner where
  manual : Bool
  payload : Payload
  status : OwnerStatus
  result : Option Result
  deriving DecidableEq

/-! ### Calls -/

/-- A container as loaded. -/
structure ContainerView where
  usesDriveSharing : Bool
  clusterID : String
  node : String
  version : Nat
  drives : List VirtualDrive
  deriving DecidableEq, Repr

/-- Reads that leave no trace. -/
inductive Read
  | targets (selector : Labels)
  | clusterGUIDs
  | agentToken
  | agentPod (node : String)
  | ownerClusterID
  | ssdProxyUID (node : String)
  | addedVids (proxyUID : String)
  | blockedVids
  | blockedPhysical
  deriving DecidableEq

/-- Their replies. -/
@[reducible] def Read.Reply : Read → Type
  | .targets _ => Except TargetsError Observed
  | .clusterGUIDs => Except ApiError (List String)
  | .agentToken => Except ApiError Unit
  | .agentPod _ => Except ApiError Unit
  | .ownerClusterID => Except ApiError String
  | .ssdProxyUID _ => Except ApiError String
  | .addedVids _ => Except ApiError (List String)
  | .blockedVids => List String
  | .blockedPhysical => Except ApiError (List String)

/-- The calls. -/
inductive Op
  | read (q : Read)
  | loadOwner
  | markRunning
  | listAllocations
  | listVirtualDrives (proxyUID : String)
  | noteScan (stale : List StaleInfo)
  | removeVirtualDrive (proxyUID virtualUUID : String)
  | progress (r : Result)
  | succeed (r : Result)
  | loadContainer (name : String)
  | addByLabel (proxyUID label physicalUUID clusterGUID : String) (sizeGiB : Int)
  | addByVid (proxyUID virtualUUID physicalUUID clusterGUID : String) (sizeGiB : Int)
  | updateStatus (name : String) (version : Nat) (drives : List VirtualDrive)
  deriving DecidableEq

/-- Their replies. -/
@[reducible] def Op.Reply : Op → Type
  | .read q => q.Reply
  | .loadOwner => Except ApiError Owner
  | .markRunning => Except ApiError Unit
  | .listAllocations => Except ApiError (List (List VirtualDrive))
  | .listVirtualDrives _ => Except ApiError (List ProxyDrive)
  | .noteScan _ => Unit
  | .removeVirtualDrive _ _ => Except ApiError Unit
  | .progress _ => Except ApiError Unit
  | .succeed _ => Except ApiError Unit
  | .loadContainer _ => Except ApiError ContainerView
  | .addByLabel _ _ _ _ _ => Except ApiError String
  | .addByVid _ _ _ _ _ => Except ApiError Unit
  | .updateStatus _ _ _ => Except ApiError Unit

/-- Programs of both parties. -/
abbrev P (α : Type) : Type := Prog Op Op.Reply α

/-- One call. -/
def call (op : Op) : P op.Reply := .call op .ret

/-- One read. -/
def read (q : Read) : P q.Reply := .call (.read q) .ret

end WekaOperator.StaleDrives
