import WekaOperator.SignDrives.Node

/-! Storing the results of a sign-drives or discover-drives container (`funcs_oneoff.go`): the new annotations and
    resources are computed on the node in memory, then its status and its annotations are written. -/

namespace WekaOperator.SignDrives
open Lib Operations

/-! ### The results -/

/-- A drive as seen in the kernel. -/
structure DriveRawInfo where
  serialId : String
  isMounted : Bool := false
  capacityGiB : Int
  deriving DecidableEq, Repr

/-- The results of a node. -/
structure DriveNodeResults where
  drives : List String := []
  rawDrives : List DriveRawInfo := []
  proxyDrives : List SharedDriveInfo := []
  kernelViewComplete : Bool
  deriving DecidableEq, Repr

/-- What the container was to do. -/
inductive Instructions
  | signDrives (payload : Except String Bool)
  | other

/-- The container that did it. -/
structure Container where
  instructions : Option Instructions
  executionResult : Except String DriveNodeResults

/-- Drives were signed for the proxy. -/
def Container.isProxyMode (container : Container) (opResult : DriveNodeResults) : Bool :=
  match container.instructions with
  | some (.signDrives (.ok shared)) => shared
  | _ => !opResult.proxyDrives.isEmpty

/-! ### Full drives -/

/-- The capacities seen. -/
def rawDriveCapacity : List DriveRawInfo → List DriveEntry → Except String (List DriveEntry)
  | [], known => .ok known
  | raw :: rest, known =>
    if raw.serialId = "" then rawDriveCapacity rest known
    else if raw.capacityGiB = 0 then .error s!"drive {raw.serialId} in RawDrives has zero capacity"
    else rawDriveCapacity rest (upsert (·.serial) ⟨raw.serialId, raw.capacityGiB⟩ known)

/-- The drives on record, one a serial. -/
def seenDrives (entries : List DriveEntry) : List DriveEntry :=
  (entries.filter (·.serial ≠ "")).foldl (fun seen entry => upsert (·.serial) entry seen) []

/-- Adds the reported ones. -/
def addReported (capacities : List DriveEntry) : List String → List DriveEntry → Except String (List DriveEntry)
  | [], seen => .ok seen
  | serialId :: rest, seen =>
    if serialId = "" then addReported capacities rest seen
    else
      match capacities.find? (·.serial = serialId) with
      | none => .error s!"drive {serialId} present in Drives but missing from RawDrives"
      | some entry => addReported capacities rest (upsert (·.serial) ⟨serialId, entry.capacityGiB⟩ seen)

/-- Blocks mounted drives. -/
def blockMounted (seen : List DriveEntry) (rawDrives : List DriveRawInfo) (blocked : List String) : List String :=
  appendNew blocked ((rawDrives.filter fun raw => raw.isMounted ∧ raw.serialId ∈ seen.map (·.serial)).map (·.serialId))

/-- Blocks drives that are not seen. -/
def appendMissingDrivesToBlocked (annotatedSerials : List String) (opResult : DriveNodeResults) (blocked : List String) :
    List String :=
  if opResult.kernelViewComplete then
    let kernelVisible := (opResult.rawDrives.map (·.serialId)).filter (· ≠ "")
    appendNew blocked ((sortSerials annotatedSerials).filter fun s => s ≠ "" ∧ s ∉ kernelVisible)
  else blocked

/-- No whole drives are on record. -/
def Node.fullDrivesAbsent (node : Node) : Bool := node.annotations.fullDrives = .absent ∨ node.annotations.fullDrives = .empty

/-- The node after whole drives are reported. -/
def fullDriveAnnotations (text : Text) (node : Node) (opResult : DriveNodeResults) : Except String Node := do
  let capacities ← rawDriveCapacity opResult.rawDrives []
  let existing ← (readDriveAnnotations node.annotations.fullDrives).mapError ("error reading existing drive annotations: " ++ ·)
  let seen ← addReported capacities opResult.drives (seenDrives existing)
  let updatedDrivesList := sortDriveEntriesDesc seen
  let unmarshalled ← unmarshalBlockedDrives node
  let blockedDrives :=
    appendMissingDrivesToBlocked (seen.map (·.serial)) opResult (blockMounted seen opResult.rawDrives unmarshalled)
  let annotated : Node :=
    { node with
      annotations.fullDrives := .value updatedDrivesList
      annotations.signHash := some (calculateNodeDriveSignHash text node)
      annotations.blockedDrives := .value blockedDrives }
  return if node.fullDrivesAbsent ∧ updatedDrivesList = [] then annotated
    else setNodeDriveAllocatable annotated (updatedDrivesList.map (·.serial)) blockedDrives

/-! ### Shared drives -/

/-- The shared drives, one a serial. -/
def drivesBySerial (drives : List SharedDriveInfo) : List SharedDriveInfo :=
  (drives.filter (·.serial ≠ "")).foldl (fun known drive => upsert (·.serial) drive known) []

/-- Adds a reported one. -/
def mergeReported (known : List SharedDriveInfo) (drive : SharedDriveInfo) : List SharedDriveInfo :=
  match known.find? (·.serial = drive.serial) with
  | some existing => upsert (·.serial) (mergeSharedDriveInfo existing drive) known
  | none => upsert (·.serial) drive known

/-- Adds all. -/
def mergeProxyDrives (known proxyDrives : List SharedDriveInfo) : List SharedDriveInfo :=
  (proxyDrives.filter (·.serial ≠ "")).foldl mergeReported known

/-- The same with their types. -/
def mergedDrives (text : Text) (known : List SharedDriveInfo) (rules : List DriveTypeOverrideRule) : List SharedDriveInfo :=
  applyDriveTypeOverrides text
    ((sortSerials (known.map (·.serial))).filterMap fun s => known.find? (·.serial = s)) rules

/-- The text of that error. -/
def incompleteKernelView (node : Node) : String :=
  s!"proxy mode drive discovery for node {node.name} has an incomplete kernel view and produced zero shared drives; " ++
  "refusing to persist an empty weka.io/weka-shared-drives annotation and a fresh weka.io/sign-drives-hash to avoid " ++
  "permanently locking the node out of future re-scans. Check that this node's NVMe devices are bound to the kernel " ++
  "\"nvme\" driver, then re-run sign-drives with force"

/-- The node after shared drives are reported. -/
def sharedDriveAnnotations (text : Text) (node : Node) (opResult : DriveNodeResults) : Except String Node := do
  let unmarshalled ← unmarshalBlockedDrives node
  let existing ← (readNodeSharedDrives node).mapError ("error reading existing shared drives: " ++ ·)
  let known := mergeProxyDrives (drivesBySerial existing) opResult.proxyDrives
  let blockedDrives := appendMissingDrivesToBlocked (known.map (·.serial)) opResult unmarshalled
  let rules ← (readDriveTypeOverrides node).mapError ("error reading drive type overrides: " ++ ·)
  let merged := mergedDrives text known rules
  if merged = [] ∧ opResult.kernelViewComplete = false then .error (incompleteKernelView node)
  else do
    let annotated : Node :=
      { node with
        annotations.sharedDrives := .value merged
        annotations.signHash := some (calculateNodeDriveSignHash text node)
        annotations.blockedDrives := .value blockedDrives }
    let blockedPhysicalUUIDs ← readBlockedDrivePhysicalUUIDs node
    return if node.annotations.sharedDrives = .absent ∧ merged = [] then annotated
      else setSharedDriveCapacityResources annotated merged blockedPhysicalUUIDs blockedDrives

/-! ### Writing -/

/-- The replies of the API server. -/
structure Replies where
  statusUpdate : Except ApiError Unit := .ok ()
  update : Except ApiError Unit := .ok ()
  complete : Except ApiError Unit := .ok ()
  statusApplied : Bool := false
  updateApplied : Bool := false
  completeApplied : Bool := false

/-- A status update. -/
def Node.storeStatus (stored given : Node) : Node := { stored with status := given.status }

/-- An update. -/
def Node.storeMetadata (stored given : Node) : Node := { stored with annotations := given.annotations }

/-- What is stored, and the outcome. -/
structure Run where
  stored : Option Node
  completed : Bool
  result : Except String Unit

/-- Stores status and annotations. -/
def storeResults (api : Replies) (stored node : Node) : Run :=
  match api.statusUpdate with
  | .error err =>
    { stored := some (if api.statusApplied then stored.storeStatus node else stored)
      completed := false
      result := .error s!"error updating node status: {err}" }
  | .ok () =>
    -- The stored object is decoded over the node that was passed.
    let decoded := stored.storeStatus node
    match api.update with
    | .error err =>
      { stored := some (if api.updateApplied then decoded.storeMetadata decoded else decoded)
        completed := false
        result := .error s!"error updating node annotations: {err}" }
    | .ok () =>
      { stored := some (decoded.storeMetadata decoded)
        completed := took api.complete api.completeApplied
        result := api.complete.mapError toString }

/-- The node after the report. -/
def newAnnotations (text : Text) (proxyMode : Bool) (node : Node) (opResult : DriveNodeResults) : Except String Node :=
  if proxyMode then sharedDriveAnnotations text node opResult else fullDriveAnnotations text node opResult

/-- Handles the results of a node. -/
def updateNodeAnnotations (text : Text) (api : Replies) (node : Option Node) (container : Container) : Run :=
  match node with
  | none => { stored := none, completed := false, result := .error "node is not set" }
  | some node =>
    match container.executionResult with
    | .error err =>
      { stored := some node, completed := false, result := .error s!"error unmarshalling execution result: {err}" }
    | .ok opResult =>
      match newAnnotations text (container.isProxyMode opResult) node opResult with
      | .error err => { stored := some node, completed := false, result := .error err }
      | .ok updated => storeResults api node updated

end WekaOperator.SignDrives
