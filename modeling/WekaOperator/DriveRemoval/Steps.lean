import WekaOperator.Containers.Spec
import WekaOperator.Lib.Flow
import WekaOperator.Operations.Common

/-! How a drive container gives up the drives that its node blocks (`RemoveDrives`, `RemoveDrivesByPhysicalUuids` and
    `RemoveDrivesByVirtualUuids` of `funcs_drives.go`, with the deallocations of `funcs_resources_allocation.go` and
    the proxy calls of `funcs_virtual_drives.go`). -/

namespace WekaOperator.DriveRemoval
open Lib Operations Containers
open Lib.Flow (orFail attempt wrapError)

/-- A drive of the cluster, as reported. -/
structure Drive where
  uuid : String
  serialNumber : String
  sizeBytes : Int
  status : String
  deriving DecidableEq, Repr

/-- A drive, as listed for a container. -/
structure ListedDrive where
  virtualUUID : String
  physicalUUID : String
  deriving DecidableEq, Repr

/-- The blocked drives in the node's annotations. -/
structure Blocked where
  serials : Except String (List String) := .ok []
  physicalUuids : Except String (List String) := .ok []
  virtualUuids : Except String (List String) := .ok []

/-- The spec of the container. -/
structure Container where
  nodeAffinity : String
  usesDriveSharing : Bool
  skipVirtualDrivesRemoval : Bool
  blocked : Blocked

/-- Its allocations. -/
structure Status where
  drives : List String := []
  virtualDrives : List VirtualDrive := []
  addedDrives : List Drive := []
  deriving DecidableEq, Repr

/-- What weka says of it. -/
structure Health where
  internalStatus : String
  activeDrives : Option Int
  deriving DecidableEq, Repr

/-- Steps that are throttled. -/
inductive Throttled
  | removeDrives | removeDrivesByPhysicalUuids | removeDrivesByVirtualUuids
  deriving DecidableEq, Repr

/-- What has to be found before a drive is erased. -/
inductive Handle
  | ssdProxyOnNode | nodeAgentPod | nodeAgentToken
  deriving DecidableEq, Repr

/-- How drives are dropped from the status. -/
inductive Deallocation
  | bySerials | byPhysicalUuids | byVirtualUuids
  deriving DecidableEq, Repr

/-- The calls of a pass. The last two call nobody: `mapOrder` brings the order in which a map of drives is walked, and
    `deallocating` marks in the history of a run that virtual drives are dropped from the status in memory. -/
inductive Op
  | load
  | getNode
  | shouldRun (step : Throttled)
  | updateStatus (status : Status)
  | listContainerDrives
  | getClusterDrive (uuid : String)
  | deactivateDrive (uuid : String)
  | removeDrive (uuid : String)
  | getHandle (handle : Handle)
  | listVirtualDrives
  | listPhysicalDrives
  | removeVirtualDrive (virtualUUID : String)
  | removeVirtualDriveByLabel (label physicalUUID : String)
  | mapOrder (drives : List Drive)
  | deallocating (which : Deallocation)
  deriving DecidableEq, Repr

/-- Their replies. -/
def Op.Reply : Op → Type
  | .load => Except ApiError (Status × Health)
  | .getNode => Except ApiError Unit
  | .shouldRun _ => Bool
  | .listContainerDrives => Except ApiError (List Drive)
  | .getClusterDrive _ => Except ApiError String
  | .listVirtualDrives => Except ApiError (List ListedDrive)
  | .listPhysicalDrives => Except ApiError (List String)
  | .mapOrder _ => List Drive
  | .deallocating _ => Unit
  | .updateStatus _ | .deactivateDrive _ | .removeDrive _ | .getHandle _ | .removeVirtualDrive _ | .removeVirtualDriveByLabel _ _ => Except ApiError Unit

/-- The memory of a run. -/
structure Loop where
  status : Status
  health : Health
  nodeSet : Bool := false
  deriving DecidableEq, Repr

/-- Programs of the removal. -/
abbrev M := Flow.Action Op Op.Reply Loop

/-- Its steps. -/
abbrev Step := Flow.Step Op Op.Reply Loop Empty

/-- One call. -/
def call (op : Op) : M op.Reply := Flow.call op

/-- Errors in one text. -/
def joined (errs : List String) : String := " ".intercalate errs

/-! ### Deallocation -/

/-- Changes the status and stores it. -/
def updateStatus (status : Status) (text : ApiError → String) : M Unit := do
  modify fun m => { m with status := status }
  orFail text (← call (.updateStatus status))

/-- Drops the matching drives, and says whether there were any. -/
def filterVirtualDrives (vds : List VirtualDrive) (matching : VirtualDrive → Bool) : List VirtualDrive × Bool :=
  (vds.filter (!matching ·), vds.any matching)

/-- Marks which deallocation follows. -/
def mark (which : Deallocation) : M Unit := call (.deallocating which)

/-- Drops matching virtual drives from the status. -/
def deallocateVirtualDrives (which : Deallocation) (matching : VirtualDrive → Bool) : M Unit := do
  let m ← get
  let (kept, changed) := filterVirtualDrives m.status.virtualDrives matching
  if changed then do
    mark which
    updateStatus { m.status with virtualDrives := kept } fun e =>
      s!"cannot update container status with deallocated drives: {e}"
  else return ()

/-- Those on blocked physical drives. -/
def deallocateDrivesByPhysicalUuids (blocked : List String) : M Unit :=
  deallocateVirtualDrives .byPhysicalUuids (·.physicalUUID ∈ blocked)

/-- Those of these UUIDs. -/
def deallocateDrivesByVirtualUuids (uuids : List String) : M Unit :=
  deallocateVirtualDrives .byVirtualUuids (·.virtualUUID ∈ uuids)

/-- Those of blocked serials. -/
def deallocateDrivesBySerials (blocked : List String) : M Unit := do
  let m ← get
  let (kept, changed) := filterVirtualDrives m.status.virtualDrives (·.serial ∈ blocked)
  if m.status.drives.any (· ∈ blocked) || changed then do
    mark .bySerials
    updateStatus { m.status with drives := m.status.drives.filter (· ∉ blocked), virtualDrives := kept } fun e =>
      s!"cannot update container status with deallocated drives: {e}"
  else return ()

/-! ### Removal from the cluster and from the proxy -/

/-- Whether a drive was found in the cluster. -/
inductive Removal
  | removed | notFound
  deriving DecidableEq, Repr

/-- Deactivates and removes a drive in weka. -/
def removeDriveFromCluster (uuid driveRef noun : String) : M Removal := do
  match ← call (.getClusterDrive uuid) with
  | .error .notFound => return .notFound
  | .error (.other e) =>
    let ref := if uuid = driveRef then driveRef else s!"{driveRef} ({uuid})"
    throw s!"error fetching {noun} {ref} before removal: {e}"
  | .ok status =>
    if status = "ACTIVE" ∨ status = "INACTIVE" then do
      orFail (fun e => s!"error deactivating {noun} {driveRef}: {e}") (← call (.deactivateDrive uuid))
      orFail (fun e => s!"error removing {noun} {driveRef}: {e}") (← call (.removeDrive uuid))
      return .removed
    else throw s!"{noun} has status '{status}', wait for it to become 'INACTIVE'"

/-- Whether the proxy has a virtual drive. -/
def proxyHolds (virtualUUID : String) (text : ApiError → String) : M Bool := do
  let vds ← orFail text (← call .listVirtualDrives)
  return vds.any (·.virtualUUID = virtualUUID)

/-- Erases a virtual drive, if the proxy has it. -/
def removeVirtualDriveViaProxy (virtualUUID : String) : M Unit := do
  let held ← proxyHolds virtualUUID fun e => s!"failed to query existing virtual drives: {e}"
  if held then do
    orFail (fun e => s!"failed to remove virtual drive {virtualUUID}: {e}") (← call (.removeVirtualDrive virtualUUID))
    let still ← proxyHolds virtualUUID fun e =>
      s!"could not verify removal via query, but deletion call succeeded {virtualUUID}: {e}"
    if still then throw s!"virtual drive {virtualUUID} still exists after deletion call, may be transient" else return ()
  else return ()

/-- Finds the proxy of the node. -/
def findSSDProxyOnNode (c : Container) (text : String → String) : M Unit :=
  if c.nodeAffinity = "" then throw (text "container has no node affinity")
  else do
    orFail (fun e => text e.text) (← call (.getHandle .ssdProxyOnNode))

/-- Finds the proxy, the node agent and its token. -/
def proxyHandles (c : Container) (proxy purpose : String) : M Unit := do
  findSSDProxyOnNode c fun e => s!"failed to find {proxy} container{purpose}: {e}"
  orFail (fun e => s!"failed to get node agent pod{purpose}: {e}") (← call (.getHandle .nodeAgentPod))
  orFail (fun e => s!"failed to get node agent token{purpose}: {e}") (← call (.getHandle .nodeAgentToken))

/-- Erases a virtual drive. -/
def removeVirtualDrive (c : Container) (virtualUUID : String) : M Unit :=
  if c.nodeAffinity = "" then return ()
  else do
    proxyHandles c "SSDProxy" " for virtual drive cleanup"
    removeVirtualDriveViaProxy virtualUUID

/-- Removes a drive from weka, and its virtual drive. -/
def removeDriveFromWeka (c : Container) (drive : Drive) : M Unit := do
  match ← removeDriveFromCluster drive.uuid drive.serialNumber "drive" with
  | .notFound => return ()
  | .removed => if c.usesDriveSharing && !c.skipVirtualDrivesRemoval then removeVirtualDrive c drive.uuid else return ()

/-- The same by virtual UUID. -/
def removeVirtualDriveFromWekaAndProxy (c : Container) (virtualUUID : String) : M Unit := do
  let _ ← removeDriveFromCluster virtualUUID virtualUUID "virtual drive"
  if c.skipVirtualDrivesRemoval then return ()
  else
    wrapError (fun e => s!"error erasing virtual drive {virtualUUID} from the physical drive: {e}")
      (removeVirtualDriveViaProxy virtualUUID)

/-- Removes drives and collects the errors. -/
def removeEach (c : Container) : List Drive → M (List String)
  | [] => return []
  | drive :: drives => do
    let err ← attempt (removeDriveFromWeka c drive)
    let errs ← removeEach c drives
    return err.toList ++ errs

/-- The same in an order of Go's map. -/
def removeDrivesFromWeka (c : Container) (drives : List Drive) : M (List String) := do
  removeEach c (← call (.mapOrder drives))

/-! ### The three functions -/

/-- The list in an annotation. -/
def readStringSliceAnnotation (key : String) (value : Except String (List String)) : M (List String) :=
  orFail (fun e => s!"failed to unmarshal {key} annotation: {e}") value

/-- The same for the loaded node. -/
def readNodeBlockedList (key : String) (value : Except String (List String)) : M (List String) := do
  let m ← get
  if m.nodeSet then readStringSliceAnnotation key value else throw "node is nil"

/-- The added drives of blocked serials. -/
def toRemoveBySerials (added : List Drive) (blocked : List String) : List Drive :=
  blocked.dedup.filterMap fun serial =>
    (added.filter (·.serialNumber ≠ "")).reverse.find? (·.serialNumber = serial)

/-- Removes drives by serial. -/
def removeDrives (c : Container) : M Unit := do
  let blocked ← wrapError (fun e => s!"failed to get blocked drives from node: {e}")
    (readNodeBlockedList "weka.io/blocked-drives" c.blocked.serials)
  let m ← get
  let toRemove := toRemoveBySerials m.status.addedDrives blocked
  if toRemove.isEmpty then return ()
  else do
    deallocateDrivesBySerials blocked
    match ← removeDrivesFromWeka c toRemove with
    | [] => return ()
    | errs =>
      let all := joined errs
      throw s!"errors during drive replacement: [{all}]"

/-- The drive waits for its UUID. -/
def vidPending (vd : VirtualDrive) : Bool := vd.label ≠ "" ∧ vd.virtualUUID = ""

/-- The physical drive of a virtual one. -/
def physicalOf (listed : List ListedDrive) (virtualUUID : String) : Option String :=
  (listed.reverse.find? (·.virtualUUID = virtualUUID)).map (·.physicalUUID)

/-- The added drives on blocked physical ones. -/
def toRemoveByPhysicalUuids (added : List Drive) (listed : List ListedDrive) (blocked : List String) : List Drive :=
  blocked.dedup.filterMap fun physical => added.reverse.find? fun d => physicalOf listed d.uuid = some physical

/-- The proxy's physical drives, listed once. -/
def proxyPhysicalUuids : Option (List String) → M (List String)
  | some onProxy => return onProxy
  | none => do
    orFail (fun e => s!"failed to list physical drives: {e}") (← call .listPhysicalDrives)

/-- Erases the drives of a label. -/
def removeVidByLabel (onProxy : List String) (vd : VirtualDrive) : M Unit :=
  if vd.physicalUUID ∉ onProxy then return ()
  else do
    orFail ApiError.text (← call (.removeVirtualDriveByLabel vd.label vd.physicalUUID))

/-- Erases blocked drives that were never added. -/
def eraseUnadded (c : Container) (blocked added : List String) : List VirtualDrive → Option (List String) → M Bool
  | [], _ => return false
  | vd :: vds, onProxy =>
    if vd.physicalUUID ∉ blocked then eraseUnadded c blocked added vds onProxy
    else if vidPending vd then
      if c.skipVirtualDrivesRemoval then do
        let _ ← eraseUnadded c blocked added vds onProxy
        return true
      else do
        let physical ← proxyPhysicalUuids onProxy
        let label := vd.label
        wrapError (fun e => s!"failed to remove virtual drive with label {label}: {e}") (removeVidByLabel physical vd)
        let _ ← eraseUnadded c blocked added vds (some physical)
        return true
    else if vd.virtualUUID ≠ "" ∧ vd.virtualUUID ∉ added then do
      let vid := vd.virtualUUID
      wrapError (fun e => s!"failed to remove virtual drive {vid}: {e}") (removeVirtualDriveFromWekaAndProxy c vid)
      let _ ← eraseUnadded c blocked added vds onProxy
      return true
    else eraseUnadded c blocked added vds onProxy

/-- Removes drives by physical UUID. -/
def removeDrivesByPhysicalUuids (c : Container) : M Unit := do
  let blocked ← wrapError (fun e => s!"failed to get blocked drive UUIDs from node: {e}")
    (readNodeBlockedList "weka.io/blocked-drives-physical-uuids" c.blocked.physicalUuids)
  if blocked.isEmpty then return ()
  else do
    proxyHandles c "ssdproxy" ""
    let listed ← orFail (fun e => s!"failed to list virtual drives: {e}") (← call .listVirtualDrives)
    let m ← get
    let toRemove := toRemoveByPhysicalUuids m.status.addedDrives listed blocked
    let drops ← eraseUnadded c blocked (m.status.addedDrives.map (·.uuid)) m.status.virtualDrives none
    if toRemove.isEmpty && !drops then return ()
    else do
      deallocateDrivesByPhysicalUuids blocked
      match ← removeDrivesFromWeka c toRemove with
      | [] => return ()
      | errs =>
        let all := joined errs
        throw s!"errors during drive removal: [{all}]"

/-- Removes drives by virtual UUID, with those removed and the errors. -/
def removeVids (c : Container) : List String → M (List String × List String)
  | [] => return ([], [])
  | vid :: vids => do
    let err ← attempt (removeVirtualDriveFromWekaAndProxy c vid)
    let (removed, errs) ← removeVids c vids
    match err with
    | none => return (vid :: removed, errs)
    | some e => return (removed, s!"virtual drive {vid}: {e}" :: errs)

/-- Finds the proxy. -/
def resolveSSDProxy (c : Container) : M Unit := do
  proxyHandles c "ssdproxy" ""
  let _ ← orFail (fun e => s!"failed to list virtual drives: {e}") (← call .listVirtualDrives)
  return ()

/-- The proxy has to be there unless erasure is skipped. -/
def ensureProxyReachable (c : Container) : M Unit :=
  if c.skipVirtualDrivesRemoval then return ()
  else wrapError (fun e => s!"ssdproxy unreachable, removing no virtual drives: {e}") (resolveSSDProxy c)

/-- Drops the removed drives. -/
def deallocateRemoved (removed : List String) : M (List String) :=
  if removed.isEmpty then return []
  else do
    let err ← attempt (deallocateDrivesByVirtualUuids removed)
    return err.toList

/-- Removes drives by virtual UUID. -/
def removeDrivesByVirtualUuids (c : Container) : M Unit := do
  let blocked ← wrapError (fun e => s!"failed to get blocked virtual drive UUIDs from node: {e}")
    (readNodeBlockedList "weka.io/blocked-drives-virtual-uuids" c.blocked.virtualUuids)
  let m ← get
  let toRemove := (m.status.virtualDrives.map (·.virtualUUID)).filter (· ∈ blocked)
  if toRemove.isEmpty then return ()
  else do
    ensureProxyReachable c
    let (removed, errs) ← removeVids c toRemove
    let errs' ← deallocateRemoved removed
    match errs ++ errs' with
    | [] => return ()
    | all =>
      let all := joined all
      throw s!"errors during virtual drive removal: [{all}]"

/-! ### The added drives -/

/-- By UUID. -/
def sortedByUuid (drives : List Drive) : List Drive := drives.insertionSort (·.uuid ≤ ·.uuid)

/-- Stores the drives weka reports. -/
def updateWekaAddedDrives : M Unit := do
  let drivesAdded ← orFail ApiError.text (← call .listContainerDrives)
  let m ← get
  if sortedByUuid m.status.addedDrives = sortedByUuid drivesAdded then return ()
  else updateStatus { m.status with addedDrives := drivesAdded } fun e =>
    s!"cannot update container status with added drives: {e}"

/-- As many drives are active as allocated. -/
def allExpectedDrivesAreActive (c : Container) (m : Loop) : Bool :=
  let expected := if c.usesDriveSharing then m.status.virtualDrives.length else m.status.drives.length
  m.health.activeDrives.any fun (active : Int) =>
    active = m.status.addedDrives.length ∧ active = expected ∧ m.status.addedDrives.all (·.status = "ACTIVE")

/-- Sorted texts. -/
def sorted (texts : List String) : List String := texts.insertionSort (· ≤ ·)

/-- UUIDs of added drives. -/
def getAddedDrivesUuids (s : Status) : List String := s.addedDrives.map (·.uuid)

/-- Serials of added drives. -/
def getAddedDrivesSerials (s : Status) : List String := (s.addedDrives.map (·.serialNumber)).filter (· ≠ "")

/-- Added and allocated drives differ. -/
def addedDrivesNotAlignedWithAllocations (c : Container) (m : Loop) : Bool :=
  let (added, allocated) :=
    if c.usesDriveSharing then
      (getAddedDrivesUuids m.status, (m.status.virtualDrives.map (·.virtualUUID)).filter (· ≠ ""))
    else (getAddedDrivesSerials m.status, m.status.drives)
  !added.isEmpty && sorted added ≠ sorted allocated

/-- When the added drives are listed anew. -/
def needWekaDrivesListUpdate (c : Container) (m : Loop) : Bool :=
  !allExpectedDrivesAreActive c m || addedDrivesNotAlignedWithAllocations c m || m.status.addedDrives.any (·.sizeBytes = 0)

/-! ### A pass -/

/-- Loads the node. -/
def getNode (c : Container) : M Unit :=
  if c.nodeAffinity = "" then return ()
  else do
    match ← call .getNode with
    | .ok () => modify fun m => { m with nodeSet := true }
    | .error .notFound => return ()
    | .error (.other e) => throw s!"failed to get node: {e}"

/-- Runs a step unless it is throttled. -/
def throttled (step : Throttled) (run : M Unit) : M Unit := do
  match ← call (.shouldRun step) with
  | true => run
  | false => return ()

/-- The steps of the reconcile, as far as drives go. -/
def steps (c : Container) : List Step := [
  { run := getNode c },
  { run := updateWekaAddedDrives
    predicates := [(·.health.internalStatus = "READY"), needWekaDrivesListUpdate c] },
  { run := throttled .removeDrives (removeDrives c)
    continueOnError := true },
  { run := throttled .removeDrivesByPhysicalUuids (removeDrivesByPhysicalUuids c)
    predicates := [fun _ => c.usesDriveSharing]
    continueOnError := true },
  { run := throttled .removeDrivesByVirtualUuids (removeDrivesByVirtualUuids c)
    predicates := [fun _ => c.usesDriveSharing]
    continueOnError := true }]

/-- These steps set no condition. -/
def keeper : Flow.Keeper Op Op.Reply Loop Empty := ⟨nofun, nofun⟩

/-- One reconcile. -/
def reconcile (c : Container) : Prog Op Op.Reply Unit :=
  .call .load fun
    | .error _ => .ret ()
    | .ok (status, health) => do
      let _ ← Flow.runAll keeper (steps c) { status, health }
      return ()

end WekaOperator.DriveRemoval
