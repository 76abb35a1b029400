import WekaOperator.StaleDrives.Types

/-! Adding the allocated virtual drives of a container to the ssdproxy of its node (`AddVirtualDrives` of
    `funcs_virtual_drives.go`). -/

namespace WekaOperator.StaleDrives
open Lib Operations

/-- What adding reads. -/
structure AddContext where
  proxyUID : String
  clusterUUID : String
  added : List String
  blockedVids : List String
  blockedPhysical : List String

/-- The drive is to be added. -/
def AddContext.toAdd (c : AddContext) (vd : VirtualDrive) : Bool :=
  vd.virtualUUID ∉ c.added ∧ vd.virtualUUID ∉ c.blockedVids ∧ vd.physicalUUID ∉ c.blockedPhysical

/-- What has been added so far. -/
structure Adding where
  drives : List VirtualDrive := []
  errs : List String := []
  vidsChanged : Bool := false

/-- A drive that stays as it is. -/
def Adding.skip (a : Adding) (vd : VirtualDrive) : Adding := { a with drives := a.drives ++ [vd] }

/-- A drive that failed. -/
def Adding.fail (a : Adding) (vd : VirtualDrive) (err : String) : Adding :=
  { a with drives := a.drives ++ [vd], errs := a.errs ++ [err] }

/-- A drive that got its UUID. -/
def Adding.resolve (a : Adding) (vd : VirtualDrive) (vid : String) : Adding :=
  { a with drives := a.drives ++ [{ vd with virtualUUID := vid }], vidsChanged := true }

/-- Adds a drive. -/
def addOne (c : AddContext) (vd : VirtualDrive) (acc : Adding) : P Adding := do
  if !c.toAdd vd then return acc.skip vd
  if vidPending vd then
    match ← call (.addByLabel c.proxyUID vd.label vd.physicalUUID c.clusterUUID vd.capacityGiB) with
    | .error e => return acc.fail vd s!"failed to add virtual drive with label {vd.label}: {e}"
    | .ok vid => return acc.resolve vd vid
  else if vidLost vd then
    return acc.fail vd s!"VID {vd.virtualUUID} of label {vd.label} is missing on the proxy; re-adding it by virtualUuid would not recreate the label-derived VID; block the VID to replace it"
  else
    match ← call (.addByVid c.proxyUID vd.virtualUUID vd.physicalUUID c.clusterUUID vd.capacityGiB) with
    | .error e => return acc.fail vd s!"failed to add virtual drive {vd.virtualUUID}: {e}"
    | .ok () => return acc.skip vd

/-- Adds all drives. -/
def addAll (c : AddContext) : List VirtualDrive → Adding → P Adding
  | [], acc => return acc
  | vd :: drives, acc => do
    let acc ← addOne c vd acc
    addAll c drives acc

/-- Stores the UUIDs. -/
def persistVids (name : String) (view : ContainerView) (a : Adding) : P (List String) := do
  if !a.vidsChanged then return a.errs
  match ← call (.updateStatus name view.version a.drives) with
  | .error e => return a.errs ++ [s!"failed to persist VIDs returned by ssdproxy: {e}"]
  | .ok () => return a.errs

/-- Adds the drives that are missing. -/
def addMissing (name : String) (view : ContainerView) (c : AddContext) : P Outcome := do
  if view.drives.all (!c.toAdd ·) then return .next
  let a ← addAll c view.drives {}
  let errs ← persistVids name view a
  if errs.length > 0 then return .error ("errors while adding virtual drives: [" ++ " ".intercalate errs ++ "]")
  return .next

/-- Reads the context. -/
def addContext (node clusterUUID : String) : P (Except String AddContext) := do
  match ← read (.ssdProxyUID node) with
  | .error e => return .error s!"failed to find ssdproxy container on node: {e}"
  | .ok proxyUID =>
    match ← read (.agentPod node) with
    | .error e => return .error e.text
    | .ok () =>
      match ← read .agentToken with
      | .error e => return .error e.text
      | .ok () =>
        match ← read (.addedVids proxyUID) with
        | .error e => return .error s!"failed to get list of added virtual drives: {e}"
        | .ok added =>
          let blockedVids ← read .blockedVids
          match ← read .blockedPhysical with
          | .error e => return .error s!"failed to get blocked drive UUIDs from node: {e}"
          | .ok blockedPhysical => return .ok ⟨proxyUID, clusterUUID, added, blockedVids, blockedPhysical⟩

/-- The step that adds virtual drives. -/
def addVirtualDrives (name : String) : P Outcome := do
  match ← call (.loadContainer name) with
  | .error e => return .error e.text
  | .ok view =>
    if !view.usesDriveSharing then return .next
    if view.drives.length = 0 then return .next
    if view.clusterID = "" then return .wait "cluster ID is not set, cannot sign virtual drives"
    match ← read .ownerClusterID with
    | .error e => return .error s!"failed to get owner cluster: {e}"
    | .ok clusterUUID =>
      if clusterUUID = "" then return .wait "owner cluster UUID is not set, cannot add virtual drives"
      match ← addContext view.node clusterUUID with
      | .error e => return .error e
      | .ok c => addMissing name view c

end WekaOperator.StaleDrives
