import WekaOperator.StaleDrives.Operation
import WekaOperator.StaleDrives.AddVirtualDrives

/-! The world of the stale-drive cleanup: the containers' allocations with every version they had, what the proxies
    hold, and the owner of the cleanup.

    Containers may be read at any version they had, the owner only at its latest. Runs start from nothing and every
    allocation gets a label, so entries of an operator that did not label its drives are not among the states reached. -/

namespace WekaOperator.StaleDrives
open Lib Operations

/-- A container as stored. -/
structure Object where
  name : String
  version : Nat
  drives : List VirtualDrive
  deriving DecidableEq, Repr

/-- A drive that a proxy has. -/
structure Held where
  proxyUID : String
  drive : ProxyDrive
  deriving DecidableEq, Repr

/-- A scan, and whether its result was stored. -/
structure ScanRecord where
  stale : List StaleInfo
  recorded : Bool := false
  deriving DecidableEq, Repr

/-- Its drives. -/
def ScanRecord.vids (s : ScanRecord) : List String := s.stale.map (·.virtualUUID)

/-- A drive that was removed, whether it had an owner, and the scans before. -/
structure Removal where
  vid : String
  owned : Bool
  scans : List ScanRecord
  deriving DecidableEq, Repr

/-- The containers with their history, the proxies' drives and the scans. -/
structure World where
  objects : List Object := []
  history : List Object := []
  clock : Nat := 0
  held : List Held := []
  used : List (String × String) := []
  made : List (String × String) := []
  allocated : List (String × String) := []
  status : OwnerStatus := .unset
  result : Option Result := none
  scans : List ScanRecord := []
  removals : List Removal := []
  deriving DecidableEq

/-- The drive is this one, or waits for it. -/
def World.ownedBy (w : World) (vid : String) (vd : VirtualDrive) : Bool :=
  vd.virtualUUID = vid ∨ (vidPending vd ∧ (vd.label, vid) ∈ w.made)

/-- A container has it. -/
def World.owned (w : World) (vid : String) : Bool := w.objects.any fun o => o.drives.any (w.ownedBy vid)

/-- The drives of a proxy. -/
def World.drivesOn (w : World) (proxyUID : String) : List ProxyDrive :=
  (w.held.filter (·.proxyUID = proxyUID)).map (·.drive)

/-- The drives made for a label that are still there. -/
def World.active (w : World) (label : String) : List String :=
  (w.made.filter fun m => m.1 = label ∧ ∃ h ∈ w.held, h.drive.virtualUUID = m.2).map (·.2)

/-- A UUID that was never used. -/
def World.freshVid (w : World) (vid : String) : Bool := vid ≠ "" ∧ vid ∉ w.used.map (·.1)

/-- A label that was never used. -/
def World.freshLabel (w : World) (label : String) : Bool :=
  label ≠ "" ∧ label ∉ w.allocated.map (·.1) ∧ label ∉ w.used.map (·.1)

/-! ### Updates -/

/-- Stores a container. -/
def World.put (w : World) (name : String) (drives : List VirtualDrive) : World :=
  { w with
    objects := ⟨name, w.clock + 1, drives⟩ :: w.objects.filter (·.name ≠ name)
    history := ⟨name, w.clock + 1, drives⟩ :: w.history
    clock := w.clock + 1 }

/-- The drives of a container. -/
def World.drivesOf (w : World) (name : String) : List VirtualDrive :=
  ((w.objects.find? (·.name = name)).map (·.drives)).getD []

/-- A proxy gets a drive. -/
def World.hold (w : World) (h : Held) : World := { w with held := h :: w.held.filter (· ≠ h) }

/-- A proxy makes a drive for a label. -/
def World.make (w : World) (proxyUID label : String) (drive : ProxyDrive) : World :=
  if (label, drive.virtualUUID) ∈ w.made then w.hold ⟨proxyUID, drive⟩
  else { w.hold ⟨proxyUID, drive⟩ with
    used := (drive.virtualUUID, drive.physicalUUID) :: w.used
    made := (label, drive.virtualUUID) :: w.made }

/-- The UUIDs it may be given. -/
def World.mayMake (w : World) (label vid : String) : Bool :=
  vid ∈ w.active label ∨ (w.active label = [] ∧ ((label, vid) ∈ w.made ∨ w.freshVid vid))

/-- Notes a scan. -/
def World.noteScan (w : World) (stale : List StaleInfo) : World := { w with scans := { stale } :: w.scans }

/-- Stores status and result. -/
def World.write (w : World) (status : OwnerStatus) (r : Result) : World :=
  { w with
    status := status
    result := some r
    scans := match w.scans with
      | [] => []
      | s :: scans => { s with recorded := true } :: scans }

/-- Removes a drive and logs it. -/
def World.remove (w : World) (proxyUID vid : String) : World :=
  { w with
    held := w.held.filter fun h => ¬(h.proxyUID = proxyUID ∧ h.drive.virtualUUID = vid)
    removals := ⟨vid, w.owned vid, w.scans⟩ :: w.removals }

/-- The version is the latest. -/
def World.current (w : World) (name : String) (version : Nat) : Bool :=
  w.objects.any fun o => o.name = name ∧ o.version = version

/-- What a call does; the owner is read at its latest version. -/
def perform (w : World) : (op : Op) → op.Reply → Bool → Option World
  | .read _, _, _ => some w
  | .loadOwner, .ok owner, _ => if owner.status = w.status ∧ owner.result = w.result then some w else none
  | .loadOwner, .error _, _ => some w
  | .markRunning, r, applied => some (if took r applied then { w with status := .running } else w)
  | .listAllocations, .ok allocations, _ => if allocations.isPerm (w.objects.map (·.drives)) then some w else none
  | .listAllocations, .error _, _ => some w
  | .listVirtualDrives proxyUID, .ok vids, _ => if vids.isPerm (w.drivesOn proxyUID) then some w else none
  | .listVirtualDrives _, .error _, _ => some w
  | .noteScan stale, _, _ => some (w.noteScan stale)
  | .removeVirtualDrive proxyUID vid, r, applied => some (if took r applied then w.remove proxyUID vid else w)
  | .progress res, r, applied => some (if took r applied then w.write w.status.progressed res else w)
  | .succeed res, r, applied => some (if took r applied then w.write .done res else w)
  | .loadContainer name, .ok view, _ => if ⟨name, view.version, view.drives⟩ ∈ w.history then some w else none
  | .loadContainer _, .error _, _ => some w
  | .addByLabel proxyUID label physicalUUID clusterGUID sizeGiB, .ok vid, _ =>
    if w.mayMake label vid then some (w.make proxyUID label ⟨vid, physicalUUID, clusterGUID, sizeGiB⟩) else none
  | .addByLabel _ _ _ _ _, .error _, _ => some w
  | .addByVid proxyUID vid physicalUUID clusterGUID sizeGiB, r, applied =>
    some (if took r applied then w.hold ⟨proxyUID, vid, physicalUUID, clusterGUID, sizeGiB⟩ else w)
  | .updateStatus name version drives, r, applied =>
    if took r applied then if w.current name version then some (w.put name drives) else none
    else some w

/-! ### The environment -/

/-- The allocator adds an entry with a fresh label, entries are released, a container is deleted, an add by label
    that was reported as failed takes effect, a proxy loses a drive, or the owner's result is overwritten. -/
inductive EnvEvent
  | allocate (name label physicalUUID : String) (capacityGiB : Int) (labelAdd : Bool)
  | release (name : String) (keep : List VirtualDrive)
  | delete (name : String)
  | lateAdd (proxyUID label : String) (drive : ProxyDrive)
  | proxyLoses (h : Held)
  | resultLost
  deriving DecidableEq

/-- A drive as allocated. -/
def newDrive (label physicalUUID : String) (capacityGiB : Int) (labelAdd : Bool) : VirtualDrive :=
  ⟨if labelAdd then "" else label, label, physicalUUID, capacityGiB⟩

/-- Allocates a drive under a fresh label. -/
def World.allocate (w : World) (name label physicalUUID : String) (capacityGiB : Int) (labelAdd : Bool) : World :=
  { w.put name (w.drivesOf name ++ [newDrive label physicalUUID capacityGiB labelAdd]) with
    allocated := (label, physicalUUID) :: w.allocated
    used := if labelAdd then w.used else (label, physicalUUID) :: w.used }

/-- What others do. -/
def env (w : World) : EnvEvent → Option World
  | .allocate name label physicalUUID capacityGiB labelAdd =>
    if w.freshLabel label then some (w.allocate name label physicalUUID capacityGiB labelAdd) else none
  | .release name keep => if keep.Sublist (w.drivesOf name) then some (w.put name keep) else none
  | .delete name => some { w with objects := w.objects.filter (·.name ≠ name) }
  | .lateAdd proxyUID label drive =>
    if (label, drive.physicalUUID) ∈ w.allocated ∧ w.mayMake label drive.virtualUUID
    then some (w.make proxyUID label drive) else none
  | .proxyLoses h => some { w with held := w.held.filter (· ≠ h) }
  | .resultLost => some { w with result := none }

/-! ### The system -/

/-- The parties. -/
inductive Actor
  | cleanup
  | container (name : String)
  deriving DecidableEq, Repr

/-- What each party runs. -/
def body (sorting : Sorting) (digest : Digest) : Actor → P Unit
  | .cleanup => do
    let _ ← cycle sorting digest
    return ()
  | .container name => do
    let _ ← addVirtualDrives name
    return ()

/-- The parties over the world. -/
def system (sorting : Sorting) (digest : Digest) : System World Actor Op EnvEvent Op.Reply where
  body := body sorting digest
  start _ w := w
  perform _ w := perform w
  env := env

/-- Nothing is there yet, so that every allocation has a label. -/
def World.initial : World := {}

/-- Every event is allowed. -/
def always (_ : World) (_ : Event Actor Op EnvEvent Op.Reply) : Bool := true

/-- Both of the last two scans have it. -/
def Removal.successive (r : Removal) : Bool :=
  match r.scans with
  | last :: previous :: _ => r.vid ∈ last.vids ∧ r.vid ∈ previous.vids
  | _ => false

/-- The last scan has it, and so has the last one stored before. -/
def Removal.confirmed (r : Removal) : Bool :=
  match r.scans with
  | last :: older => r.vid ∈ last.vids ∧ (older.find? (·.recorded)).any (r.vid ∈ ·.vids)
  | [] => false

end WekaOperator.StaleDrives
