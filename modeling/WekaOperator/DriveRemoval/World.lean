import WekaOperator.DriveRemoval.Steps
import WekaOperator.Lib.Script

/-! One drive container with its drives in the cluster and the ssdproxy of its node. -/

namespace WekaOperator.DriveRemoval
open Lib Operations Containers

/-- A drive in the weka cluster. -/
structure ClusterDrive where
  uuid : String
  serialNumber : String
  deriving DecidableEq, Repr

/-- A virtual drive in the proxy. -/
structure ProxyDrive where
  virtualUUID : String
  label : String
  physicalUUID : String
  deriving DecidableEq, Repr

/-- It is this allocation's. -/
def ProxyDrive.isOf (e : ProxyDrive) (vd : VirtualDrive) : Bool :=
  if vidPending vd then e.label = vd.label ∧ e.physicalUUID = vd.physicalUUID else e.virtualUUID = vd.virtualUUID

/-- The stored status, and the drives in the cluster and in the proxy. -/
structure World where
  status : Status
  cluster : List ClusterDrive
  proxy : List ProxyDrive
  departed : List String := []
  dropping : List Deallocation := []
  deriving DecidableEq, Repr

namespace World

/-- A world at the start. -/
def initial (status : Status) (cluster : List ClusterDrive) (proxy : List ProxyDrive) : World := { status, cluster, proxy }

/-- The proxy has the drive. -/
def holds (w : World) (virtualUUID : String) : Bool := w.proxy.any (·.virtualUUID = virtualUUID)

/-- The drives as listed. -/
def listed (w : World) : List ListedDrive := w.proxy.map fun e => ⟨e.virtualUUID, e.physicalUUID⟩

/-- The proxy's drives of an allocation. -/
def vidsOf (w : World) (vd : VirtualDrive) : List String := (w.proxy.filter (·.isOf vd)).map (·.virtualUUID)

/-- Stores the status and logs what leaves it. -/
def write (w : World) (status : Status) : World :=
  { w with
    status := status
    departed := w.departed ++ (w.status.virtualDrives.filter (· ∉ status.virtualDrives)).flatMap w.vidsOf }

/-- Removes a drive from the cluster. -/
def removeDrive (w : World) (uuid : String) : World := { w with cluster := w.cluster.filter (·.uuid ≠ uuid) }

/-- Erases drives. -/
def erase (w : World) (virtualUUIDs : List String) : World :=
  { w with proxy := w.proxy.filter (·.virtualUUID ∉ virtualUUIDs) }

/-- The proxy's drives of a label. -/
def labelled (w : World) (label physicalUUID : String) : List String :=
  (w.proxy.filter fun e => e.label = label ∧ e.physicalUUID = physicalUUID).map (·.virtualUUID)

/-- What a call does. -/
def perform (w : World) : (op : Op) → op.Reply → Bool → Option World
  | .load, .ok (status, _), _ => if status = w.status then some w else none
  | .updateStatus status, r, applied => some (if took r applied then w.write status else w)
  | .listContainerDrives, .ok drives, _ =>
    if (drives.map fun d => ClusterDrive.mk d.uuid d.serialNumber).isPerm w.cluster then some w else none
  | .getClusterDrive uuid, .ok _, _ => if uuid ∈ w.cluster.map (·.uuid) then some w else none
  | .getClusterDrive uuid, .error .notFound, _ => if uuid ∈ w.cluster.map (·.uuid) then none else some w
  | .removeDrive uuid, r, applied => some (if took r applied then w.removeDrive uuid else w)
  | .listVirtualDrives, .ok vds, _ => if vds = w.listed then some w else none
  | .listPhysicalDrives, .ok physical, _ => if w.proxy.all (·.physicalUUID ∈ physical) then some w else none
  | .removeVirtualDrive vid, r, applied => some (if took r applied then w.erase [vid] else w)
  | .removeVirtualDriveByLabel label physical, r, applied =>
    some (if took r applied then w.erase (w.labelled label physical) else w)
  | .mapOrder drives, ordered, _ => if ordered.isPerm drives then some w else none
  | .deallocating which, _, _ => some { w with dropping := which :: w.dropping }
  | _, _, _ => some w

end World

/-- The reconciles of the container. -/
def system (c : Container) : System World Unit Op Empty Op.Reply where
  body _ := reconcile c
  start _ w := { w with dropping := [] }
  perform _ := World.perform
  env _ := nofun

/-! ### What the theorem is about -/

section
variable (c : Container) (w : World)

/-- The blocked serials, if readable. -/
def Container.blockedSerials : List String := c.blocked.serials.toOption.getD []

/-- The blocked physical UUIDs, if readable. -/
def Container.blockedPhysicalUuids : List String := c.blocked.physicalUuids.toOption.getD []

/-- The blocked virtual UUIDs, if readable. -/
def Container.blockedVirtualUuids : List String := c.blocked.virtualUuids.toOption.getD []

/-- A blocked drive of the cluster, which a later run removes. -/
def World.blocks (virtualUUID : String) : Bool :=
  w.cluster.any fun d => d.uuid = virtualUUID ∧ (d.serialNumber ≠ "" ∧ d.serialNumber ∈ c.blockedSerials ∨
    (physicalOf w.listed virtualUUID).any (· ∈ c.blockedPhysicalUuids))

/-- A drive left the status and no run erases it. -/
def World.stranded : Bool := w.departed.any fun vid => w.holds vid && !w.blocks c vid

/-- Drives that a deallocation drops without erasing them. -/
def Deallocation.unerased (added : List Drive) : Deallocation → VirtualDrive → Bool
  | .bySerials, vd => vd.serial ∈ c.blockedSerials
  | .byPhysicalUuids, vd => vd.physicalUUID ∈ c.blockedPhysicalUuids ∧ !vidPending vd ∧
    (vd.virtualUUID = "" ∨ vd.virtualUUID ∈ added.map (·.uuid))
  | .byVirtualUuids, vd => vd.virtualUUID = "" ∧ "" ∈ c.blockedVirtualUuids

/-- No such drive is dropped while the proxy has it. -/
def World.dropsBlocked : Bool :=
  w.dropping.all fun which => w.status.virtualDrives.all fun vd =>
    !which.unerased c w.status.addedDrives vd || (w.vidsOf vd).all (w.blocks c)

/-- The status is stored only then. -/
def accounted : Event Unit Op Empty Op.Reply → Bool
  | .reply _ (.updateStatus _) r applied => !took r applied || w.dropsBlocked c
  | .reply _ (.removeDrive uuid) (.error _) applied => !(applied && uuid ∈ w.departed && w.holds uuid)
  | .reply _ (.getHandle _) (.error _) _ => !w.stranded c
  | .reply _ .listVirtualDrives (.error _) _ => !w.stranded c
  | .reply _ (.removeVirtualDrive _) (.error _) applied => applied || !w.stranded c
  | .crash _ => !w.stranded c
  | _ => true

end

/-- Every call succeeds. -/
def succeed (w : World) : (op : Op) → op.Reply
  | .load => .ok (w.status, ⟨"READY", none⟩)
  | .shouldRun _ => true
  | .listContainerDrives => .ok (w.cluster.map fun d => ⟨d.uuid, d.serialNumber, 1, "ACTIVE"⟩)
  | .getClusterDrive uuid => if uuid ∈ w.cluster.map (·.uuid) then .ok "ACTIVE" else .error .notFound
  | .listVirtualDrives => .ok w.listed
  | .listPhysicalDrives => .ok (w.proxy.map (·.physicalUUID))
  | .mapOrder drives => drives
  | .deallocating _ => ()
  | .getNode | .updateStatus _ | .deactivateDrive _ | .removeDrive _ | .getHandle _ | .removeVirtualDrive _
  | .removeVirtualDriveByLabel _ _ => .ok ()

/-- After some runs the drive is erased. -/
def World.Recovers (c : Container) (w : World) (virtualUUID : String) : Prop :=
  ∃ n w', (system c).completedTimes () succeed n w = some w' ∧ w'.holds virtualUUID = false

end WekaOperator.DriveRemoval
