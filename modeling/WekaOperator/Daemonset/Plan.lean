import WekaOperator.Allocator.Drives

/-! Sizing a cluster without counts or capacity (`daemonset.go`): one drive and one compute container on every
    matching node. -/

namespace WekaOperator.Daemonset
open Lib Planner Allocator

/-- The modes that are planned. -/
inductive Mode
  | drive | compute | s3
  deriving DecidableEq, Repr

/-- A live container. -/
structure Container where
  namespaced : String := ""
  name : String
  node : String
  creationTimestamp : Nat := 0
  numDrives : Nat := 0
  numCores : Int := 0
  drives : Option (List String) := none
  usesDriveSharing : Bool := false
  leaving : Bool := false
  deriving DecidableEq, Repr

/-- A node, as far as planning reads it. -/
structure DsNode where
  driveRole : Bool := false
  computeRole : Bool := false
  s3Role : Bool := false
  ineligible : String := ""
  drivesGiB : List Int := []
  badAnnotation : String := ""
  entries : List DriveEntry := []
  availGiB : Option (List Int) := none
  deriving DecidableEq, Repr

/-- The inputs of the plan. -/
structure DaemonsetInput where
  nodes : NameMap DsNode
  live : Mode → NameMap Container
  deleting : Mode → List String := fun _ => []
  numDrivesPin : Nat := 0
  driveCoresPin : Nat := 0
  computeCoresPin : Nat := 0
  cons : CapacityConstraints
  s3 : Bool := false

/-- A container to create, or to raise. -/
structure Target where
  node : String
  mode : Mode
  paired : Bool := false
  numDrives : Nat := 0
  drivesFollowFree : Bool := false
  cores : Int := 0
  tlcGiB : Int := 0
  computeHugepagesMiB : Int := 0
  deriving DecidableEq, Repr

/-- What the plan reports. -/
inductive Report
  | unsigned (text : String) | unused (text : String) | noFree (text : String) | capped (text : String)
  | ineligible (node reason : String)
  deriving DecidableEq, Repr

/-- Cores were capped. -/
def Report.isCapped : Report → Bool
  | .capped _ => true
  | _ => false

/-- The plan. -/
structure DaemonsetPlan where
  targets : List Target
  reports : List Report
  driveCores : Int
  computeCores : Int
  statusDesiredS3 : Nat := 0

/-- One core a drive, within the limit. -/
def fullDriveCores (numDrives : Nat) (cons : CapacityConstraints) : Int :=
  if cons.maxCoresPerContainer > 0 then min numDrives cons.maxCoresPerContainer else numDrives

/-- The capacities of a container's drives, and whether all are known. -/
def heldCapacities (c : Container) (entries : List DriveEntry) : List Int × Bool :=
  let found := (c.drives.getD []).map fun serial => entries.find? (·.serial = serial)
  (found.filterMap fun d => d.map (·.capacityGiB), found.any (·.isNone))

/-- Takes capacities out. -/
def withoutCapacities (pool remove : List Int) : List Int := remove.foldl List.erase pool

namespace DaemonsetInput
variable (i : DaemonsetInput)

/-- A node by name. -/
def node (name : String) : DsNode := (i.nodes.lookup name).getD {}

/-- The live container on a node. -/
def liveOn (mode : Mode) (name : String) : Option Container := (i.live mode).lookup name

/-- All nodes, sorted. -/
def names : List String :=
  ((i.nodes.keys ++ (i.live .drive).keys ++ (i.live .compute).keys).dedup).insertionSort (· ≤ ·)

/-! ### Drives -/

/-- The drives of a node's container, and whether it follows the free ones. -/
def numDrives (name : String) (live : Option Container) : Nat × Bool :=
  let pool := (i.node name).availGiB.getD (i.node name).drivesGiB
  match live with
  | none => (if i.numDrivesPin ≠ 0 then i.numDrivesPin else pool.length, false)
  | some c =>
    if (i.node name).availGiB.isSome ∧ i.numDrivesPin = 0 ∧ !(heldCapacities c (i.node name).entries).2 then
      (max pool.length 1, true)
    else (max c.numDrives i.numDrivesPin, false)

/-- The reports about a node's drives. -/
def driveReports (name : String) (drives : Nat) (followFree : Bool) : List Report :=
  let n := i.node name
  let signed := n.drivesGiB.length
  let pool := n.availGiB.getD n.drivesGiB
  let held := signed - pool.length
  let unused := signed - drives
  let pin := i.numDrivesPin
  (if followFree ∧ pool = [] then
      [.noFree s!"{name} ({signed} signed, {held} held by other containers; container waits for a free drive)"] else []) ++
    if i.numDrivesPin > 0 ∧ drives < signed then
      [.unused s!"{unused} of {signed} signed drives unused on {name} (numDrives pin={pin})"] else []

/-- Why a node gets no drive container. -/
def driveRefusal (name : String) : Option (List Report) :=
  let n := i.node name
  let badAnnotation := n.badAnnotation
  let signed := n.drivesGiB.length
  let pool := n.availGiB.getD n.drivesGiB
  let held := signed - pool.length
  if name ∈ i.deleting .drive ∨ !n.driveRole then some []
  else if n.drivesGiB = [] then
    some [.unsigned (if badAnnotation = "" then name else s!"{name} (unparsable annotation: {badAnnotation})")]
  else if n.ineligible ≠ "" then some [.ineligible name n.ineligible]
  else if (i.numDrives name none).1 = 0 then some [.noFree s!"{name} ({signed} signed, {held} held by other containers)"]
  else none

/-- The target for so many drives. -/
def driveSizedBy (name : String) (drives : Nat) (held : List Int) (exCores : Int) : Target :=
  let cores := if i.driveCoresPin ≠ 0 then (i.driveCoresPin : Int) else fullDriveCores drives i.cons
  -- What it holds, and the largest free drives for the rest.
  let free := withoutCapacities ((i.node name).availGiB.getD (i.node name).drivesGiB) held
  { node := name, mode := .drive, numDrives := drives, cores := max exCores cores
    tlcGiB := held.sum + (free.take (drives - held.length)).sum }

/-- The target of a node. -/
def driveSizing (name : String) (live : Option Container) : Target :=
  let (drives, drivesFollowFree) := i.numDrives name live
  let held := (live.map fun c => (heldCapacities c (i.node name).entries).1).getD []
  { i.driveSizedBy name drives held ((live.map (·.numCores)).getD 0) with drivesFollowFree }

/-- The same, unless refused. -/
def driveTarget (name : String) : Option Target :=
  if (i.liveOn .drive name).isNone ∧ (i.driveRefusal name).isSome then none
  else some (i.driveSizing name (i.liveOn .drive name))

/-- All reports about a node's drives. -/
def driveReportsOn (name : String) : List Report :=
  let (drives, followFree) := i.numDrives name (i.liveOn .drive name)
  if (i.liveOn .drive name).isSome then i.driveReports name drives followFree
  else (i.driveRefusal name).getD (i.driveReports name drives followFree)

/-- The drive cores of all targets. -/
def driveCores : Int := ((i.names.filterMap i.driveTarget).map (·.cores)).sum

/-- Their capacity. -/
def driveTlc : Int := ((i.names.filterMap i.driveTarget).map (·.tlcGiB)).sum

/-! ### Compute -/

/-- At most the limit. -/
def capAt (x : Int) : Int :=
  if i.cons.maxCoresPerContainer > 0 ∧ x > i.cons.maxCoresPerContainer then i.cons.maxCoresPerContainer else x

/-- The node gets no compute container. -/
def computeWithheld (name : String) : Bool :=
  let n := i.node name
  (i.liveOn .compute name).isNone && (decide (name ∈ i.deleting .compute) || !n.computeRole || n.ineligible ≠ "" ||
    (n.driveRole && ((i.driveTarget name).isNone || n.drivesGiB = [])))

/-- The others. -/
def computeNodes : List String := i.names.filter (!i.computeWithheld ·)

/-- Compute cores next to a drive target. -/
def pairedWanted (d : Target) : Int := max (requiredComputeCores d.cores 0 true i.cons) 1

/-- That target. -/
def pairedTarget (name : String) (live : Option Container) (d : Target) : Target :=
  let exCores := (live.map (·.numCores)).getD 0
  let cores := max exCores (if i.computeCoresPin ≠ 0 then (i.computeCoresPin : Int) else i.capAt (i.pairedWanted d))
  { node := name, mode := .compute, paired := true, cores
    computeHugepagesMiB := computeContainerHugepagesMiB d.tlcGiB 0 1 cores i.cons }

/-- The pairs. -/
def paired : List (Target × Target) :=
  i.computeNodes.filterMap fun name => (i.driveTarget name).map fun d => (d, i.pairedTarget name (i.liveOn .compute name) d)

/-- Their compute cores. -/
def pairedCores : Int := (i.paired.map (·.2.cores)).sum

/-- Compute nodes without drives. -/
def only : List String := i.computeNodes.filter fun name => (i.driveTarget name).isNone

/-- Cores of each of them. -/
def onlyWanted : Int :=
  max ((requiredComputeCores i.driveCores 0 true i.cons - i.pairedCores + i.only.length - 1).tdiv i.only.length) 1

/-- That target. -/
def onlyTarget (name : String) (live : Option Container) : Target :=
  let cores := if i.computeCoresPin ≠ 0 then (i.computeCoresPin : Int) else i.capAt i.onlyWanted
  let cores := live.elim cores (max ·.numCores cores)
  let remTlc := max (i.driveTlc - (i.paired.map (·.1.tlcGiB)).sum) 0
  { node := name, mode := .compute, cores
    computeHugepagesMiB := computeContainerHugepagesMiB remTlc 0 i.only.length cores i.cons }

/-- The compute target of a node. -/
def computeTarget (name : String) : Option Target :=
  let live := i.liveOn .compute name
  if i.computeWithheld name then none else some ((i.driveTarget name).elim (i.onlyTarget name live) (i.pairedTarget name live))

/-- The reports about it. -/
def computeReportsOn (name : String) : List Report :=
  let n := i.node name
  if i.computeWithheld name then
    if name ∉ i.deleting .compute ∧ n.computeRole ∧ n.ineligible ≠ "" then [.ineligible name n.ineligible] else []
  else (i.driveTarget name).elim [] fun d =>
    let want := i.pairedWanted d
    if i.computeCoresPin = 0 ∧ (i.pairedTarget name (i.liveOn .compute name) d).cores < want then [.capped s!"{name} ({want} cores wanted)"] else []

/-- Reports about nodes without drives. -/
def onlyReports : List Report :=
  let capped := (i.only.filter fun name =>
    i.computeCoresPin = 0 ∧ (i.onlyTarget name (i.liveOn .compute name)).cores < i.onlyWanted).length
  let want := i.onlyWanted
  if capped > 0 then [.capped s!"{capped} compute-only node(s) ({want} cores wanted)"] else []

/-! ### S3 -/

/-- The nodes for S3. -/
def s3Nodes : List String :=
  (((i.nodes.keys.filter fun name => (i.node name).s3Role) ++ (i.live .s3).keys).dedup).insertionSort (· ≤ ·)

/-- The S3 target of a node. -/
def s3Target (name : String) : Option Target :=
  if (i.liveOn .s3 name).isSome ∨ (i.node name).ineligible ≠ "" ∨ name ∈ i.deleting .s3 then none
  else some { node := name, mode := .s3 }

/-- The reports about it. -/
def s3ReportsOn (name : String) : List Report :=
  if (i.liveOn .s3 name).isNone ∧ (i.node name).ineligible ≠ "" then [.ineligible name (i.node name).ineligible] else []

/-- The plan. -/
def planDaemonset : DaemonsetPlan where
  targets :=
    i.names.filterMap (fun name => (i.driveTarget name).map ({ · with paired := (i.computeTarget name).isSome })) ++
      i.names.filterMap i.computeTarget ++ if i.s3 then i.s3Nodes.filterMap i.s3Target else []
  reports := i.names.flatMap i.driveReportsOn ++ i.names.flatMap i.computeReportsOn ++ i.onlyReports ++
    if i.s3 then i.s3Nodes.flatMap i.s3ReportsOn else []
  driveCores := i.driveCores
  computeCores := i.pairedCores + (i.only.map fun name => (i.onlyTarget name (i.liveOn .compute name)).cores).sum
  statusDesiredS3 := if i.s3 then
      (i.s3Nodes.filter fun name => (i.liveOn .s3 name).isSome ∨ (i.node name).ineligible = "").length
    else 0

end DaemonsetInput

end WekaOperator.Daemonset
