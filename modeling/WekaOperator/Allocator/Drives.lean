import WekaOperator.Allocator.Strategies

/-! The drives of a container (`container_allocator.go`): a first allocation for the whole container, and a
    reallocation that adds what is missing. -/

namespace WekaOperator.Allocator
open Lib Planner Containers

/-- The configuration of drive sharing. -/
structure DriveSharingConfig where
  maxVirtualDrivesPerCore : Int := 8
  enforceMinDrivesPerTypePerCore : Bool := true

/-- A drive in the node's annotation. -/
structure DriveEntry where
  serial : String
  capacityGiB : Int
  deriving DecidableEq, Repr

/-- The drives of a node. -/
structure AllocatorNodeInfo where
  nodeName : String
  availableDrives : List DriveEntry := []
  sharedDrives : List SharedDriveInfo := []

/-! ### Shared drives by capacity -/

/-- How many virtual drives of a type there are. -/
def countDrivesByType (vds : List VirtualDrive) (p : PoolKind) : Nat := (vds.filter (·.type = some p)).length

/-- A request for shared drives by capacity. -/
structure SharedRequest where
  container : WekaContainer
  capacityGiB : Int

namespace SharedRequest
variable (q : SharedRequest)

def held : Allocations := q.container.allocations.getD {}

/-- The container has virtual drives and asks for more capacity. -/
def isReallocation : Bool := decide (q.held.virtualDrives.length > 0) && decide (q.capacityGiB > 0)

/-- TLC and QLC capacity that is needed. -/
def capacityNeeded : Int × Int :=
  if q.isReallocation then
    let full := getTlcQlcCapacity q.container.spec.containerCapacity q.container.spec.driveTypesRatio
    (max 0 (full.1 - q.held.allocatedByType.1), max 0 (full.2 - q.held.allocatedByType.2))
  else getTlcQlcCapacity q.capacityGiB q.container.spec.driveTypesRatio

/-- The same by type. -/
def needed : PoolKind → Int
  | .tlc => q.capacityNeeded.1
  | .qlc => q.capacityNeeded.2

def numCores : Int := q.container.spec.numCores

/-- Less than one chunk a core is asked of a type. -/
def belowTypeMinimum (p : PoolKind) : Bool := q.needed p > 0 && q.needed p < q.numCores * minChunkSizeGiB

/-- The text of that error. -/
def typeMinimumText (p : PoolKind) : String :=
  let cores := q.numCores
  let minCapacity := cores * minChunkSizeGiB
  let chunk := minChunkSizeGiB
  let configured := q.needed p
  s!"insufficient {p} capacity: with {cores} drive cores and enforceMinDrivesPerTypePerCore=true, need at least {minCapacity} GiB {p} (minimum {cores} drives × {chunk} GiB each), but only {configured} GiB configured. Increase containerCapacity or adjust driveTypesRatio, or set enforceMinDrivesPerTypePerCore=false"

/-- The text of the error for both types together. -/
def totalMinimumText : String :=
  let cores := q.numCores
  let minCapacity := cores * minChunkSizeGiB
  let chunk := minChunkSizeGiB
  let available := q.needed .tlc + q.needed .qlc
  s!"insufficient total capacity: with {cores} drive cores, need at least {minCapacity} GiB total (minimum {cores} drives × {chunk} GiB each), but only {available} GiB available. Increase containerCapacity"

/-- Why the request is refused before drives are looked at. -/
def refusal (config : DriveSharingConfig) : Option String :=
  if q.isReallocation then none
  else if config.enforceMinDrivesPerTypePerCore then
    if q.belowTypeMinimum .tlc then some (q.typeMinimumText .tlc)
    else if q.belowTypeMinimum .qlc then some (q.typeMinimumText .qlc) else none
  else if q.needed .tlc + q.needed .qlc < q.numCores * minChunkSizeGiB then some q.totalMinimumText else none

/-- How many virtual drives may be added. -/
def effectiveMaxDrives (config : DriveSharingConfig) : Int :=
  let maxDrives := q.numCores * config.maxVirtualDrivesPerCore
  if q.isReallocation then
    max 0 (maxDrives - (countDrivesByType q.held.virtualDrives .tlc + countDrivesByType q.held.virtualDrives .qlc : Nat))
  else maxDrives

/-- The least numbers of TLC drives to try. -/
def tlcMins (config : DriveSharingConfig) : List Int :=
  if q.needed .tlc = 0 then [0]
  else if q.isReallocation then intRange 1 (max 1 (q.effectiveMaxDrives config))
  else if q.needed .qlc = 0 ∨ config.enforceMinDrivesPerTypePerCore then [q.numCores]
  else intRange 1 q.numCores

/-- The least number of QLC drives, after those of TLC. -/
def qlcMin (config : DriveSharingConfig) (tlcDrives : Nat) : Int :=
  if q.isReallocation then 1
  else if config.enforceMinDrivesPerTypePerCore then q.numCores
  else max 1 (q.numCores - tlcDrives)

end SharedRequest

/-- The drives of a type. -/
def typedDrives (drives : List SharedDriveInfo) (p : PoolKind) : List SharedDriveInfo := drives.filter (·.type = some p)

/-- What the attempts have come to. -/
structure Attempt where
  drives : List VirtualDrive := []
  lastTlcError : Option AllocationError := none
  lastQlcError : Option AllocationError := none

section ByCapacity
variable (config : DriveSharingConfig) (order : MapOrder PhysicalDriveCapacity) (q : SharedRequest)
  (containers : List WekaContainer) (drives : List SharedDriveInfo)

/-- Allocates one type, if any of it is needed. -/
def allocateType (p : PoolKind) (minDrives maxDrives : Int) : Except AllocationError (List VirtualDrive) :=
  if q.needed p > 0 then
    allocateSingleDriveType order p (q.needed p) minDrives maxDrives (buildDriveCapacityMap (typedDrives drives p) containers)
  else .ok []

/-- Tries one least number of TLC drives after the other. -/
def attempts : List Int → Attempt → Attempt
  | [], last => last
  | tlcMin :: rest, last =>
    match allocateType order q containers drives .tlc tlcMin (q.effectiveMaxDrives config) with
    | .error e => attempts rest { last with drives := [], lastTlcError := some e }
    | .ok tlc =>
      match allocateType order q containers drives .qlc (q.qlcMin config tlc.length)
          (q.effectiveMaxDrives config - tlc.length) with
      | .error e => attempts rest { last with drives := tlc, lastQlcError := some e }
      | .ok qlc => { last with drives := tlc ++ qlc }

/-- The error for a type without drives. -/
def noDrivesOfType (p : PoolKind) : Option String :=
  let capacity := q.needed p
  if capacity > 0 ∧ typedDrives drives p = [] then
    some s!"no {p} drives available but {p} capacity {capacity} GiB is required"
  else none

/-- The number of drives in the error. -/
def minDrivesRequired : Int :=
  if q.isReallocation then (if q.needed .tlc > 0 then 1 else 0) + (if q.needed .qlc > 0 then 1 else 0) else q.numCores

/-- Virtual drives for a capacity of both types. -/
def allocateSharedDrivesByCapacityWithTypes : Except AllocationError (List VirtualDrive) :=
  match q.refusal config with
  | some text => .error (.other text)
  | none =>
    match (noDrivesOfType q drives .tlc).or (noDrivesOfType q drives .qlc) with
    | some text => .error (.other text)
    | none =>
      let last := attempts config order q containers drives (q.tlcMins config) {}
      let expectedTotalDrives : Int := (if q.needed .tlc > 0 then 1 else 0) + (if q.needed .qlc > 0 then 1 else 0)
      let required := minDrivesRequired q
      if last.drives.length < expectedTotalDrives ∨ last.drives.length < required then
        .error ((last.lastQlcError.or last.lastTlcError).getD (.other
          s!"failed to allocate virtual drives: could not satisfy combined constraint of {required} minimum drives"))
      else .ok last.drives

end ByCapacity

section ByNumber
variable (order : MapOrder PhysicalDriveCapacity) (driveCapacityGiB : Int)

/-- One virtual drive after the other, each on the drive with most left. -/
def allocateRounds : Nat → Nat → List PhysicalDriveCapacity → Except AllocationError (List VirtualDrive)
  | 0, _, _ => .ok []
  | _ + 1, i, [] => .error (.other s!"no drive for virtual drive {i}")
  | rounds + 1, i, selected :: others =>
    let largest := selected.availableCapacity
    if largest < driveCapacityGiB then
      .error (.other s!"cannot place virtual drive {i}: largest available space is {largest} GiB but need {driveCapacityGiB} GiB per drive")
    else
      let selected' := { selected with
        claimedCapacity := selected.claimedCapacity + driveCapacityGiB, availableCapacity := largest - driveCapacityGiB }
      (allocateRounds rounds (i + 1) ((order.arrange (selected' :: others)).insertionSort
        fun a b => b.availableCapacity ≤ a.availableCapacity)).map
        (plannedDrive .tlc (selected.drive, driveCapacityGiB) :: ·)

/-- Virtual drives of one size, by number. -/
def allocateSharedDrivesByDrivesNum (numDrives : Int) (containers : List WekaContainer) (drives : List SharedDriveInfo) :
    Except AllocationError (List VirtualDrive) :=
  if driveCapacityGiB = 0 then .error (.other "container has UseDriveSharing=true but DriveCapacity is not set") else
  let totalCapacityNeeded := numDrives * driveCapacityGiB
  let capacities := buildDriveCapacityMap (typedDrives drives .tlc) containers
  let availableDrives := filterAndSortUsableDrives order capacities driveCapacityGiB
  let totalUsable := (availableDrives.map (·.availableCapacity)).sum
  if availableDrives = [] ∨ totalUsable < totalCapacityNeeded then
    .error (.insufficientDriveCapacity {
      neededGiB := totalCapacityNeeded, usableGiB := totalUsable
      availableGiB := (capacities.entries.map (·.2.availableCapacity)).sum, type := .tlc })
  else allocateRounds order driveCapacityGiB numDrives.toNat 1 availableDrives

end ByNumber

/-! ### Whole requests -/

/-- What allocation reads besides the request; `uuid` are the fresh ones. -/
structure AllocationEnv where
  config : DriveSharingConfig := {}
  order : MapOrder PhysicalDriveCapacity := .asListed
  uuid : Nat → String
  ssdProxyVidLabelAdd : Bool := false

section Whole
variable (env : AllocationEnv) (node : AllocatorNodeInfo)

/-- The virtual drives with their labels and UUIDs. -/
def labelled (vds : List VirtualDrive) : List VirtualDrive :=
  vds.zipIdx.map fun (vd, i) =>
    { vd with label := env.uuid i, virtualUUID := if env.ssdProxyVidLabelAdd then vd.virtualUUID else env.uuid i }

/-- Virtual drives, by capacity or by number. -/
def allocateSharedDrives (container : WekaContainer) (capacityGiB numDrives : Int) (containers : List WekaContainer) :
    Except AllocationError (List VirtualDrive) :=
  if node.sharedDrives = [] then
    let name := node.nodeName
    .error (.other s!"no shared drives found on node {name}")
  else if capacityGiB > 0 then
    (allocateSharedDrivesByCapacityWithTypes env.config env.order { container, capacityGiB } containers node.sharedDrives).map
      (labelled env)
  else if numDrives > 0 then
    (allocateSharedDrivesByDrivesNum env.order container.spec.driveCapacity numDrives containers node.sharedDrives).map
      (labelled env)
  else .error (.other "either NumDrives or CapacityGiB must be specified for shared drive allocation")

/-- The serials and UUIDs that containers of the node have. -/
def aggregateNodeDrivesAllocations (containers : List WekaContainer) : List String :=
  containers.flatMap fun c => (c.allocations.map fun a => a.drives ++ a.virtualDrives.map (·.physicalUUID)).getD []

/-- The drives not given away, the largest first. -/
def getAvailableDrivesFromStatus (allocated : List String) : List String :=
  ((node.availableDrives.insertionSort fun a b =>
    b.capacityGiB < a.capacityGiB ∨ (a.capacityGiB = b.capacityGiB ∧ a.serial ≤ b.serial)).map (·.serial)).filter
      (· ∉ allocated)

/-- The first allocation of a container. -/
def allocateResources (container : WekaContainer) (containers : List WekaContainer) : Except AllocationError Allocations :=
  if container.usesDriveSharing then
    (allocateSharedDrives env node container container.spec.containerCapacity container.spec.numDrives containers).map
      fun virtualDrives => { virtualDrives }
  else if container.spec.numDrives > 0 then
    let drives := getAvailableDrivesFromStatus node (aggregateNodeDrivesAllocations containers)
    if (drives.length : Int) < container.spec.numDrives then
      .error (.insufficientDrives container.spec.numDrives drives.length)
    else .ok { drives := drives.take container.spec.numDrives.toNat }
  else .ok {}

/-- What a container needs on top of what it has. -/
structure DriveReallocationRequest where
  failedDrives : List String := []
  numNewDrives : Int := 0
  capacityGiB : Int := 0

/-- That request, if it needs anything. -/
def formReallocationRequest (container : WekaContainer) : Option DriveReallocationRequest :=
  let held := container.allocations.getD {}
  if container.hasContainerCapacity then
    let missing := container.spec.containerCapacity - held.allocatedVirtualDrivesCapacity
    if missing ≤ 0 then none else some { capacityGiB := missing }
  else
    let current := if container.usesDriveSharing then held.virtualDrives.length else held.drives.length
    let toAllocate := container.spec.numDrives - current
    if toAllocate ≤ 0 then none else some { numNewDrives := toAllocate }

/-- The drives that stay, and new ones. -/
def reallocateRegularDrives (container : WekaContainer) (req : DriveReallocationRequest) (containers : List WekaContainer) :
    Except AllocationError (List String) :=
  let current := (container.allocations.getD {}).drives
  let kept := current.filter (· ∉ req.failedDrives)
  -- The container's own drives are freed, those that stay are added back.
  let allocated := (aggregateNodeDrivesAllocations containers).filter (· ∉ current) ++ kept
  let available := getAvailableDrivesFromStatus node allocated
  if (available.length : Int) < req.numNewDrives then .error (.insufficientDrives req.numNewDrives available.length)
  else .ok (kept ++ available.take req.numNewDrives.toNat)

/-- The virtual drives that stay, and new ones. -/
def reallocateVirtualDrives (container : WekaContainer) (req : DriveReallocationRequest) (containers : List WekaContainer) :
    Except AllocationError (List VirtualDrive) :=
  (allocateSharedDrives env node container req.capacityGiB req.numNewDrives containers).map fun new =>
    (container.allocations.getD {}).virtualDrives.filter
      (fun vd => vd.virtualUUID ∉ req.failedDrives ∧ vd.serial ∉ req.failedDrives) ++ new

/-- The allocations after a reallocation. -/
def reallocateDrives (container : WekaContainer) (req : DriveReallocationRequest) (containers : List WekaContainer) :
    Except AllocationError Allocations :=
  let held := container.allocations.getD {}
  if container.usesDriveSharing then
    (reallocateVirtualDrives env node container req containers).map fun virtualDrives => { held with virtualDrives }
  else (reallocateRegularDrives node container req containers).map fun drives => { held with drives }

end Whole
end WekaOperator.Allocator
