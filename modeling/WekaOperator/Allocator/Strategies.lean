import WekaOperator.Containers.Spec
import WekaOperator.Lib.Packing

/-! How the container allocator carves virtual drives of one type out of shared physical drives
    (`drive_allocation_strategies.go` and the single-type part of `container_allocator.go`). -/

namespace WekaOperator.Allocator
open Lib Planner Containers

/-- The least size of a virtual drive. -/
def minChunkSizeGiB : Int := 384

/-- A shared drive of a node. -/
structure SharedDriveInfo where
  physicalUUID : String
  serial : String
  capacityGiB : Int
  type : Option PoolKind
  deriving DecidableEq, Repr

/-! ### Claimed capacity -/

/-- A shared drive with what is claimed of it. -/
structure PhysicalDriveCapacity where
  drive : SharedDriveInfo
  totalCapacity : Int
  claimedCapacity : Int := 0
  availableCapacity : Int
  deriving DecidableEq, Repr

/-- By physical UUID. -/
abbrev DriveCapacities := NameMap PhysicalDriveCapacity

/-- A drive of which nothing is claimed. -/
def unclaimed (drive : SharedDriveInfo) : PhysicalDriveCapacity where
  drive := drive
  totalCapacity := drive.capacityGiB
  availableCapacity := drive.capacityGiB

/-- Counts a virtual drive as claimed. -/
def claim (capacities : DriveCapacities) (vd : VirtualDrive) : DriveCapacities :=
  match capacities.lookup vd.physicalUUID with
  | none => capacities
  | some dc =>
    let claimed := dc.claimedCapacity + vd.capacityGiB
    capacities.insert vd.physicalUUID
      { dc with claimedCapacity := claimed, availableCapacity := dc.totalCapacity - claimed }

/-- The virtual drives of containers. -/
def virtualDrivesOf (containers : List WekaContainer) : List VirtualDrive :=
  containers.flatMap fun c => (c.allocations.map (·.virtualDrives)).getD []

/-- The drives with what the containers claim of them. -/
def buildDriveCapacityMap (drives : List SharedDriveInfo) (containers : List WekaContainer) : DriveCapacities :=
  (virtualDrivesOf containers).foldl claim
    (drives.foldl (fun m drive => m.insert drive.physicalUUID (unclaimed drive)) ∅)

/-- What virtual drives claim of one drive. -/
def claimedOn (uuid : String) (vds : List VirtualDrive) : Int :=
  ((vds.filter fun vd => vd.physicalUUID = uuid).map (·.capacityGiB)).sum

/-- An entry of the map is about its drive. -/
structure Tracks (drives : List SharedDriveInfo) (vds : List VirtualDrive) (uuid : String) (dc : PhysicalDriveCapacity) : Prop where
  drive : dc.drive ∈ drives
  named : dc.drive.physicalUUID = uuid
  total : dc.totalCapacity = dc.drive.capacityGiB
  claimed : dc.claimedCapacity = claimedOn uuid vds
  available : dc.availableCapacity = dc.drive.capacityGiB - claimedOn uuid vds

theorem claimedOn_append (uuid : String) (vds vds' : List VirtualDrive) :
    claimedOn uuid (vds ++ vds') = claimedOn uuid vds + claimedOn uuid vds' := by
  simp [claimedOn]

variable {drives : List SharedDriveInfo} {dc : PhysicalDriveCapacity} {uuid : String}

theorem claim_tracks {capacities : DriveCapacities} {vds : List VirtualDrive} {vd : VirtualDrive}
    (h : ∀ uuid dc, capacities.lookup uuid = some dc → Tracks drives vds uuid dc)
    (hdc : (claim capacities vd).lookup uuid = some dc) : Tracks drives (vds ++ [vd]) uuid dc := by
  have hclaimed : claimedOn uuid [vd] = if uuid = vd.physicalUUID then vd.capacityGiB else 0 := by
    unfold claimedOn
    split <;> rename_i e <;> simp [e, eq_comm]
  have other : uuid ≠ vd.physicalUUID → capacities.lookup uuid = some dc → Tracks drives (vds ++ [vd]) uuid dc := by
    intro hne hdc
    have := h uuid dc hdc
    exact ⟨this.drive, this.named, this.total, by rw [claimedOn_append, hclaimed, if_neg hne, add_zero]; exact this.claimed,
      by rw [claimedOn_append, hclaimed, if_neg hne, add_zero]; exact this.available⟩
  unfold claim at hdc
  split at hdc
  · rename_i hnone
    refine other ?_ hdc
    rintro rfl
    rw [hdc] at hnone
    cases hnone
  · rename_i dc₀ hdc₀
    rw [lookup_insert_eq] at hdc
    split at hdc
    · rename_i e
      subst e
      cases hdc
      have := h _ _ hdc₀
      refine ⟨this.drive, this.named, this.total, ?_, ?_⟩
      · rw [claimedOn_append, hclaimed, if_pos rfl, ← this.claimed]
      · rw [claimedOn_append, hclaimed, if_pos rfl, ← this.claimed, ← this.total]
    · rename_i hne
      exact other hne hdc

theorem buildDriveCapacityMap_tracks {containers : List WekaContainer}
    (h : (buildDriveCapacityMap drives containers).lookup uuid = some dc) :
    Tracks drives (virtualDrivesOf containers) uuid dc := by
  have claims : ∀ (vds : List VirtualDrive) (seen : List VirtualDrive) (capacities : DriveCapacities),
      (∀ uuid dc, capacities.lookup uuid = some dc → Tracks drives seen uuid dc) →
      ∀ uuid dc, (vds.foldl claim capacities).lookup uuid = some dc → Tracks drives (seen ++ vds) uuid dc := by
    intro vds
    induction vds with
    | nil => exact fun seen _ h => (List.append_nil seen).symm ▸ h
    | cons vd vds ih =>
      intro seen capacities h
      rw [List.append_cons]
      exact ih _ _ fun _ _ => claim_tracks h
  refine claims (virtualDrivesOf containers) [] _ (fun uuid dc hdc => ?_) uuid dc h
  rcases lookup_foldl_insert_cases _ _ _ _ hdc with hdc | ⟨drive, hdrive, huuid, rfl⟩
  · cases hdc
  · exact ⟨hdrive, huuid, rfl, rfl, (sub_zero _).symm⟩

/-- The drives with room for a chunk, the roomiest first. -/
def filterAndSortUsableDrives (order : MapOrder PhysicalDriveCapacity) (capacities : DriveCapacities) (minCapacityGiB : Int) :
    List PhysicalDriveCapacity :=
  ((order.arrange (capacities.entries.map (·.2))).filter fun dc => minCapacityGiB ≤ dc.availableCapacity).insertionSort
    fun a b => b.availableCapacity ≤ a.availableCapacity

/-! ### Strategies -/

/-- The inputs of the strategies. -/
structure AllocationStrategyGenerator where
  totalCapacityNeeded : Int
  numCores : Int
  maxDrives : Int
  minChunkSizeGiB : Int
  driveCapacities : DriveCapacities

namespace AllocationStrategyGenerator
variable (g : AllocationStrategyGenerator)

/-- What the drives have left. -/
def availableCapacities : List Int := g.driveCapacities.entries.map (·.2.availableCapacity)

/-- The same where a chunk fits, the largest first. -/
def sortedAvailableCapacities : List Int :=
  (g.availableCapacities.filter (g.minChunkSizeGiB ≤ ·)).insertionSort (· ≥ ·)

/-- The drives have the capacity in sum. -/
def hasEnoughCapacity : Bool := g.totalCapacityNeeded ≤ g.availableCapacities.sum

/-- Equal sizes, the remainder over the first ones. -/
def distributeEvenly (numDrives : Int) : Option (List Int) :=
  if numDrives < g.numCores then none else
  let baseSize := g.totalCapacityNeeded.tdiv numDrives
  let remainder := g.totalCapacityNeeded.tmod numDrives
  if baseSize < g.minChunkSizeGiB then none
  else some (List.replicate remainder.toNat (baseSize + 1) ++ List.replicate (numDrives - remainder).toNat baseSize)

/-- Equal sizes for each number of drives. -/
def evenDistributionStrategies : List (List Int) :=
  if g.hasEnoughCapacity then
    (((intRange g.numCores g.maxDrives).map g.distributeEvenly).takeWhile (·.isSome)).reduceOption
  else []

/-- Takes what the drives have, one after the other. -/
def takePhysical : List Int → Int → List Int × Int
  | [], soFar => ([], soFar)
  | availCap :: rest, soFar =>
    if availCap < g.minChunkSizeGiB then takePhysical rest soFar else
    let allocate := min availCap (g.totalCapacityNeeded - soFar)
    let taken := if allocate ≥ g.minChunkSizeGiB then [allocate] else []
    if soFar + taken.sum ≥ g.totalCapacityNeeded then (taken, soFar + taken.sum)
    else
      let later := takePhysical rest (soFar + taken.sum)
      (taken ++ later.1, later.2)

/-- The first of the largest sizes that two chunks fit in. -/
def largestSplittable (sizes : List Int) : Option Nat :=
  (sizes.zipIdx.foldl (fun best x =>
    if x.1 > best.1 ∧ x.1 ≥ 2 * g.minChunkSizeGiB then (x.1, some x.2) else best) ((0 : Int), (none : Option Nat))).2

/-- Halves the largest size until there are enough. -/
def splitLargest : Nat → List Int → List Int
  | 0, sizes => sizes
  | rounds + 1, sizes =>
    if sizes.length < g.numCores ∧ sizes.length < g.maxDrives then
      match g.largestSplittable sizes with
      | none => sizes
      | some i =>
        let size := sizes.getD i 0
        let half := size.tdiv 2
        splitLargest rounds (sizes.set i half ++ [size - half])
    else sizes

/-- Sizes as the drives have them. -/
def fitToPhysicalStrategies : List (List Int) :=
  if g.hasEnoughCapacity then
    let taken := g.takePhysical g.sortedAvailableCapacities 0
    if taken.2 < g.totalCapacityNeeded then [] else
    let sizes := g.splitLargest g.numCores.toNat taken.1
    if g.numCores ≤ sizes.length ∧ sizes.length ≤ g.maxDrives then [sizes] else []
  else []

/-- All strategies in their order. -/
def generateStrategies : List (List Int) := g.evenDistributionStrategies ++ g.fitToPhysicalStrategies

end AllocationStrategyGenerator

/-- Packs the sizes of a strategy into the drives. -/
def tryAllocateStrategy (usableDrives : List PhysicalDriveCapacity) (driveSizes : List Int) :
    Option (List (SharedDriveInfo × Int)) :=
  if usableDrives = [] then none else packAll driveSizes (usableDrives.map fun dc => (dc.drive, dc.availableCapacity))

/-- The drives after some sizes are placed. -/
def workingList (usableDrives : List PhysicalDriveCapacity) (placed : List Int) : Option (List (SharedDriveInfo × Int)) :=
  binsAfter placed (usableDrives.map fun dc => (dc.drive, dc.availableCapacity))

/-! ### Errors -/

/-- The figures of the error. -/
structure InsufficientDriveCapacity where
  neededGiB : Int
  usableGiB : Int
  availableGiB : Int
  physicalDriveCapacitiesGiB : List Int := []
  maxVirtualDrives : Int := 0
  type : PoolKind
  deriving DecidableEq, Repr

/-- Why an allocation fails. -/
inductive AllocationError
  | insufficientDrives (needed available : Int)
  | insufficientDriveCapacity (e : InsufficientDriveCapacity)
  | other (text : String)
  deriving DecidableEq, Repr

/-- Its text. -/
def InsufficientDriveCapacity.text (e : InsufficientDriveCapacity) : String :=
  let needed := e.neededGiB
  let usable := e.usableGiB
  let available := e.availableGiB
  let pool := e.type
  let limit := e.maxVirtualDrives
  let listed := " ".intercalate (e.physicalDriveCapacitiesGiB.map toString)
  (if usable ≥ needed then
    s!"Cannot allocate {needed} GiB: each virtual drive must fit entirely on a single physical drive"
  else s!"not enough drive capacity available: need {needed} GiB, have {usable} GiB usable ({available} GiB total)") ++
    s!" for drive type {pool}" ++
    (if e.physicalDriveCapacitiesGiB = [] then "" else s!". Physical drives available: [{listed}] GiB") ++
    (if limit > 0 then s!". Max virtual drives allowed: {limit}" else "")

/-- Its text. -/
def AllocationError.text : AllocationError → String
  | .insufficientDrives needed available => s!"not enough drives available: need {needed}, have {available}"
  | .insufficientDriveCapacity e => e.text
  | .other text => text

/-! ### One type of drive -/

section SingleType
variable (order : MapOrder PhysicalDriveCapacity) (driveType : PoolKind) (capacityNeeded minDrives maxDrives : Int)
  (driveCapacities : DriveCapacities)

/-- The generator of a request. -/
def generator : AllocationStrategyGenerator :=
  { totalCapacityNeeded := capacityNeeded, numCores := minDrives, maxDrives, minChunkSizeGiB, driveCapacities }

/-- A virtual drive as planned. -/
def plannedDrive (alloc : SharedDriveInfo × Int) : VirtualDrive :=
  { physicalUUID := alloc.1.physicalUUID, capacityGiB := alloc.2, serial := alloc.1.serial, type := some driveType }

/-- The first strategy that fits, or the error. -/
def allocateSingleDriveType : Except AllocationError (List VirtualDrive) :=
  match (generator capacityNeeded minDrives maxDrives driveCapacities).generateStrategies.findSome?
      (tryAllocateStrategy (filterAndSortUsableDrives order driveCapacities minChunkSizeGiB)) with
  | some allocPlan => .ok (allocPlan.map (plannedDrive driveType))
  | none =>
    let available := (order.arrange (driveCapacities.entries.map (·.2))).map (·.availableCapacity)
    .error (.insufficientDriveCapacity {
      neededGiB := capacityNeeded, usableGiB := (available.filter (minChunkSizeGiB ≤ ·)).sum, availableGiB := available.sum
      physicalDriveCapacitiesGiB := available, maxVirtualDrives := maxDrives, type := driveType })

end SingleType
end WekaOperator.Allocator
