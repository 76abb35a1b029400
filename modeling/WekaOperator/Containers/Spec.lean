import WekaOperator.Planner.Plan

/-! A WekaContainer as the operator reads it: the sizing part of its spec, its allocations, and how a drive
    container's capacities are written to the spec and read back from it. -/

namespace WekaOperator.Containers
open Lib Planner

/-- The modes of containers. -/
inductive Mode
  | drive | compute | client | dist | driversDist | driversLoader | driversBuilder | discovery | s3 | adhocOpWC
  | adhocOp | envoy | nfs | smbw | telemetry | ssdProxy | dataServices | dataServicesFe
  deriving DecidableEq, Repr

/-- The statuses of containers. -/
inductive ContainerStatus
  | unset | init | podNotRunning | podRunning | podTerminating | waitForDrivers | running | stopped | starting | deleting
  | destroying | paused | degraded | unhealthy | error | drivesAdding | draining | completed | building | stale
  deriving DecidableEq, Repr

namespace Mode

/-- The mode, as far as CPUs go. -/
def forCPU : Mode → Planner.Mode
  | drive => .drive
  | compute => .compute
  | client => .client
  | s3 => .s3
  | nfs => .nfs
  | smbw => .smbw
  | dataServices => .dataServices
  | envoy => .envoy
  | dist | driversDist | driversLoader | driversBuilder | discovery | adhocOpWC | adhocOp | telemetry | ssdProxy
  | dataServicesFe => .other

/-- Modes that handle drivers. -/
def isDriversContainer (m : Mode) : Bool := m ∈ [dist, driversDist, driversLoader, driversBuilder]

/-- Modes that run one operation. -/
def isAdhocOpContainer (m : Mode) : Bool := m ∈ [adhocOpWC, adhocOp, driversLoader]

/-- Modes that get allocations. -/
def isAllocatable (m : Mode) : Bool := m ∈ [drive, compute, envoy, s3, nfs, smbw, telemetry, dataServices]

end Mode

/-- Amounts; 0 is unset. -/
structure Quantities where
  cpu : Int := 0
  memory : Int := 0
  hugepages2Mi : Int := 0
  deriving DecidableEq, Repr

/-- The resources a user sets. -/
structure PodResourcesSpec where
  limits : Quantities := {}
  requests : Quantities := {}
  deriving DecidableEq, Repr

/-- The spec of a container, as far as sizing and allocation read it. -/
structure Spec where
  mode : Mode
  numCores : Int
  extraCores : Int := 0
  coreIds : List Int := []
  cpuPolicy : CpuPolicy := .auto
  hugepages : Int := 0
  hugepagesOffset : Int := 0
  hugepages1Gi : Bool := false
  numDrives : Int := 0
  additionalMemory : Int := 0
  driveCapacity : Int := 0
  containerCapacity : Int := 0
  driveTypesRatio : Option DriveTypesRatio := none
  resources : Option PodResourcesSpec := none
  dataServicesFeCores : Int := 0
  deriving DecidableEq, Repr

/-- A virtual drive. -/
structure VirtualDrive where
  virtualUUID : String := ""
  label : String := ""
  physicalUUID : String
  capacityGiB : Int
  serial : String
  type : Option PoolKind
  deriving DecidableEq, Repr

/-- The drives of a container. -/
structure Allocations where
  drives : List String := []
  virtualDrives : List VirtualDrive := []
  deriving DecidableEq, Repr

/-- A container. -/
structure WekaContainer where
  name : String
  spec : Spec
  nodeAffinity : String := ""
  unscheduled : Bool := false
  markedForDeletion : Bool := false
  allocations : Option Allocations := none
  deriving DecidableEq, Repr

/-- The spec, as far as CPUs go. -/
def Spec.forCPU (s : Spec) : ContainerSpec where
  mode := s.mode.forCPU
  cpuPolicy := s.cpuPolicy
  numCores := s.numCores
  extraCores := s.extraCores
  resources := s.resources.map fun r => (r.limits.cpu, r.requests.cpu)

namespace WekaContainer
variable (c : WekaContainer)

/-- The container shares drives. -/
def usesDriveSharing : Bool := c.spec.driveCapacity > 0 || c.spec.containerCapacity > 0

/-- It is sized by capacity. -/
def hasContainerCapacity : Bool := c.spec.containerCapacity > 0

end WekaContainer

/-- The hugepages a user sets. -/
def Spec.namedHugepages2MiMiB (s : Spec) : Option Int :=
  s.resources.bind fun r =>
    let q := if r.requests.hugepages2Mi = 0 then r.limits.hugepages2Mi else r.requests.hugepages2Mi
    if q = 0 then none else some (q.tdiv (1024 * 1024))

/-! ### Capacities -/

/-- `GetTlcQlcCapacity`; the product may overflow. -/
def getTlcQlcCapacity (totalCapacity : Int) (ratio : Option DriveTypesRatio) (int : Int → Int := id) : Int × Int :=
  match ratio with
  | none => (totalCapacity, 0)
  | some r =>
    if int (r.tlc + r.qlc) = 0 then (totalCapacity, 0) else
    let tlc := (int (totalCapacity * r.tlc)).tdiv (int (r.tlc + r.qlc))
    (tlc, int (totalCapacity - tlc))

/-- `DriveContainerCapacities`: TLC and QLC in GiB. -/
def driveContainerCapacities (s : Spec) (int : Int → Int := id) : Int × Int :=
  if s.driveCapacity > 0 then (int (s.driveCapacity * s.numDrives), 0)
  else getTlcQlcCapacity s.containerCapacity s.driveTypesRatio int

/-- The spec of a container of these capacities. -/
def Spec.withCapacities (s : Spec) (tlcGiB qlcGiB : Int) : Spec :=
  { s with containerCapacity := tlcGiB + qlcGiB, driveTypesRatio := some (ratioFromCaps tlcGiB qlcGiB) }

namespace Allocations
variable (a : Allocations)

/-- The capacity of the virtual drives. -/
def allocatedVirtualDrivesCapacity : Int := (a.virtualDrives.map (·.capacityGiB)).sum

/-- The same as TLC and QLC. -/
def allocatedByType : Int × Int :=
  (((a.virtualDrives.filter (·.type ≠ some .qlc)).map (·.capacityGiB)).sum,
    ((a.virtualDrives.filter (·.type = some .qlc)).map (·.capacityGiB)).sum)

end Allocations

/-- The ratio of two capacities, not both 0: the capacities divided by their greatest common divisor. -/
theorem ratioFromCaps_parts {tlc qlc : Int} (pos : 0 < tlc + qlc) :
    ∃ g, 0 < g ∧ tlc = g * (ratioFromCaps tlc qlc).tlc ∧ qlc = g * (ratioFromCaps tlc qlc).qlc := by
  have hne : (Int.gcd tlc qlc : Int) ≠ 0 := by
    intro h
    rw [Int.natCast_eq_zero, Int.gcd_eq_zero_iff] at h
    omega
  have hg : (0 : Int) < Int.gcd tlc qlc := lt_of_le_of_ne (Int.natCast_nonneg _) hne.symm
  unfold ratioFromCaps gcdInt
  rw [if_neg hne]
  exact ⟨_, hg, (Int.mul_tdiv_cancel' (Int.gcd_dvd_left tlc qlc)).symm, (Int.mul_tdiv_cancel' (Int.gcd_dvd_right tlc qlc)).symm⟩

theorem getTlcQlcCapacity_ratioFromCaps {tlc qlc : Int} (htlc : 0 ≤ tlc) (hqlc : 0 ≤ qlc) :
    getTlcQlcCapacity (tlc + qlc) (some (ratioFromCaps tlc qlc)) = (tlc, qlc) := by
  unfold ratioFromCaps gcdInt
  dsimp only
  split
  · rename_i h
    obtain ⟨rfl, rfl⟩ : tlc = 0 ∧ qlc = 0 := by
      rw [Int.natCast_eq_zero] at h
      exact Int.gcd_eq_zero_iff.mp h
    rfl
  · rename_i h
    have hg : (0 : Int) < Int.gcd tlc qlc := lt_of_le_of_ne (Int.natCast_nonneg _) (Ne.symm h)
    have hne : tlc + qlc ≠ 0 := by
      intro e
      obtain ⟨rfl, rfl⟩ : tlc = 0 ∧ qlc = 0 := by omega
      exact h rfl
    obtain ⟨t, ht⟩ := Int.gcd_dvd_left tlc qlc
    obtain ⟨q, hq⟩ := Int.gcd_dvd_right tlc qlc
    generalize (Int.gcd tlc qlc : Int) = g at hg ht hq
    have hsum : tlc + qlc = g * (t + q) := by rw [ht, hq, Int.mul_add]
    have hparts : t + q ≠ 0 := fun e => hne (by rw [hsum, e, Int.mul_zero])
    have htdiv : tlc.tdiv g = t := by rw [ht, Int.mul_tdiv_cancel_left _ hg.ne']
    have hqdiv : qlc.tdiv g = q := by rw [hq, Int.mul_tdiv_cancel_left _ hg.ne']
    have hsplit : ((tlc + qlc) * t).tdiv (t + q) = tlc := by
      rw [hsum, ht, mul_right_comm, Int.mul_tdiv_cancel _ hparts]
    simp only [getTlcQlcCapacity, id_eq, htdiv, hqdiv, if_neg hparts, hsplit]
    exact Prod.ext rfl (by omega)

theorem driveContainerCapacities_withCapacities {s : Spec} {tlc qlc : Int} (hs : s.driveCapacity ≤ 0) (htlc : 0 ≤ tlc)
    (hqlc : 0 ≤ qlc) : driveContainerCapacities (s.withCapacities tlc qlc) = (tlc, qlc) := by
  have hs : ¬(s.withCapacities tlc qlc).driveCapacity > 0 := not_lt.mpr hs
  rw [driveContainerCapacities, if_neg hs]
  exact getTlcQlcCapacity_ratioFromCaps htlc hqlc

end WekaOperator.Containers
