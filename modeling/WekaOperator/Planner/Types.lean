import WekaOperator.Lib.Arith

/-! The data of the clusterCapacity planner (`internal/capacityplanner`): the request, the sizing constraints, the
    existing containers, the node inventory and the plan. -/

namespace WekaOperator.Planner

/-- Go maps with names as keys. -/
abbrev NameMap (α : Type) := AList fun _ : String => α

/-- The protection scheme. -/
structure ProtectionScheme where
  stripeWidth : Int
  redundancyLevel : Int
  hotSpare : Int
  deriving DecidableEq, Repr

/-- The failure domains it needs. -/
def ProtectionScheme.minFdNum (s : ProtectionScheme) : Int := s.stripeWidth + s.redundancyLevel + s.hotSpare

/-- The least scheme allowed. -/
def minProtectionFloor (allowSingleParity : Bool) : Int × Int × Int :=
  if allowSingleParity then (2, 1, 0) else (3, 2, 0)

/-- What a user asks for; 0 is unset. -/
structure DesiredCapacity where
  tlcRawGiB : Int
  qlcRawGiB : Int
  computeContainers : Int := 0
  computeCores : Int := 0
  driveContainers : Int := 0
  driveCores : Int := 0
  deriving DecidableEq, Repr

/-- CPU policies. -/
inductive CpuPolicy
  | unset | auto | dedicated | dedicatedHT | manual | shared | other
  deriving DecidableEq, Repr

/-- The constraints of planning, from the cluster and the configuration. -/
structure CapacityConstraints where
  tlcCapacityPerCoreGiB : Int
  qlcCapacityPerCoreGiB : Int
  minChunkSizeGiB : Int
  imbalanceFactor : ℚ := 0
  hugepagesPerCoreMiB : Int := 0
  memoryBaseMiB : Int := 0
  memoryPerCoreMiB : Int := 0
  driveDpdkPerCoreMiB : Int := 0
  computeDpdkPerCoreMiB : Int := 0
  maxCoresPerContainer : Int := 0
  computeHugepagesTlcRatio : Int := 0
  computeHugepagesQlcRatio : Int := 0
  computeMaxHugepagesMiB : Int := 0
  computeToTlcDriveCoreRatio : ℚ := 0
  computeToQlcDriveCoreRatio : ℚ := 0
  fullDrivesComputeToDriveCoreRatio : ℚ := 0
  allowInPlaceGrowth : Bool := false
  minGrowthFraction : ℚ := 0
  maxOverProvisionFraction : ℚ := 0
  capacityDeadbandFraction : ℚ := 0
  allowSingleParity : Bool := false
  cpuPolicy : CpuPolicy := .unset

/-- A drive container that is there. -/
structure ExistingContainer where
  name : String
  node : String
  fdValue : String
  tlcGiB : Int
  qlcGiB : Int
  numCores : Int
  unscheduled : Bool := false
  deriving DecidableEq, Repr

/-- A compute container that is there. -/
structure ExistingComputeContainer where
  name : String
  node : String
  numCores : Int
  hugepagesMiB : Int
  unscheduled : Bool := false
  deriving DecidableEq, Repr

/-- The new capacities of a container. -/
structure ContainerGrowth where
  name : String
  newTlcGiB : Int
  newQlcGiB : Int
  newCores : Int := 0
  deriving DecidableEq, Repr

/-- A ratio of TLC to QLC. -/
structure DriveTypesRatio where
  tlc : Int
  qlc : Int
  deriving DecidableEq, Repr

/-- What a container's drives are. -/
inductive DriveType
  | tlc | qlc | mixed
  deriving DecidableEq, Repr

/-- A drive container to create. -/
structure NewContainer where
  node : String
  fdValue : String
  tlcGiB : Int := 0
  qlcGiB : Int := 0
  numCores : Int := 0
  ratio : Option DriveTypesRatio := none
  type : Option DriveType := none
  deriving DecidableEq, Repr

/-- A compute container of the layout. -/
structure ComputeContainerSpec where
  node : String
  numCores : Int
  hugepagesMiB : Int
  deriving DecidableEq, Repr

/-- Why a node was not taken. -/
structure NodeRejection where
  node : String
  binding : String
  freeGiB : Int := 0
  neededGiB : Int := 0
  deriving DecidableEq, Repr

/-- Why a plan is infeasible, and what can be done. -/
structure InfeasibilityReport where
  reason : String
  pool : String := ""
  binding : String := ""
  shortfallGiB : Int := 0
  rejectedNodes : List NodeRejection := []
  fixes : List String := []
  deriving DecidableEq, Repr

/-- A plan. -/
structure CapacityPlan where
  grow : List ContainerGrowth := []
  create : List NewContainer := []
  totalTlcDriveCores : Int := 0
  totalQlcDriveCores : Int := 0
  requiredComputeCores : Int := 0
  computeContainers : Int := 0
  computeCores : Int := 0
  computeNodes : List String := []
  computeLayout : List ComputeContainerSpec := []
  warnings : List String := []
  shrinkEvents : List String := []
  overProvisions : List String := []
  infeasible : String := ""
  infeasibility : Option InfeasibilityReport := none
  deriving DecidableEq, Repr

/-- Marks a plan as infeasible. -/
def setInfeasible (plan : CapacityPlan) (report : InfeasibilityReport) : CapacityPlan :=
  { plan with infeasible := report.reason, infeasibility := some report }

/-- A node of the inventory. -/
structure NodeCapacity where
  nodeName : String
  tlcGiB : Int := 0
  qlcGiB : Int := 0
  allocatableCPU : Int := 0
  isHt : Bool := false
  fullPcpusOnly : Bool := false
  availableHugepagesMiB : Int := 0
  availableMemoryMiB : Int := 0
  fdValue : String := ""
  hasDeletingDriveContainer : Bool := false
  ineligibleReason : String := ""
  deriving DecidableEq, Repr

/-- The two pools. -/
inductive PoolKind
  | tlc | qlc
  deriving DecidableEq, Repr

namespace PoolKind

/-- As shown to the user. -/
def text : PoolKind → String
  | .tlc => "TLC"
  | .qlc => "QLC"

instance : ToString PoolKind := ⟨text⟩

/-- As used in keys. -/
def tag : PoolKind → String
  | .tlc => "tlc"
  | .qlc => "qlc"

/-- The other pool. -/
def other : PoolKind → PoolKind
  | .tlc => .qlc
  | .qlc => .tlc

end PoolKind

/-- A container's capacity in a pool. -/
def poolCap (c : ExistingContainer) : PoolKind → Int
  | .tlc => c.tlcGiB
  | .qlc => c.qlcGiB

/-- A new container's. -/
def poolCapNew (n : NewContainer) : PoolKind → Int
  | .tlc => n.tlcGiB
  | .qlc => n.qlcGiB

/-- A grown one's. -/
def poolCapGrown (g : ContainerGrowth) : PoolKind → Int
  | .tlc => g.newTlcGiB
  | .qlc => g.newQlcGiB

/-- Adds capacity to a growth. -/
def addPoolGrowth (g : ContainerGrowth) (p : PoolKind) (add : Int) : ContainerGrowth :=
  match p with
  | .tlc => { g with newTlcGiB := g.newTlcGiB + add }
  | .qlc => { g with newQlcGiB := g.newQlcGiB + add }

/-- Adds capacity to a new container. -/
def addPoolNew (n : NewContainer) (p : PoolKind) (add : Int) : NewContainer :=
  match p with
  | .tlc => { n with tlcGiB := n.tlcGiB + add }
  | .qlc => { n with qlcGiB := n.qlcGiB + add }

section Pools
variable (p q : PoolKind) (g : ContainerGrowth) (n : NewContainer) (add : Int)

theorem poolCapGrown_add : poolCapGrown (addPoolGrowth g p add) q = poolCapGrown g q + if q = p then add else 0 := by
  cases p <;> cases q <;> simp [poolCapGrown, addPoolGrowth]

theorem poolCapNew_add : poolCapNew (addPoolNew n p add) q = poolCapNew n q + if q = p then add else 0 := by
  cases p <;> cases q <;> simp [poolCapNew, addPoolNew]

@[simp] theorem addPoolGrowth_name : (addPoolGrowth g p add).name = g.name := by cases p <;> rfl

@[simp] theorem addPoolNew_node : (addPoolNew n p add).node = n.node := by cases p <;> rfl

@[simp] theorem addPoolNew_fdValue : (addPoolNew n p add).fdValue = n.fdValue := by cases p <;> rfl

end Pools

/-! ### Capacity targets -/

/-- The capacity is short, beyond the deadband. -/
def capacityShort (current desired : Int) (cons : CapacityConstraints) : Bool :=
  if cons.capacityDeadbandFraction ≤ 0 then current < desired
  else desired - current > (desired * cons.capacityDeadbandFraction).ceil

/-- The capacity that counts as covered. -/
def capacityCoverTarget (desired : Int) (cons : CapacityConstraints) : Int :=
  if cons.capacityDeadbandFraction ≤ 0 then desired
  else desired - (desired * cons.capacityDeadbandFraction).ceil

/-- How much may be placed on top. -/
def overProvisionCapGiB (desiredRaw : Int) (cons : CapacityConstraints) : Int :=
  if desiredRaw ≤ 0 then 0 else Lib.truncate (cons.maxOverProvisionFraction * desiredRaw)

end WekaOperator.Planner
