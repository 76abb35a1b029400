import WekaOperator.Allocator.Strategies

/-! How a cluster's spec becomes container specs: the planner constraints made of the operator's configuration
    (`cluster_capacity.go`), the cluster template and the hugepages of planned containers (`templates.go`), the
    container factory (`container_factory.go`) and the containers built from a plan (`steps_planner_apply.go`). -/

namespace WekaOperator.Containers
open Lib Planner

/-! ### Constraints -/

/-- The configuration of the operator, as far as sizing reads it. -/
structure Config where
  tlcCapacityPerCoreGiB : Int
  qlcCapacityPerCoreGiB : Int
  imbalanceFactor : ℚ := 8
  maxCoresPerContainer : Int := 0
  hugepagesTlcRatio : Int := 0
  hugepagesQlcRatio : Int := 0
  computeMaxHugepagesMiB : Int := 0
  computeToTlcDriveCoreRatio : ℚ := -1
  computeToQlcDriveCoreRatio : ℚ := -1
  fullDrivesComputeToDriveCoreRatio : ℚ := 1
  enableDynamicDriveScaling : Bool := false
  minGrowthFraction : ℚ := 0
  maxOverProvisionFraction : ℚ := 0
  capacityDeadbandFraction : ℚ := 0
  allowSingleParity : Bool := false

/-- Hugepages of a drive core. -/
def hugepagesPerCoreMiB : Int := 1600
/-- Memory of a container without cores. -/
def memoryBaseMiB : Int := 8000
/-- Memory of a core. -/
def memoryPerCoreMiB : Int := 3000

/-- 0 stands for the default. -/
def getNonZeroOrDefault (value default : Int) : Int := if value = 0 then default else value

/-- The constraints of the configuration. -/
def capacityConstraintsFromConfig (cfg : Config) : CapacityConstraints where
  tlcCapacityPerCoreGiB := cfg.tlcCapacityPerCoreGiB
  qlcCapacityPerCoreGiB := cfg.qlcCapacityPerCoreGiB
  minChunkSizeGiB := Allocator.minChunkSizeGiB
  imbalanceFactor := cfg.imbalanceFactor
  hugepagesPerCoreMiB := hugepagesPerCoreMiB
  memoryBaseMiB := memoryBaseMiB
  memoryPerCoreMiB := memoryPerCoreMiB
  maxCoresPerContainer := cfg.maxCoresPerContainer
  computeHugepagesTlcRatio := getNonZeroOrDefault cfg.hugepagesTlcRatio 1000
  computeHugepagesQlcRatio := getNonZeroOrDefault cfg.hugepagesQlcRatio 6000
  computeMaxHugepagesMiB := cfg.computeMaxHugepagesMiB
  computeToTlcDriveCoreRatio := if cfg.computeToTlcDriveCoreRatio < 0 then 1 else cfg.computeToTlcDriveCoreRatio
  computeToQlcDriveCoreRatio := if cfg.computeToQlcDriveCoreRatio < 0 then 0 else cfg.computeToQlcDriveCoreRatio
  fullDrivesComputeToDriveCoreRatio := cfg.fullDrivesComputeToDriveCoreRatio
  allowInPlaceGrowth := cfg.enableDynamicDriveScaling
  minGrowthFraction := cfg.minGrowthFraction
  maxOverProvisionFraction := cfg.maxOverProvisionFraction
  capacityDeadbandFraction := cfg.capacityDeadbandFraction
  allowSingleParity := cfg.allowSingleParity

/-! ### The cluster's spec -/

/-- A value for each role. -/
structure PerWekaRole (α : Type) where
  compute : α
  drive : α
  s3 : α
  nfs : α
  smbw : α
  dataServices : α
  envoy : α
  deriving DecidableEq, Repr

/-- The value of a role. -/
def PerWekaRole.forRole {α : Type} (values : PerWekaRole α) (default : α) : Mode → α
  | .compute => values.compute
  | .drive => values.drive
  | .s3 => values.s3
  | .nfs => values.nfs
  | .smbw => values.smbw
  | .dataServices => values.dataServices
  | .envoy => values.envoy
  | _ => default

/-- One value for all roles. -/
def PerWekaRole.all {α : Type} (value : α) : PerWekaRole α := ⟨value, value, value, value, value, value, value⟩

/-- The dynamic template of a cluster. -/
structure WekaClusterTemplate where
  computeContainers : Int := 0
  driveContainers : Int := 0
  cores : PerWekaRole Int := .all 0
  extraCores : PerWekaRole Int := .all 0
  dataServicesExtraCores : Option Int := none
  dataServicesFeCores : Option Int := none
  numDrives : Int := 0
  driveCapacity : Int := 0
  containerCapacity : Int := 0
  driveTypesRatio : Option DriveTypesRatio := none
  usesClusterCapacity : Bool := false
  driveHugepages : Int := 0
  driveHugepagesOffset : Int := 0
  computeHugepages : Int := 0
  computeHugepagesOffset : Int := 0
  deriving DecidableEq, Repr

/-- A cluster, as far as its containers are built from it. -/
structure WekaCluster where
  name : String
  cpuPolicy : CpuPolicy := .auto
  dynamicTemplate : Option WekaClusterTemplate := none
  additionalMemory : PerWekaRole Int := .all 0
  dpdkBaseMemoryMb : PerWekaRole Int := .all 0
  roleCoreIds : PerWekaRole (List Int) := .all []
  deriving DecidableEq, Repr

namespace WekaClusterTemplate
variable (t : WekaClusterTemplate)

/-- No sizing is given: the drives are used in full. -/
def usesAutoFullDrives : Bool :=
  t.computeContainers ≤ 0 && t.driveContainers ≤ 0 && t.containerCapacity ≤ 0 && t.driveCapacity ≤ 0 && !t.usesClusterCapacity

/-- The planner sizes the containers. -/
def isPlannerManaged : Bool := t.usesClusterCapacity || t.usesAutoFullDrives

/-- Frontend cores of data services. -/
def getDataServicesFeCores : Int := t.dataServicesFeCores.getD 1

/-- The template passes the checks for a planned capacity. -/
structure Admitted : Prop where
  clusterCapacity : t.usesClusterCapacity = true
  containerCapacity : t.containerCapacity = 0
  numDrives : t.numDrives = 0
  driveCapacity : t.driveCapacity = 0

end WekaClusterTemplate

namespace WekaCluster
variable (cluster : WekaCluster)

/-- The template, or its defaults. -/
def template : WekaClusterTemplate := cluster.dynamicTemplate.getD {}

/-- DPDK memory a core, by role. -/
def getDpdkBaseMemoryMbByRole : Mode → Int
  | .compute => getNonZeroOrDefault cluster.dpdkBaseMemoryMb.compute 64
  | .drive => getNonZeroOrDefault cluster.dpdkBaseMemoryMb.drive 64
  | .s3 => getNonZeroOrDefault cluster.dpdkBaseMemoryMb.s3 64
  | .nfs => getNonZeroOrDefault cluster.dpdkBaseMemoryMb.nfs 64
  | .smbw => getNonZeroOrDefault cluster.dpdkBaseMemoryMb.smbw 64
  | .dataServices => getNonZeroOrDefault cluster.dpdkBaseMemoryMb.dataServices 64
  | _ => 64

/-- The core ids of a role. -/
def getCoreIdsForRole : Mode → List Int
  | .envoy => []
  | role => cluster.roleCoreIds.forRole [] role

end WekaCluster

/-- The constraints with what the cluster sets. -/
def applyClusterSpecOverrides (cons : CapacityConstraints) (cluster : WekaCluster) : CapacityConstraints :=
  { cons with
    driveDpdkPerCoreMiB := cluster.getDpdkBaseMemoryMbByRole .drive
    computeDpdkPerCoreMiB := cluster.getDpdkBaseMemoryMbByRole .compute
    cpuPolicy := cluster.cpuPolicy }

/-- The constraints of a cluster. -/
def constraintsForClusterSpec (cfg : Config) (cluster : WekaCluster) : CapacityConstraints :=
  applyClusterSpecOverrides (capacityConstraintsFromConfig cfg) cluster

/-! ### The template of the containers -/

/-- The template with its defaults filled in. -/
structure ClusterTemplate where
  cores : PerWekaRole Int
  extraCores : PerWekaRole Int
  numDrives : Int
  driveCapacity : Int
  containerCapacity : Int
  driveTypesRatio : Option DriveTypesRatio

/-- The drive cores for the capacity in the template. -/
def requiredDriveCoresForTemplate (cfg : Config) (t : WekaClusterTemplate) : Option Int :=
  if t.containerCapacity > 0 then
    let (tlcGiB, qlcGiB) := getTlcQlcCapacity t.containerCapacity t.driveTypesRatio
    some (requiredDriveCores tlcGiB qlcGiB (capacityConstraintsFromConfig cfg))
  else if t.numDrives > 0 ∧ t.driveCapacity > 0 then
    some (requiredDriveCores (t.driveCapacity * t.numDrives) 0 (capacityConstraintsFromConfig cfg))
  else none

/-- The same, at most one a drive. -/
def derivedDriveCores (cfg : Config) (t : WekaClusterTemplate) : Option Int :=
  (requiredDriveCoresForTemplate cfg t).map fun required =>
    if t.numDrives > 0 ∧ t.driveCapacity > 0 then min required t.numDrives else required

/-- The drive cores, set or derived. -/
def getDriveCores (cfg : Config) (t : WekaClusterTemplate) : Int :=
  if t.cores.drive > 0 then t.cores.drive else (derivedDriveCores cfg t).getD 1

/-- The cores of all roles. -/
def getWekaContainerCores (cfg : Config) (t : WekaClusterTemplate) : PerWekaRole Int where
  compute := getNonZeroOrDefault t.cores.compute 1
  drive := getDriveCores cfg t
  s3 := getNonZeroOrDefault t.cores.s3 1
  nfs := getNonZeroOrDefault t.cores.nfs 1
  smbw := getNonZeroOrDefault t.cores.smbw 1
  dataServices := getNonZeroOrDefault t.cores.dataServices 1
  envoy := getNonZeroOrDefault t.cores.envoy 1

/-- Extra cores of data services. -/
def getDefaultDataServicesExtraCores (t : WekaClusterTemplate) : Int :=
  t.dataServicesExtraCores.getD (if t.getDataServicesFeCores > 0 then 4 else 0)

/-- The extra cores of all roles. -/
def getWekaContainerExtraCores (t : WekaClusterTemplate) : PerWekaRole Int where
  compute := t.extraCores.compute
  drive := t.extraCores.drive
  s3 := getNonZeroOrDefault t.extraCores.s3 1
  nfs := getNonZeroOrDefault t.extraCores.nfs 1
  smbw := getNonZeroOrDefault t.extraCores.smbw 1
  dataServices := getDefaultDataServicesExtraCores t
  envoy := 0

/-- Fills the defaults in. -/
def getWekaClusterTemplate (cfg : Config) (t : WekaClusterTemplate) : ClusterTemplate :=
  let t := if t.numDrives = 0 ∧ t.containerCapacity = 0 ∧ !t.isPlannerManaged then { t with numDrives := 1 } else t
  { cores := getWekaContainerCores cfg t
    extraCores := getWekaContainerExtraCores t
    numDrives := t.numDrives
    driveCapacity := t.driveCapacity
    containerCapacity := t.containerCapacity
    driveTypesRatio := t.driveTypesRatio }

/-! ### Hugepages -/

/-- Hugepages of a core where drives are counted. -/
def driveHugepagesPerCoreMiB : Int := 1400
/-- Hugepages of a drive. -/
def driveHugepagesPerDriveMiB : Int := 200

/-- Hugepages of a drive container. -/
def driveContainerHugepagesMiB (cores drives : Int) (cons : CapacityConstraints) : Int :=
  if drives > 0 then
    cores * (driveHugepagesPerCoreMiB + cons.driveDpdkPerCoreMiB) + drives * driveHugepagesPerDriveMiB
  else cores * cons.driveHugepagesPerCoreMiB

/-- The part of them that is not weka's. -/
def driveContainerHugepagesOffsetMiB (cores drives : Int) (cons : CapacityConstraints) : Int :=
  if drives > 0 then cores * cons.driveDpdkPerCoreMiB + drives * driveHugepagesPerDriveMiB
  else cores * (driveHugepagesPerDriveMiB + cons.driveDpdkPerCoreMiB)

/-- Hugepages and their offset. -/
structure ContainerHugepages where
  hugepages : Int
  hugepagesOffset : Int
  deriving DecidableEq, Repr

/-- Those of a planned drive container; the template goes before. -/
def driveHugepagesFromPlan (cluster : WekaCluster) (cores drives : Int) : ContainerHugepages :=
  -- The constraints the source fills in here have these two figures and no other.
  let cons : CapacityConstraints := {
    tlcCapacityPerCoreGiB := 0, qlcCapacityPerCoreGiB := 0, minChunkSizeGiB := 0
    hugepagesPerCoreMiB, driveDpdkPerCoreMiB := cluster.getDpdkBaseMemoryMbByRole .drive }
  { hugepages := if cluster.template.driveHugepages > 0 then cluster.template.driveHugepages
      else driveContainerHugepagesMiB cores drives cons
    hugepagesOffset := if cluster.template.driveHugepagesOffset > 0 then cluster.template.driveHugepagesOffset
      else driveContainerHugepagesOffsetMiB cores drives cons }

/-- Those of a planned compute container. -/
def computeHugepagesFromPlan (cluster : WekaCluster) (plannedHugepagesMiB cores : Int) : ContainerHugepages where
  hugepages := if cluster.template.computeHugepages > 0 then cluster.template.computeHugepages else plannedHugepagesMiB
  hugepagesOffset := if cluster.template.computeHugepagesOffset > 0 then cluster.template.computeHugepagesOffset
    else 200 + cluster.getDpdkBaseMemoryMbByRole .compute * cores

/-! ### Containers -/

/-- The spec of a container of a role. -/
def containerSpec (cluster : WekaCluster) (t : ClusterTemplate) (hp : ContainerHugepages) (role : Mode) : Spec where
  mode := role
  numCores := t.cores.forRole 0 role
  extraCores := match role with
    | .envoy => 0
    | role => t.extraCores.forRole 0 role
  coreIds := cluster.getCoreIdsForRole role
  cpuPolicy := cluster.cpuPolicy
  hugepages := hp.hugepages
  hugepagesOffset := hp.hugepagesOffset
  numDrives := if role = .drive then t.numDrives else 0
  additionalMemory := cluster.additionalMemory.forRole 0 role
  driveCapacity := if role = .drive then t.driveCapacity else 0
  containerCapacity := if role = .drive then t.containerCapacity else 0
  driveTypesRatio := t.driveTypesRatio
  dataServicesFeCores := if role = .dataServices then max cluster.template.getDataServicesFeCores 0 else 0

/-- A container of a cluster. -/
def newWekaContainerForWekaCluster (cluster : WekaCluster) (t : ClusterTemplate) (hp : ContainerHugepages) (role : Mode)
    (name : String) : WekaContainer where
  name := cluster.name ++ "-" ++ name
  spec := containerSpec cluster t hp role

/-- The drive container of a plan. -/
def buildPlannerDriveContainer (cfg : Config) (cluster : WekaCluster) (name : String) (pc : NewContainer) : WekaContainer :=
  let t := getWekaClusterTemplate cfg cluster.template
  let t := { t with cores := { t.cores with drive := pc.numCores } }
  let container := newWekaContainerForWekaCluster cluster t (driveHugepagesFromPlan cluster pc.numCores 0) .drive name
  { container with
    nodeAffinity := pc.node
    spec := { container.spec with containerCapacity := pc.tlcGiB + pc.qlcGiB, driveTypesRatio := pc.ratio } }

/-- The compute container of a plan, on a free node. -/
def buildPlannerComputeContainer (cfg : Config) (cluster : WekaCluster) (occupied : List String) (name : String)
    (entry : ComputeContainerSpec) : Option WekaContainer :=
  if entry.node = "" ∨ entry.node ∈ occupied ∨ entry.hugepagesMiB ≤ 0 then none else
  let t := getWekaClusterTemplate cfg cluster.template
  let t := { t with cores := { t.cores with compute := entry.numCores } }
  let hp := computeHugepagesFromPlan cluster entry.hugepagesMiB entry.numCores
  some { newWekaContainerForWekaCluster cluster t hp .compute name with nodeAffinity := entry.node }

section Built
variable (cfg : Config) (cluster : WekaCluster) (name : String) (pc : NewContainer)

theorem buildPlannerDriveContainer_spec (admitted : cluster.template.Admitted) :
    (buildPlannerDriveContainer cfg cluster name pc).spec =
      { mode := .drive
        numCores := pc.numCores
        extraCores := cluster.template.extraCores.drive
        coreIds := cluster.roleCoreIds.drive
        cpuPolicy := cluster.cpuPolicy
        hugepages := (driveHugepagesFromPlan cluster pc.numCores 0).hugepages
        hugepagesOffset := (driveHugepagesFromPlan cluster pc.numCores 0).hugepagesOffset
        additionalMemory := cluster.additionalMemory.drive
        containerCapacity := pc.tlcGiB + pc.qlcGiB
        driveTypesRatio := pc.ratio } := by
  have managed : cluster.template.isPlannerManaged = true := by
    rw [WekaClusterTemplate.isPlannerManaged, admitted.clusterCapacity, Bool.true_or]
  have htemplate : getWekaClusterTemplate cfg cluster.template =
      { cores := getWekaContainerCores cfg cluster.template, extraCores := getWekaContainerExtraCores cluster.template
        numDrives := 0, driveCapacity := 0, containerCapacity := 0
        driveTypesRatio := cluster.template.driveTypesRatio } := by
    simp [getWekaClusterTemplate, managed, admitted.numDrives, admitted.driveCapacity, admitted.containerCapacity]
  unfold buildPlannerDriveContainer
  rw [htemplate]
  rfl

end Built
end WekaOperator.Containers
