import WekaOperator.Containers.Cluster

/-! Which containers form a cluster (`funcs_clusterization.go`, with `network.go` and `templates.go`): one loop over
    the containers of the cluster collects the ready and the ignored ones, a gate adds up how many there are, and the
    ready ones are passed to weka. -/

namespace WekaOperator.Containers.Formation
open List Bool Lib

/-- A container, as far as cluster formation reads it. -/
structure Container where
  name : String
  mode : Mode
  status : ContainerStatus
  managementIPs : Option (List String) := none
  managementIP : String := ""
  deleting : Bool := false
  deriving DecidableEq, Repr

/-- The cluster, likewise. -/
structure Cluster where
  deviceSubnets : List String := []
  expandEndpoints : Option (List String) := none
  dynamicTemplate : WekaClusterTemplate := {}
  deriving DecidableEq, Repr

/-- The numbers of the operator's configuration. -/
structure Consts where
  formClusterMinDriveContainers : Int := 5
  formClusterMinComputeContainers : Int := 5
  formClusterMaxDriveContainers : Int := 10
  formClusterMaxComputeContainers : Int := 10

/-- The containers sorted by readiness. -/
structure ReadyForClusterizationContainers where
  drive : List Container := []
  compute : List Container := []
  ignored : List Container := []
  deriving DecidableEq, Repr

/-- The ready ones. -/
def ReadyForClusterizationContainers.getAll (ready : ReadyForClusterizationContainers) : List Container :=
  ready.drive ++ ready.compute

/-- The management addresses of a container. -/
def Container.getManagementIps (c : Container) : List String :=
  match c.managementIPs with
  | some ips => ips
  | none => if c.managementIP ≠ "" then [c.managementIP] else []

/-- How many containers are wanted. -/
structure ContainerNumbers where
  compute : Int
  drive : Int

/-- These numbers with their defaults. -/
def getWekaContainerNumbers (consts : Consts) (t : WekaClusterTemplate) : ContainerNumbers where
  compute := if t.computeContainers = 0 then consts.formClusterMinComputeContainers else t.computeContainers
  drive := if t.driveContainers = 0 then consts.formClusterMinDriveContainers else t.driveContainers

section
-- Parsing of addresses and subnets is the standard library's.
variable (ipIsInSubnet : String → String → Bool)

/-- Each subnet has one of its addresses. -/
def containerHasDevicesInSubnets (c : Container) (subnets : List String) : Bool :=
  subnets.all fun subnet => c.getManagementIps.any fun ip => ipIsInSubnet ip subnet

/-- Sorts one container. -/
def collectOne (cluster : Cluster) (ready : ReadyForClusterizationContainers) (c : Container) :
    ReadyForClusterizationContainers :=
  if c.deleting then ready
  else if c.status = .unhealthy then { ready with ignored := ready.ignored ++ [c] }
  else if c.status ≠ .running then ready
  else
    -- The source does not `continue` here: an ignored container goes on to its mode.
    let ready :=
      if cluster.deviceSubnets.length > 0 ∧ !containerHasDevicesInSubnets ipIsInSubnet c cluster.deviceSubnets then
        { ready with ignored := ready.ignored ++ [c] }
      else ready
    let ready := if c.mode = .drive then { ready with drive := ready.drive ++ [c] } else ready
    if c.mode = .compute then { ready with compute := ready.compute ++ [c] } else ready

/-- Sorts all containers. -/
def collect (cluster : Cluster) (containers : List Container) : ReadyForClusterizationContainers :=
  containers.foldl (collectOne ipIsInSubnet cluster) {}

/-- The memory of a reconcile; what it remembers is right. -/
structure Loop where
  cluster : Cluster
  containers : List Container
  readyContainers : Option ReadyForClusterizationContainers := none
  memo : ∀ ready ∈ readyContainers, ready = collect ipIsInSubnet cluster containers := by simp

variable {ipIsInSubnet}

/-- The containers by readiness, computed once. -/
def getReadyForClusterCreateContainers (r : Loop ipIsInSubnet) : ReadyForClusterizationContainers × Loop ipIsInSubnet :=
  match r.readyContainers with
  | some ready => (ready, r)
  | none =>
    let ready := collect ipIsInSubnet r.cluster r.containers
    (ready, { cluster := r.cluster, containers := r.containers, readyContainers := some ready, memo := by simp [ready] })

/-- How many containers a cluster is formed of. -/
def expectedContainersNum (consts : Consts) (cluster : Cluster) : Int :=
  let nums := getWekaContainerNumbers consts cluster.dynamicTemplate
  min nums.compute consts.formClusterMaxComputeContainers + min nums.drive consts.formClusterMaxDriveContainers

/-- Whether enough containers are ready. -/
def initialContainersReady (consts : Consts) (r : Loop ipIsInSubnet) : Except String Unit × Loop ipIsInSubnet :=
  let (ready, r) := getReadyForClusterCreateContainers r
  let driveContainersCount : Int := ready.drive.length
  let computeContainersCount : Int := ready.compute.length
  let total := driveContainersCount + computeContainersCount + ready.ignored.length
  let minDrive := consts.formClusterMinDriveContainers
  let minCompute := consts.formClusterMinComputeContainers
  let expected := expectedContainersNum consts r.cluster
  (if driveContainersCount < minDrive then
      .error s!"not enough drive containers ready, expected {minDrive}, got {driveContainersCount}"
    else if computeContainersCount < minCompute then
      .error s!"not enough compute containers ready, expected {minCompute}, got {computeContainersCount}"
    else if total < expected then
      .error s!"waiting for all containers to be either ready or ignored before forming the cluster, expected {expected}, got {total}"
    else .ok (), r)

/-- The containers that the cluster is formed of. -/
def formCluster (r : Loop ipIsInSubnet) : Option (List Container) × Loop ipIsInSubnet :=
  match r.cluster.expandEndpoints with
  | none =>
    let (ready, r) := getReadyForClusterCreateContainers r
    (some ready.getAll, r)
  | some _ => (none, r)

/-! ### The lists of the loop -/

section Lists
variable {cluster : Cluster} {containers : List Container}

/-- Running and not deleted. -/
def Container.isReady (c : Container) : Bool := !c.deleting && c.status = .running

variable (ipIsInSubnet) in
/-- Ready, but outside the subnets. -/
def outsideSubnets (cluster : Cluster) (c : Container) : Bool :=
  c.isReady && !containerHasDevicesInSubnets ipIsInSubnet c cluster.deviceSubnets

variable (ipIsInSubnet) in
/-- Unhealthy, or outside the subnets. -/
def isIgnored (cluster : Cluster) (c : Container) : Bool :=
  (!c.deleting && c.status = .unhealthy) || outsideSubnets ipIsInSubnet cluster c

theorem outside_iff (c : Container) :
    (cluster.deviceSubnets.length > 0 ∧ !containerHasDevicesInSubnets ipIsInSubnet c cluster.deviceSubnets) ↔
      containerHasDevicesInSubnets ipIsInSubnet c cluster.deviceSubnets = false := by
  rw [not_eq_true', and_iff_right_iff_imp]
  intro outside
  rcases all_eq_false.mp outside with ⟨subnet, mem, -⟩
  exact length_pos_of_mem mem

theorem collectOne_eq (ready : ReadyForClusterizationContainers) (c : Container) :
    collectOne ipIsInSubnet cluster ready c =
      { drive := ready.drive ++ [c].filter fun c => c.isReady && c.mode = .drive
        compute := ready.compute ++ [c].filter fun c => c.isReady && c.mode = .compute
        ignored := ready.ignored ++ [c].filter (isIgnored ipIsInSubnet cluster) } := by
  unfold collectOne
  simp only [outside_iff]
  cases hd : c.deleting with
  | true => simp [Container.isReady, isIgnored, outsideSubnets, hd]
  | false =>
    by_cases hu : c.status = .unhealthy
    · simp [Container.isReady, isIgnored, outsideSubnets, hd, hu]
    by_cases hr : c.status = .running
    · cases hs : containerHasDevicesInSubnets ipIsInSubnet c cluster.deviceSubnets <;> cases hm : c.mode <;>
        simp [Container.isReady, isIgnored, outsideSubnets, hd, hr, hs, hm]
    · simp [Container.isReady, isIgnored, outsideSubnets, hd, hu, hr]

theorem foldl_collectOne (ready : ReadyForClusterizationContainers) :
    containers.foldl (collectOne ipIsInSubnet cluster) ready =
      { drive := ready.drive ++ containers.filter fun c => c.isReady && c.mode = .drive
        compute := ready.compute ++ containers.filter fun c => c.isReady && c.mode = .compute
        ignored := ready.ignored ++ containers.filter (isIgnored ipIsInSubnet cluster) } := by
  induction containers generalizing ready with
  | nil => simp
  | cons c containers ih =>
    rw [foldl_cons, ih, collectOne_eq]
    simp only [append_assoc, ← filter_append, singleton_append]

theorem collect_eq : collect ipIsInSubnet cluster containers =
    { drive := containers.filter fun c => c.isReady && c.mode = .drive
      compute := containers.filter fun c => c.isReady && c.mode = .compute
      ignored := containers.filter (isIgnored ipIsInSubnet cluster) } := by
  rw [collect, foldl_collectOne]
  simp

end Lists

/-! ### Counting once -/

section Counted
variable (consts : Consts) (r : Loop ipIsInSubnet)

theorem getReady_eq : (getReadyForClusterCreateContainers r).1 = collect ipIsInSubnet r.cluster r.containers := by
  unfold getReadyForClusterCreateContainers
  split
  · next ready found => exact r.memo ready found
  · rfl

theorem getReady_cluster : (getReadyForClusterCreateContainers r).2.cluster = r.cluster := by
  unfold getReadyForClusterCreateContainers
  split <;> rfl

/-- The containers that are ready or ignored. -/
def readyOrIgnored : List Container :=
  let ready := (getReadyForClusterCreateContainers r).1
  r.containers.filter fun c => c ∈ ready.getAll ∨ c ∈ ready.ignored

/-- No container is both ready and ignored, and the count is over both. -/
structure CountsOnce : Prop where
  disjoint : ∀ c ∈ (getReadyForClusterCreateContainers r).1.getAll, c ∉ (getReadyForClusterCreateContainers r).1.ignored
  enough : (initialContainersReady consts r).1 = .ok () →
    expectedContainersNum consts r.cluster ≤ (readyOrIgnored r).length
  covered : ∀ passed, (formCluster r).1 = some passed → ∀ c ∈ passed,
    containerHasDevicesInSubnets ipIsInSubnet c r.cluster.deviceSubnets = true

variable {r}
variable {c : Container}

theorem mem_ready_iff : c ∈ (getReadyForClusterCreateContainers r).1.getAll ↔
    c ∈ r.containers ∧ c.isReady = true ∧ (c.mode = .drive ∨ c.mode = .compute) := by
  rw [getReady_eq, collect_eq, ReadyForClusterizationContainers.getAll]
  simp only [mem_append, mem_filter, and_eq_true, decide_eq_true_eq]
  tauto

theorem mem_ignored_iff : c ∈ (getReadyForClusterCreateContainers r).1.ignored ↔
    c ∈ r.containers ∧ isIgnored ipIsInSubnet r.cluster c = true := by
  rw [getReady_eq, collect_eq, mem_filter]

theorem length_readyOrIgnored
    (disjoint : ∀ c ∈ (getReadyForClusterCreateContainers r).1.getAll, c ∉ (getReadyForClusterCreateContainers r).1.ignored) :
    (readyOrIgnored r).length = (getReadyForClusterCreateContainers r).1.drive.length +
      (getReadyForClusterCreateContainers r).1.compute.length + (getReadyForClusterCreateContainers r).1.ignored.length := by
  have split : (readyOrIgnored r).length = r.containers.countP fun c =>
      ((c.isReady && c.mode = .drive) || (c.isReady && c.mode = .compute)) || isIgnored ipIsInSubnet r.cluster c := by
    rw [readyOrIgnored, ← countP_eq_length_filter]
    refine countP_congr fun c mem => ?_
    simp [mem_ready_iff, mem_ignored_iff, mem, ← and_or_distrib_left]
  rw [split, countP_or_of_disjoint, countP_or_of_disjoint, getReady_eq, collect_eq]
  · simp only [← countP_eq_length_filter]
  · intro c _ drive compute
    simp only [and_eq_true, decide_eq_true_eq] at drive compute
    exact absurd (drive.2.symm.trans compute.2) (by decide)
  · intro c mem ready ignored
    refine disjoint c (mem_ready_iff.mpr ⟨mem, ?_⟩) (mem_ignored_iff.mpr ⟨mem, ignored⟩)
    simpa [← and_or_distrib_left] using ready

theorem initialContainersReady_ok (h : (initialContainersReady consts r).1 = .ok ()) :
    expectedContainersNum consts r.cluster ≤ (getReadyForClusterCreateContainers r).1.drive.length +
      (getReadyForClusterCreateContainers r).1.compute.length + (getReadyForClusterCreateContainers r).1.ignored.length := by
  simp only [initialContainersReady, getReady_cluster] at h
  have h := (ite_error_eq_ok.mp (ite_error_eq_ok.mp (ite_error_eq_ok.mp h).2).2).1
  omega

theorem formCluster_passed {passed : List Container} (h : (formCluster r).1 = some passed) :
    passed = (getReadyForClusterCreateContainers r).1.getAll := by
  unfold formCluster at h
  split at h
  · exact (Option.some.inj h).symm
  · cases h

/-- Formation counts each container once exactly if every running drive and compute container has devices in the
    configured subnets: one without them is ignored and, all the same, ready. -/
theorem countsOnce_iff (r : Loop ipIsInSubnet) : CountsOnce consts r ↔
    ∀ c ∈ r.containers, c.deleting = false → c.status = .running → c.mode = .drive ∨ c.mode = .compute →
      containerHasDevicesInSubnets ipIsInSubnet c r.cluster.deviceSubnets = true := by
  constructor
  · intro once c mem alive running mode
    by_contra outside
    rw [not_eq_true] at outside
    have ready : c.isReady = true := by simp [Container.isReady, alive, running]
    refine once.disjoint c (mem_ready_iff.mpr ⟨mem, ready, mode⟩) (mem_ignored_iff.mpr ⟨mem, ?_⟩)
    simp [isIgnored, outsideSubnets, ready, outside]
  · intro inside
    have covered : ∀ c ∈ (getReadyForClusterCreateContainers r).1.getAll,
        containerHasDevicesInSubnets ipIsInSubnet c r.cluster.deviceSubnets = true := by
      intro c mem
      obtain ⟨mem, ready, mode⟩ := mem_ready_iff.mp mem
      simp only [Container.isReady, and_eq_true, not_eq_true', decide_eq_true_eq] at ready
      exact inside c mem ready.1 ready.2 mode
    have disjoint : ∀ c ∈ (getReadyForClusterCreateContainers r).1.getAll,
        c ∉ (getReadyForClusterCreateContainers r).1.ignored := by
      intro c mem ignored
      obtain ⟨-, ready, -⟩ := mem_ready_iff.mp mem
      obtain ⟨-, ignored⟩ := mem_ignored_iff.mp ignored
      simp_all [isIgnored, outsideSubnets, Container.isReady]
    refine ⟨disjoint, fun gate => ?_, fun passed h c mem => covered c (formCluster_passed h ▸ mem)⟩
    rw [length_readyOrIgnored disjoint]
    exact_mod_cast initialContainersReady_ok consts gate

end Counted

end

def fiveAndFive : Loop fun ip subnet => ip = "10.0.0.5" && subnet = "10.0.0.0/24" where
  cluster := { deviceSubnets := ["10.0.0.0/24"], dynamicTemplate := { driveContainers := 6, computeContainers := 5 } }
  containers :=
    { name := "drive-0", mode := .drive, status := .running, managementIP := "10.1.0.5" } ::
    (["drive-1", "drive-2", "drive-3", "drive-4"].map fun name =>
      { name, mode := .drive, status := .running, managementIP := "10.0.0.5" }) ++
    ["compute-0", "compute-1", "compute-2", "compute-3", "compute-4"].map fun name =>
      { name, mode := .compute, status := .running, managementIP := "10.0.0.5" }

/-- It is counted twice, so the gate opens with ten containers where eleven are expected, and weka gets it. -/
theorem fiveAndFive_counted_twice :
    (initialContainersReady {} fiveAndFive).1 = .ok () ∧ (readyOrIgnored fiveAndFive).length = 10 ∧
      expectedContainersNum {} fiveAndFive.cluster = 11 ∧
      (formCluster fiveAndFive).1.any (·.any fun c => c ∈ (getReadyForClusterCreateContainers fiveAndFive).1.ignored) = true ∧
      ¬CountsOnce {} fiveAndFive := by
  have passes : (initialContainersReady {} fiveAndFive).1 = .ok () ∧ (readyOrIgnored fiveAndFive).length = 10 ∧
      expectedContainersNum {} fiveAndFive.cluster = 11 ∧
      (formCluster fiveAndFive).1.any (·.any fun c =>
        c ∈ (getReadyForClusterCreateContainers fiveAndFive).1.ignored) = true := by
    decide +kernel
  obtain ⟨gate, ten, eleven, passed⟩ := passes
  refine ⟨gate, ten, eleven, passed, fun once => ?_⟩
  have enough := once.enough gate
  omega

end WekaOperator.Containers.Formation
