import WekaOperator.Containers.Cluster

/-! What the pod of a container requests (`setResources` in `pod.go`): CPU by the policy, memory by the mode,
    hugepages from the spec, and then whatever `spec.resources` names. -/

namespace WekaOperator.Containers
open Option Lib Planner

/-- A mebibyte. -/
def mib : Int := 1024 * 1024

/-- CPU in thousandths, the rest in bytes. -/
structure ResourceList where
  cpu : Int := 0
  memory : Int := 0
  hugepages2Mi : Int := 0
  hugepages1Gi : Int := 0
  deriving DecidableEq, Repr

/-- Limits and requests. -/
structure ResourceRequirements where
  limits : ResourceList
  requests : ResourceList
  deriving DecidableEq, Repr

/-- Why there is no pod. -/
inductive PodError
  /-- invalid CPU policy: %s -/
  | invalidCPUPolicy (policy : CpuPolicy)
  | manualWithoutCoreIds
  deriving DecidableEq, Repr

/-- The policies that exist. -/
def cpuPolicyIsValid : CpuPolicy → Bool
  | .auto | .shared | .dedicated | .dedicatedHT | .manual => true
  | .unset | .other => false

/-- The hugepages of the spec. -/
def Spec.hugepagesMiB (s : Spec) : Int :=
  if s.hugepages1Gi then s.hugepages else s.namedHugepages2MiMiB.getD s.hugepages

/-- The same as a request. -/
def Spec.hugepagesRequest (s : Spec) : ResourceList :=
  if s.hugepages1Gi then { hugepages1Gi := s.hugepagesMiB.tdiv 1000 * (1024 * mib) }
  else { hugepages2Mi := s.hugepagesMiB * mib }

/-! ### CPU and memory -/

/-- CPU and memory on the way to the pod. -/
structure Sizing where
  cpuRequest : Int
  cpuLimit : Int
  memRequest : Int
  memLimit : Option Int := none
  deriving DecidableEq, Repr

namespace Spec
variable (s : Spec)

/-- The resources set by the user. -/
def resourcesOrEmpty : PodResourcesSpec := s.resources.getD {}

/-- The cores with the extra ones. -/
def totalNumCores : Int := if supportsExtraCores s.mode.forCPU then s.numCores + s.extraCores else s.numCores

/-- CPU request and limit by the policy. -/
def cpuByPolicy (policy : CpuPolicy) (topo : NodeCPUTopology) : Int × Int :=
  match policy with
  | .dedicatedHT | .dedicated =>
    let cores := cpuRequestCores { s.forCPU with cpuPolicy := policy } topo
    (1000 * cores, 1000 * cores)
  | .manual =>
    if s.resourcesOrEmpty.limits.cpu = 0 then (1000 * s.totalNumCores + 100, 1000 * (s.totalNumCores + 1))
    else (s.resourcesOrEmpty.requests.cpu, s.resourcesOrEmpty.limits.cpu)
  | .shared => (s.resourcesOrEmpty.requests.cpu, s.resourcesOrEmpty.limits.cpu)
  | .unset | .auto | .other => (0, 0)

/-- The memory of a protocol container. -/
def gatewayMemory (serviceMemory : Int) : Int :=
  (450 + 2450 + serviceMemory + (2850 + 200) * s.numCores + s.additionalMemory) * mib

/-- The memory of data services. -/
def dataServicesMemory : Int :=
  let total := 450 + 2450 + 4096 * s.numCores + s.additionalMemory
  (if s.dataServicesFeCores > 0 then total + (2850 + 200) * s.dataServicesFeCores + 24576 else total) * mib

/-- The sizing of each mode. -/
def sizeByMode (z : Sizing) : Sizing :=
  let z := if s.mode.isDriversContainer then
      { z with cpuRequest := 500, cpuLimit := 2000
               memRequest := 3000 * 10 ^ 6 + if s.additionalMemory ≠ 0 then s.additionalMemory * mib else 0 }
    else z
  let z := if s.mode = .driversBuilder ∨ s.mode = .dist then { z with cpuLimit := 16000 } else z
  let z := if s.mode = .discovery then { z with cpuRequest := 500, cpuLimit := 500, memRequest := 500 * 10 ^ 6 } else z
  let z := if s.mode = .ssdProxy then
      { cpuRequest := 500, cpuLimit := 2000, memRequest := 2500 * 10 ^ 6, memLimit := some (7500 * 10 ^ 6) }
    else z
  let z := if s.mode = .client then
      if s.resourcesOrEmpty.requests.memory = 0 then
        { z with memRequest := (2000 + 1965 + 3050 * s.numCores + s.additionalMemory) * mib }
      else { z with
        memRequest := s.resourcesOrEmpty.requests.memory
        memLimit := if s.resourcesOrEmpty.limits.memory = 0 then z.memLimit else some s.resourcesOrEmpty.limits.memory }
    else z
  let z := if s.mode = .drive then
      { z with memRequest := (4000 + 4000 + 3000 * s.totalNumCores + 700 * s.numDrives + s.additionalMemory) * mib }
    else z
  let z := if s.mode = .compute then
      { z with memRequest := (4000 + 2700 + 5200 * s.totalNumCores + s.additionalMemory) * mib }
    else z
  let z := if s.mode = .s3 then { z with memRequest := s.gatewayMemory 16000 } else z
  let z := if s.mode = .nfs then { z with memRequest := s.gatewayMemory 16000 } else z
  let z := if s.mode = .smbw then { z with memRequest := s.gatewayMemory 28000 } else z
  let z := if s.mode = .dataServices then { z with memRequest := s.dataServicesMemory } else z
  let z := if s.mode = .envoy then
      { z with memRequest := (1024 + s.additionalMemory) * mib
               memLimit := some ((1024 + s.additionalMemory + 8192) * mib) }
    else z
  let z := if s.mode = .telemetry then
      { cpuRequest := 1000, cpuLimit := 4000, memRequest := 4096 * mib, memLimit := some (32768 * mib) }
    else z
  if s.mode.isAdhocOpContainer then
    { cpuRequest := 100, cpuLimit := 4000, memRequest := 128 * mib, memLimit := some (16384 * mib) }
  else z

end Spec

/-! ### The request -/

/-- What the user sets goes before; one of request and limit stands for both. -/
def overridden (request limit : Int) (computed : Int × Int) : Int × Int :=
  if request = 0 ∧ limit = 0 then computed
  else (if request = 0 then limit else request, if limit = 0 then request else limit)

/-- The same for all resources. -/
def applyResourcesOverride (target : ResourceRequirements) : Option PodResourcesSpec → ResourceRequirements
  | none => target
  | some o =>
    let cpu := overridden o.requests.cpu o.limits.cpu (target.requests.cpu, target.limits.cpu)
    let memory := overridden o.requests.memory o.limits.memory (target.requests.memory, target.limits.memory)
    let hugepages := overridden o.requests.hugepages2Mi o.limits.hugepages2Mi
      (target.requests.hugepages2Mi, target.limits.hugepages2Mi)
    { requests := { target.requests with cpu := cpu.1, memory := memory.1, hugepages2Mi := hugepages.1 }
      limits := { target.limits with cpu := cpu.2, memory := memory.2, hugepages2Mi := hugepages.2 } }

/-- The resources of a container's pod. -/
def setResources (s : Spec) (topo : NodeCPUTopology) : Except PodError ResourceRequirements :=
  if !cpuPolicyIsValid s.cpuPolicy then .error (.invalidCPUPolicy s.cpuPolicy) else
  let policy := resolveCPUPolicy s.cpuPolicy topo.isHt
  if policy = .manual ∧ s.coreIds = [] then .error .manualWithoutCoreIds else
  let (cpuRequest, cpuLimit) := s.cpuByPolicy policy topo
  let z := s.sizeByMode { cpuRequest, cpuLimit, memRequest := 7000 * mib }
  let hugepages := if s.mode.isAdhocOpContainer then {} else s.hugepagesRequest
  .ok (applyResourcesOverride
    { requests := { hugepages with cpu := z.cpuRequest, memory := z.memRequest }
      limits := { hugepages with cpu := z.cpuLimit, memory := z.memLimit.getD z.memRequest } }
    s.resources)

/-- The drives a pod asks for. -/
structure DriveResources where
  drives : Option Int := none
  sharedDrivesCapacity : Option Int := none
  sharedDrivesCapacityQLC : Option Int := none

/-- What `setResources` requests of the drives. -/
def driveResources (c : WekaContainer) (int : Int → Int := id) : DriveResources :=
  if c.spec.mode ≠ .drive then {}
  else if !c.usesDriveSharing then { drives := some c.spec.numDrives }
  else if c.hasContainerCapacity then
    let (tlcCapacity, qlcCapacity) := getTlcQlcCapacity c.spec.containerCapacity c.spec.driveTypesRatio int
    { sharedDrivesCapacity := if tlcCapacity > 0 then some tlcCapacity else none
      sharedDrivesCapacityQLC := if qlcCapacity > 0 then some qlcCapacity else none }
  else { sharedDrivesCapacity := some (int (c.spec.numDrives * c.spec.driveCapacity)) }

/-! ### The request in closed form -/

namespace Spec
variable (s : Spec)

/-- What the user sets for a resource. -/
def named (amount : Quantities → Int) : Option Int := s.resources.bind fun r =>
  if amount r.requests = 0 ∧ amount r.limits = 0 then none
  else some (if amount r.requests = 0 then amount r.limits else amount r.requests)

/-- The CPU of modes that are not sized by cores. -/
def fixedCPU : Option Int :=
  if s.mode.isAdhocOpContainer then some 100
  else if s.mode = .telemetry then some 1000
  else if s.mode.isDriversContainer ∨ s.mode = .discovery ∨ s.mode = .ssdProxy then some 500
  else none

/-- The memory request of each mode. -/
def memoryByMode : Int :=
  match s.mode with
  | .drive => (8000 + 3000 * (s.numCores + s.extraCores) + 700 * s.numDrives + s.additionalMemory) * mib
  | .compute => (6700 + 5200 * (s.numCores + s.extraCores) + s.additionalMemory) * mib
  | .client => (3965 + 3050 * s.numCores + s.additionalMemory) * mib
  | .s3 | .nfs => (18900 + 3050 * s.numCores + s.additionalMemory) * mib
  | .smbw => (30900 + 3050 * s.numCores + s.additionalMemory) * mib
  | .dataServices => s.dataServicesMemory
  | .envoy => (1024 + s.additionalMemory) * mib
  | .telemetry => 4096 * mib
  | .dist | .driversDist | .driversBuilder => 3000 * 10 ^ 6 + s.additionalMemory * mib
  | .driversLoader | .adhocOp | .adhocOpWC => 128 * mib
  | .discovery => 500 * 10 ^ 6
  | .ssdProxy => 2500 * 10 ^ 6
  | .dataServicesFe => 7000 * mib

/-- The hugepages without the user's. -/
def own2MiHugepages : Int := if s.mode.isAdhocOpContainer ∨ s.hugepages1Gi then 0 else s.hugepages * mib

/-- The requests of the pod in closed form. -/
structure Requests (topo : NodeCPUTopology) (requests : ResourceList) : Prop where
  cpu : requests.cpu =
    (s.named (·.cpu)).getD (s.fixedCPU.getD (s.cpuByPolicy (resolveCPUPolicy s.cpuPolicy topo.isHt) topo).1)
  memory : requests.memory = (s.named (·.memory)).getD s.memoryByMode
  hugepages : requests.hugepages2Mi = (s.named (·.hugepages2Mi)).getD s.own2MiHugepages

theorem named_eq_none {amount : Quantities → Int} (unset : amount {} = 0) : s.named amount = none ↔
    amount s.resourcesOrEmpty.requests = 0 ∧ amount s.resourcesOrEmpty.limits = 0 := by
  unfold named resourcesOrEmpty
  cases s.resources with
  | none => simp [unset]
  | some r => simp

theorem named_eq_some {amount : Quantities → Int} {q : Int} (h : s.named amount = some q) :
    q = if amount s.resourcesOrEmpty.requests = 0 then amount s.resourcesOrEmpty.limits
      else amount s.resourcesOrEmpty.requests := by
  unfold named at h
  unfold resourcesOrEmpty
  cases hr : s.resources with
  | none =>
    rw [hr] at h
    cases h
  | some r =>
    rw [hr, bind_some] at h
    split at h
    · cases h
    · exact (some.inj h).symm

theorem namedHugepages2MiMiB_eq : s.namedHugepages2MiMiB = (s.named (·.hugepages2Mi)).map (·.tdiv mib) := by
  unfold namedHugepages2MiMiB named
  cases s.resources with
  | none => rfl
  | some r =>
    simp only [bind_some]
    by_cases h : r.requests.hugepages2Mi = 0
    · by_cases hl : r.limits.hugepages2Mi = 0 <;> simp [h, hl, mib]
    · simp [h, mib]

end Spec

theorem applyResourcesOverride_requests (target : ResourceRequirements) (s : Spec) :
    (applyResourcesOverride target s.resources).requests =
      { target.requests with
        cpu := (s.named (·.cpu)).getD target.requests.cpu
        memory := (s.named (·.memory)).getD target.requests.memory
        hugepages2Mi := (s.named (·.hugepages2Mi)).getD target.requests.hugepages2Mi } := by
  have pick : ∀ a b : Int, ∀ c : Int × Int, (overridden a b c).1 =
      (if a = 0 ∧ b = 0 then none else some (if a = 0 then b else a)).getD c.1 := by
    intro a b c
    unfold overridden
    split <;> rfl
  unfold Spec.named
  cases s.resources with
  | none => rfl
  | some o =>
    simp only [applyResourcesOverride, bind_some, pick]

section Sized
variable (s : Spec) (z : Sizing)

theorem sizeByMode_cpu : (s.sizeByMode z).cpuRequest = s.fixedCPU.getD z.cpuRequest := by
  unfold Spec.sizeByMode Spec.fixedCPU
  cases s.mode with
  | client =>
    -- The one mode whose memory depends on `spec.resources`; its CPU does not.
    simp only [Mode.isDriversContainer, Mode.isAdhocOpContainer]
    by_cases h : s.resourcesOrEmpty.requests.memory = 0 <;> simp [h]
  | _ => rfl

theorem sizeByMode_memory (hz : z.memRequest = 7000 * mib) (unnamed : s.resourcesOrEmpty.requests.memory = 0) :
    (s.sizeByMode z).memRequest = s.memoryByMode := by
  have additional : (if s.additionalMemory ≠ 0 then s.additionalMemory * mib else 0) = s.additionalMemory * mib := by
    split
    · rfl
    · rename_i h
      rw [not_not.mp h, Int.zero_mul]
  unfold Spec.sizeByMode Spec.memoryByMode
  cases hmode : s.mode <;> simp [Mode.isDriversContainer, Mode.isAdhocOpContainer, unnamed, hz, Spec.totalNumCores,
    Spec.gatewayMemory, hmode, Mode.forCPU, supportsExtraCores, isDataCoreMode, -ite_not, additional]

end Sized

theorem setResources_isOk (s : Spec) (topo : NodeCPUTopology) : (setResources s topo).isOk = true ↔
    cpuPolicyIsValid s.cpuPolicy = true ∧ (s.cpuPolicy = .manual → s.coreIds ≠ []) := by
  unfold setResources
  cases s.cpuPolicy <;> cases topo.isHt <;> by_cases h : s.coreIds = [] <;>
    simp [cpuPolicyIsValid, resolveCPUPolicy, h, Except.isOk, Except.toBool]

theorem setResources_ok {s : Spec} {topo : NodeCPUTopology} {res : ResourceRequirements}
    (h : setResources s topo = .ok res) : s.Requests topo res.requests := by
  unfold setResources at h
  split at h
  · cases h
  dsimp only at h
  split at h
  · cases h
  obtain rfl := Except.ok.inj h
  rw [applyResourcesOverride_requests]
  refine ⟨?_, ?_, ?_⟩
  · dsimp only
    rw [sizeByMode_cpu]
  · dsimp only
    cases hnamed : s.named (·.memory) with
    | some q => rfl
    | none =>
      have unnamed : s.resourcesOrEmpty.requests.memory = 0 := ((s.named_eq_none rfl).mp hnamed).1
      rw [getD_none, getD_none, sizeByMode_memory s _ rfl unnamed]
  · dsimp only
    cases hnamed : s.named (·.hugepages2Mi) with
    | some q => rfl
    | none =>
      have unnamed : s.namedHugepages2MiMiB = none := by rw [Spec.namedHugepages2MiMiB_eq, hnamed, map_none]
      rw [getD_none, getD_none, Spec.own2MiHugepages]
      cases s.mode.isAdhocOpContainer <;> cases hgi : s.hugepages1Gi <;>
        simp [Spec.hugepagesRequest, Spec.hugepagesMiB, unnamed, hgi]

end WekaOperator.Containers
