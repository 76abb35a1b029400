import WekaOperator.Containers.Pod

/-! What the inventory charges each node for the containers on it (`aggregateContainerResources` in `collect.go`),
    against what their pods request. -/

namespace WekaOperator.Containers
open List Option Lib Planner Spec

/-! ### The charge of a container -/

/-- What containers take of a node. -/
structure NodeCharge where
  tlc : Int := 0
  qlc : Int := 0
  cores : Int := 0
  hugepages : Int := 0
  memory : Int := 0
  deriving DecidableEq, Repr

/-- Both together. -/
def NodeCharge.add (a b : NodeCharge) : NodeCharge where
  tlc := a.tlc + b.tlc
  qlc := a.qlc + b.qlc
  cores := a.cores + b.cores
  hugepages := a.hugepages + b.hugepages
  memory := a.memory + b.memory

/-- The 2Mi hugepages of a spec. -/
def spec2MiHugepages (s : Spec) : Int :=
  match s.namedHugepages2MiMiB with
  | some mib => mib
  | none => if s.hugepages ≤ 0 ∨ s.hugepages1Gi then 0 else s.hugepages

/-- Memory of a container with so many cores. -/
def computeMemoryFootprintMiB (cores : Int) (cons : CapacityConstraints) : Int :=
  cons.memoryBaseMiB + cores * cons.memoryPerCoreMiB

/-- Both by the spec. -/
def specHugepagesAndMemoryMiB (s : Spec) (cons : CapacityConstraints) : Int × Int :=
  (spec2MiHugepages s, computeMemoryFootprintMiB s.numCores cons)

/-- Both by the capacities. -/
def requiredDriveResources (tlcGiB qlcGiB numDrives : Int) (cons : CapacityConstraints) : Int × Int :=
  let cores := requiredDriveCores tlcGiB qlcGiB cons
  (driveContainerHugepagesMiB cores numDrives cons, computeMemoryFootprintMiB cores cons)

/-- What a container takes of its node. -/
def containerCharge (c : WekaContainer) (cons : CapacityConstraints) (topo : NodeCPUTopology) : NodeCharge :=
  let cpu := cpuRequestCores c.spec.forCPU topo
  match c.spec.mode with
  | .drive =>
    if !c.usesDriveSharing then
      let (hugepages, memory) := specHugepagesAndMemoryMiB c.spec cons
      { cores := cpu, hugepages, memory }
    else
      let (t, q) := driveContainerCapacities c.spec
      let (hugepages, memory) := requiredDriveResources t q c.spec.numDrives cons
      { tlc := t, qlc := q, cores := cpu, hugepages, memory }
  | .compute =>
    let (hugepages, memory) := specHugepagesAndMemoryMiB c.spec cons
    { cores := cpu, hugepages, memory }
  | _ => { cores := cpu, hugepages := spec2MiHugepages c.spec }

/-! ### The charge of a node -/

/-- By node. -/
abbrev NodeResources := NameMap NodeCharge

/-- What is charged to a node. -/
def NodeResources.of (res : NodeResources) (node : String) : NodeCharge := (res.lookup node).getD {}

/-- The topology of a node. -/
def topoOf (topos : NameMap NodeCPUTopology) (node : String) : NodeCPUTopology := (topos.lookup node).getD { isHt := false }

/-- The container stays and is on a node. -/
def WekaContainer.counts (c : WekaContainer) : Bool := !c.markedForDeletion && c.nodeAffinity ≠ ""

/-- What the containers take of their nodes. -/
def aggregateContainerResources (containers : List WekaContainer) (cons : CapacityConstraints)
    (topos : NameMap NodeCPUTopology) : NodeResources × List String :=
  containers.foldl (fun (res, charged) c =>
    if c.markedForDeletion then (res, charged)
    else if c.nodeAffinity = "" then (res, charged)
    else (res.insert c.nodeAffinity
        ((NodeResources.of res c.nodeAffinity).add (containerCharge c cons (topoOf topos c.nodeAffinity))),
      charged ++ [c.name])) (∅, [])

section Aggregate
variable (containers : List WekaContainer) (cons : CapacityConstraints) (topos : NameMap NodeCPUTopology)

theorem aggregateContainerResources_snoc (c : WekaContainer) (node : String) :
    NodeResources.of (aggregateContainerResources (containers ++ [c]) cons topos).1 node =
      if c.counts = true ∧ c.nodeAffinity = node then
        (NodeResources.of (aggregateContainerResources containers cons topos).1 node).add
          (containerCharge c cons (topoOf topos node))
      else NodeResources.of (aggregateContainerResources containers cons topos).1 node := by
  unfold aggregateContainerResources WekaContainer.counts
  rw [foldl_append, foldl_cons, foldl_nil]
  generalize containers.foldl _ _ = acc
  obtain ⟨res, charged⟩ := acc
  by_cases hdel : c.markedForDeletion = true
  · simp [hdel]
  by_cases hnode : c.nodeAffinity = ""
  · simp [hdel, hnode]
  simp only [hdel, hnode, Bool.false_eq_true, if_false, NodeResources.of, lookup_insert_eq]
  by_cases heq : c.nodeAffinity = node
  · subst heq
    simp [hnode]
  · simp [heq, Ne.symm heq]

theorem aggregateContainerResources_sum {f : NodeCharge → Int} (zero : f {} = 0) (add : ∀ a b, f (a.add b) = f a + f b)
    (node : String) : f (NodeResources.of (aggregateContainerResources containers cons topos).1 node) =
      ((containers.filter fun c => c.counts ∧ c.nodeAffinity = node).map fun c =>
        f (containerCharge c cons (topoOf topos node))).sum := by
  induction containers using List.reverseRecOn with
  | nil => exact zero
  | append_singleton cs c ih =>
    rw [aggregateContainerResources_snoc, filter_append, map_append, sum_append, ← ih]
    by_cases h : c.counts = true ∧ c.nodeAffinity = node
    · simp [h, add]
    · simp [h]

end Aggregate

/-! ### The charge against the requests -/

/-- What the pod of a container requests. -/
def podRequests (c : WekaContainer) (topo : NodeCPUTopology) : ResourceList :=
  match setResources c.spec topo with
  | .ok res => res.requests
  | .error _ => {}

/-- The charge of a node covers what its pods request. -/
structure ChargesRequests (containers : List WekaContainer) (cons : CapacityConstraints) (topos : NameMap NodeCPUTopology)
    (node : String) (topo : NodeCPUTopology) : Prop where
  cpu : ((containers.filter (·.nodeAffinity = node)).map fun c => (podRequests c topo).cpu).sum ≤
    1000 * (NodeResources.of (aggregateContainerResources containers cons topos).1 node).cores
  hugepages : ((containers.filter (·.nodeAffinity = node)).map fun c => (podRequests c topo).hugepages2Mi).sum ≤
    (NodeResources.of (aggregateContainerResources containers cons topos).1 node).hugepages * mib
  memory : ((containers.filter (·.nodeAffinity = node)).map fun c => (podRequests c topo).memory).sum ≤
    (NodeResources.of (aggregateContainerResources containers cons topos).1 node).memory * mib

namespace Spec
variable (s : Spec)

/-- The CPUs under a dedicated policy. -/
def dedicatedCores (policy : CpuPolicy) (topo : NodeCPUTopology) : Int :=
  let extra := if supportsExtraCores s.mode.forCPU then s.extraCores else 0
  roundFullPcpus (if s.mode = .envoy then s.numCores
    else if policy = .dedicatedHT then 2 * s.numCores + extra + 1 else s.numCores + extra + 1) topo

/-- The charge covers the CPU request. -/
def CPUCovered (topo : NodeCPUTopology) : Prop :=
  let covers (cores : Int) : Prop :=
    match s.named (·.cpu) with
    | some q => q ≤ 1000 * cores
    | none => s.fixedCPU.isSome → 1 ≤ cores
  match resolveCPUPolicy s.cpuPolicy topo.isHt with
  | .manual =>
    if s.resourcesOrEmpty.limits.cpu = 0 then covers (s.totalNumCores + 1)
    else s.resourcesOrEmpty.requests.cpu ≠ 0 ∨ s.resourcesOrEmpty.limits.cpu ≤ 0
  | .shared => s.resourcesOrEmpty.requests.cpu ≠ 0 ∨ s.resourcesOrEmpty.limits.cpu < 0 ∨
      (s.resourcesOrEmpty.limits.cpu = 0 ∧ s.fixedCPU = none)
  | policy => covers (s.dedicatedCores policy topo)

end Spec

namespace WekaContainer
variable (c : WekaContainer) (cons : CapacityConstraints)

/-- A drive container that shares drives. -/
def sharesDrives : Bool := c.spec.mode = .drive && c.usesDriveSharing

/-- The cores its capacities need. -/
def capacityCores : Int :=
  requiredDriveCores (driveContainerCapacities c.spec).1 (driveContainerCapacities c.spec).2 cons

/-- The charge covers the hugepages. -/
def HugepagesCovered : Prop :=
  if c.sharesDrives then (c.spec.named (·.hugepages2Mi)).getD c.spec.own2MiHugepages ≤
    driveContainerHugepagesMiB (c.capacityCores cons) c.spec.numDrives cons * mib
  else ∀ q, c.spec.named (·.hugepages2Mi) = some q → q < 0 ∨ mib ∣ q

/-- The memory that is charged. -/
def chargedMemoryMiB : Int :=
  match c.spec.mode with
  | .drive => cons.memoryBaseMiB + (if c.usesDriveSharing then c.capacityCores cons else c.spec.numCores) * cons.memoryPerCoreMiB
  | .compute => cons.memoryBaseMiB + c.spec.numCores * cons.memoryPerCoreMiB
  | _ => 0

/-- The charge covers the pod's requests. -/
structure Covered (topo : NodeCPUTopology) : Prop where
  cpu : c.spec.CPUCovered topo
  hugepages : c.HugepagesCovered cons
  memory : (c.spec.named (·.memory)).getD c.spec.memoryByMode ≤ c.chargedMemoryMiB cons * mib

/-- The pod of the container can be built. -/
def HasPod (topos : NameMap NodeCPUTopology) : Prop :=
  ∀ topo, topos.lookup c.nodeAffinity = some topo → (setResources c.spec topo).isOk = true

end WekaContainer

section CPU
variable {s : Spec} {topo : NodeCPUTopology}

theorem fixedCPU_bounds {f : Int} (h : s.fixedCPU = some f) : 0 < f ∧ f ≤ 1000 := by
  unfold fixedCPU at h
  split at h
  · cases h
    decide
  split at h
  · cases h
    decide
  split at h
  · cases h
    decide
  · cases h

theorem forCPU_mode_envoy : s.forCPU.mode = .envoy ↔ s.mode = .envoy := by
  unfold forCPU Mode.forCPU
  cases s.mode <;> simp

theorem cpuRequestCores_dedicated {policy : CpuPolicy} (dedicated : policy = .dedicated ∨ policy = .dedicatedHT)
    (h : resolveCPUPolicy s.cpuPolicy topo.isHt = policy) : cpuRequestCores s.forCPU topo = s.dedicatedCores policy topo := by
  unfold cpuRequestCores dedicatedCores
  have hmode : s.forCPU.mode = s.mode.forCPU := rfl
  rw [show s.forCPU.cpuPolicy = s.cpuPolicy from rfl, h, hmode]
  by_cases henvoy : s.mode = .envoy
  · rcases dedicated with rfl | rfl <;> simp [henvoy, Mode.forCPU, supportsExtraCores, isDataCoreMode, forCPU]
  · have : s.mode.forCPU ≠ .envoy := fun e => henvoy (forCPU_mode_envoy.mp e)
    rcases dedicated with rfl | rfl <;> dsimp only <;> congr 1 <;> cases supportsExtraCores s.mode.forCPU <;>
      simp [henvoy, this, forCPU] <;> omega

theorem cpuRequestCores_manual (h : resolveCPUPolicy s.cpuPolicy topo.isHt = .manual) :
    cpuRequestCores s.forCPU topo = if s.resourcesOrEmpty.limits.cpu = 0 then s.totalNumCores + 1
      else ceilDiv s.resourcesOrEmpty.requests.cpu 1000 := by
  unfold cpuRequestCores resourcesOrEmpty
  rw [show s.forCPU.cpuPolicy = s.cpuPolicy from rfl, h]
  cases hr : s.resources with
  | none => simp [forCPU, hr, totalNumCores]
  | some r => by_cases hl : r.limits.cpu = 0 <;> simp [forCPU, hr, hl, totalNumCores]

theorem cpuRequestCores_shared (h : resolveCPUPolicy s.cpuPolicy topo.isHt = .shared) :
    cpuRequestCores s.forCPU topo = ceilDiv s.resourcesOrEmpty.requests.cpu 1000 := by
  unfold cpuRequestCores resourcesOrEmpty
  rw [show s.forCPU.cpuPolicy = s.cpuPolicy from rfl, h]
  cases hr : s.resources with
  | none => simp [forCPU, hr, ceilDiv_of_nonpos]
  | some r => simp [forCPU, hr]

theorem cpuByPolicy_dedicated {policy : CpuPolicy} (h : policy = .dedicatedHT ∨ policy = .dedicated) :
    (s.cpuByPolicy policy topo).1 = 1000 * s.dedicatedCores policy topo := by
  rcases h with rfl | rfl
  · exact congrArg (1000 * ·)
      (@cpuRequestCores_dedicated { s with cpuPolicy := .dedicatedHT } topo _ (.inr rfl) (by simp [resolveCPUPolicy]))
  · exact congrArg (1000 * ·)
      (@cpuRequestCores_dedicated { s with cpuPolicy := .dedicated } topo _ (.inl rfl) (by simp [resolveCPUPolicy]))

theorem covers_iff {cores own : Int} (hown : own ≤ 1000 * cores) :
    (s.named (·.cpu)).getD (s.fixedCPU.getD own) ≤ 1000 * cores ↔
      match s.named (·.cpu) with
      | some q => q ≤ 1000 * cores
      | none => s.fixedCPU.isSome → 1 ≤ cores := by
  cases s.named (·.cpu) with
  | some q => rfl
  | none =>
    cases hf : s.fixedCPU with
    | none => simpa using hown
    | some f =>
      have := fixedCPU_bounds hf
      simp only [getD_none, getD_some, isSome_some, true_implies]
      omega

theorem ceil_covers_iff {q : Int} (h : s.named (·.cpu) = some q) :
    q ≤ 1000 * ceilDiv s.resourcesOrEmpty.requests.cpu 1000 ↔
      s.resourcesOrEmpty.requests.cpu ≠ 0 ∨ s.resourcesOrEmpty.limits.cpu ≤ 0 := by
  rw [s.named_eq_some h]
  by_cases hreq : s.resourcesOrEmpty.requests.cpu = 0
  · simp [hreq, ceilDiv_of_nonpos]
  · have := le_ceilDiv_mul s.resourcesOrEmpty.requests.cpu (b := 1000) (by decide)
    rw [if_neg hreq]
    exact iff_of_true (by omega) (.inl hreq)

theorem resolveCPUPolicy_valid (valid : cpuPolicyIsValid s.cpuPolicy = true) :
    resolveCPUPolicy s.cpuPolicy topo.isHt ∈ [.dedicatedHT, .dedicated, .manual, .shared] := by
  cases h : s.cpuPolicy <;> cases topo.isHt <;> simp [h, cpuPolicyIsValid, resolveCPUPolicy] at valid ⊢

theorem cpuCovered_iff (valid : cpuPolicyIsValid s.cpuPolicy = true) :
    (s.named (·.cpu)).getD (s.fixedCPU.getD (s.cpuByPolicy (resolveCPUPolicy s.cpuPolicy topo.isHt) topo).1) ≤
      1000 * cpuRequestCores s.forCPU topo ↔ s.CPUCovered topo := by
  have hresolve := @resolveCPUPolicy_valid s topo valid
  unfold Spec.CPUCovered
  generalize hpolicy : resolveCPUPolicy s.cpuPolicy topo.isHt = policy at hresolve ⊢
  cases policy with
  | dedicatedHT =>
    rw [cpuRequestCores_dedicated (.inr rfl) hpolicy]
    exact covers_iff (cpuByPolicy_dedicated (.inl rfl)).le
  | dedicated =>
    rw [cpuRequestCores_dedicated (.inl rfl) hpolicy]
    exact covers_iff (cpuByPolicy_dedicated (.inr rfl)).le
  | manual =>
    rw [cpuRequestCores_manual hpolicy]
    by_cases hlimit : s.resourcesOrEmpty.limits.cpu = 0
    · have hown : (s.cpuByPolicy .manual topo).1 ≤ 1000 * (s.totalNumCores + 1) := by
        simp only [cpuByPolicy, if_pos hlimit]
        omega
      simp only [if_pos hlimit]
      exact covers_iff hown
    · simp only [if_neg hlimit]
      cases hnamed : s.named (·.cpu) with
      | none => exact absurd ((s.named_eq_none rfl).mp hnamed).2 hlimit
      | some q => exact ceil_covers_iff hnamed
  | shared =>
    rw [cpuRequestCores_shared hpolicy]
    cases hnamed : s.named (·.cpu) with
    | none =>
      obtain ⟨hreq, hlimit⟩ := (@Spec.named_eq_none s (·.cpu) rfl).mp hnamed
      cases hf : s.fixedCPU with
      | none => simp [hreq, hlimit, cpuByPolicy, ceilDiv_of_nonpos]
      | some f =>
        have := fixedCPU_bounds hf
        simp [hreq, hlimit, ceilDiv_of_nonpos]
        omega
    | some q =>
      have hne : ¬(s.resourcesOrEmpty.requests.cpu = 0 ∧ s.resourcesOrEmpty.limits.cpu = 0) := fun h => by
        rw [(s.named_eq_none rfl).mpr h] at hnamed
        cases hnamed
      rw [getD_some, ceil_covers_iff hnamed]
      constructor
      · rintro (h | h)
        · exact .inl h
        · by_cases hreq : s.resourcesOrEmpty.requests.cpu = 0
          · exact .inr (.inl (lt_of_le_of_ne h fun e => hne ⟨hreq, e⟩))
          · exact .inl hreq
      · rintro (h | h | ⟨h, -⟩)
        · exact .inl h
        · exact .inr h.le
        · exact .inr h.le
  | unset => simp at hresolve
  | auto => simp at hresolve
  | other => simp at hresolve

end CPU

section Hugepages
variable {c : WekaContainer} {cons : CapacityConstraints} {topo : NodeCPUTopology}

theorem le_tdiv_mib_iff {q : Int} : q ≤ q.tdiv mib * mib ↔ q < 0 ∨ mib ∣ q := by
  have hsplit := Int.mul_tdiv_add_tmod q mib
  rw [Int.mul_comm] at hsplit
  constructor
  · intro h
    by_cases hneg : q < 0
    · exact .inl hneg
    · have hrem : 0 ≤ q.tmod mib := Int.tmod_nonneg _ (not_lt.mp hneg)
      exact .inr (Int.dvd_of_tmod_eq_zero (by omega))
  · rintro (h | h)
    · have hrem : 0 ≤ (-q).tmod mib := Int.tmod_nonneg _ (by omega)
      rw [Int.neg_tmod] at hrem
      omega
    · have := Int.tmod_eq_zero_of_dvd h
      omega

theorem charge_hugepages : (containerCharge c cons topo).hugepages =
    if c.sharesDrives then driveContainerHugepagesMiB (c.capacityCores cons) c.spec.numDrives cons
    else spec2MiHugepages c.spec := by
  unfold containerCharge WekaContainer.sharesDrives
  cases hmode : c.spec.mode <;> cases hshare : c.usesDriveSharing <;> rfl

theorem charge_memory : (containerCharge c cons topo).memory = c.chargedMemoryMiB cons := by
  unfold containerCharge WekaContainer.chargedMemoryMiB
  cases hmode : c.spec.mode <;> cases hshare : c.usesDriveSharing <;> rfl

theorem charge_cores : (containerCharge c cons topo).cores = cpuRequestCores c.spec.forCPU topo := by
  unfold containerCharge
  cases hmode : c.spec.mode <;> cases hshare : c.usesDriveSharing <;> rfl

theorem hugepagesCovered_iff : (c.spec.named (·.hugepages2Mi)).getD c.spec.own2MiHugepages ≤
    (containerCharge c cons topo).hugepages * mib ↔ c.HugepagesCovered cons := by
  rw [charge_hugepages]
  unfold WekaContainer.HugepagesCovered
  cases c.sharesDrives with
  | true => rfl
  | false =>
    simp only [Bool.false_eq_true, if_false]
    cases hnamed : c.spec.named (·.hugepages2Mi) with
    | some q =>
      rw [spec2MiHugepages, namedHugepages2MiMiB_eq, hnamed]
      simp only [map_some, getD_some, Option.some.injEq, forall_eq']
      exact le_tdiv_mib_iff
    | none =>
      rw [spec2MiHugepages, namedHugepages2MiMiB_eq, hnamed]
      simp only [map_none, getD_none, reduceCtorEq, false_implies, implies_true, iff_true]
      -- What the spec asks for itself is charged, or nothing is asked for.
      have hmib : (0 : Int) < mib := by decide
      have hle : c.spec.own2MiHugepages ≤ max (if c.spec.hugepages1Gi then 0 else c.spec.hugepages) 0 * mib := by
        unfold own2MiHugepages
        have hown := Int.mul_le_mul_of_nonneg_right (le_max_left c.spec.hugepages 0) hmib.le
        have hzero := Int.mul_nonneg (le_max_right c.spec.hugepages 0) hmib.le
        cases c.spec.mode.isAdhocOpContainer <;> cases c.spec.hugepages1Gi <;> simp <;> assumption
      refine hle.trans (le_of_eq ?_)
      cases c.spec.hugepages1Gi <;> by_cases h : c.spec.hugepages ≤ 0 <;> simp [h]
      omega

end Hugepages

theorem covered_iff {c : WekaContainer} {cons : CapacityConstraints} {topo : NodeCPUTopology}
    (built : (setResources c.spec topo).isOk = true) :
    ((podRequests c topo).cpu ≤ 1000 * (containerCharge c cons topo).cores ∧
      (podRequests c topo).hugepages2Mi ≤ (containerCharge c cons topo).hugepages * mib ∧
      (podRequests c topo).memory ≤ (containerCharge c cons topo).memory * mib) ↔ c.Covered cons topo := by
  have valid := ((setResources_isOk c.spec topo).mp built).1
  have hreq : c.spec.Requests topo (podRequests c topo) := by
    unfold podRequests
    cases h : setResources c.spec topo with
    | error e =>
      rw [h] at built
      cases built
    | ok res => exact setResources_ok h
  rw [hreq.cpu, hreq.hugepages, hreq.memory, charge_cores, charge_memory, cpuCovered_iff valid, hugepagesCovered_iff]
  exact ⟨fun ⟨h1, h2, h3⟩ => ⟨h1, h2, h3⟩, fun ⟨h1, h2, h3⟩ => ⟨h1, h2, h3⟩⟩

/-- Whatever running containers are drawn from `P`, each node is charged at least what their pods request of it, if and
    only if the charge of each container of `P` covers its own pod. -/
theorem aggregateContainerResources_covers_iff (P : WekaContainer → Prop) (cons : CapacityConstraints)
    (topos : NameMap NodeCPUTopology) :
    (∀ containers : List WekaContainer, (∀ c ∈ containers, P c ∧ c.counts = true ∧ c.HasPod topos) →
      ∀ node topo, topos.lookup node = some topo → ChargesRequests containers cons topos node topo) ↔
    ∀ c, P c → c.counts = true → c.HasPod topos → ∀ topo, topos.lookup c.nodeAffinity = some topo → c.Covered cons topo := by
  constructor
  · intro sound c hc hcounts hpod topo htopo
    have hof : topoOf topos c.nodeAffinity = topo := by rw [topoOf, htopo, getD_some]
    have hone := sound [c] (fun x hx => mem_singleton.mp hx ▸ ⟨hc, hcounts, hpod⟩) c.nodeAffinity topo htopo
    have hsum : ∀ f : NodeCharge → Int, f {} = 0 → (∀ a b, f (a.add b) = f a + f b) →
        f (NodeResources.of (aggregateContainerResources [c] cons topos).1 c.nodeAffinity) = f (containerCharge c cons topo) := by
      intro f zero add
      rw [aggregateContainerResources_sum [c] cons topos zero add, hof]
      simp [hcounts]
    refine (covered_iff (hpod topo htopo)).mp ⟨?_, ?_, ?_⟩
    · rw [← hsum (·.cores) rfl fun _ _ => rfl]
      simpa using hone.cpu
    · rw [← hsum (·.hugepages) rfl fun _ _ => rfl]
      simpa using hone.hugepages
    · rw [← hsum (·.memory) rfl fun _ _ => rfl]
      simpa using hone.memory
  · intro covered containers hcs node topo htopo
    have hof : topoOf topos node = topo := by rw [topoOf, htopo, getD_some]
    have hfilter : (containers.filter fun c => c.counts ∧ c.nodeAffinity = node) = containers.filter (·.nodeAffinity = node) :=
      filter_congr fun c hc => by simp [(hcs c hc).2.1]
    have heach : ∀ c ∈ containers.filter (·.nodeAffinity = node), (podRequests c topo).cpu ≤ 1000 * (containerCharge c cons topo).cores ∧
        (podRequests c topo).hugepages2Mi ≤ (containerCharge c cons topo).hugepages * mib ∧
        (podRequests c topo).memory ≤ (containerCharge c cons topo).memory * mib := by
      intro c hc
      obtain ⟨hmem, hnode⟩ := mem_filter.mp hc
      obtain rfl := of_decide_eq_true hnode
      obtain ⟨hP, hcounts, hpod⟩ := hcs c hmem
      exact (covered_iff (hpod topo htopo)).mpr (covered c hP hcounts hpod topo htopo)
    refine ⟨?_, ?_, ?_⟩
    · rw [aggregateContainerResources_sum containers cons topos (f := (·.cores)) rfl (fun _ _ => rfl), hfilter, hof,
        ← sum_map_mul_left]
      exact sum_le_sum fun c hc => (heach c hc).1
    · rw [aggregateContainerResources_sum containers cons topos (f := (·.hugepages)) rfl (fun _ _ => rfl), hfilter, hof,
        ← sum_map_mul_right]
      exact sum_le_sum fun c hc => (heach c hc).2.1
    · rw [aggregateContainerResources_sum containers cons topos (f := (·.memory)) rfl (fun _ _ => rfl), hfilter, hof,
        ← sum_map_mul_right]
      exact sum_le_sum fun c hc => (heach c hc).2.2

def plainConfig : Config where
  tlcCapacityPerCoreGiB := 1000
  qlcCapacityPerCoreGiB := 1000

def plainCluster : WekaCluster where
  name := "c"
  dynamicTemplate := some { usesClusterCapacity := true }

def oneNode : NameMap NodeCPUTopology := (∅ : NameMap NodeCPUTopology).insert "n1" { isHt := false }

def oneCore : WekaContainer where
  name := "c1"
  nodeAffinity := "n1"
  spec := { mode := .compute, numCores := 1, hugepages := 3064 }

/-- The pod of a compute container of one core requests 11900 MiB of memory, the inventory charges 11000 for it. -/
theorem aggregateContainerResources_short : oneCore.counts = true ∧ oneCore.HasPod oneNode ∧
    (NodeResources.of (aggregateContainerResources [oneCore] (constraintsForClusterSpec plainConfig plainCluster) oneNode).1
      "n1").memory = 11000 ∧
    (podRequests oneCore (topoOf oneNode "n1")).memory = 11900 * mib ∧
    ¬ChargesRequests [oneCore] (constraintsForClusterSpec plainConfig plainCluster) oneNode "n1" { isHt := false } := by
  have hcharge : (NodeResources.of (aggregateContainerResources [oneCore] (constraintsForClusterSpec plainConfig plainCluster)
      oneNode).1 "n1").memory = 11000 := by decide +kernel
  refine ⟨by decide, fun topo _ => (setResources_isOk _ _).mpr (by decide), hcharge, by decide +kernel, fun h => ?_⟩
  have hmemory := h.memory
  rw [hcharge] at hmemory
  exact absurd hmemory (by decide +kernel)

end WekaOperator.Containers
