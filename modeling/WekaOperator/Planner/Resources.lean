import WekaOperator.Planner.Types

/-! What a drive container costs on a node (`cpu.go`, `cores.go`, `hugepages.go`) and the running per-node budget of
    the planner: `nodeHeadroom` converts what is left to pool capacity, `consume` charges a placement, `unconsume`
    gives it back and `reserveCores` charges pinned surplus cores. -/

namespace WekaOperator.Planner
open Lib

/-! ### Physical CPU -/

/-- What a node's CPUs are like. -/
structure NodeCPUTopology where
  isHt : Bool
  fullPcpusOnly : Bool := false

/-- The modes of a container, as far as its CPUs go. -/
inductive Mode
  | compute | drive | s3 | nfs | smbw | dataServices | client | envoy | other
  deriving DecidableEq, Repr

/-- What the CPU request is computed from. -/
structure ContainerSpec where
  mode : Mode
  cpuPolicy : CpuPolicy
  numCores : Int
  extraCores : Int := 0
  resources : Option (Int × Int) := none

/-- Modes whose cores handle data. -/
def isDataCoreMode : Mode → Bool
  | .compute | .drive | .s3 | .nfs | .smbw | .dataServices => true
  | .client | .envoy | .other => false

/-- Modes that take extra cores. -/
def supportsExtraCores (mode : Mode) : Bool := isDataCoreMode mode || mode == .client

/-- The policy in effect. -/
def resolveCPUPolicy (policy : CpuPolicy) (isHt : Bool) : CpuPolicy :=
  if policy ≠ .auto ∧ policy ≠ .unset then policy else if isHt then .dedicatedHT else .dedicated

/-- Rounded up to whole physical cores. -/
def roundFullPcpus (total : Int) (topo : NodeCPUTopology) : Int :=
  if topo.isHt ∧ topo.fullPcpusOnly ∧ total.tmod 2 ≠ 0 then total + 1 else total

/-- The CPU request of a pod. -/
def cpuRequestCores (spec : ContainerSpec) (topo : NodeCPUTopology) : Int :=
  let totalNumCores := if supportsExtraCores spec.mode then spec.numCores + spec.extraCores else spec.numCores
  match resolveCPUPolicy spec.cpuPolicy topo.isHt with
  | .dedicatedHT =>
    let total := totalNumCores * 2 + 1
    let total := if spec.mode = .envoy then totalNumCores
      else if supportsExtraCores spec.mode then total - spec.extraCores else total
    roundFullPcpus total topo
  | .dedicated => roundFullPcpus (if spec.mode = .envoy then totalNumCores else totalNumCores + 1) topo
  | .manual =>
    match spec.resources with
    | some (limit, request) => if limit ≠ 0 then ceilDiv request 1000 else totalNumCores + 1
    | none => totalNumCores + 1
  | .shared =>
    match spec.resources with
    | some (_, request) => ceilDiv request 1000
    | none => 0
  | .unset | .auto | .other => totalNumCores

/-- CPUs per core and base of a drive container. -/
def cpuModel (policy : CpuPolicy) (topo : NodeCPUTopology) : Int × Int :=
  let t : NodeCPUTopology := { isHt := topo.isHt }
  let c1 := cpuRequestCores { mode := .drive, cpuPolicy := policy, numCores := 1 } t
  let c2 := cpuRequestCores { mode := .drive, cpuPolicy := policy, numCores := 2 } t
  let perCore := c2 - c1
  if perCore ≤ 0 then (1, 1) else (perCore, c1 - perCore)

/-! ### Cores and hugepages of a container -/

/-- The capacity one core serves. -/
def perCoreCap (p : PoolKind) (cons : CapacityConstraints) : Int :=
  match p with
  | .tlc => cons.tlcCapacityPerCoreGiB
  | .qlc => cons.qlcCapacityPerCoreGiB

/-- The cores a drive container needs for its capacities. -/
def requiredDriveCores (tlcGiB qlcGiB : Int) (cons : CapacityConstraints) : Int :=
  let tlc := if tlcGiB > 0 ∧ cons.tlcCapacityPerCoreGiB > 0 then ceilDiv tlcGiB cons.tlcCapacityPerCoreGiB else 0
  let qlc := if qlcGiB > 0 ∧ cons.qlcCapacityPerCoreGiB > 0 then ceilDiv qlcGiB cons.qlcCapacityPerCoreGiB else 0
  max 1 (tlc + qlc)

/-- Hugepages of a drive core with its DPDK memory. -/
def CapacityConstraints.driveHugepagesPerCoreMiB (cons : CapacityConstraints) : Int :=
  cons.hugepagesPerCoreMiB + cons.driveDpdkPerCoreMiB

/-! ### The running budget of a node -/

/-- A node and what is left of it. -/
structure NodeState where
  nc : NodeCapacity
  tlcFree : Int
  qlcFree : Int
  coresFree : Int
  hugepagesMiB : Int
  memoryMiB : Int
  hasDeletingDriveContainer : Bool
  deriving DecidableEq, Repr

variable {add cores : Int} {ns : NodeState} {p : PoolKind} {cons : CapacityConstraints} {includeBase : Bool}

namespace NodeState

/-- A node of which nothing is taken. -/
def ofCapacity (nc : NodeCapacity) : NodeState where
  nc := nc
  tlcFree := nc.tlcGiB
  qlcFree := nc.qlcGiB
  coresFree := nc.allocatableCPU
  hugepagesMiB := nc.availableHugepagesMiB
  memoryMiB := nc.availableMemoryMiB
  hasDeletingDriveContainer := nc.hasDeletingDriveContainer

/-- Its topology. -/
def topo (ns : NodeState) : NodeCPUTopology where
  isHt := ns.nc.isHt
  fullPcpusOnly := ns.nc.fullPcpusOnly

/-- The CPUs of so many cores, with the base or without. -/
def cpuCost (ns : NodeState) (policy : CpuPolicy) (dataCores : Int) (includeBase : Bool) : Int :=
  let m := cpuModel policy ns.topo
  if includeBase then m.1 * dataCores + m.2 else m.1 * dataCores

/-- The cores that fit the CPUs left. -/
def dataCoresCapacity (ns : NodeState) (policy : CpuPolicy) (extraCPU : Int) (includeBase : Bool) : Int :=
  let m := cpuModel policy ns.topo
  let avail := if includeBase then ns.coresFree + extraCPU - m.2 else ns.coresFree + extraCPU
  if avail < 0 ∨ m.1 ≤ 0 then 0 else avail.tdiv m.1

/-- The same without any given back. -/
def dataCoresFit (ns : NodeState) (policy : CpuPolicy) (includeBase : Bool) : Int :=
  ns.dataCoresCapacity policy 0 includeBase

/-- The drive capacity left for a pool. -/
def poolFree (ns : NodeState) : PoolKind → Int
  | .tlc => ns.tlcFree
  | .qlc => ns.qlcFree

/-- A smaller bound and its name. -/
def tighten (cap : Int) (name : String) (b : Int × String) : Int × String :=
  if cap < b.1 then (cap, name) else b

/-- The capacity a node can still take, and what limits it. -/
def nodeHeadroomBinding (ns : NodeState) (p : PoolKind) (cons : CapacityConstraints) (includeBase : Bool) :
    Int × String :=
  let perCap := perCoreCap p cons
  if perCap ≤ 0 then (0, "pool disabled") else
  let b := (ns.poolFree p, "drive capacity")
  let b := tighten (ns.dataCoresFit cons.cpuPolicy includeBase * perCap) "cores" b
  let hpPerCore := cons.driveHugepagesPerCoreMiB
  let b := if hpPerCore > 0 then tighten (ns.hugepagesMiB.tdiv hpPerCore * perCap) "hugepages" b else b
  let mem := if includeBase then ns.memoryMiB - cons.memoryBaseMiB else ns.memoryMiB
  let b := if cons.memoryPerCoreMiB > 0 then tighten (mem.tdiv cons.memoryPerCoreMiB * perCap) "memory" b else b
  (if b.1 < 0 then 0 else b.1, b.2)

/-- That capacity. -/
def nodeHeadroom (ns : NodeState) (p : PoolKind) (cons : CapacityConstraints) (includeBase : Bool) : Int :=
  (ns.nodeHeadroomBinding p cons includeBase).1

/-- Takes capacity with its cores, hugepages and memory, or gives it back. -/
def charge (ns : NodeState) (dir : Int) (p : PoolKind) (gGiB : Int) (cons : CapacityConstraints)
    (includeBase : Bool) : NodeState :=
  let cores := ceilDiv gGiB (perCoreCap p cons)
  let memory := cores * cons.memoryPerCoreMiB + if includeBase then cons.memoryBaseMiB else 0
  { ns with
    tlcFree := match p with | .tlc => ns.tlcFree - dir * gGiB | .qlc => ns.tlcFree
    qlcFree := match p with | .tlc => ns.qlcFree | .qlc => ns.qlcFree - dir * gGiB
    coresFree := ns.coresFree - dir * ns.cpuCost cons.cpuPolicy cores includeBase
    hugepagesMiB := ns.hugepagesMiB - dir * (cores * cons.driveHugepagesPerCoreMiB)
    memoryMiB := ns.memoryMiB - dir * memory }

/-- Takes it. -/
def consume (ns : NodeState) (p : PoolKind) (gGiB : Int) (cons : CapacityConstraints) (includeBase : Bool) :
    NodeState :=
  ns.charge 1 p gGiB cons includeBase

/-- Gives it back. -/
def unconsume (ns : NodeState) (p : PoolKind) (gGiB : Int) (cons : CapacityConstraints) (includeBase : Bool) :
    NodeState :=
  ns.charge (-1) p gGiB cons includeBase

/-- Takes cores without capacity, if they are there. -/
def reserveCores (ns : NodeState) (cores : Int) (cons : CapacityConstraints) : Option NodeState :=
  if cores ≤ 0 then some ns else
  let hpPerCore := cons.driveHugepagesPerCoreMiB
  let cpuNeed := ns.cpuCost cons.cpuPolicy cores false
  if ns.coresFree < cpuNeed ∨ (hpPerCore > 0 ∧ ns.hugepagesMiB < cores * hpPerCore) ∨
      (cons.memoryPerCoreMiB > 0 ∧ ns.memoryMiB < cores * cons.memoryPerCoreMiB) then none
  else some { ns with
    coresFree := ns.coresFree - cpuNeed
    hugepagesMiB := ns.hugepagesMiB - cores * hpPerCore
    memoryMiB := ns.memoryMiB - cores * cons.memoryPerCoreMiB }

@[simp] theorem charge_nc (ns : NodeState) (dir : Int) (p : PoolKind) (gGiB : Int) (cons : CapacityConstraints)
    (includeBase : Bool) : (ns.charge dir p gGiB cons includeBase).nc = ns.nc := rfl

/-! ### A placement within the headroom -/

@[simp] theorem unconsume_consume (ns : NodeState) (p : PoolKind) (gGiB : Int) (cons : CapacityConstraints)
    (includeBase : Bool) : (ns.consume p gGiB cons includeBase).unconsume p gGiB cons includeBase = ns := by
  obtain ⟨nc, tlc, qlc, cores, hp, mem, del⟩ := ns
  cases p <;> cases includeBase <;> simp [NodeState.consume, NodeState.unconsume, charge, cpuCost, topo] <;> omega

theorem unconsume_consume_comm (ns : NodeState) (p : PoolKind) (g h : Int) (cons : CapacityConstraints)
    (base base' : Bool) :
    (ns.consume p g cons base).unconsume p h cons base' = (ns.unconsume p h cons base').consume p g cons base := by
  obtain ⟨nc, tlc, qlc, cores, hp, mem, del⟩ := ns
  cases p <;> simp [NodeState.consume, NodeState.unconsume, charge, cpuCost, topo] <;> omega

end NodeState
end WekaOperator.Planner
