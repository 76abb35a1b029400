import WekaOperator.Planner.Pool

/-! Sizing the compute containers from what drive placement leaves (`compute_layout.go`, the compute part of
    `cores.go` and `hugepages.go`, and `planCompute`). -/

namespace WekaOperator.Planner
open Lib

/-! ### Core and hugepages totals -/

/-- Cores for so much TLC capacity. -/
def tlcDriveCores (tlcGiB : Int) (cons : CapacityConstraints) : Int :=
  if tlcGiB ≤ 0 ∨ cons.tlcCapacityPerCoreGiB ≤ 0 then 0 else max 1 (ceilDiv tlcGiB cons.tlcCapacityPerCoreGiB)

/-- Cores for so much QLC capacity. -/
def qlcDriveCores (qlcGiB : Int) (cons : CapacityConstraints) : Int :=
  if qlcGiB ≤ 0 ∨ cons.qlcCapacityPerCoreGiB ≤ 0 then 0 else max 1 (ceilDiv qlcGiB cons.qlcCapacityPerCoreGiB)

/-- Compute cores for the drive cores, by the ratios of the constraints. -/
def requiredComputeCores (tlcCores qlcCores : Int) (fullDrives : Bool) (cons : CapacityConstraints) : Int :=
  let total := max tlcCores 0 + max qlcCores 0
  let (tlcRatio, qlcRatio) := if fullDrives then (cons.fullDrivesComputeToDriveCoreRatio, 0)
    else (cons.computeToTlcDriveCoreRatio, cons.computeToQlcDriveCoreRatio)
  max total (tlcRatio * tlcCores + qlcRatio * qlcCores : ℚ).ceil

/-- The cores of a container after its growth. -/
def finalCores (c : ExistingContainer) (growth : NameMap ContainerGrowth) : Int :=
  (growth.lookup c.name).elim c.numCores (·.newCores)

/-- The part of a container's cores that serves TLC. -/
def tlcDriveCoresForContainer (tlcGiB qlcGiB assignedCores : Int) (cons : CapacityConstraints) : Int :=
  if qlcGiB ≤ 0 ∧ assignedCores > 0 then assignedCores
  else if tlcGiB ≤ 0 then 0
  else if assignedCores > 0 then min (tlcDriveCores tlcGiB cons) assignedCores
  else tlcDriveCores tlcGiB cons

/-- The rest, which serves QLC. -/
def qlcDriveCoresForContainer (tlcGiB qlcGiB assignedCores : Int) (cons : CapacityConstraints) : Int :=
  if qlcGiB ≤ 0 then 0
  else if assignedCores > 0 then max (assignedCores - tlcDriveCores tlcGiB cons) 0
  else qlcDriveCores qlcGiB cons

/-- The cores of one kind over all containers after the plan. -/
def totalDriveCores (coresFor : Int → Int → Int → CapacityConstraints → Int) (existing : List ExistingContainer)
    (b : Books) (cons : CapacityConstraints) : Int :=
  (existing.map fun c => coresFor (finalPoolCap c b.growth .tlc) (finalPoolCap c b.growth .qlc)
    (finalCores c b.growth) cons).sum +
    (b.newByNode.entries.map fun e => coresFor e.2.tlcGiB e.2.qlcGiB e.2.numCores cons).sum

/-- The cores that serve TLC. -/
def totalTlcDriveCores : List ExistingContainer → Books → CapacityConstraints → Int :=
  totalDriveCores tlcDriveCoresForContainer

/-- The cores that serve QLC. -/
def totalQlcDriveCores : List ExistingContainer → Books → CapacityConstraints → Int :=
  totalDriveCores qlcDriveCoresForContainer

/-- Hugepages of a compute container when so many share the capacity. -/
def computeContainerHugepagesMiB (tlcRawGiB qlcRawGiB count cores : Int) (cons : CapacityConstraints) : Int :=
  let capacityBased := if count > 0 then
      ((if cons.computeHugepagesTlcRatio > 0 then (tlcRawGiB * 1024).tdiv cons.computeHugepagesTlcRatio else 0) +
        (if cons.computeHugepagesQlcRatio > 0 then (qlcRawGiB * 1024).tdiv cons.computeHugepagesQlcRatio else 0)).tdiv count
    else 0
  let hp := max (capacityBased + 1700 * cores) (3000 * cores)
  let hp := if hp.tmod 2 ≠ 0 then hp + 1 else hp
  let hp := if cons.computeMaxHugepagesMiB > 0 ∧ hp > cons.computeMaxHugepagesMiB then cons.computeMaxHugepagesMiB else hp
  hp + cons.computeDpdkPerCoreMiB * cores

/-! ### The uniform layout -/

/-- The headroom of the n-th best node, within the limit for one container. -/
def topNMin (nodeHeadroom : List Int) (n maxCoresPerContainer : Int) : Int :=
  if n ≤ 0 ∨ n > nodeHeadroom.length then 0 else
  let capVal := ((nodeHeadroom.insertionSort (· ≥ ·))[(n - 1).toNat]?).getD 0
  if maxCoresPerContainer > 0 ∧ maxCoresPerContainer < capVal then maxCoresPerContainer else capVal

/-- How many nodes fit a container of so many cores and hugepages. -/
def nodesFitting (nodeHeadroom : List Int) (nodeHugepagesMiB : Option (List Int))
    (cores hpMiB maxCoresPerContainer : Int) : Nat :=
  (nodeHeadroom.zipIdx.filter fun (h, i) =>
    let eff := if maxCoresPerContainer > 0 ∧ maxCoresPerContainer < h then maxCoresPerContainer else h
    cores ≤ eff ∧ ((nodeHugepagesMiB.bind (·[i]?)).all (hpMiB ≤ ·))).length

/-- How many nodes have so many hugepages, cores aside. -/
def hugepagesFitAlone (nodeHeadroom : List Int) (nodeHugepagesMiB : Option (List Int)) (hp : Int) : Nat :=
  nodeHugepagesMiB.elim nodeHeadroom.length fun l => (l.filter (hp ≤ ·)).length

/-- Why a layout does not fit the nodes, or nothing. -/
def hugepagesFitCheck (nodeHeadroom : List Int) (nodeHugepagesMiB : Option (List Int))
    (count cores maxCoresPerContainer : Int) (hugepagesFor : Option (Int → Int → Int)) : String :=
  match hugepagesFor with
  | none => ""
  | some f =>
    let hp := f count cores
    if count ≤ nodesFitting nodeHeadroom nodeHugepagesMiB cores hp maxCoresPerContainer then "" else
    let hpFit := hugepagesFitAlone nodeHeadroom nodeHugepagesMiB hp
    let nodes := nodeHeadroom.length
    s!"computeCores={cores} needs {hp} MiB hugepages per container, but only {hpFit} of {nodes} compute node(s) have that much free after drive placement"

/-- The text of that error. -/
def noComputeHeadroom : String := "no compute core headroom on the compute nodes after drive placement"

/-- Count and cores of the compute containers, as given or as small as the nodes allow. -/
def deriveComputeLayout (specCount specCores t floor maxCoresPerContainer : Int) (nodeHeadroom : List Int)
    (nodeHugepagesMiB : Option (List Int)) (hugepagesFor : Option (Int → Int → Int)) :
    Except (String × String) (Int × Int) :=
  let d : Int := nodeHeadroom.length
  if specCount ≠ 0 then
    if specCount > d then
      .error (s!"computeContainers={specCount} exceeds the {d} compute nodes; compute spreads one-per-node", "") else
    let cores := if specCores = 0 then max 1 (ceilDiv t specCount) else specCores
    let perContainerCap := topNMin nodeHeadroom specCount maxCoresPerContainer
    if perContainerCap > 0 ∧ cores > perContainerCap then
      .error (s!"computeCores={cores} exceeds the per-node compute core headroom ({perContainerCap}) after drive placement", "cores") else
    let reason := hugepagesFitCheck nodeHeadroom nodeHugepagesMiB specCount cores maxCoresPerContainer hugepagesFor
    if reason ≠ "" then .error (reason, "hugepages") else
    let supplied := specCount * cores
    if supplied < t then
      .error (s!"compute:drive core ratio not met: {specCount} compute containers × {cores} cores = {supplied} compute cores < the {t} compute core(s) required by the compute:drive ratio (at least 1 per drive core); increase computeContainers or computeCores, or remove them to enable auto-derivation", "cores")
    else .ok (specCount, cores)
  else if specCores ≠ 0 then
    let cores := specCores
    if cores ≤ 0 then .error (noComputeHeadroom, "cores") else
    let count := max floor (ceilDiv t cores)
    if count > d then
      .error (s!"cannot satisfy the compute:drive ratio: need {count} compute containers of {cores} cores but only {d} compute nodes", "cores") else
    let perContainerCap := topNMin nodeHeadroom count maxCoresPerContainer
    if perContainerCap ≤ 0 then .error (noComputeHeadroom, "cores")
    else if cores > perContainerCap then
      .error (s!"computeCores={cores} exceeds the per-node compute core headroom ({perContainerCap}) after drive placement", "cores") else
    let reason := hugepagesFitCheck nodeHeadroom nodeHugepagesMiB count cores maxCoresPerContainer hugepagesFor
    if reason ≠ "" then .error (reason, "hugepages") else .ok (count, cores)
  else
    let found := (intRange (max floor 1) d).findSome? fun n =>
      let c := max 1 (ceilDiv t n)
      if topNMin nodeHeadroom n maxCoresPerContainer < c then none
      else if hugepagesFor.any fun f => nodesFitting nodeHeadroom nodeHugepagesMiB c (f n c) maxCoresPerContainer < n then none
      else some (n, c)
    match found with
    | some layout => .ok layout
    | none =>
      let capAll := topNMin nodeHeadroom d maxCoresPerContainer
      if d = 0 ∨ capAll ≤ 0 then .error (noComputeHeadroom, "cores") else
      let cAtD := max 1 (ceilDiv t d)
      let needed := ceilDiv t (max capAll 1)
      let most := d * capAll
      let coresFit := cAtD ≤ capAll
      match hugepagesFor with
      | none => .error (s!"cannot satisfy the compute:drive ratio: need {needed} compute containers but only {d} compute nodes (max {most} compute cores < the {t} required compute core(s))", "cores")
      | some f =>
        let hpAtD := if nodeHugepagesMiB.isSome then f d cAtD else 0
        let alone : Int := if nodeHugepagesMiB.isSome then hugepagesFitAlone nodeHeadroom nodeHugepagesMiB hpAtD else d
        let hugepagesFit := d ≤ alone
        if ¬coresFit ∧ ¬hugepagesFit then
          .error (s!"cannot satisfy the compute:drive ratio: neither compute cores nor hugepages suffice for {d} compute containers across {d} compute nodes (max {most} compute cores < the {t} required compute core(s); only {alone} of {d} nodes meet the {hpAtD} MiB/container hugepages bar)", "cores")
        else if ¬coresFit then
          .error (s!"cannot satisfy the compute:drive ratio: need {needed} compute containers but only {d} compute nodes (max {most} compute cores < the {t} required compute core(s); hugepages are sufficient)", "cores")
        else if ¬hugepagesFit then
          .error (s!"cannot satisfy the compute:drive ratio: hugepages insufficient for {d} compute containers across {d} compute nodes (only {alone} of {d} nodes meet the {hpAtD} MiB/container bar at {cAtD} cores/container; compute cores are sufficient)", "hugepages")
        else
          .error (s!"cannot satisfy the compute:drive ratio: need {needed} compute containers but only {d} compute nodes (max {most} compute cores < the {t} required compute core(s)) [unexpected: cores and hugepages both fit at n={d}]", "")

/-- Why the layout spans too few failure domains, or nothing. -/
def computeFDFeasibility (minFds : Int) (coveredFDs newFDs : List String) : String :=
  let fds := (coveredFDs ++ newFDs).dedup.length
  if fds < minFds then
    s!"compute spans only {fds} of {minFds} required failure domains (minFdNum = stripeWidth+redundancyLevel+hotSpare); add compute-eligible nodes in more distinct failure domains"
  else ""

/-- Nodes in turns over the failure domains, the roomiest first. -/
def orderNodesByFDSpread (nodes : List String) (headroom : String → Int) (fdOf : String → String) : List String :=
  let members := (groupBy fdOf nodes).map fun g => (g.1, g.2.insertionSort fun a b =>
    headroom b < headroom a ∨ (headroom a = headroom b ∧ a ≤ b))
  let best (g : String × List String) : Int := (g.2.head?.map headroom).getD 0
  let groups := members.insertionSort fun a b => best b < best a ∨ (best a = best b ∧ a.1 ≤ b.1)
  (List.range nodes.length).flatMap fun round => groups.filterMap (·.2[round]?)

/-! ### The per-container layout -/

/-- An existing container in the new layout; a frozen one keeps its size. -/
structure LaidOut where
  spec : ComputeContainerSpec
  frozen : Bool

/-- Existing containers are grown where growth is on and the node has room, else kept. -/
def layOutExistingCompute (cores perContainerHP : Int) (cons : CapacityConstraints) :
    List ExistingComputeContainer → NameMap NodeState → List LaidOut × NameMap NodeState
  | [], states => ([], states)
  | ec :: rest, states =>
    match if ec.node = "" then none else states.lookup ec.node with
    | none => layOutExistingCompute cores perContainerHP cons rest states
    | some ns =>
      let coresDelta := cores - ec.numCores
      let hpDelta := perContainerHP - ec.hugepagesMiB
      let coresDeltaCPU := ns.cpuCost cons.cpuPolicy coresDelta false
      if ec.unscheduled ∨ !cons.allowInPlaceGrowth ∨ (coresDelta > 0 ∧ ns.coresFree < coresDeltaCPU) ∨
          (hpDelta > 0 ∧ ns.hugepagesMiB < hpDelta) then
        let (laid, states) := layOutExistingCompute cores perContainerHP cons rest states
        (⟨⟨ec.node, ec.numCores, ec.hugepagesMiB⟩, true⟩ :: laid, states)
      else
        let ns := { ns with
          coresFree := if coresDelta > 0 then ns.coresFree - coresDeltaCPU else ns.coresFree
          hugepagesMiB := if hpDelta > 0 then ns.hugepagesMiB - hpDelta else ns.hugepagesMiB }
        let (laid, states) := layOutExistingCompute cores perContainerHP cons rest (states.insert ec.node ns)
        (⟨⟨ec.node, cores, perContainerHP⟩, false⟩ :: laid, states)

/-- Free nodes that fit a container, those of uncovered failure domains first. -/
def orderFitNodesByFreshFD (nodes : List String) (states : NameMap NodeState) (pinned coveredFDs : List String)
    (cores perContainerHP : Int) (fdOf : String → String) (cons : CapacityConstraints) : List String :=
  let headroomOf (node : String) : Int := (states.lookup node).elim 0 (·.coresFree)
  let fit := nodes.filter fun node => node ∉ pinned ∧ (states.lookup node).any fun ns =>
    ns.cpuCost cons.cpuPolicy cores true ≤ ns.coresFree ∧ perContainerHP ≤ ns.hugepagesMiB
  orderNodesByFDSpread (fit.filter fun n => fdOf n ∉ coveredFDs) headroomOf fdOf ++
    orderNodesByFDSpread (fit.filter fun n => fdOf n ∈ coveredFDs) headroomOf fdOf

/-- More containers until enough failure domains are spanned. -/
def extendSpan (minFds : Int) (fdOf : String → String) : List String → List String → Nat → Nat
  | [], _, n => n
  | node :: rest, span, n =>
    if (span.dedup.length : Int) < minFds then extendSpan minFds fdOf rest (fdOf node :: span) (n + 1) else n

/-- The new containers, each tested against its node. -/
def newComputeContainers (hugepages : Int → Int) (cons : CapacityConstraints) (base rem : Int)
    (states : NameMap NodeState) : List String → Int → Except InfeasibilityReport (List ComputeContainerSpec)
  | [], _ => .ok []
  | node :: rest, i =>
    match states.lookup node with
    | none => newComputeContainers hugepages cons base rem states rest (i + 1)
    | some ns =>
      let cCores := if i < rem then base + 1 else base
      let cHP := hugepages cCores
      let coresFree := ns.coresFree
      let freeHP := ns.hugepagesMiB
      if coresFree < ns.cpuCost cons.cpuPolicy cCores true ∨ freeHP < cHP then
        .error { reason := s!"compute: free compute node {node} cannot host a {cCores}-core compute container ({coresFree} physical CPU + {freeHP} MiB hugepages free)"
                 pool := "compute", binding := "hugepages" }
      else (newComputeContainers hugepages cons base rem states rest (i + 1)).map (⟨node, cCores, cHP⟩ :: ·)

/-- What a user can do about it. -/
def fixesCompute : List String :=
  ["add compute-eligible nodes (matching the cluster's compute role selector) with free cores + hugepages",
    "or lower computeContainers / computeCores, or reduce clusterCapacity so fewer TLC drive cores are needed"]

/-- The largest `int`. -/
def maxInt : Int := 2 ^ 63 - 1

/-- Plans the compute containers after the drives. -/
def planCompute (desired : DesiredCapacity) (scheme : ProtectionScheme)
    (existingCompute : List ExistingComputeContainer) (computeNodes : Option (NameMap Bool))
    (states : NameMap NodeState) (cons : CapacityConstraints) (plan : CapacityPlan) : CapacityPlan :=
  match computeNodes with
  | none => setInfeasible plan { reason := "internal: compute node set not provided", pool := "compute" }
  | some computeNodes =>
    let nodes := ((computeNodes.entries.filter fun e => e.2 && (states.lookup e.1).isSome).map (·.1)).insertionSort (· ≤ ·)
    let onNode (node : String) := existingCompute.filter fun ec => ec.node ≠ "" ∧ ec.node = node
    let coreHeadroom := nodes.map fun node => (states.lookup node).elim 0 fun ns =>
      ns.dataCoresCapacity cons.cpuPolicy ((onNode node).map fun ec => ns.cpuCost cons.cpuPolicy ec.numCores true).sum true
    let nodeHugepagesMiB := nodes.map fun node =>
      if (onNode node).length > 0 then maxInt else (states.lookup node).elim 0 (·.hugepagesMiB)
    let minFds := scheme.minFdNum
    let hugepagesFor (count cores : Int) : Int :=
      computeContainerHugepagesMiB desired.tlcRawGiB desired.qlcRawGiB count cores cons
    match deriveComputeLayout desired.computeContainers desired.computeCores plan.requiredComputeCores minFds
        cons.maxCoresPerContainer coreHeadroom (some nodeHugepagesMiB) (some hugepagesFor) with
    | .error (infeasible, binding) =>
      setInfeasible plan { reason := s!"compute: {infeasible}", pool := "compute", binding, fixes := fixesCompute }
    | .ok (count, cores) =>
      let perContainerHP := hugepagesFor count cores
      let fdOf (node : String) : String := (states.lookup node).elim "" (·.nc.fdValue)
      let (existing, states) := layOutExistingCompute cores perContainerHP cons existingCompute states
      let pinned := existing.map (·.spec.node)
      let shortfall := max (count * cores - (existing.map (·.spec.numCores)).sum) 0
      let coveredFDs := pinned.map fdOf
      let fitNodes := orderFitNodesByFreshFD nodes states pinned coveredFDs cores perContainerHP fdOf cons
      let nNew := if shortfall > 0 then ceilDiv shortfall cores else 0
      let fit := fitNodes.length
      if nNew > fit then
        setInfeasible plan {
          reason := s!"compute: cannot place {nNew} new compute container(s) to cover the {shortfall}-core shortfall — only {fit} free fitting compute node(s) (each holds up to {cores} cores + {perContainerHP} MiB hugepages)"
          pool := "compute", binding := "cores", fixes := fixesCompute }
      else
        let span := coveredFDs ++ (fitNodes.take nNew.toNat).map fdOf
        let nNew := extendSpan minFds fdOf (fitNodes.drop nNew.toNat) span nNew.toNat
        let reason := computeFDFeasibility minFds coveredFDs ((fitNodes.take nNew).map fdOf)
        if reason ≠ "" then
          setInfeasible plan { reason := s!"compute: {reason}", pool := "compute", binding := "failure domains", fixes := fixesCompute }
        else
          let splitCores := max shortfall nNew
          let totalCount : Int := existing.length + nNew
          match newComputeContainers (hugepagesFor totalCount) cons (splitCores.tdiv nNew) (splitCores.tmod nNew) states
              (fitNodes.take nNew) 0 with
          | .error report => setInfeasible plan { report with fixes := fixesCompute }
          | .ok newContainers =>
            let kept := existing.map fun lo =>
              if lo.frozen then lo.spec else { lo.spec with hugepagesMiB := hugepagesFor totalCount lo.spec.numCores }
            let layout := (kept ++ newContainers).insertionSort fun a b => a.node ≤ b.node
            { plan with
              computeContainers := totalCount
              computeCores := cores
              computeNodes := layout.map (·.node)
              computeLayout := layout }

end WekaOperator.Planner
