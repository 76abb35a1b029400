import WekaOperator.Planner.Compute

/-! `PlanCapacity`: both pools are planned on one set of books, the growth records and new containers are emitted with
    their core counts, and compute is sized from what is left. -/

namespace WekaOperator.Planner
open Lib

/-- The inputs of the planner. -/
structure Request where
  desired : DesiredCapacity
  scheme : ProtectionScheme
  existingDrives : List ExistingContainer
  existingCompute : List ExistingComputeContainer := []
  inventory : List NodeCapacity
  computeNodes : Option (NameMap Bool)
  cons : CapacityConstraints
  order : MapOrder (String × Int) := .asListed

/-- Splits a pinned container count over the pools. -/
def splitDriveContainers (d : DesiredCapacity) (minFd : Int) : Except String (Int × Int) :=
  let total := d.driveContainers
  if total < minFd then
    .error s!"driveContainers={total} is below the required {minFd} failure domains (stripeWidth+redundancyLevel+hotSpare)"
  else if d.tlcRawGiB > 0 ∧ d.qlcRawGiB > 0 then
    let tlcN := roundDiv (total * d.tlcRawGiB) (d.tlcRawGiB + d.qlcRawGiB)
    let qlcN := total - tlcN
    if tlcN < minFd ∨ qlcN < minFd then
      .error s!"driveContainers={total} split by ratio (TLC {tlcN}, QLC {qlcN}) puts a pool below the {minFd}-failure-domain minimum; increase driveContainers or adjust driveTypesRatio"
    else .ok (tlcN, qlcN)
  else if d.tlcRawGiB > 0 then .ok (total, 0)
  else if d.qlcRawGiB > 0 then .ok (0, total)
  else .ok (0, 0)

/-- How many nodes could carry the pool. -/
def countPoolCapableNodes (states : NameMap NodeState) (poolUsed : List String) (p : PoolKind) : Nat :=
  (states.entries.filter fun e =>
    0 < (match p with | .tlc => e.2.nc.tlcGiB | .qlc => e.2.nc.qlcGiB) ∧
      (e.2.nc.ineligibleReason = "" ∨ e.1 ∈ poolUsed)).length

/-- How many failure domains hold drive containers. -/
def distinctDriveFds (existing : List ExistingContainer) (newByNode : NameMap NewContainer) : Nat :=
  ((existing.map (·.fdValue) ++ newByNode.entries.map (·.2.fdValue)).filter (· ≠ "")).dedup.length

/-- The greatest common divisor. -/
def gcdInt (a b : Int) : Int := Int.gcd a b

/-- The capacities in lowest terms. -/
def ratioFromCaps (tlcGiB qlcGiB : Int) : DriveTypesRatio :=
  let g := gcdInt tlcGiB qlcGiB
  if g = 0 then ⟨0, 0⟩ else ⟨tlcGiB.tdiv g, qlcGiB.tdiv g⟩

/-- The drive type of the capacities. -/
def ratioTypeFromCaps (tlcGiB qlcGiB : Int) : DriveType :=
  if tlcGiB > 0 ∧ qlcGiB > 0 then .mixed else if qlcGiB > 0 then .qlc else .tlc

/-- The cores of a container, pinned or derived, within the limit. -/
def pinCores (desired : DesiredCapacity) (cons : CapacityConstraints) (tlcGiB qlcGiB : Int) :
    Except (String × List String) (Int × Int) :=
  let derived := requiredDriveCores tlcGiB qlcGiB cons
  let limit := cons.maxCoresPerContainer
  let pinned := desired.driveCores
  let total := tlcGiB + qlcGiB
  if limit > 0 ∧ derived > limit then
    .error (s!"a drive container of {total} GiB (TLC {tlcGiB} + QLC {qlcGiB}) needs {derived} cores, above the {limit}-core per-container limit: raise driveContainers so each container holds less capacity, or lower clusterCapacity",
      fixesMaxCoresPerContainer limit)
  else if pinned ≤ 0 then .ok (derived, derived)
  else if limit > 0 ∧ pinned > limit then
    .error (s!"driveCores={pinned} is above the {limit}-core per-container limit", fixesMaxCoresPerContainer limit)
  else if pinned < derived then
    .error (s!"driveCores={pinned} is too small for a drive container of {total} GiB (TLC {tlcGiB} + QLC {qlcGiB}): it needs {derived} cores",
      fixesDriveCores derived)
  else .ok (pinned, derived)

/-- Emits the growths with their cores. -/
def emitGrow (desired : DesiredCapacity) (cons : CapacityConstraints) :
    List ContainerGrowth → Draft → Except CapacityPlan Draft
  | [], d => .ok d
  | g :: rest, d =>
    match pinCores desired cons g.newTlcGiB g.newQlcGiB with
    | .error (reason, fixes) => .error (setInfeasible d.plan { reason, binding := "driveCores", fixes })
    | .ok (cores, _) =>
      let g := { g with newCores := cores }
      emitGrow desired cons rest
        { books := { d.books with growth := d.books.growth.insert g.name g }
          plan := { d.plan with grow := d.plan.grow ++ [g] } }

/-- Emits the new containers; pinned cores beyond the derived ones are reserved. -/
def emitCreate (desired : DesiredCapacity) (cons : CapacityConstraints) :
    List NewContainer → Draft → Except CapacityPlan Draft
  | [], d => .ok d
  | n :: rest, d =>
    match pinCores desired cons n.tlcGiB n.qlcGiB with
    | .error (reason, fixes) => .error (setInfeasible d.plan { reason, binding := "driveCores", fixes })
    | .ok (cores, derived) =>
      let n := { n with numCores := cores, ratio := some (ratioFromCaps n.tlcGiB n.qlcGiB)
                        type := some (ratioTypeFromCaps n.tlcGiB n.qlcGiB) }
      let emitted (b : Books) : Draft :=
        { books := { b with newByNode := b.newByNode.insert n.node n }
          plan := { d.plan with create := d.plan.create ++ [n] } }
      match d.books.states.lookup n.node with
      | none => emitCreate desired cons rest (emitted d.books)
      | some ns =>
        match ns.reserveCores (cores - derived) cons with
        | none =>
          let node := n.node
          let total := n.tlcGiB + n.qlcGiB
          .error (setInfeasible d.plan {
            reason := s!"node {node} cannot host driveCores={cores} for its {total} GiB drive container (insufficient cores/hugepages/memory for the pinned core count)"
            binding := "cores"
            fixes := [s!"lower driveCores (<={derived}), or free cores/hugepages/memory on node {node}"] })
        | some ns => emitCreate desired cons rest (emitted (d.books.setState n.node ns))

namespace Request
variable (r : Request)

/-- What each node has at the start. -/
def states : NameMap NodeState :=
  r.inventory.foldl (fun m nc => m.insert nc.nodeName (NodeState.ofCapacity nc)) ∅

/-- The failure domains the scheme needs. -/
def minFd : Int := r.scheme.minFdNum

/-- The capacity wanted of a pool. -/
def desiredOf : PoolKind → Int
  | .tlc => r.desired.tlcRawGiB
  | .qlc => r.desired.qlcRawGiB

/-- Failure domains per pool under a pinned count. -/
def targetFds : Except String (Int × Int) :=
  if r.desired.driveContainers > 0 then splitDriveContainers r.desired r.minFd else .ok (0, 0)

/-- The order of the pools: the one with fewer capable nodes first. -/
def pools : List PoolKind :=
  if r.desired.tlcRawGiB > 0 ∧ r.desired.qlcRawGiB > 0 ∧
      countPoolCapableNodes r.states (poolNodeUsed r.existingDrives .qlc) .qlc <
        countPoolCapableNodes r.states (poolNodeUsed r.existingDrives .tlc) .tlc
  then [.qlc, .tlc] else [.tlc, .qlc]

/-- What is decided for a pool. -/
def choice (targets : Int × Int) (b : Books) (p : PoolKind) : PoolChoice :=
  choosePool p (r.desiredOf p) r.minFd r.existingDrives r.cons b
    (match p with | .tlc => targets.1 | .qlc => targets.2) r.order

/-- Plans one pool. -/
def step (targets : Int × Int) (d : Draft) (p : PoolKind) : Draft :=
  planPool p (r.desiredOf p) r.minFd r.existingDrives r.cons
    (match p with | .tlc => targets.1 | .qlc => targets.2) r.order d

/-- The draft after both pools. -/
def planned (targets : Int × Int) : Draft := r.pools.foldl (r.step targets) { books := { states := r.states } }

/-- Emits the records in their order. -/
def emit (d : Draft) : Except CapacityPlan Draft :=
  (emitGrow r.desired r.cons ((d.books.growth.entries.map (·.2)).insertionSort fun a b => a.name ≤ b.name) d).bind fun d =>
    emitCreate r.desired r.cons ((d.books.newByNode.entries.map (·.2)).insertionSort fun a b => a.node ≤ b.node) d

/-- The last checks of the drives, and the compute. -/
def finish (d : Draft) : CapacityPlan :=
  let got := distinctDriveFds r.existingDrives d.books.newByNode
  let pinned := r.desired.driveContainers
  if d.plan.infeasible = "" ∧ pinned > 0 ∧ (got : Int) ≠ pinned then
    setInfeasible d.plan {
      reason := s!"driveContainers={pinned} cannot be honored: the plan resolves to {got} drive containers across the available failure domains"
      binding := "driveContainers", fixes := fixesDriveContainers got }
  else
    let tlc := totalTlcDriveCores r.existingDrives d.books r.cons
    let qlc := totalQlcDriveCores r.existingDrives d.books r.cons
    let plan := { d.plan with
      totalTlcDriveCores := tlc
      totalQlcDriveCores := qlc
      requiredComputeCores := requiredComputeCores tlc qlc false r.cons }
    if plan.infeasible = "" then
      planCompute r.desired r.scheme r.existingCompute r.computeNodes d.books.states r.cons plan
    else plan

/-- The scheme is below the floor. -/
def belowFloor : Bool :=
  let (minSW, minRL, minHS) := minProtectionFloor r.cons.allowSingleParity
  r.scheme.stripeWidth < minSW ∨ r.scheme.redundancyLevel < minRL ∨ r.scheme.hotSpare < minHS

/-- The report about it. -/
def belowFloorReport : InfeasibilityReport :=
  let (minSW, minRL, minHS) := minProtectionFloor r.cons.allowSingleParity
  let sw := r.scheme.stripeWidth
  let rl := r.scheme.redundancyLevel
  let hs := r.scheme.hotSpare
  { reason := s!"clusterCapacity requires stripeWidth>={minSW}, redundancyLevel>={minRL}, hotSpare>={minHS} (got sw={sw} rl={rl} hs={hs})"
    binding := "protection", fixes := fixesProtection minSW minRL minHS }

end Request

/-- The planner. -/
def planCapacity (r : Request) : CapacityPlan :=
  if r.belowFloor then setInfeasible {} r.belowFloorReport else
  match r.targetFds with
  | .error reason => setInfeasible {} { reason, binding := "driveContainers", fixes := fixesDriveContainers 0 }
  | .ok targets =>
    match r.emit (r.planned targets) with
    | .error plan => plan
    | .ok d => r.finish d

end WekaOperator.Planner
