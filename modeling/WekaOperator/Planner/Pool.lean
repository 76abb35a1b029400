import WekaOperator.Planner.Placement

/-! Planning one pool. -/

namespace WekaOperator.Planner
open Lib

/-! ### The final state of a pool -/

/-- A container's capacity after its growth. -/
def finalPoolCap (c : ExistingContainer) (growth : NameMap ContainerGrowth) (p : PoolKind) : Int :=
  (growth.lookup c.name).elim (poolCap c p) (poolCapGrown · p)

/-- All capacities on the books, with their failure domains. -/
def finalCaps (p : PoolKind) (existing : List ExistingContainer) (b : Books) : List (String × Int) :=
  existing.map (fun c => (c.fdValue, finalPoolCap c b.growth p)) ++
    b.newByNode.entries.map fun e => (e.2.fdValue, poolCapNew e.2 p)

/-- The same by failure domain. -/
def finalPerFD (p : PoolKind) (existing : List ExistingContainer) (b : Books) : List (String × Int) :=
  (groupBy Prod.fst ((finalCaps p existing b).filter fun e => 0 < e.2 ∧ e.1 ≠ "")).map fun g =>
    (g.1, (g.2.map Prod.snd).sum)

/-- Why the pool cannot be met, or nothing. -/
def poolFeasibility (p : PoolKind) (minFd remaining : Int) (existing : List ExistingContainer) (b : Books)
    (cons : CapacityConstraints) : String :=
  if remaining > 0 then
    if !cons.allowInPlaceGrowth then
      s!"{p}: dynamic drive scaling for shared drives is disabled; cannot place {remaining} GiB of growth on new failure domains and existing containers are not extended — add nodes/capacity or enable enableDynamicDriveScalingForSharedDrives"
    else s!"{p}: cannot place {remaining} GiB — not enough node capacity/cores/hugepages/memory across candidate failure domains"
  else
    let fds := (finalPerFD p existing b).length
    if fds < minFd then
      s!"{p}: only {fds} of {minFd} required failure domains have capacity (need at least stripeWidth+redundancyLevel+hotSpare)"
    else ""

/-! ### Fix tips -/

/-- Fixes for a scheme below the floor. -/
def fixesProtection (minSW minRL minHS : Int) : List String :=
  [s!"raise stripeWidth to >={minSW} and redundancyLevel to >={minRL} (hotSpare >={minHS})"]

/-- Fixes for a pinned count. -/
def fixesDriveContainers (resolved : Int) : List String :=
  if resolved > 0 then [s!"unset driveContainers (auto) or set it to {resolved} — the count the plan resolves to"]
  else ["unset driveContainers (auto) or set it to a value the plan can resolve to"]

/-- Fixes for pinned cores. -/
def fixesDriveCores (needed : Int) : List String :=
  [s!"raise driveCores to >={needed}, or unset it to auto-size from capacity"]

/-- Fixes for the limit of cores. -/
def fixesMaxCoresPerContainer (limit : Int) : List String :=
  [s!"raise driveContainers so each container holds less capacity and needs at most {limit} cores",
    "or lower clusterCapacity so the same container count suffices",
    s!"driveCores, when pinned, must itself be <={limit} — weka allows no more cores in one container"]

/-- Fixes for missing capacity. -/
def fixesCapacity (p : PoolKind) (allowInPlaceGrowth : Bool) : List String :=
  ["shift driveTypesRatio toward the abundant type (e.g. 1:N)", s!"add drives or nodes of the short type ({p})"] ++
    if !allowInPlaceGrowth then ["enable enableDynamicDriveScalingForSharedDrives to grow existing containers in place"]
    else []

/-- Fixes for missing failure domains. -/
def fixesFailureDomains (p : PoolKind) (minFd : Int) : List String :=
  [s!"add nodes / failure domains that can host a {p} drive container (need minFdNum = stripeWidth+redundancyLevel+hotSpare = {minFd})"]

/-- Fixes where growth is off and nodes are missing. -/
def fixesGrowthDisabledFDs (extraNodes : Int) : List String :=
  [s!"add {extraNodes} more node(s) not already running this pool's drive container",
    "or enable enableDynamicDriveScalingForSharedDrives to grow the existing containers in place"]

/-- Fixes where growth is off and a new domain would be too much. -/
def fixesGrowthDisabledOverProvision (t0 : Int) : List String :=
  ["enable enableDynamicDriveScalingForSharedDrives to grow existing containers in place",
    s!"or set clusterCapacity to a value the {t0} GiB failure-domain size divides evenly"]

/-- Fixes for an increase below the least growth. -/
def fixesGrowTooSmall (extraNodes t0 : Int) (minGrowthFraction : ℚ) : List String :=
  let fraction := fixed2 minGrowthFraction
  [s!"add {extraNodes} more node(s) not already running this pool's drive container",
    s!"raise clusterCapacity by at least one {t0} GiB failure-domain chunk",
    s!"or lower minGrowthFraction (currently {fraction})"]

/-- Fixes by more nodes. -/
def fixesAddCapacity (p : PoolKind) : List String :=
  [s!"add more nodes (or nodes with more free capacity/cores/hugepages/memory) that can host a {p} drive container",
    "or lower clusterCapacity"]

/-! ### The decision -/

/-- What is to be placed: a level on chosen failure domains. -/
structure PlaceOrder where
  level : Int
  chosen : List FdGroup
  excludePoolPExisting : Bool
  warnings : List String := []
  overProvisions : List String := []

/-- The decision for a pool. -/
inductive PoolChoice
  | keep
  | shrink (msg : String)
  | infeasible (report : InfeasibilityReport)
  | place (order : PlaceOrder)

/-- Nodes that cannot take a chunk, and why. -/
def rejectedNodes (p : PoolKind) (states : NameMap NodeState) (poolUsed : List String) (cons : CapacityConstraints) :
    List NodeRejection :=
  ((states.entries.map (·.2)).insertionSort fun a b => a.nc.nodeName ≤ b.nc.nodeName).filterMap fun ns =>
    let node := ns.nc.nodeName
    let reason := ns.nc.ineligibleReason
    if node ∈ poolUsed then some { node, binding := s!"already hosts a {p} container" }
    else if reason ≠ "" then some { node, binding := s!"ineligible ({reason})" }
    else
      let (h, binding) := ns.nodeHeadroomBinding p cons true
      if cons.minChunkSizeGiB ≤ h then none
      else some { node, binding, freeGiB := h, neededGiB := cons.minChunkSizeGiB }

/-- The same as a text. -/
def rejectedNodesBreakdown (p : PoolKind) (states : NameMap NodeState) (poolUsed : List String)
    (cons : CapacityConstraints) : String :=
  let rejected := rejectedNodes p states poolUsed cons
  let reasonOf (rj : NodeRejection) : String :=
    let free := rj.freeGiB
    let needed := rj.neededGiB
    let binding := rj.binding
    if binding.startsWith "already hosts" then binding
    else if binding = "drive capacity" ∧ free = 0 then s!"no {p} drive capacity"
    else s!"{binding} limits usable {p} to {free} GiB (below the {needed} GiB minimum chunk)"
  let groups := groupBy Prod.snd (rejected.map fun rj => (rj.node, reasonOf rj))
  let parts := (groups.take 8).map fun g =>
    let total := g.2.length
    let list := ", ".intercalate ((g.2.take 6).map Prod.fst)
    let more := total - 6
    let list := if total > 6 then s!"{list} (+{more} more)" else list
    let reason := g.1
    s!"{list}: {reason}"
  let rest := groups.length - 8
  let parts := if groups.length > 8 then parts ++ [s!"(+{rest} more reason(s))"] else parts
  let count := rejected.length
  let text := "; ".intercalate parts
  if count = 0 then "" else s!"{count} node(s) cannot host a {p} failure domain: {text}"

/-- Why no uniform level works. -/
def uniformInfeasibleMsg (p : PoolKind) (desiredRaw minFd : Int) (candidates : List FdGroup)
    (states : NameMap NodeState) (poolUsed : List String) (cons : CapacityConstraints) : String × String × Int :=
  let n := candidates.length
  if (n : Int) < minFd then
    let msg := s!"{p}: only {n} of {minFd} required failure domains have capacity (need at least stripeWidth+redundancyLevel+hotSpare)"
    let breakdown := rejectedNodesBreakdown p states poolUsed cons
    (if breakdown ≠ "" then s!"{msg} — {breakdown}" else msg, "failure domains", 0)
  else
    let T := max cons.minChunkSizeGiB (ceilDiv desiredRaw n)
    let smallest := (candidates.getLast?.map (·.headroom)).getD 0
    (s!"{p}: cannot place {desiredRaw} GiB uniformly across {n} failure domains — the smallest usable FD holds {smallest} GiB, below the {T} GiB per-FD share; add capacity or lower clusterCapacity",
      "drive capacity", max 0 (T - smallest))

/-- The least size of a growth. -/
def growChunk (delta minFd : Int) (cons : CapacityConstraints) : Int :=
  max cons.minChunkSizeGiB (ceilDiv delta minFd)

/-- New domains would be much larger than the existing ones. -/
def detectImbalance (newPerFD existingAvg : Int) (cons : CapacityConstraints) : Bool :=
  if existingAvg ≤ 0 ∨ cons.imbalanceFactor ≤ 0 then false
  else existingAvg * cons.imbalanceFactor ≤ newPerFD

/-- The message about too much capacity. -/
def shrinkMsg (p : PoolKind) (desiredRaw current : Int) : String :=
  let excess := current - desiredRaw
  s!"{p} capacity is over-provisioned by {excess} GiB (desired {desiredRaw}, current {current}); delete WekaContainers manually to shrink — the operator never auto-shrinks"

section Choose
variable (p : PoolKind) (desiredRaw minFd : Int) (existing : List ExistingContainer) (cons : CapacityConstraints)
  (b : Books)

/-- Failure domains that could be opened. -/
def freshCandidates : List FdGroup := orderFreshFdGroups p b.states (freshExclusion existing p cons) cons

/-- A level on fresh failure domains alone. -/
def planPoolFreshUniform (isFallback : Bool) : Option PlaceOrder :=
  (selectUniform desiredRaw minFd (freshCandidates p existing cons b) (otherPoolPreferNodes p b.newByNode) cons).map
    fun (chosen, T) =>
      let count := chosen.length
      { level := T, chosen, excludePoolPExisting := true
        warnings := if isFallback then
          [s!"{p} capacity grew heterogeneously: created a fresh balanced set of ~{T} GiB across {count} failure domain(s). The older, smaller drive containers can be deleted manually once data has migrated."]
          else [] }

/-- The report when there is none. -/
def freshInfeasible : InfeasibilityReport :=
  let poolUsed := freshExclusion existing p cons
  let (msg, binding, shortfall) :=
    uniformInfeasibleMsg p desiredRaw minFd (freshCandidates p existing cons b) b.states poolUsed cons
  { reason := msg, pool := p.tag, binding, shortfallGiB := shortfall
    rejectedNodes := rejectedNodes p b.states poolUsed cons
    fixes := if binding = "failure domains" then fixesFailureDomains p minFd
      else fixesCapacity p cons.allowInPlaceGrowth }

/-- Failure domains to open under a pinned count. -/
def resolveExactNewFds (targetFds delta : Int) : Except String Int :=
  if targetFds ≤ 0 then .ok (-1) else
  let existingFds : Int := poolExistingFds p existing
  let exactNewFds := targetFds - existingFds
  if exactNewFds < 0 then
    .error s!"{p}: driveContainers requires {targetFds} failure domains for this pool but {existingFds} already exist; the operator never removes containers — delete them manually to reduce the count"
  else if delta > 0 ∧ exactNewFds = 0 then
    .error s!"{p}: cannot place {delta} GiB without new failure domains, but driveContainers caps this pool at {targetFds} (already reached)"
  else
    let share := delta.tdiv exactNewFds
    let minChunk := cons.minChunkSizeGiB
    if exactNewFds > 0 ∧ share < minChunk then
      .error s!"{p}: driveContainers={targetFds} makes the per-container share {share} GiB, below the {minChunk} GiB minimum chunk; reduce driveContainers or raise clusterCapacity"
    else .ok exactNewFds

/-- The decision under a pinned count. -/
def planPoolExplicit (targetFds : Int) (order : MapOrder (String × Int)) : PoolChoice :=
  match resolveExactNewFds p existing cons targetFds (desiredRaw - poolCurrent existing p) with
  | .error reason =>
    .infeasible { reason, pool := p.tag, binding := "driveContainers", fixes := fixesDriveContainers 0 }
  | .ok exactNewFds =>
    let T := ceilDiv desiredRaw targetFds
    let below := if cons.allowInPlaceGrowth then none else (order.arrange (perFdCap p existing)).find? (·.2 < T)
    match below with
    | some (fd, capGiB) =>
      let quoted := fd.quote
      .infeasible {
        reason := s!"{p}: driveContainers={targetFds} pins {T} GiB per failure domain, but failure domain {quoted} holds only {capGiB} GiB and growing it in place is disabled (enableDynamicDriveScalingForSharedDrives=false) — enable it or unset driveContainers"
        pool := p.tag, binding := "driveContainers", shortfallGiB := T - capGiB
        fixes := ["enable enableDynamicDriveScalingForSharedDrives to grow the failure domain in place",
          "or unset driveContainers"] }
    | none =>
      .place {
        level := T
        chosen := existingFdsAsChosen p existing b.states cons ++
          takeFreshAtLevel (freshCandidates p existing cons b) exactNewFds T
        excludePoolPExisting := false }

end Choose

/-- The figures of an increase over existing failure domains. -/
structure Increase where
  delta : Int
  current : Int
  numExisting : Int
  T0 : Int
  Tmax : Int
  freshGroups : List FdGroup
  overshootCap : Int
  maxPerFdCap : Int

/-- Fresh domains that reach a level. -/
def Increase.freshCountAtLeast (i : Increase) (L : Int) : Int := (i.freshGroups.filter (L ≤ ·.headroom)).length

/-- A number of failure domains, its level and the total it gives. -/
structure FeasN where
  N : Int
  L : Int
  total : Int

section Increase
variable (p : PoolKind) (desiredRaw minFd : Int) (existing : List ExistingContainer) (cons : CapacityConstraints)
  (b : Books)

/-- The figures for this pool. -/
def increaseOf : Increase :=
  let perFd := (perFdCap p existing).map (·.2)
  let current := poolCurrent existing p
  { delta := desiredRaw - current
    current
    numExisting := perFd.length
    T0 := max cons.minChunkSizeGiB (perFd.foldl (fun m v => if m = 0 ∨ v < m then v else m) 0)
    Tmax := max cons.minChunkSizeGiB (perFd.foldl (fun m v => if m < v then v else m) 0)
    freshGroups := colocatedFirst (freshCandidates p existing cons b) (otherPoolPreferNodes p b.newByNode)
    overshootCap := truncate (cons.maxOverProvisionFraction * desiredRaw)
    maxPerFdCap := if minFd > 0 then desiredRaw.tdiv minFd else 0 }

/-- The total of the existing domains at a level, if they reach it. -/
def existingReach (L : Int) : Option Int :=
  let reach := (groupBy (·.fdValue) (existing.filter (growable b.states))).map fun g =>
    ((g.2.map (poolCap · p)).sum,
      (g.2.map fun c => poolCap c p + (b.states.lookup c.node).elim 0 (·.nodeHeadroom p cons false)).sum)
  (reach.filter (0 < ·.1)).foldl (fun acc r => acc.bind fun sum =>
    if L ≤ r.1 then some (sum + r.1) else if L ≤ r.2 then some (sum + L) else none) (some 0)

/-- The message about capacity above the wish. -/
def overProvisionMsg (i : Increase) (grown kFresh level total : Int) : String :=
  let placement :=
    if grown > 0 ∧ kFresh > 0 then s!"growing {grown} existing and adding {kFresh} new failure domain(s)"
    else if grown > 0 then s!"growing {grown} existing failure domain(s)"
    else s!"adding {kFresh} new failure domain(s)"
  let excess := total - desiredRaw
  let delta := i.delta
  let fraction := fixed2 cons.maxOverProvisionFraction
  s!"{p}: +{delta} GiB covered by {placement}, each sized to a uniform {level} GiB; this over-provisions the target by {excess} GiB (within maxOverProvisionFraction={fraction}) — intentional rounding to keep failure domains uniformly sized, not reclaimable excess (no manual shrink needed)"

/-- The order that carries an increase out. -/
def increaseOrder (i : Increase) (grown kFresh level total : Int) (chosen : List FdGroup) : PoolChoice :=
  .place {
    level, chosen, excludePoolPExisting := false
    overProvisions := if total > desiredRaw then [overProvisionMsg p desiredRaw cons i grown kFresh level total]
      else [] }

/-- New domains no larger than the existing ones that cover the increase. -/
def coverWithNew (i : Increase) : Option (Int × Int) :=
  if i.maxPerFdCap > 0 then
    (intRange (max 1 (ceilDiv i.delta i.maxPerFdCap)) (min (ceilDiv i.delta i.T0) i.freshGroups.length)).findSome? fun k =>
      let perFd := if ceilDiv i.delta k < cons.minChunkSizeGiB then cons.minChunkSizeGiB else ceilDiv i.delta k
      if perFd > i.maxPerFdCap then none
      else if perFd > i.Tmax ∧ detectImbalance perFd (poolAvg existing p) cons then none
      else if i.freshCountAtLeast perFd < k then none
      else if i.current + k * perFd - desiredRaw > i.overshootCap then none
      else some (k, perFd)
  else none

/-- The number of domains with the least total within the cap. -/
def bestGrow (i : Increase) : Option FeasN :=
  (intRange (max minFd i.numExisting) (i.numExisting + i.freshGroups.length)).foldl (fun best N =>
    let L := max i.T0 (ceilDiv desiredRaw N)
    let kFresh := N - i.numExisting
    if i.freshCountAtLeast L < kFresh then best else
    match existingReach p existing cons b L with
    | none => best
    | some sumE =>
      let total := sumE + kFresh * L
      if total < desiredRaw then best
      else if total - desiredRaw > i.overshootCap then best
      else match best with
        | none => some ⟨N, L, total⟩
        | some f => if L < f.L ∨ (L = f.L ∧ total < f.total) then some ⟨N, L, total⟩ else best) none

/-- The report when no level is reached. -/
def increaseUnreachable (i : Increase) : InfeasibilityReport :=
  let delta := i.delta
  let T0 := i.T0
  let numExisting := i.numExisting
  let candidates := i.freshGroups.length
  { reason := s!"{p}: cannot satisfy clusterCapacity (+{delta} GiB) at the uniform per-failure-domain size of {T0} GiB. Even after growing the {numExisting} existing failure domain(s) to their nodes' limits and adding failure domains on all {candidates} candidate node(s) (nodes not already running a {p} drive container, with enough free capacity/cores/hugepages/memory), the target is still out of reach. Add more nodes (or nodes with more free resources), or lower clusterCapacity."
    pool := p.tag, binding := "drive capacity", shortfallGiB := delta, fixes := fixesAddCapacity p }

/-- The report when growth is off. -/
def increaseFrozen (i : Increase) : InfeasibilityReport :=
  let delta := i.delta
  let T0 := i.T0
  let numExisting := i.numExisting
  let maxPerFdCap := i.maxPerFdCap
  let kNeeded := ceilDiv delta T0
  let kAvail := i.freshCountAtLeast T0
  let shortfall := kNeeded - kAvail
  if shortfall > 0 then
    { reason := s!"{p}: cannot satisfy clusterCapacity (+{delta} GiB). The {numExisting} existing failure domain(s) are frozen at {T0} GiB each and cannot grow because dynamic drive scaling for shared drives is disabled, so new capacity can only be added as more {T0} GiB failure domains — one per node not already running a {p} drive container and with {T0} GiB of free capacity/cores/hugepages/memory. This needs {kNeeded} such node(s) but only {kAvail} is/are available, so {shortfall} more node(s) are required. Either add {shortfall} more node(s), or enable enableDynamicDriveScalingForSharedDrives to grow the existing containers in place instead (aggregate free capacity elsewhere does not help — capacity on a node already hosting this pool's FD cannot be reused while growth is disabled). The maximum capacity a single failure domain may hold is {maxPerFdCap} GiB (clusterCapacity raw ÷ (stripeWidth+redundancy+hotSpare) = {desiredRaw} ÷ {minFd})."
      pool := p.tag, binding := "failure domains", shortfallGiB := delta, fixes := fixesGrowthDisabledFDs shortfall }
  else
    { reason := s!"{p}: cannot satisfy clusterCapacity (+{delta} GiB) without growing the {numExisting} existing failure domain(s) beyond their current {T0} GiB each, but dynamic drive scaling for shared drives is disabled. Enable enableDynamicDriveScalingForSharedDrives, or set clusterCapacity to a value that the {T0} GiB failure-domain size divides evenly. The maximum capacity a single failure domain may hold is {maxPerFdCap} GiB (clusterCapacity raw ÷ (stripeWidth+redundancy+hotSpare) = {desiredRaw} ÷ {minFd})."
      pool := p.tag, binding := "drive capacity", shortfallGiB := delta, fixes := fixesGrowthDisabledOverProvision T0 }

/-- The report when the growth is too small. -/
def increaseTooSmall (i : Increase) (L : Int) : InfeasibilityReport :=
  let delta := i.delta
  let T0 := i.T0
  let kNeeded := ceilDiv delta T0
  let kAvail := i.freshCountAtLeast T0
  let missing := kNeeded - kAvail
  let pct := truncate (100 * (L - T0) / T0 + 1 / 2)
  let fraction := fixed2 cons.minGrowthFraction
  { reason := s!"{p}: cannot satisfy clusterCapacity — need +{delta} GiB. Adding failure domains requires {kNeeded} node(s) not already running a {p} drive container with >={T0} GiB free each (the uniform per-FD size), but only {kAvail} is/are available. The alternative — growing existing containers in place — would raise each by only {pct}% (below minGrowthFraction={fraction}), so it is skipped. Resolve by: adding {missing} more node(s), or raising clusterCapacity by at least one {T0} GiB failure-domain chunk, or lowering minGrowthFraction."
    pool := p.tag, binding := "failure domains", shortfallGiB := delta
    fixes := fixesGrowTooSmall missing T0 cons.minGrowthFraction }

/-- The decision for a pool that has failure domains. -/
def planPoolUniformIncrease : PoolChoice :=
  let i := increaseOf p desiredRaw minFd existing cons b
  match coverWithNew p desiredRaw existing cons i with
  | some (k, perFd) =>
    increaseOrder p desiredRaw cons i 0 k perFd (i.current + k * perFd) (takeFreshAtLevel i.freshGroups k perFd)
  | none =>
    match bestGrow p desiredRaw minFd existing cons b i with
    | none => .infeasible (increaseUnreachable p i)
    | some best =>
      let kFresh := best.N - i.numExisting
      if best.L = i.T0 then
        increaseOrder p desiredRaw cons i 0 kFresh i.T0 best.total (takeFreshAtLevel i.freshGroups kFresh i.T0)
      else if !cons.allowInPlaceGrowth then .infeasible (increaseFrozen p desiredRaw minFd i)
      else if ((best.L - i.T0 : Int) : ℚ) < cons.minGrowthFraction * i.T0 then .infeasible (increaseTooSmall p cons i best.L)
      else
        increaseOrder p desiredRaw cons i i.numExisting kFresh best.L best.total
          (existingFdsAsChosen p existing b.states cons ++ takeFreshAtLevel i.freshGroups kFresh best.L)

/-- The decision for a pool. -/
def choosePool (targetFds : Int) (order : MapOrder (String × Int)) : PoolChoice :=
  if desiredRaw ≤ 0 then .keep else
  let current := poolCurrent existing p
  let delta := desiredRaw - current
  if delta < 0 then
    if current - desiredRaw > overProvisionCapGiB desiredRaw cons then .shrink (shrinkMsg p desiredRaw current) else .keep
  else if !capacityShort current desiredRaw cons then .keep
  else
    -- The fallback abandons dwarfed domains; it falls through when no fresh set fits.
    let fallback := if targetFds = 0 ∧ detectImbalance (growChunk delta minFd cons) (poolAvg existing p) cons then
      planPoolFreshUniform p desiredRaw minFd existing cons b true else none
    match fallback with
    | some order => .place order
    | none =>
      if targetFds > 0 then planPoolExplicit p desiredRaw existing cons b targetFds order
      else if delta > 0 ∧ poolExistingFds p existing > 0 then planPoolUniformIncrease p desiredRaw minFd existing cons b
      else match planPoolFreshUniform p desiredRaw minFd existing cons b false with
        | some order => .place order
        | none => .infeasible (freshInfeasible p desiredRaw minFd existing cons b)

end Increase

/-! ### Carrying the decision out -/

/-- The books and the plan so far. -/
structure Draft where
  books : Books
  plan : CapacityPlan := {}

section Carry
variable (p : PoolKind) (desiredRaw minFd : Int) (existing : List ExistingContainer) (cons : CapacityConstraints)

/-- What the final check counts as placed. -/
def placedCapacity (excludePoolPExisting : Bool) (b : Books) : Int :=
  (b.newByNode.entries.map fun e => poolCapNew e.2 p).sum +
    ((existing.filter fun c => !(excludePoolPExisting && poolExistingFds p [c] > 0)).map
      (finalPoolCap · b.growth p)).sum

/-- The check after a placement. -/
def finalizePoolFeasibility (excludePoolPExisting : Bool) (d : Draft) : Draft :=
  let placed := placedCapacity p existing excludePoolPExisting d.books
  let shortfall := max 0 (capacityCoverTarget desiredRaw cons - placed)
  let reason := poolFeasibility p minFd shortfall existing d.books cons
  if reason ≠ "" then
    let (binding, fixes) := if shortfall = 0 then ("failure domains", fixesFailureDomains p minFd)
      else ("drive capacity", fixesCapacity p cons.allowInPlaceGrowth)
    { d with plan := setInfeasible d.plan { reason, pool := p.tag, binding, shortfallGiB := shortfall, fixes } }
  else d

/-- Carries the decision out. -/
def carryOut (d : Draft) : PoolChoice → Draft
  | .keep => d
  | .shrink msg => { d with plan := { d.plan with shrinkEvents := d.plan.shrinkEvents ++ [msg] } }
  | .infeasible report => { d with plan := setInfeasible d.plan report }
  | .place o =>
    let d' := finalizePoolFeasibility p desiredRaw minFd existing cons o.excludePoolPExisting
      { d with books := placeUniform p existing cons o.level o.chosen d.books }
    if d'.plan.infeasible = "" then
      { d' with plan := { d'.plan with
        warnings := d'.plan.warnings ++ o.warnings
        overProvisions := d'.plan.overProvisions ++ o.overProvisions } }
    else d'

/-- Decides and carries out. -/
def planPool (targetFds : Int) (order : MapOrder (String × Int)) (d : Draft) : Draft :=
  carryOut p desiredRaw minFd existing cons d (choosePool p desiredRaw minFd existing cons d.books targetFds order)

end Carry
end WekaOperator.Planner
