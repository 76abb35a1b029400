import WekaOperator.Containers.Spec
import WekaOperator.Planner.ComputeFit

/-! The fast path that skips planning when nothing has to grow (`steadyStatePlan`). -/

namespace WekaOperator.Planner
open List Lib Containers

/-! ### The planner's view of the containers -/

/-- A drive container on its way out. -/
def isDeletingDriveContainer (c : WekaContainer) : Bool := c.spec.mode = .drive && c.markedForDeletion

/-- A container on its way out. -/
def isUnhealthy (c : WekaContainer) : Bool := c.markedForDeletion

/-- The drive containers as planning sees them. -/
def existingDrives (fdConfigured : Bool) (fdByNode : NameMap String) (own : List WekaContainer) : List ExistingContainer :=
  (own.filter fun c => c.spec.mode = .drive && !isDeletingDriveContainer c).map fun c =>
    let fd := (fdByNode.lookup c.nodeAffinity).getD ""
    { name := c.name
      node := c.nodeAffinity
      fdValue := if fd = "" ∧ !fdConfigured then c.nodeAffinity else fd
      tlcGiB := (driveContainerCapacities c.spec).1
      qlcGiB := (driveContainerCapacities c.spec).2
      numCores := c.spec.numCores
      unscheduled := c.unscheduled }

/-- The compute containers as planning sees them. -/
def existingCompute (own : List WekaContainer) : List ExistingComputeContainer :=
  (own.filter fun c => c.spec.mode = .compute && !isUnhealthy c).map fun c =>
    { name := c.name, node := c.nodeAffinity, numCores := c.spec.numCores, hugepagesMiB := c.spec.hugepages
      unscheduled := c.unscheduled }

/-! ### Summaries -/

/-- The sums over drive containers. -/
structure DriveCapacitySummary where
  tlcGiB : Int := 0
  qlcGiB : Int := 0
  totalTlcDriveCores : Int := 0

/-- These sums. -/
def summarizeDriveContainers (containers : List WekaContainer) (cons : CapacityConstraints) : DriveCapacitySummary :=
  containers.foldl (fun sum c =>
    if c.spec.mode ≠ .drive then sum
    else if isDeletingDriveContainer c then sum
    else
      let caps := driveContainerCapacities c.spec
      { tlcGiB := sum.tlcGiB + caps.1
        qlcGiB := sum.qlcGiB + caps.2
        totalTlcDriveCores := sum.totalTlcDriveCores + tlcDriveCores caps.1 cons }) {}

/-- The sums over compute containers. -/
structure ComputeCapacitySummary where
  count : Int := 0
  minCores : Int := 0
  totalCores : Int := 0

/-- Adds a container. -/
def ComputeCapacitySummary.add (sum : ComputeCapacitySummary) (c : WekaContainer) : ComputeCapacitySummary :=
  if c.spec.mode ≠ .compute then sum
  else if isUnhealthy c then sum
  else
    { minCores := if sum.count = 0 ∨ c.spec.numCores < sum.minCores then c.spec.numCores else sum.minCores
      totalCores := sum.totalCores + c.spec.numCores
      count := sum.count + 1 }

/-- These sums. -/
def summarizeComputeContainers (containers : List WekaContainer) : ComputeCapacitySummary := containers.foldl .add {}

theorem summarizeDriveContainers_eq (containers : List WekaContainer) (cons : CapacityConstraints) (fdConfigured : Bool)
    (fdByNode : NameMap String) : summarizeDriveContainers containers cons =
      { tlcGiB := poolCurrent (existingDrives fdConfigured fdByNode containers) .tlc
        qlcGiB := poolCurrent (existingDrives fdConfigured fdByNode containers) .qlc
        totalTlcDriveCores := ((existingDrives fdConfigured fdByNode containers).map (tlcDriveCores ·.tlcGiB cons)).sum } := by
  unfold summarizeDriveContainers
  induction containers using reverseRecOn with
  | nil => rfl
  | append_singleton containers c ih =>
    rw [foldl_append, foldl_cons, foldl_nil, ih]
    unfold existingDrives poolCurrent
    rw [filter_append]
    by_cases hmode : c.spec.mode = .drive
    · cases hdel : isDeletingDriveContainer c <;> simp [hmode, hdel, poolCap]
    · simp [hmode]

/-- The sums are of these containers. -/
structure Summarizes (s : ComputeCapacitySummary) (existing : List ExistingComputeContainer) : Prop where
  count : s.count = existing.length
  total : s.totalCores = (existing.map (·.numCores)).sum
  least : ∀ ec ∈ existing, s.minCores ≤ ec.numCores

variable {s : ComputeCapacitySummary} {existing : List ExistingComputeContainer}

theorem Summarizes.append (h : Summarizes s existing)
    (ec : ExistingComputeContainer) :
    Summarizes { minCores := if s.count = 0 ∨ ec.numCores < s.minCores then ec.numCores else s.minCores
                 totalCores := s.totalCores + ec.numCores
                 count := s.count + 1 } (existing ++ [ec]) := by
  refine ⟨by simp [h.count], by simp [h.total], fun ec' hec' => ?_⟩
  dsimp only
  rcases mem_append.mp hec' with hmem | hmem
  · have hle := h.least ec' hmem
    have hpos : 0 < s.count := by
      rw [h.count]
      exact_mod_cast length_pos_of_mem hmem
    split <;> omega
  · obtain rfl := mem_singleton.mp hmem
    split <;> omega

theorem summarizeComputeContainers_summarizes (containers : List WekaContainer) :
    Summarizes (summarizeComputeContainers containers) (existingCompute containers) := by
  unfold summarizeComputeContainers existingCompute
  induction containers using reverseRecOn with
  | nil => exact ⟨rfl, rfl, fun _ h => (by cases h)⟩
  | append_singleton containers c ih =>
    rw [foldl_append, foldl_cons, foldl_nil, filter_append, map_append]
    generalize containers.foldl ComputeCapacitySummary.add {} = s at ih ⊢
    unfold ComputeCapacitySummary.add
    by_cases hmode : c.spec.mode = .compute
    · cases hun : isUnhealthy c with
      | true => simpa [hmode, hun] using ih
      | false =>
        have := ih.append { name := c.name, node := c.nodeAffinity, numCores := c.spec.numCores
                            hugepagesMiB := c.spec.hugepages, unscheduled := c.unscheduled }
        simpa [hmode, hun] using this
    · simpa [hmode] using ih

theorem Summarizes.le_total (h : Summarizes s existing) :
    s.count * s.minCores ≤ s.totalCores := by
  rw [h.count, h.total]
  have hleast := h.least
  clear h
  induction existing with
  | nil => simp
  | cons ec rest ih =>
    have hrest := ih fun ec' hec' => hleast ec' (mem_cons_of_mem _ hec')
    have hec := hleast ec mem_cons_self
    rw [length_cons, Nat.cast_add, Nat.cast_one, Int.add_mul, map_cons, sum_cons]
    omega

/-! ### The fast path -/

/-- Stands for headroom without a bound. -/
def unboundedComputeHeadroom : Int := 2 ^ 30

/-- The compute layout would change. -/
def computeLayoutWouldGrow (specCount specCores requiredComputeCores floor maxCoresPerContainer curCount curMinCores
    curTotalCores : Int) : Bool :=
  if curCount ≤ 0 then true else
  match deriveComputeLayout specCount specCores requiredComputeCores floor maxCoresPerContainer
      (List.replicate curCount.toNat unboundedComputeHeadroom) none none with
  | .error _ => true
  | .ok (count, cores) =>
    if count > curCount then true
    else if cores > curMinCores then (if specCores = 0 then curTotalCores < requiredComputeCores else true)
    else false

/-- The compute cores needed, by the sums. -/
def fastComputeCores (containers : List WekaContainer) (cons : CapacityConstraints) : Int :=
  requiredComputeCores (summarizeDriveContainers containers cons).totalTlcDriveCores 0 false cons

/-- The advice about too much capacity. -/
def shrinkAdvisory (p : PoolKind) (cur want : Int) (cons : CapacityConstraints) : List String :=
  if cur - want ≤ overProvisionCapGiB want cons then [] else [shrinkMsg p want cur]

/-- The plan without an inventory, if nothing is to be done. -/
def steadyStatePlan (desired : DesiredCapacity) (s : ProtectionScheme) (cons : CapacityConstraints)
    (containers : List WekaContainer) : Option (CapacityPlan × List String) :=
  let drv := summarizeDriveContainers containers cons
  if capacityShort drv.tlcGiB desired.tlcRawGiB cons || capacityShort drv.qlcGiB desired.qlcRawGiB cons then none else
  let cmp := summarizeComputeContainers containers
  let required := fastComputeCores containers cons
  if computeLayoutWouldGrow desired.computeContainers desired.computeCores required s.minFdNum cons.maxCoresPerContainer
      cmp.count cmp.minCores cmp.totalCores then none
  else some ({ computeContainers := cmp.count, computeCores := cmp.minCores
               totalTlcDriveCores := drv.totalTlcDriveCores, requiredComputeCores := required },
    shrinkAdvisory .tlc drv.tlcGiB desired.tlcRawGiB cons ++ shrinkAdvisory .qlc drv.qlcGiB desired.qlcRawGiB cons)

/-- The compute cores needed, by planning. -/
def fullComputeCores (drives : List ExistingContainer) (cons : CapacityConstraints) : Int :=
  requiredComputeCores (totalTlcDriveCores drives { states := ∅ } cons) (totalQlcDriveCores drives { states := ∅ } cons) false cons

/-- Nothing is to be done. -/
structure Covered (desired : DesiredCapacity) (cons : CapacityConstraints) (drives : List ExistingContainer)
    (compute : List ExistingComputeContainer) : Prop where
  tlc : capacityShort (poolCurrent drives .tlc) desired.tlcRawGiB cons = false
  qlc : capacityShort (poolCurrent drives .qlc) desired.qlcRawGiB cons = false
  compute : fullComputeCores drives cons ≤ (compute.map (·.numCores)).sum

theorem le_of_not_wouldGrow {specCount specCores required floor maxCores : Int}
    (hs : Summarizes s existing) (hcount : 0 ≤ specCount) (hrequired : 0 ≤ required)
    (h : computeLayoutWouldGrow specCount specCores required floor maxCores s.count s.minCores s.totalCores = false) :
    required ≤ s.totalCores := by
  unfold computeLayoutWouldGrow at h
  split at h
  · cases h
  split at h
  · cases h
  rename_i hcur count cores hlayout
  obtain ⟨hcores, hsupplied⟩ := deriveComputeLayout_ok hcount hrequired hlayout
  split at h
  · cases h
  rename_i hle
  split at h
  · split at h
    · exact not_lt.mp (of_decide_eq_false h)
    · cases h
  · rename_i hmin
    calc required ≤ count * cores := hsupplied
      _ ≤ s.count * cores := Int.mul_le_mul_of_nonneg_right (not_lt.mp hle) hcores.le
      _ ≤ s.count * s.minCores := Int.mul_le_mul_of_nonneg_left (not_lt.mp hmin) (by omega)
      _ ≤ s.totalCores := hs.le_total

section Sound
variable {desired : DesiredCapacity} {scheme : ProtectionScheme} {cons : CapacityConstraints} {containers : List WekaContainer}

theorem existingDrives_filter (fdConfigured : Bool) (fdByNode : NameMap String) (containers : List WekaContainer) :
    existingDrives fdConfigured fdByNode (containers.filter (·.spec.mode = .drive)) =
      existingDrives fdConfigured fdByNode containers := by
  unfold existingDrives
  rw [filter_filter]
  congr 2
  funext c
  cases h : decide (c.spec.mode = .drive) <;> simp

theorem fastComputeCores_eq (fdConfigured : Bool) (fdByNode : NameMap String) : fastComputeCores containers cons =
    requiredComputeCores ((existingDrives fdConfigured fdByNode containers).map (tlcDriveCores ·.tlcGiB cons)).sum 0 false cons := by
  rw [fastComputeCores, summarizeDriveContainers_eq containers cons fdConfigured fdByNode]

theorem fastComputeCores_filter : fastComputeCores (containers.filter (·.spec.mode = .drive)) cons =
    fastComputeCores containers cons := by
  rw [fastComputeCores_eq false ∅, fastComputeCores_eq false ∅, existingDrives_filter]

theorem steadyStatePlan_covers (hcount : 0 ≤ desired.computeContainers) (fdConfigured : Bool) (fdByNode : NameMap String)
    (skip : (steadyStatePlan desired scheme cons containers).isSome) :
    capacityShort (poolCurrent (existingDrives fdConfigured fdByNode containers) .tlc) desired.tlcRawGiB cons = false ∧
    capacityShort (poolCurrent (existingDrives fdConfigured fdByNode containers) .qlc) desired.qlcRawGiB cons = false ∧
    fastComputeCores containers cons ≤ ((existingCompute containers).map (·.numCores)).sum := by
  have hdrives := summarizeDriveContainers_eq containers cons fdConfigured fdByNode
  have hcompute := summarizeComputeContainers_summarizes containers
  unfold steadyStatePlan at skip
  dsimp only at skip
  split at skip
  · cases skip
  rename_i hshort
  split at skip
  · cases skip
  rename_i hgrow
  rw [Bool.or_eq_true, not_or, Bool.not_eq_true, Bool.not_eq_true, hdrives] at hshort
  refine ⟨hshort.1, hshort.2, ?_⟩
  rw [← hcompute.total]
  exact le_of_not_wouldGrow hcompute hcount (le_requiredComputeCores _ _ false cons).1 (Bool.not_eq_true _ ▸ hgrow)

def computeFleet (count : Nat) (numCores : Int) : List WekaContainer :=
  (List.range count).map fun i => { name := s!"compute-{i}", spec := { mode := .compute, numCores }, nodeAffinity := s!"node-{i}" }

variable {drives : List WekaContainer}

theorem existingCompute_fleet (hdrives : ∀ c ∈ drives, c.spec.mode = .drive) (count : Nat) (numCores : Int) :
    (existingCompute (drives ++ computeFleet count numCores)).map (·.numCores) = List.replicate count numCores := by
  have hnone : drives.filter (fun c => c.spec.mode = .compute && !isUnhealthy c) = [] := by
    refine filter_eq_nil_iff.mpr fun c hc => ?_
    simp [hdrives c hc]
  have hall : (computeFleet count numCores).filter (fun c => c.spec.mode = .compute && !isUnhealthy c) =
      computeFleet count numCores := by
    refine filter_eq_self.mpr fun c hc => ?_
    obtain ⟨i, -, rfl⟩ := mem_map.mp hc
    rfl
  rw [existingCompute, filter_append, hnone, hall, nil_append, computeFleet, map_map, map_map]
  exact map_const' .. |>.trans (by rw [length_range])

theorem filter_fleet (hdrives : ∀ c ∈ drives, c.spec.mode = .drive) (count : Nat) (numCores : Int) :
    (drives ++ computeFleet count numCores).filter (·.spec.mode = .drive) = drives := by
  rw [filter_append, filter_eq_self.mpr fun c hc => decide_eq_true (hdrives c hc), filter_eq_nil_iff.mpr,
    append_nil]
  intro c hc
  obtain ⟨i, -, rfl⟩ := mem_map.mp hc
  simp

theorem capacityShort_self {current : Int} (h : 0 ≤ current) (cons : CapacityConstraints) :
    capacityShort current current cons = false := by
  cases short : capacityShort current current cons with
  | false => rfl
  | true => exact absurd (capacityShort_lt h short) (lt_irrefl _)

theorem not_wouldGrow_pinned {required floor maxCores minCores total : Int} (hrequired : 0 ≤ required) (htotal : required ≤ total) :
    computeLayoutWouldGrow (max 1 required) 0 required floor maxCores (max 1 required) minCores total = false := by
  have hcores : max 1 (ceilDiv required (max 1 required)) = 1 := by
    exact max_eq_left (ceilDiv_le (by omega) (by omega) (by omega))
  have hlayout : deriveComputeLayout (max 1 required) 0 required floor maxCores
      (replicate (max 1 required).toNat unboundedComputeHeadroom) none none = .ok (max 1 required, 1) := by
    unfold deriveComputeLayout
    simp only [if_true, hcores, length_replicate, hugepagesFitCheck]
    rw [if_pos (by omega), if_neg (by omega), if_neg (by omega), if_neg (by simp), if_neg (by omega)]
  unfold computeLayoutWouldGrow
  rw [if_neg (by omega), hlayout]
  dsimp only
  rw [if_neg (by omega), if_pos rfl]
  split
  · exact decide_eq_false (not_lt.mpr htotal)
  · rfl

/-- With these drive containers the fast path is sound, whatever the compute containers and the target, if and only if
    it requires the cores that planning does. -/
theorem steadyStatePlan_sound_iff (drives : List WekaContainer) (hdrives : ∀ c ∈ drives, c.spec.mode = .drive)
    (nonneg : ∀ c ∈ drives, 0 ≤ (driveContainerCapacities c.spec).1 ∧ 0 ≤ (driveContainerCapacities c.spec).2)
    (scheme : ProtectionScheme) (cons : CapacityConstraints) (fdConfigured : Bool) (fdByNode : NameMap String) :
    (∀ desired containers, containers.filter (·.spec.mode = .drive) = drives → 0 ≤ desired.computeContainers →
      (steadyStatePlan desired scheme cons containers).isSome →
      Covered desired cons (existingDrives fdConfigured fdByNode containers) (existingCompute containers)) ↔
    fullComputeCores (existingDrives fdConfigured fdByNode drives) cons ≤ fastComputeCores drives cons := by
  constructor
  · intro sound
    have hfast : 0 ≤ fastComputeCores drives cons := (le_requiredComputeCores _ _ false cons).1
    -- Just as many cores as the fast path requires, on one container a core.
    generalize hcount : (max 1 (fastComputeCores drives cons)).toNat = count
    generalize hcontainers : drives ++ computeFleet count (min 1 (fastComputeCores drives cons)) = containers
    have hfilter : containers.filter (·.spec.mode = .drive) = drives := hcontainers ▸ filter_fleet hdrives count _
    have htotal : ((existingCompute containers).map (·.numCores)).sum = fastComputeCores drives cons := by
      rw [← hcontainers, existingCompute_fleet hdrives, sum_replicate, nsmul_eq_mul, ← hcount]
      rcases hfast.eq_or_lt with h | h
      · rw [← h]; rfl
      · rw [max_eq_right (by omega), min_eq_left (by omega)]
        omega
    have hcurrent : ∀ p, 0 ≤ poolCurrent (existingDrives fdConfigured fdByNode containers) p := by
      intro p
      refine sum_nonneg fun x hx => ?_
      obtain ⟨c, hc, rfl⟩ := mem_map.mp hx
      rw [← existingDrives_filter, hfilter] at hc
      obtain ⟨w, hw, rfl⟩ := mem_map.mp hc
      have := nonneg w (mem_filter.mp hw).1
      cases p
      · exact this.1
      · exact this.2
    have hskip : (steadyStatePlan
        { tlcRawGiB := poolCurrent (existingDrives fdConfigured fdByNode containers) .tlc
          qlcRawGiB := poolCurrent (existingDrives fdConfigured fdByNode containers) .qlc
          computeContainers := max 1 (fastComputeCores drives cons) } scheme cons containers).isSome := by
      have hcompute := summarizeComputeContainers_summarizes containers
      have hrequired : fastComputeCores containers cons = fastComputeCores drives cons := by
        rw [← fastComputeCores_filter, hfilter]
      have hlength : (summarizeComputeContainers containers).count = max 1 (fastComputeCores drives cons) := by
        rw [hcompute.count, ← length_map (f := fun ec : ExistingComputeContainer => ec.numCores), ← hcontainers, existingCompute_fleet hdrives,
          length_replicate, ← hcount]
        omega
      unfold steadyStatePlan
      dsimp only
      rw [summarizeDriveContainers_eq containers cons fdConfigured fdByNode]
      rw [capacityShort_self (hcurrent .tlc), capacityShort_self (hcurrent .qlc), hrequired, hlength,
        hcompute.total, htotal, not_wouldGrow_pinned hfast (le_refl _)]
      rfl
    have := (sound _ containers hfilter (by dsimp only; omega) hskip).compute
    rwa [htotal, ← existingDrives_filter, hfilter] at this
  · intro hle desired containers hfilter hcount hskip
    obtain ⟨htlc, hqlc, hcores⟩ := steadyStatePlan_covers hcount fdConfigured fdByNode hskip
    refine ⟨htlc, hqlc, ?_⟩
    rw [← existingDrives_filter, hfilter]
    rw [← fastComputeCores_filter, hfilter] at hcores
    exact hle.trans hcores

end Sound

def driveFleet (tlcGiB qlcGiB numCores : Int) : List WekaContainer :=
  ["n1", "n2", "n3", "n4", "n5"].map fun n =>
    { name := n, spec := Spec.withCapacities { mode := .drive, numCores } tlcGiB qlcGiB, nodeAffinity := n }

def fleetConstraints : CapacityConstraints :=
  { tlcCapacityPerCoreGiB := 1000, qlcCapacityPerCoreGiB := 1000, minChunkSizeGiB := 384 }

/-- Two cores a container, one for each pool, need ten compute cores; five are enough for the fast path. -/
theorem steadyStatePlan_skips_mixedFleet :
    (steadyStatePlan { tlcRawGiB := 5000, qlcRawGiB := 5000 } ⟨3, 2, 0⟩ fleetConstraints
      (driveFleet 1000 1000 2 ++ computeFleet 5 1)).isSome = true ∧
    ((existingCompute (driveFleet 1000 1000 2 ++ computeFleet 5 1)).map (·.numCores)).sum = 5 ∧
    fullComputeCores (existingDrives false ∅ (driveFleet 1000 1000 2 ++ computeFleet 5 1)) fleetConstraints = 10 := by
  decide +kernel

theorem steadyStatePlan_sound_tlcFleet :
    fullComputeCores (existingDrives false ∅ (driveFleet 1000 0 1)) fleetConstraints ≤
      fastComputeCores (driveFleet 1000 0 1) fleetConstraints ∧
    ∀ desired containers, containers.filter (·.spec.mode = .drive) = driveFleet 1000 0 1 → 0 ≤ desired.computeContainers →
      (steadyStatePlan desired ⟨3, 2, 0⟩ fleetConstraints containers).isSome →
      Covered desired fleetConstraints (existingDrives false ∅ containers) (existingCompute containers) := by
  have hle : fullComputeCores (existingDrives false ∅ (driveFleet 1000 0 1)) fleetConstraints ≤
      fastComputeCores (driveFleet 1000 0 1) fleetConstraints := by decide +kernel
  exact ⟨hle, (steadyStatePlan_sound_iff (driveFleet 1000 0 1) (by decide) (by decide) ⟨3, 2, 0⟩ fleetConstraints false ∅).mpr hle⟩

end WekaOperator.Planner
