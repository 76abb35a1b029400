import WekaOperator.Containers.Pod

/-! How the growth of a plan reaches the containers (`steps_planner_apply.go`). -/

namespace WekaOperator.Containers
open Lib Planner

/-- A change of a container as loaded, or none. -/
abbrev Mutation := WekaContainer → Option WekaContainer

section Mutations
variable (cluster : WekaCluster)

/-- The growth of a drive container. -/
def mutateDrive (g : ContainerGrowth) (coresChanged : Bool) : Mutation := fun latest =>
  let newCap := g.newTlcGiB + g.newQlcGiB
  let hp := driveHugepagesFromPlan cluster g.newCores 0
  let latestGrowsOwn : Bool := newCap > latest.spec.containerCapacity
  let latestCoresChanged : Bool := coresChanged && g.newCores > latest.spec.numCores
  if !latestGrowsOwn && !latestCoresChanged then none
  else
    let spec := if latestGrowsOwn then latest.spec.withCapacities g.newTlcGiB g.newQlcGiB else latest.spec
    let spec := if latestCoresChanged then { spec with numCores := g.newCores } else spec
    let spec := if coresChanged then { spec with hugepages := hp.hugepages, hugepagesOffset := hp.hugepagesOffset } else spec
    some { latest with spec := spec }

/-- The growth of a compute container. -/
def mutateCompute (entry : ComputeContainerSpec) : Mutation := fun latest =>
  let hp := computeHugepagesFromPlan cluster entry.hugepagesMiB entry.numCores
  if entry.numCores < latest.spec.numCores then none
  else if entry.numCores ≤ latest.spec.numCores ∧ hp.hugepages ≤ latest.spec.hugepages then none
  else
    some { latest with
      spec := { latest.spec with
        numCores := entry.numCores
        hugepages := max hp.hugepages latest.spec.hugepages
        hugepagesOffset := hp.hugepagesOffset } }

/-- The growth, if the plan asks for more than there is. -/
def driveGrowth (c : WekaContainer) (g : ContainerGrowth) : Option Mutation :=
  if g.newTlcGiB + g.newQlcGiB ≤ c.spec.containerCapacity then none
  else some (mutateDrive cluster g (g.newCores > c.spec.numCores))

/-- The same for compute. -/
def computeGrowth (c : WekaContainer) (entry : ComputeContainerSpec) : Option Mutation :=
  if entry.numCores < c.spec.numCores then none
  else if entry.numCores ≤ c.spec.numCores ∧
    (computeHugepagesFromPlan cluster entry.hugepagesMiB entry.numCores).hugepages ≤ c.spec.hugepages then none
  else some (mutateCompute cluster entry)

end Mutations

/-! ### What a mutation can do -/

section Shrinking
variable {cluster : WekaCluster} {g : ContainerGrowth} {entry : ComputeContainerSpec} {coresChanged : Bool}
  {latest latest' : WekaContainer}

/-- The latest object is below the plan. -/
def Grows (g : ContainerGrowth) (coresChanged : Bool) (latest : WekaContainer) : Prop :=
  latest.spec.containerCapacity < g.newTlcGiB + g.newQlcGiB ∨ coresChanged = true ∧ latest.spec.numCores < g.newCores

theorem mutateDrive_eq_some (h : mutateDrive cluster g coresChanged latest = some latest') :
    Grows g coresChanged latest ∧
      latest'.spec.containerCapacity = max latest.spec.containerCapacity (g.newTlcGiB + g.newQlcGiB) ∧
      latest'.spec.numCores = (if coresChanged then max latest.spec.numCores g.newCores else latest.spec.numCores) ∧
      latest'.spec.hugepages =
        (if coresChanged then (driveHugepagesFromPlan cluster g.newCores 0).hugepages else latest.spec.hugepages) := by
  unfold mutateDrive at h
  simp only at h
  split at h
  · cases h
  rename_i hgrows
  obtain rfl := Option.some.inj h
  cases coresChanged with
  | false =>
    have hcap : latest.spec.containerCapacity < g.newTlcGiB + g.newQlcGiB := by simpa using hgrows
    simp [Grows, hcap, Spec.withCapacities, max_eq_right hcap.le]
  | true =>
    have hgrows : Grows g true latest := by
      simp only [Bool.and_eq_true, Bool.not_eq_true', decide_eq_false_iff_not, Bool.true_and, not_and, not_not] at hgrows
      unfold Grows
      by_cases hcap : latest.spec.containerCapacity < g.newTlcGiB + g.newQlcGiB
      · exact Or.inl hcap
      · exact Or.inr ⟨rfl, hgrows hcap⟩
    refine ⟨hgrows, ?_⟩
    by_cases hcap : latest.spec.containerCapacity < g.newTlcGiB + g.newQlcGiB
    · by_cases hcores : latest.spec.numCores < g.newCores
      · simp [hcap, hcores, Spec.withCapacities, max_eq_right hcap.le, max_eq_right hcores.le]
      · simp [hcap, hcores, Spec.withCapacities, max_eq_right hcap.le, max_eq_left (not_lt.mp hcores)]
    · by_cases hcores : latest.spec.numCores < g.newCores
      · simp [hcap, hcores, max_eq_left (not_lt.mp hcap), max_eq_right hcores.le]
      · simp [hcap, hcores, max_eq_left (not_lt.mp hcap), max_eq_left (not_lt.mp hcores)]

theorem mutateDrive_isSome (h : Grows g coresChanged latest) : ∃ latest', mutateDrive cluster g coresChanged latest = some latest' := by
  unfold mutateDrive
  simp only
  rw [if_neg]
  · exact ⟨_, rfl⟩
  · rcases h with h | ⟨hc, h⟩
    · simp [h]
    · simp [hc, h]

theorem mutateCompute_eq_some (h : mutateCompute cluster entry latest = some latest') :
    latest.spec.numCores ≤ latest'.spec.numCores ∧ latest.spec.hugepages ≤ latest'.spec.hugepages := by
  unfold mutateCompute at h
  simp only at h
  split at h
  · cases h
  rename_i hcores
  split at h
  · cases h
  obtain rfl := Option.some.inj h
  exact ⟨not_lt.mp hcores, le_max_right _ _⟩

/-- Growth never shrinks a container, but for the hugepages of a drive container: they are written as computed for the
    plan's cores whenever those are more than the cached copy has. -/
theorem growth_keeps_iff (cluster : WekaCluster) (c latest : WekaContainer) (g : ContainerGrowth) (entry : ComputeContainerSpec) :
    ((∀ mutate, driveGrowth cluster c g = some mutate → ∀ latest', mutate latest = some latest' →
        latest.spec.containerCapacity ≤ latest'.spec.containerCapacity ∧ latest.spec.numCores ≤ latest'.spec.numCores ∧
          latest.spec.hugepages ≤ latest'.spec.hugepages) ∧
      ∀ mutate, computeGrowth cluster c entry = some mutate → ∀ latest', mutate latest = some latest' →
        latest.spec.numCores ≤ latest'.spec.numCores ∧ latest.spec.hugepages ≤ latest'.spec.hugepages) ↔
    (c.spec.containerCapacity < g.newTlcGiB + g.newQlcGiB → c.spec.numCores < g.newCores →
      latest.spec.containerCapacity < g.newTlcGiB + g.newQlcGiB ∨ latest.spec.numCores < g.newCores →
      latest.spec.hugepages ≤ (driveHugepagesFromPlan cluster g.newCores 0).hugepages) := by
  constructor
  · rintro ⟨drive, -⟩ hcap hcores hgrows
    have growth : driveGrowth cluster c g = some (mutateDrive cluster g (g.newCores > c.spec.numCores)) := if_neg (not_le.mpr hcap)
    have grows : Grows g (g.newCores > c.spec.numCores) latest := hgrows.imp id fun h => ⟨decide_eq_true hcores, h⟩
    obtain ⟨latest', hl⟩ : ∃ latest', mutateDrive cluster g (g.newCores > c.spec.numCores) latest = some latest' :=
      mutateDrive_isSome grows
    obtain ⟨-, -, hkeeps⟩ := drive _ growth latest' hl
    obtain ⟨-, -, -, hhp⟩ := mutateDrive_eq_some hl
    rwa [hhp, if_pos (decide_eq_true hcores)] at hkeeps
  · intro cond
    refine ⟨fun mutate hm latest' hl => ?_, fun mutate hm latest' hl => ?_⟩
    · unfold driveGrowth at hm
      split at hm
      · cases hm
      rename_i hcap
      obtain rfl := Option.some.inj hm
      obtain ⟨hgrows, hcap', hcores', hhp⟩ := mutateDrive_eq_some hl
      rw [hcap', hcores', hhp]
      refine ⟨le_max_left _ _, ?_⟩
      split
      · rename_i hcores
        exact ⟨le_max_left _ _, cond (not_le.mp hcap) (of_decide_eq_true hcores) (hgrows.imp id And.right)⟩
      · exact ⟨le_rfl, le_rfl⟩
    · unfold computeGrowth at hm
      split at hm
      · cases hm
      split at hm
      · cases hm
      obtain rfl := Option.some.inj hm
      exact mutateCompute_eq_some hl

end Shrinking

/-- Another reconcile has given the container four cores. -/
theorem growth_lowers_hugepages :
    let cluster : WekaCluster := { name := "c" }
    let c : WekaContainer := { name := "d", spec := { mode := .drive, numCores := 1, hugepages := 1664, containerCapacity := 1000 } }
    let latest : WekaContainer := { c with spec := { c.spec with numCores := 4, hugepages := 6656, containerCapacity := 1500 } }
    ∃ mutate, driveGrowth cluster c { name := "d", newTlcGiB := 2000, newQlcGiB := 0, newCores := 2 } = some mutate ∧
      ∃ latest', mutate latest = some latest' ∧ latest'.spec.numCores = 4 ∧
        latest'.spec.hugepages = 3328 ∧ latest'.spec.hugepages < latest.spec.hugepages := by
  intro cluster c latest
  exact ⟨_, rfl, _, rfl, rfl, rfl, by decide⟩

/-! ### Capacities -/

/-- The drive containers that the planner writes: new ones, and existing ones grown in place. -/
inductive Planned (tlc qlc : Int) : WekaContainer → Prop
  | created {cfg : Config} {cluster : WekaCluster} {name : String} {n : NewContainer} (admitted : cluster.template.Admitted)
      (caps : n.tlcGiB = tlc ∧ n.qlcGiB = qlc) (ratio : n.ratio = some (ratioFromCaps n.tlcGiB n.qlcGiB)) :
      Planned tlc qlc (buildPlannerDriveContainer cfg cluster name n)
  | grown {cluster : WekaCluster} {g : ContainerGrowth} {coresChanged : Bool} {latest latest' : WekaContainer}
      (drive : latest.spec.mode = .drive) (byCapacity : latest.spec.driveCapacity ≤ 0)
      (caps : g.newTlcGiB = tlc ∧ g.newQlcGiB = qlc) (grows : latest.spec.containerCapacity < tlc + qlc)
      (h : mutateDrive cluster g coresChanged latest = some latest') : Planned tlc qlc latest'

theorem Planned.spec {tlc qlc : Int} {c : WekaContainer} (h : Planned tlc qlc c) :
    c.spec.mode = .drive ∧ c.spec.driveCapacity ≤ 0 ∧ c.spec.containerCapacity = tlc + qlc ∧
      c.spec.driveTypesRatio = some (ratioFromCaps tlc qlc) := by
  cases h with
  | created admitted caps ratio =>
    obtain ⟨rfl, rfl⟩ := caps
    rw [buildPlannerDriveContainer_spec _ _ _ _ admitted]
    exact ⟨rfl, le_rfl, rfl, ratio⟩
  | grown drive byCapacity caps grows h =>
    obtain ⟨rfl, rfl⟩ := caps
    unfold mutateDrive at h
    simp only [gt_iff_lt, grows, decide_true, Bool.not_true, Bool.false_and, Bool.false_eq_true, if_false, if_true,
      Option.some.injEq] at h
    subst h
    dsimp only
    split <;> split <;> exact ⟨drive, byCapacity, rfl, rfl⟩

theorem getTlcQlcCapacity_int64 {tlc qlc : Int} (htlc : 0 ≤ tlc) (hqlc : 0 ≤ qlc) (pos : 0 < tlc + qlc)
    (sum : tlc + qlc < 9223372036854775808) (product : (tlc + qlc) * (ratioFromCaps tlc qlc).tlc < 9223372036854775808) :
    getTlcQlcCapacity (tlc + qlc) (some (ratioFromCaps tlc qlc)) int64 = (tlc, qlc) := by
  have same := getTlcQlcCapacity_ratioFromCaps htlc hqlc
  obtain ⟨g, hg, htlc', hqlc'⟩ := ratioFromCaps_parts pos
  generalize ratioFromCaps tlc qlc = ratio at *
  have low : 0 ≤ ratio.tlc := by
    by_contra neg
    have := Int.mul_neg_of_pos_of_neg hg (not_le.mp neg)
    omega
  have lowQ : 0 ≤ ratio.qlc := by
    by_contra neg
    have := Int.mul_neg_of_pos_of_neg hg (not_le.mp neg)
    omega
  have tlcParts : ratio.tlc ≤ tlc := htlc' ▸ le_mul_of_one_le_left low hg
  have qlcParts : ratio.qlc ≤ qlc := hqlc' ▸ le_mul_of_one_le_left lowQ hg
  have parts : int64 (ratio.tlc + ratio.qlc) = ratio.tlc + ratio.qlc := int64_of_bounds (by omega) (by omega)
  have whole : int64 ((tlc + qlc) * ratio.tlc) = (tlc + qlc) * ratio.tlc :=
    int64_of_bounds ((by decide : (-9223372036854775808 : Int) ≤ 0).trans (mul_nonneg pos.le low)) product
  unfold getTlcQlcCapacity at same ⊢
  simp only [id_eq] at same
  simp only [parts, whole]
  split at same
  · rename_i none
    rw [if_pos none]
    exact same
  · rename_i some
    rw [if_neg some]
    obtain ⟨first, second⟩ := Prod.mk.inj same
    rw [first, int64_of_bounds (by omega) (by omega)]
    exact Prod.ext rfl (by dsimp only; omega)

/-- Capacities written as a total and a ratio are read back, as long as the total times the TLC part does not overflow. -/
theorem capacities_round_trip {tlc qlc : Int} (htlc : 0 ≤ tlc) (hqlc : 0 ≤ qlc) (pos : 0 < tlc + qlc)
    (sum : tlc + qlc < 9223372036854775808) (product : (tlc + qlc) * (ratioFromCaps tlc qlc).tlc < 9223372036854775808) :
    getTlcQlcCapacity (tlc + qlc) (some (ratioFromCaps tlc qlc)) int64 = (tlc, qlc) ∧
      ∀ c, Planned tlc qlc c → driveContainerCapacities c.spec int64 = (tlc, qlc) ∧ (driveResources c int64).drives = none ∧
        (driveResources c int64).sharedDrivesCapacity.getD 0 = tlc ∧
        (driveResources c int64).sharedDrivesCapacityQLC.getD 0 = qlc := by
  have split := getTlcQlcCapacity_int64 htlc hqlc pos sum product
  refine ⟨split, fun c h => ?_⟩
  obtain ⟨mode, byCapacity, capacity, ratio⟩ := h.spec
  refine ⟨by rw [driveContainerCapacities, if_neg (not_lt.mpr byCapacity), capacity, ratio, split], ?_⟩
  have shares : c.usesDriveSharing = true := by simp [WekaContainer.usesDriveSharing, capacity, pos]
  have sized : c.hasContainerCapacity = true := by simp [WekaContainer.hasContainerCapacity, capacity, pos]
  simp only [driveResources, mode, shares, sized, capacity, ratio, split, ne_eq, not_true_eq_false, Bool.not_true,
    Bool.false_eq_true, if_false, if_true, true_and]
  constructor <;> split <;> simp <;> omega

/-- A container of 500 GiB grown to 600 and 400. -/
theorem capacities_round_trip_mixed :
    let latest : WekaContainer := { name := "d", spec := { mode := .drive, numCores := 1, containerCapacity := 500 } }
    ∃ c, mutateDrive { name := "c" } { name := "d", newTlcGiB := 600, newQlcGiB := 400, newCores := 1 } false latest = some c ∧
      getTlcQlcCapacity (600 + 400) (some (ratioFromCaps 600 400)) int64 = (600, 400) ∧
      driveContainerCapacities c.spec int64 = (600, 400) ∧
      (driveResources c int64).sharedDrivesCapacity.getD 0 = 600 ∧ (driveResources c int64).sharedDrivesCapacityQLC.getD 0 = 400 := by
  intro latest
  obtain ⟨split, read⟩ := @capacities_round_trip 600 400 (by decide) (by decide) (by decide) (by decide) (by decide)
  have grown : mutateDrive { name := "c" } { name := "d", newTlcGiB := 600, newQlcGiB := 400, newCores := 1 } false latest =
    some _ := rfl
  obtain ⟨caps, -, tlc, qlc⟩ := read _ (.grown rfl (by decide) ⟨rfl, rfl⟩ (by decide) grown)
  exact ⟨_, grown, split, caps, tlc, qlc⟩

/-- Two capacities of some three exbibytes, without a common divisor, come back as 1 GiB and the rest. -/
theorem capacities_overflow :
    getTlcQlcCapacity (3037000501 + 3037000500) (some (ratioFromCaps 3037000501 3037000500)) int64 = (1, 6074001000) := by
  decide +kernel

end WekaOperator.Containers
