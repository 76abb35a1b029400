import WekaOperator.Planner.Compute

/-! What `planCompute` does, step by step. -/

namespace WekaOperator.Planner
open Lib

/-- The inputs of the compute planning. -/
structure ComputeInput where
  desired : DesiredCapacity
  scheme : ProtectionScheme
  existing : List ExistingComputeContainer
  nodes : NameMap Bool
  states : NameMap NodeState
  cons : CapacityConstraints
  required : Int

namespace ComputeInput
variable (i : ComputeInput)

/-- The nodes that may hold compute. -/
def eligible : List String :=
  ((i.nodes.entries.filter fun e => e.2 && (i.states.lookup e.1).isSome).map (·.1)).insertionSort (· ≤ ·)

/-- The existing containers on a node. -/
def onNode (node : String) : List ExistingComputeContainer := i.existing.filter fun ec => ec.node ≠ "" ∧ ec.node = node

/-- Cores a node can give, with those of its own compute container. -/
def coreHeadroom (node : String) : Int := (i.states.lookup node).elim 0 fun ns =>
  ns.dataCoresCapacity i.cons.cpuPolicy ((i.onNode node).map fun ec => ns.cpuCost i.cons.cpuPolicy ec.numCores true).sum true

/-- Nodes with a compute container are not asked for hugepages. -/
def hugepagesFree (node : String) : Int :=
  if (i.onNode node).length > 0 then maxInt else (i.states.lookup node).elim 0 (·.hugepagesMiB)

/-- Hugepages of a container at this size. -/
def hugepagesFor (count cores : Int) : Int :=
  computeContainerHugepagesMiB i.desired.tlcRawGiB i.desired.qlcRawGiB count cores i.cons

/-- The sizing that planning settles on. -/
def sizing : Except (String × String) (Int × Int) :=
  deriveComputeLayout i.desired.computeContainers i.desired.computeCores i.required i.scheme.minFdNum
    i.cons.maxCoresPerContainer (i.eligible.map i.coreHeadroom) (some (i.eligible.map i.hugepagesFree)) (some i.hugepagesFor)

/-- The failure domain of a node. -/
def fdOf (node : String) : String := (i.states.lookup node).elim "" (·.nc.fdValue)

/-- The existing containers laid out at a size, and what the nodes have left. -/
def laidOut (count cores : Int) : List LaidOut × NameMap NodeState :=
  layOutExistingCompute cores (i.hugepagesFor count cores) i.cons i.existing i.states

/-- The nodes that stay. -/
def pinned (count cores : Int) : List String := (i.laidOut count cores).1.map (·.spec.node)

/-- Cores still missing. -/
def shortfall (count cores : Int) : Int :=
  max (count * cores - ((i.laidOut count cores).1.map (·.spec.numCores)).sum) 0

/-- Containers needed for them. -/
def needed (count cores : Int) : Int :=
  if i.shortfall count cores > 0 then ceilDiv (i.shortfall count cores) cores else 0

/-- The free nodes in the order they are taken. -/
def fitNodes (count cores : Int) : List String :=
  orderFitNodesByFreshFD i.eligible (i.laidOut count cores).2 (i.pinned count cores) ((i.pinned count cores).map i.fdOf)
    cores (i.hugepagesFor count cores) i.fdOf i.cons

/-- New containers, with those added for the span. -/
def extended (count cores : Int) : Nat :=
  let n := (i.needed count cores).toNat
  extendSpan i.scheme.minFdNum i.fdOf ((i.fitNodes count cores).drop n)
    ((i.pinned count cores).map i.fdOf ++ ((i.fitNodes count cores).take n).map i.fdOf) n

/-- Their nodes. -/
def newNodes (count cores : Int) : List String := (i.fitNodes count cores).take (i.extended count cores)

/-- All containers. -/
def total (count cores : Int) : Int := (i.laidOut count cores).1.length + (i.extended count cores : Int)

/-- The cores spread over the new containers. -/
def splitCores (count cores : Int) : Int := max (i.shortfall count cores) (i.extended count cores)

/-- The new containers, or why one does not fit. -/
def added (count cores : Int) : Except InfeasibilityReport (List ComputeContainerSpec) :=
  newComputeContainers (i.hugepagesFor (i.total count cores)) i.cons ((i.splitCores count cores).tdiv (i.extended count cores))
    ((i.splitCores count cores).tmod (i.extended count cores)) (i.laidOut count cores).2 (i.newNodes count cores) 0

/-- The existing containers as emitted. -/
def kept (count cores : Int) : List ComputeContainerSpec := (i.laidOut count cores).1.map fun lo =>
  if lo.frozen then lo.spec else { lo.spec with hugepagesMiB := i.hugepagesFor (i.total count cores) lo.spec.numCores }

/-- Planning succeeds with this sizing and these new containers. -/
structure Placed (count cores : Int) (new : List ComputeContainerSpec) : Prop where
  sized : i.sizing = .ok (count, cores)
  fits : i.needed count cores ≤ (i.fitNodes count cores).length
  spans : i.scheme.minFdNum ≤ ((i.pinned count cores).map i.fdOf ++ (i.newNodes count cores).map i.fdOf).dedup.length
  added : i.added count cores = .ok new

/-- The layout as emitted, by node. -/
def layout (count cores : Int) (new : List ComputeContainerSpec) : List ComputeContainerSpec :=
  (i.kept count cores ++ new).insertionSort fun a b => a.node ≤ b.node

/-- The plan with the layout. -/
def fill (plan : CapacityPlan) (count cores : Int) (new : List ComputeContainerSpec) : CapacityPlan :=
  { plan with
    computeContainers := i.total count cores
    computeCores := cores
    computeNodes := (i.layout count cores new).map (·.node)
    computeLayout := i.layout count cores new }

end ComputeInput

theorem extendSpan_bounds (minFds : Int) (fdOf : String → String) (rest span : List String) (n : Nat) :
    n ≤ extendSpan minFds fdOf rest span n ∧ extendSpan minFds fdOf rest span n ≤ n + rest.length := by
  induction rest generalizing span n with
  | nil => exact ⟨le_refl _, le_refl _⟩
  | cons node rest ih =>
    unfold extendSpan
    split
    · have := ih (fdOf node :: span) (n + 1)
      rw [List.length_cons]
      omega
    · omega

theorem computeFDFeasibility_eq_empty {minFds : Int} {covered new : List String} :
    computeFDFeasibility minFds covered new = "" ↔ minFds ≤ (covered ++ new).dedup.length := by
  unfold computeFDFeasibility
  dsimp only
  split
  · rename_i h
    constructor
    · intro e
      simp [toString_self] at e
    · omega
  · rename_i h
    exact ⟨fun _ => not_lt.mp h, fun _ => rfl⟩

theorem newComputeContainers_error {hugepages : Int → Int} {cons : CapacityConstraints} {base rem : Int}
    {states : NameMap NodeState} {nodes : List String} {i : Int} {report : InfeasibilityReport}
    (h : newComputeContainers hugepages cons base rem states nodes i = .error report) :
    report.reason ≠ "" ∧ report.pool = "compute" := by
  induction nodes generalizing i with
  | nil => cases h
  | cons node rest ih =>
    unfold newComputeContainers at h
    split at h
    · exact ih h
    generalize (if i < rem then base + 1 else base) = cCores at h
    dsimp only at h
    split at h
    · cases h
      simp [toString_self]
    · cases hrest : newComputeContainers hugepages cons base rem states rest (i + 1) with
      | error report' =>
        rw [hrest] at h
        cases h
        exact ih hrest
      | ok l => rw [hrest] at h; cases h

section Compute
variable {desired : DesiredCapacity} {scheme : ProtectionScheme} {existingCompute : List ExistingComputeContainer}
  {cn : NameMap Bool} {states : NameMap NodeState} {cons : CapacityConstraints} {plan : CapacityPlan}

theorem planCompute_cases (i : ComputeInput)
    (hi : i = ⟨desired, scheme, existingCompute, cn, states, cons, plan.requiredComputeCores⟩) :
    (∃ report, planCompute desired scheme existingCompute (some cn) states cons plan = setInfeasible plan report ∧
      report.reason ≠ "" ∧ report.pool = "compute" ∧ ∀ count cores new, ¬i.Placed count cores new) ∨
    ∃ count cores new, i.Placed count cores new ∧
      planCompute desired scheme existingCompute (some cn) states cons plan = i.fill plan count cores new := by
  subst hi
  generalize hplan : planCompute desired scheme existingCompute (some cn) states cons plan = plan'
  unfold planCompute at hplan
  dsimp only at hplan
  let i : ComputeInput := ⟨desired, scheme, existingCompute, cn, states, cons, plan.requiredComputeCores⟩
  split at hplan
  · rename_i hsize
    refine Or.inl ⟨_, hplan.symm, by simp [toString_self], rfl, fun count cores new h => ?_⟩
    cases h.sized.symm.trans hsize
  rename_i count cores hsize
  have fails : (∀ new, ¬i.Placed count cores new) → ∀ count' cores' new, ¬i.Placed count' cores' new := by
    intro h count' cores' new h'
    cases h'.sized.symm.trans hsize
    exact h new h'
  by_cases hneed : i.needed count cores > ((i.fitNodes count cores).length : Int)
  · refine Or.inl ⟨_, ((if_pos hneed).symm.trans hplan).symm, by simp [toString_self], rfl, fails fun new h => ?_⟩
    exact not_le.mpr hneed h.fits
  replace hplan := (if_neg hneed).symm.trans hplan
  by_cases hspan : computeFDFeasibility i.scheme.minFdNum ((i.pinned count cores).map i.fdOf)
      ((i.newNodes count cores).map i.fdOf) = ""
  · replace hplan := (if_neg (not_not.mpr hspan)).symm.trans hplan
    split at hplan
    · rename_i report hadded
      obtain ⟨hreason, hpool⟩ := newComputeContainers_error hadded
      refine Or.inl ⟨_, hplan.symm, hreason, hpool, fails fun new h => ?_⟩
      cases h.added.symm.trans hadded
    · rename_i new hadded
      exact Or.inr ⟨count, cores, new, ⟨hsize, not_lt.mp hneed, computeFDFeasibility_eq_empty.mp hspan, hadded⟩, hplan.symm⟩
  · refine Or.inl ⟨_, ((if_pos hspan).symm.trans hplan).symm, by simp [toString_self], rfl, fails fun new h => ?_⟩
    exact hspan (computeFDFeasibility_eq_empty.mpr h.spans)

theorem planCompute_of_placed {i : ComputeInput}
    (hi : i = ⟨desired, scheme, existingCompute, cn, states, cons, plan.requiredComputeCores⟩) {count cores : Int}
    {new : List ComputeContainerSpec} (h : i.Placed count cores new) :
    planCompute desired scheme existingCompute (some cn) states cons plan = i.fill plan count cores new := by
  rcases planCompute_cases i hi with ⟨_, -, -, -, hno⟩ | ⟨count', cores', new', h', hplan⟩
  · exact absurd h (hno count cores new)
  · cases h'.sized.symm.trans h.sized
    cases h'.added.symm.trans h.added
    exact hplan

end Compute
end WekaOperator.Planner
