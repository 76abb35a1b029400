import WekaOperator.Planner.ComputeLayout

/-! The compute layout of a feasible plan covers what the drive containers require, over enough failure domains and on
    eligible nodes. -/

namespace WekaOperator.Planner
open List Lib Request ComputeInput

/-! ### What compute sizing starts from -/

variable {d : Draft}

namespace Request
variable (r : Request)

/-- The draft when the compute is planned. -/
def placedDrives : Option Draft :=
  match r.targetFds with
  | .error _ => none
  | .ok targets =>
    match r.emit (r.planned targets) with
    | .error _ => none
    | .ok d => some d

/-- The inputs of that planning. -/
def computeInput (d : Draft) (cn : NameMap Bool) : ComputeInput where
  desired := r.desired
  scheme := r.scheme
  existing := r.existingCompute
  nodes := cn
  states := d.books.states
  cons := r.cons
  required := requiredComputeCores (totalTlcDriveCores r.existingDrives d.books r.cons)
    (totalQlcDriveCores r.existingDrives d.books r.cons) false r.cons

/-- The plan then. -/
def drivePlan (d : Draft) : CapacityPlan :=
  { d.plan with
    totalTlcDriveCores := totalTlcDriveCores r.existingDrives d.books r.cons
    totalQlcDriveCores := totalQlcDriveCores r.existingDrives d.books r.cons
    requiredComputeCores := requiredComputeCores (totalTlcDriveCores r.existingDrives d.books r.cons)
      (totalQlcDriveCores r.existingDrives d.books r.cons) false r.cons }

variable {r}

theorem finish_computed (h : (r.finish d).infeasible = "") : ∃ cn, r.computeNodes = some cn ∧
    ∃ count cores new, (r.computeInput d cn).Placed count cores new ∧
      r.finish d = (r.computeInput d cn).fill (r.drivePlan d) count cores new := by
  generalize hfinish : r.finish d = plan at h
  unfold finish at hfinish
  dsimp only at hfinish
  split at hfinish
  · subst hfinish
    simp [setInfeasible, toString_self] at h
  split at hfinish
  · cases hcn : r.computeNodes with
    | none =>
      rw [hcn] at hfinish
      subst hfinish
      simp [planCompute, setInfeasible] at h
    | some cn =>
      rw [hcn] at hfinish
      refine ⟨cn, rfl, ?_⟩
      rcases @planCompute_cases r.desired r.scheme r.existingCompute cn d.books.states r.cons (r.drivePlan d)
          (r.computeInput d cn) rfl with ⟨report, hplan, hreason, -⟩ | ⟨count, cores, new, hplaced, hplan⟩
      · have hinf : plan = setInfeasible (r.drivePlan d) report := hfinish.symm.trans hplan
        rw [hinf] at h
        exact absurd h hreason
      · exact ⟨count, cores, new, hplaced, hfinish.symm.trans hplan⟩
  · rename_i hinf
    subst hfinish
    exact absurd h hinf

end Request

variable {r : Request}

theorem planCapacity_computed (feasible : (planCapacity r).infeasible = "") :
    ∃ d cn count cores new, r.placedDrives = some d ∧ d.Filed ∧ r.OnInventory d.books ∧ r.computeNodes = some cn ∧
      (r.computeInput d cn).Placed count cores new ∧
      planCapacity r = (r.computeInput d cn).fill (r.drivePlan d) count cores new := by
  obtain ⟨targets, d, -, htargets, hemit, hplan⟩ := planCapacity_final feasible
  obtain ⟨filed, hinv⟩ := emit_filed hemit
  rw [hplan] at feasible ⊢
  obtain ⟨cn, hcn, count, cores, new, hplaced, hfill⟩ := finish_computed feasible
  refine ⟨d, cn, count, cores, new, ?_, filed, hinv, hcn, hplaced, hfill⟩
  rw [placedDrives, htargets]
  dsimp only
  rw [hemit]

/-! ### The required cores -/

theorem tlcDriveCores_nonneg (tlc : Int) (cons : CapacityConstraints) : 0 ≤ tlcDriveCores tlc cons := by
  unfold tlcDriveCores
  split <;> omega

theorem qlcDriveCores_nonneg (qlc : Int) (cons : CapacityConstraints) : 0 ≤ qlcDriveCores qlc cons := by
  unfold qlcDriveCores
  split <;> omega

theorem driveCoresForContainer_split (tlc qlc cores : Int) (cons : CapacityConstraints) :
    0 ≤ tlcDriveCoresForContainer tlc qlc cores cons ∧ 0 ≤ qlcDriveCoresForContainer tlc qlc cores cons ∧
      cores ≤ tlcDriveCoresForContainer tlc qlc cores cons + qlcDriveCoresForContainer tlc qlc cores cons := by
  have htlc := tlcDriveCores_nonneg tlc cons
  have hqlc := qlcDriveCores_nonneg qlc cons
  have hzero : tlc ≤ 0 → tlcDriveCores tlc cons = 0 := fun h => if_pos (.inl h)
  unfold tlcDriveCoresForContainer qlcDriveCoresForContainer
  split_ifs <;> omega

theorem le_requiredComputeCores (tlc qlc : Int) (fullDrives : Bool) (cons : CapacityConstraints) :
    0 ≤ requiredComputeCores tlc qlc fullDrives cons ∧ tlc + qlc ≤ requiredComputeCores tlc qlc fullDrives cons := by
  unfold requiredComputeCores
  dsimp only
  omega

namespace CapacityPlan
variable (plan : CapacityPlan) (existing : List ExistingContainer)

/-- The drive cores after the plan is applied. -/
def appliedDriveCores : Int :=
  ((existing.filter fun c => 0 < plan.appliedCap .tlc c ∨ 0 < plan.appliedCap .qlc c).map plan.appliedCores).sum +
    ((plan.create.filter fun n => 0 < n.tlcGiB ∨ 0 < n.qlcGiB).map (·.numCores)).sum

end CapacityPlan

theorem sum_filter_le_sum {α : Type} (f g : α → Int) (keep : α → Bool) (l : List α) (hle : ∀ a, f a ≤ g a) (hpos : ∀ a, 0 ≤ g a) :
    ((l.filter keep).map f).sum ≤ (l.map g).sum :=
  (sum_le_sum fun a _ => hle a).trans (sum_filter_le g keep l fun a _ _ => hpos a)

theorem Draft.Filed.appliedDriveCores_le (h : d.Filed) (existing : List ExistingContainer) (cons : CapacityConstraints) :
    d.plan.appliedDriveCores existing ≤
      totalTlcDriveCores existing d.books cons + totalQlcDriveCores existing d.books cons := by
  have hold := sum_filter_le_sum d.plan.appliedCores
    (fun c => tlcDriveCoresForContainer (d.plan.appliedCap .tlc c) (d.plan.appliedCap .qlc c) (d.plan.appliedCores c) cons +
      qlcDriveCoresForContainer (d.plan.appliedCap .tlc c) (d.plan.appliedCap .qlc c) (d.plan.appliedCores c) cons)
    (fun c => decide (0 < d.plan.appliedCap .tlc c ∨ 0 < d.plan.appliedCap .qlc c)) existing
    (fun c => (driveCoresForContainer_split _ _ _ cons).2.2) fun c => by
      have := driveCoresForContainer_split (d.plan.appliedCap .tlc c) (d.plan.appliedCap .qlc c) (d.plan.appliedCores c) cons
      omega
  have hnew := sum_filter_le_sum (fun n : NewContainer => n.numCores)
    (fun n => tlcDriveCoresForContainer n.tlcGiB n.qlcGiB n.numCores cons +
      qlcDriveCoresForContainer n.tlcGiB n.qlcGiB n.numCores cons)
    (fun n => decide (0 < n.tlcGiB ∨ 0 < n.qlcGiB)) d.plan.create
    (fun n => (driveCoresForContainer_split _ _ _ cons).2.2) fun n => by
      have := driveCoresForContainer_split n.tlcGiB n.qlcGiB n.numCores cons
      omega
  have entries : ∀ f : NewContainer → Int, (d.books.newByNode.entries.map fun e => f e.2).sum = (d.plan.create.map f).sum := by
    intro f
    rw [← (h.new.map f).sum_eq, map_map]
    rfl
  rw [sum_map_add] at hold hnew
  unfold totalTlcDriveCores totalQlcDriveCores totalDriveCores CapacityPlan.appliedDriveCores
  rw [entries fun n => tlcDriveCoresForContainer n.tlcGiB n.qlcGiB n.numCores cons,
    entries fun n => qlcDriveCoresForContainer n.tlcGiB n.qlcGiB n.numCores cons]
  simp only [h.finalPoolCap, h.finalCores]
  omega

/-! ### The whole layout -/

/-- The failure domain of a node. -/
def Request.fdOf (r : Request) (node : String) : String := (r.states.lookup node).elim "" (·.nc.fdValue)

theorem Request.OnInventory.fdOf {b : Books} (h : r.OnInventory b) (node : String) :
    (b.states.lookup node).elim "" (·.nc.fdValue) = r.fdOf node := by
  have through : ∀ o : Option NodeState, o.elim "" (·.nc.fdValue) = (o.map (·.nc)).elim "" (·.fdValue) := by
    rintro (_ | _) <;> rfl
  rw [Request.fdOf, through, through, h node]

/-- The layout covers the drive cores, one container a node, on eligible nodes. -/
structure CapacityPlan.ComputeCovers (plan : CapacityPlan) (r : Request) : Prop where
  nodes : (plan.computeLayout.map (·.node)).Nodup
  domains : r.scheme.stripeWidth + r.scheme.redundancyLevel + r.scheme.hotSpare ≤
    (plan.computeLayout.map fun e => r.fdOf e.node).dedup.length
  eligible : ∀ e ∈ plan.computeLayout, e.node ∉ computeHosts r.existingCompute →
    ∃ cn, r.computeNodes = some cn ∧ cn.lookup e.node = some true
  sized : ∀ e ∈ plan.computeLayout, e.node ∉ computeHosts r.existingCompute → 1 ≤ e.numCores ∧ e.numCores ≤ plan.computeCores
  supplied : plan.requiredComputeCores ≤ (plan.computeLayout.map (·.numCores)).sum
  required : plan.appliedDriveCores r.existingDrives ≤ plan.requiredComputeCores

/-- The compute layout of a feasible plan, with at most one existing compute container on a node, covers the drives. -/
theorem planCapacity_computeCovers (r : Request) (hosts : (computeHosts r.existingCompute).Nodup)
    (pinned : 0 ≤ r.desired.computeContainers) (feasible : (planCapacity r).infeasible = "") :
    (planCapacity r).ComputeCovers r := by
  obtain ⟨d, cn, count, cores, new, -, filed, hinv, hcn, hplaced, hplan⟩ := planCapacity_computed feasible
  have hrequired := le_requiredComputeCores (totalTlcDriveCores r.existingDrives d.books r.cons)
    (totalQlcDriveCores r.existingDrives d.books r.cons) false r.cons
  rw [hplan]
  refine ⟨layout_nodup hosts hplaced, ?_, fun e he hfree => ?_, fun e he hfree => ?_,
    layout_cores pinned hrequired.1 hplaced, ?_⟩
  · have hfds := layout_fds hplaced
    rw [map_map] at hfds
    refine hfds.trans (le_of_eq ?_)
    congr 3
    exact map_congr_left fun e _ => hinv.fdOf e.node
  · rcases mem_layout hplaced he with ⟨-, hhost⟩ | ⟨hnew, -⟩
    · exact absurd hhost hfree
    · have hmem : e.node ∈ (r.computeInput d cn).newNodes count cores :=
        (added_spec hplaced).1 ▸ mem_map_of_mem hnew
      exact ⟨cn, hcn, (mem_eligible (mem_newNodes hmem).2.1).1⟩
  · rcases mem_layout hplaced he with ⟨-, hhost⟩ | ⟨hnew, -⟩
    · exact absurd hhost hfree
    · exact new_cores pinned hrequired.1 hplaced hnew
  · exact (filed.appliedDriveCores_le r.existingDrives r.cons).trans hrequired.2

/-- Two nodes have compute containers already. -/
def partlyFilled : Request :=
  { greenfield with existingCompute := [⟨"compute-0", "n1", 4, 12000, false⟩, ⟨"compute-1", "n2", 4, 12000, false⟩] }

theorem planCapacity_computeCovers_partlyFilled : computeHosts partlyFilled.existingCompute = ["n1", "n2"] ∧
    0 ≤ partlyFilled.desired.computeContainers ∧ (planCapacity partlyFilled).ComputeCovers partlyFilled :=
  ⟨by decide, by decide, planCapacity_computeCovers partlyFilled (by decide) (by decide) (by decide +kernel)⟩

/-! ### Room for the layout -/

/-- The compute container on a node. -/
def computeOn (existing : List ExistingComputeContainer) (node : String) : Option ExistingComputeContainer :=
  existing.find? fun ec => ec.node ≠ "" ∧ ec.node = node

variable {existing : List ExistingComputeContainer} {ns : NodeState}

theorem computeOn_eq_none {node : String} (h : node ∉ computeHosts existing) : computeOn existing node = none := by
  refine find?_eq_none.mpr fun ec hec hnode => h ?_
  rw [decide_eq_true_eq] at hnode
  exact mem_computeHosts.mpr ⟨hnode.2 ▸ hnode.1, ec, hec, hnode.2⟩

variable {ec : ExistingComputeContainer}

theorem computeOn_eq_some (hosts : (computeHosts existing).Nodup) (hec : ec ∈ existing) (hne : ec.node ≠ "") :
    computeOn existing ec.node = some ec := by
  cases hf : computeOn existing ec.node with
  | none => exact absurd (decide_eq_true ⟨hne, rfl⟩) (find?_eq_none.mp hf ec hec)
  | some ec' =>
    have hnode : ec'.node ≠ "" ∧ ec'.node = ec.node := by simpa using find?_some hf
    have hmem : ∀ x ∈ existing, x.node ≠ "" → x ∈ existing.filter (·.node ≠ "") :=
      fun x hx h => mem_filter.mpr ⟨hx, decide_eq_true h⟩
    rw [inj_on_of_nodup_map hosts (hmem ec' (mem_of_find?_eq_some hf) hnode.1) (hmem ec hec hne) hnode.2]

end WekaOperator.Planner
