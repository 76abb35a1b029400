import WekaOperator.Containers.Spec
import WekaOperator.Planner.ComputeFit

/-! Planning again over the drive containers a plan leaves behind. -/

namespace WekaOperator.Planner
open List Lib Containers Request CapacityPlan

/-! ### A pool that is not short -/

theorem capacityShort_eq_false {current desired : Int} {cons : CapacityConstraints} :
    capacityShort current desired cons = false ↔ capacityCoverTarget desired cons ≤ current := by
  unfold capacityShort capacityCoverTarget
  split
  · simp
  · rw [decide_eq_false_iff_not]
    omega

/-- Nothing is placed. -/
def PoolChoice.idle : PoolChoice → Bool
  | .keep | .shrink _ => true
  | .infeasible _ | .place _ => false

variable {p : PoolKind} {d : Draft}

theorem choosePool_idle {desired minFd : Int} {existing : List ExistingContainer} {cons : CapacityConstraints}
    {b : Books} {targetFds : Int} {order : MapOrder (String × Int)}
    (h : 0 < desired → capacityCoverTarget desired cons ≤ poolCurrent existing p) :
    (choosePool p desired minFd existing cons b targetFds order).idle = true := by
  unfold choosePool
  split
  · rfl
  rename_i hpos
  dsimp only
  split
  · split <;> rfl
  rw [capacityShort_eq_false.mpr (h (not_le.mp hpos))]
  rfl

theorem carryOut_idle {desired minFd : Int} {existing : List ExistingContainer} {cons : CapacityConstraints}
    {choice : PoolChoice} (h : choice.idle = true) (d : Draft) :
    (carryOut p desired minFd existing cons d choice).books = d.books ∧
      (carryOut p desired minFd existing cons d choice).plan.infeasible = d.plan.infeasible := by
  cases choice with
  | keep => exact ⟨rfl, rfl⟩
  | shrink msg => exact ⟨rfl, rfl⟩
  | infeasible report => cases h
  | place o => cases h

namespace Request
variable {r : Request} {targets : Int × Int}

/-- Every pool is covered. -/
def Supplied (r : Request) : Prop :=
  ∀ p, 0 < r.desiredOf p → capacityCoverTarget (r.desiredOf p) r.cons ≤ poolCurrent r.existingDrives p

theorem Supplied.planned (h : r.Supplied) :
    (r.planned targets).books = { states := r.states } ∧ (r.planned targets).plan.infeasible = "" := by
  refine foldlRecOn (motive := fun d : Draft => d.books = { states := r.states } ∧ d.plan.infeasible = "") _ _
    ⟨rfl, rfl⟩ ?_
  rintro d ⟨hbooks, hplan⟩ p -
  obtain ⟨hbooks', hplan'⟩ := carryOut_idle (choosePool_idle (h p)) d
  exact ⟨hbooks'.trans hbooks, hplan'.trans hplan⟩

theorem Supplied.emit (h : r.Supplied) : r.emit (r.planned targets) = .ok (r.planned targets) := by
  unfold Request.emit
  rw [h.planned.1]
  have hbooks : (r.planned targets).books.newByNode = ∅ := by rw [h.planned.1]
  simp [emitGrow, emitCreate, Except.bind, hbooks]

end Request

theorem planCompute_report (desired : DesiredCapacity) (scheme : ProtectionScheme)
    (existingCompute : List ExistingComputeContainer) (computeNodes : Option (NameMap Bool)) (states : NameMap NodeState)
    (cons : CapacityConstraints) (plan : CapacityPlan) :
    (planCompute desired scheme existingCompute computeNodes states cons plan).infeasible = plan.infeasible ∨
      ∃ report, (planCompute desired scheme existingCompute computeNodes states cons plan).infeasibility = some report ∧
        report.pool = "compute" := by
  cases computeNodes with
  | none => exact .inr ⟨_, rfl, rfl⟩
  | some cn =>
    rcases planCompute_cases _ rfl with ⟨report, hplan, -, hpool, -⟩ | ⟨count, cores, new, -, hplan⟩
    · rw [hplan]
      exact .inr ⟨report, rfl, hpool⟩
    · rw [hplan]
      exact .inl rfl

/-! ### The containers a plan leaves behind -/

/-- The container as read back from its spec. -/
def ExistingContainer.settled (c : ExistingContainer) (numCores tlcGiB qlcGiB : Int) : ExistingContainer :=
  let caps := driveContainerCapacities (Spec.withCapacities { mode := .drive, numCores } tlcGiB qlcGiB)
  { c with tlcGiB := caps.1, qlcGiB := caps.2, numCores, unscheduled := false }

namespace CapacityPlan
variable (plan : CapacityPlan) (existing : List ExistingContainer)

/-- The containers after the plan is applied and read back. -/
def applied (name : NewContainer → String) : List ExistingContainer :=
  -- Applying a growth never lowers the core count.
  existing.map (fun c => c.settled (max c.numCores (plan.appliedCores c)) (plan.appliedCap .tlc c) (plan.appliedCap .qlc c)) ++
    plan.create.map fun n => ExistingContainer.settled
      { name := name n, node := n.node, fdValue := n.fdValue, tlcGiB := 0, qlcGiB := 0, numCores := 0 }
      n.numCores n.tlcGiB n.qlcGiB

theorem applied_fds (name : NewContainer → String) :
    (plan.applied existing name).map (·.fdValue) = existing.map (·.fdValue) ++ plan.create.map (·.fdValue) := by
  simp [applied, ExistingContainer.settled, Function.comp_def]

end CapacityPlan

theorem ExistingContainer.poolCap_settled (c : ExistingContainer) (numCores : Int) {tlc qlc : Int} (htlc : 0 ≤ tlc)
    (hqlc : 0 ≤ qlc) (p : PoolKind) : poolCap (c.settled numCores tlc qlc) p = match p with | .tlc => tlc | .qlc => qlc := by
  unfold settled
  rw [driveContainerCapacities_withCapacities (le_refl 0) htlc hqlc]
  cases p <;> rfl

namespace Request
variable {r : Request} {targets : Int × Int}

theorem planned_noShrink (names : (r.existingDrives.map (·.name)).Nodup) :
    NoShrink r.existingDrives (r.planned targets).books :=
  planned_induct (fun _ level _ g h _ => h.placeFd names level g) (fun c _ q => le_refl (poolCap c q)) placementAny_false

theorem planned_supplied (names : (r.existingDrives.map (·.name)).Nodup) (h : (r.planned targets).plan.infeasible = "")
    (pos : 0 < r.desiredOf p) :
    capacityCoverTarget (r.desiredOf p) r.cons ≤ totalCap p r.existingDrives (r.planned targets).books := by
  cases short : capacityShort (poolCurrent r.existingDrives p) (r.desiredOf p) r.cons with
  | true => exact (planned_covered names ⟨pos, short⟩ h).1
  | false =>
    have hnew : 0 ≤ valueSum (poolCapNew · p) (r.planned targets).books.newByNode := by
      refine sum_nonneg fun x hx => ?_
      obtain ⟨e, he, rfl⟩ := mem_map.mp hx
      have hcap : (r.planned targets).books.newCap e.1 p = poolCapNew e.2 p := by
        rw [Books.newCap, mem_entries_iff.mp he, Option.elim_some]
      have hchunk := @planned_chunked r targets names e.1 p
      dsimp only
      omega
    have hold : poolCurrent r.existingDrives p ≤
        (r.existingDrives.map (finalPoolCap · (r.planned targets).books.growth p)).sum :=
      sum_le_sum fun c hc => planned_noShrink names c hc p
    have := capacityShort_eq_false.mp short
    unfold totalCap
    omega

theorem poolCurrent_applied (names : (r.existingDrives.map (·.name)).Nodup)
    (nonneg : ∀ c ∈ r.existingDrives, 0 ≤ c.tlcGiB ∧ 0 ≤ c.qlcGiB) {plan : CapacityPlan}
    (hem : r.Emitted (r.planned targets).books plan) (name : NewContainer → String) (p : PoolKind) :
    poolCurrent (plan.applied r.existingDrives name) p = totalCap p r.existingDrives (r.planned targets).books := by
  have keyed : (r.planned targets).books.Keyed := planned_keyed
  have hold : ∀ c ∈ r.existingDrives, ∀ q, 0 ≤ plan.appliedCap q c := by
    intro c hc q
    rw [hem.appliedCap keyed]
    refine le_trans ?_ (planned_noShrink names c hc q)
    cases q
    · exact (nonneg c hc).1
    · exact (nonneg c hc).2
  have hnew : ∀ n ∈ plan.create, ∀ q, 0 ≤ poolCapNew n q := by
    intro n hn q
    obtain ⟨-, -, -, hcap⟩ := hem.mem_create keyed hn
    have hchunk := @planned_chunked r targets names n.node q
    rw [hcap]
    omega
  rw [← hem.appliedTotal keyed p]
  unfold appliedTotal appliedCaps applied poolCurrent
  rw [map_append, map_append, map_map, map_map, map_map, map_map]
  congr 2
  · refine map_congr_left fun c hc => ?_
    have := c.poolCap_settled (max c.numCores (plan.appliedCores c)) (hold c hc .tlc) (hold c hc .qlc) p
    cases p <;> exact this
  · refine map_congr_left fun n hn => ?_
    have := ExistingContainer.poolCap_settled
      { name := name n, node := n.node, fdValue := n.fdValue, tlcGiB := 0, qlcGiB := 0, numCores := 0 }
      n.numCores (hnew n hn .tlc) (hnew n hn .qlc) p
    cases p <;> exact this

theorem distinctDriveFds_applied (filed : d.Filed) (existing : List ExistingContainer) (name : NewContainer → String) :
    distinctDriveFds (d.plan.applied existing name) ∅ = distinctDriveFds existing d.books.newByNode := by
  unfold distinctDriveFds
  rw [d.plan.applied_fds]
  refine List.Perm.length_eq (List.Perm.dedup (List.Perm.filter _ ?_))
  have := (filed.new.map (·.fdValue)).symm
  rw [map_map] at this
  simpa [Function.comp_def] using this.append_left _

theorem finish_pinned (h : (r.finish d).infeasible = "") :
    r.desired.driveContainers > 0 → (distinctDriveFds r.existingDrives d.books.newByNode : Int) = r.desired.driveContainers := by
  intro hpos
  by_contra hne
  unfold finish at h
  dsimp only at h
  split at h
  · simp [setInfeasible, toString_self] at h
  rename_i hcond
  split at h
  · rename_i hfeas
    exact hcond ⟨hfeas, hpos, hne⟩
  · rename_i hinf
    exact hinf h

end Request

section Again
variable {r r' : Request} (names : (r.existingDrives.map (·.name)).Nodup)
  (nonneg : ∀ c ∈ r.existingDrives, 0 ≤ c.tlcGiB ∧ 0 ≤ c.qlcGiB) (feasible : (planCapacity r).infeasible = "")
  (desired : r'.desired = r.desired) (scheme : r'.scheme = r.scheme) (cons : r'.cons = r.cons)
  {name : NewContainer → String} (existing : r'.existingDrives = (planCapacity r).applied r.existingDrives name)
include names nonneg feasible desired scheme cons existing

theorem planCapacity_again : ∃ d : Draft, r'.placedDrives = some d ∧ d.books = { states := r'.states } ∧
    d.plan.infeasible = "" ∧ d.plan.grow = [] ∧ d.plan.create = [] ∧ planCapacity r' =
      planCompute r'.desired r'.scheme r'.existingCompute r'.computeNodes d.books.states r'.cons (r'.drivePlan d) := by
  obtain ⟨targets, d, hfloor, htargets, hemit, hplan⟩ := planCapacity_final feasible
  obtain ⟨hem, hinf⟩ := emit_ok hemit
  obtain ⟨filed, -⟩ := emit_filed hemit
  rw [hplan] at feasible existing
  have happlied : r'.existingDrives = d.plan.applied r.existingDrives name := by
    rw [existing]
    unfold applied appliedCores appliedCap
    rw [(finish_drives d).1, (finish_drives d).2]
  have supplied : r'.Supplied := by
    intro p pos
    have hof : r'.desiredOf p = r.desiredOf p := by cases p <;> simp [desiredOf, desired]
    rw [hof] at pos
    rw [hof, cons, happlied, poolCurrent_applied names nonneg hem]
    exact planned_supplied names (hinf ▸ finish_feasible feasible) pos
  have hfloor' : r'.belowFloor = false := by rwa [belowFloor, scheme, cons]
  have htargets' : r'.targetFds = .ok targets := by
    rwa [targetFds, minFd, desired, scheme]
  refine ⟨r'.planned targets, ?_, supplied.planned.1, supplied.planned.2, planned_drives.1, planned_drives.2, ?_⟩
  · rw [placedDrives, htargets']
    dsimp only
    rw [supplied.emit]
  -- The pinned count was met by the same failure domains.
  have hgot : ¬((r'.planned targets).plan.infeasible = "" ∧ r'.desired.driveContainers > 0 ∧
      (distinctDriveFds r'.existingDrives (r'.planned targets).books.newByNode : Int) ≠ r'.desired.driveContainers) := by
    rintro ⟨-, hpos, hne⟩
    rw [supplied.planned.1, happlied, distinctDriveFds_applied filed, desired] at hne
    exact hne (finish_pinned feasible (desired ▸ hpos))
  unfold planCapacity
  rw [if_neg (by simp [hfloor']), htargets']
  dsimp only
  rw [supplied.emit]
  unfold finish
  dsimp only
  rw [if_neg hgot, if_pos supplied.planned.2]
  rfl

end Again

/-- Planning converges in one pass for drives: over the drive containers that a feasible plan leaves behind, their
    capacities written to the specs and read back, the same target plans no growth and no new container on any
    inventory, and only compute sizing can fail. -/
theorem planCapacity_converges (r r' : Request) (names : (r.existingDrives.map (·.name)).Nodup)
    (nonneg : ∀ c ∈ r.existingDrives, 0 ≤ c.tlcGiB ∧ 0 ≤ c.qlcGiB) (feasible : (planCapacity r).infeasible = "")
    (desired : r'.desired = r.desired) (scheme : r'.scheme = r.scheme) (cons : r'.cons = r.cons)
    (name : NewContainer → String) (existing : r'.existingDrives = (planCapacity r).applied r.existingDrives name) :
    (planCapacity r').grow = [] ∧ (planCapacity r').create = [] ∧
      ((planCapacity r').infeasible = "" ∨
        ∃ report, (planCapacity r').infeasibility = some report ∧ report.pool = "compute") := by
  obtain ⟨d, -, -, hinf, hgrow, hcreate, hplan⟩ := planCapacity_again names nonneg feasible desired scheme cons existing
  obtain ⟨hgrow', hcreate'⟩ := planCompute_drives r'.desired r'.scheme r'.existingCompute r'.computeNodes d.books.states
    r'.cons (r'.drivePlan d)
  rw [hplan, hgrow', hcreate']
  refine ⟨hgrow, hcreate, ?_⟩
  rcases planCompute_report r'.desired r'.scheme r'.existingCompute r'.computeNodes d.books.states r'.cons
      (r'.drivePlan d) with h | h
  · exact .inl (h.trans hinf)
  · exact .inr h

def greenfieldAgain : Request := { greenfield with
  existingDrives := (planCapacity greenfield).applied [] (·.node)
  inventory := ["n1", "n2", "n3", "n4", "n5"].map fun n => { nodeName := n, fdValue := n } }

theorem planCapacity_converges_greenfield : (planCapacity greenfieldAgain).grow = [] ∧
    (planCapacity greenfieldAgain).create = [] ∧ ((planCapacity greenfieldAgain).infeasible = "" ∨
      ∃ report, (planCapacity greenfieldAgain).infeasibility = some report ∧ report.pool = "compute") :=
  planCapacity_converges greenfield greenfieldAgain (by decide) (fun _ h => (by cases h)) greenfield_feasible rfl rfl rfl
    (·.node) rfl

end WekaOperator.Planner
