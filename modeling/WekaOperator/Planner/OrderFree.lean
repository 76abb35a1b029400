import WekaOperator.Planner.ComputeOrder
import WekaOperator.Planner.Iteration

/-! The plan does not show any order: two runs that go in step over the pools emit the same records, sorted by name
    and by node, and size the compute containers alike. -/

namespace WekaOperator.Planner
open Lib

/-! ### Emission -/

namespace Books.Same
variable {b b' : Books} (h : b.Same b')
include h

theorem insertGrowth (k : String) (g : ContainerGrowth) :
    ({ b with growth := b.growth.insert k g } : Books).Same { b' with growth := b'.growth.insert k g } :=
  ⟨h.states, fun k' => by simp only [lookup_insert_eq, h.growth], h.newByNode⟩

theorem insertNew (n : String) (x : NewContainer) :
    ({ b with newByNode := b.newByNode.insert n x } : Books).Same { b' with newByNode := b'.newByNode.insert n x } :=
  ⟨h.states, h.growth, fun n' => by simp only [lookup_insert_eq, h.newByNode]⟩

theorem setState (n : String) (ns : NodeState) : (b.setState n ns).Same (b'.setState n ns) :=
  ⟨fun n' => by simp only [Books.lookup_setState, h.states], h.growth, h.newByNode⟩

open Request in
theorem growRecords (keyed : b.Keyed) : growRecords b' = growRecords b := by
  have nodup := growRecords_names keyed
  rw [((growRecords_perm b).map _).nodup_iff] at nodup
  exact (insertionSort_key_eq _ (fun _ _ => Iff.rfl) ((entries_perm h.growth).map _) nodup).symm

open Request in
theorem newRecords (nodup : ((newRecords b).map (·.node)).Nodup) : newRecords b' = newRecords b := by
  rw [((newRecords_perm b).map _).nodup_iff] at nodup
  exact (insertionSort_key_eq _ (fun _ _ => Iff.rfl) ((entries_perm h.newByNode).map _) nodup).symm

end Books.Same

/-- Emissions that are alike. -/
inductive EmittedAlike : Except CapacityPlan Draft → Except CapacityPlan Draft → Prop
  | stopped {plan plan' : CapacityPlan} (h : plan.Alike plan') : EmittedAlike (.error plan) (.error plan')
  | emitted {d d' : Draft} (h : d.Alike d') : EmittedAlike (.ok d) (.ok d')

section Emit
variable {desired : DesiredCapacity} {cons : CapacityConstraints} {d d' : Draft}

theorem emitGrow_alike (gs : List ContainerGrowth) (h : d.Alike d') :
    EmittedAlike (emitGrow desired cons gs d) (emitGrow desired cons gs d') := by
  induction gs generalizing d d' with
  | nil => exact .emitted h
  | cons g rest ih =>
    unfold emitGrow
    cases hpin : pinCores desired cons g.newTlcGiB g.newQlcGiB with
    | error e => exact .stopped (h.plan.setInfeasible (pinCores_reason hpin) (pinCores_reason hpin))
    | ok cores =>
      refine ih ⟨h.books.insertGrowth _ _, ?_⟩
      exact { h.plan with grow := congrArg (· ++ _) h.plan.grow }

theorem emitCreate_alike (ns : List NewContainer) (h : d.Alike d') :
    EmittedAlike (emitCreate desired cons ns d) (emitCreate desired cons ns d') := by
  induction ns generalizing d d' with
  | nil => exact .emitted h
  | cons n rest ih =>
    have hplan : ∀ x : NewContainer, ({ d.plan with create := d.plan.create ++ [x] } : CapacityPlan).Alike
        { d'.plan with create := d'.plan.create ++ [x] } :=
      fun x => { h.plan with create := congrArg (· ++ [x]) h.plan.create }
    unfold emitCreate
    cases hpin : pinCores desired cons n.tlcGiB n.qlcGiB with
    | error e => exact .stopped (h.plan.setInfeasible (pinCores_reason hpin) (pinCores_reason hpin))
    | ok cores =>
      dsimp only
      rw [h.books.states]
      cases d.books.states.lookup n.node with
      | none => exact ih ⟨h.books.insertNew _ _, hplan _⟩
      | some s =>
        dsimp only
        cases s.reserveCores (cores.1 - cores.2) cons with
        | none => exact .stopped (h.plan.setInfeasible (by simp [toString_self]) (by simp [toString_self]))
        | some s' => exact ih ⟨(h.books.setState _ _).insertNew _ _, hplan _⟩

end Emit

theorem CapacityPlan.Alike.withCores {plan plan' : CapacityPlan} (h : plan.Alike plan') (tlc qlc required : Int) :
    ({ plan with totalTlcDriveCores := tlc, totalQlcDriveCores := qlc, requiredComputeCores := required } : CapacityPlan).Alike
      { plan' with totalTlcDriveCores := tlc, totalQlcDriveCores := qlc, requiredComputeCores := required } :=
  { h with totalTlcDriveCores := rfl, totalQlcDriveCores := rfl, requiredComputeCores := rfl }

theorem CapacityPlan.Alike.planCompute {plan plan' : CapacityPlan} (h : plan.Alike plan') (desired : DesiredCapacity)
    (scheme : ProtectionScheme) (cons : CapacityConstraints) {existing existing' : List ExistingComputeContainer}
    {cn cn' : Option (NameMap Bool)} {states states' : NameMap NodeState} (hosts : (computeHosts existing).Nodup)
    (perm : existing.Perm existing') (nodes : Option.Rel (fun m m' : NameMap Bool => ∀ n, m'.lookup n = m.lookup n) cn cn')
    (same : ∀ n, states'.lookup n = states.lookup n) :
    (planCompute desired scheme existing cn states cons plan).Alike
      (planCompute desired scheme existing' cn' states' cons plan') := by
  cases nodes with
  | none => exact h.setInfeasible (by decide) (by decide)
  | @some m m' hnodes =>
    have hi : ComputeInput.Rearranged ⟨desired, scheme, existing, m, states, cons, plan.requiredComputeCores⟩
        ⟨desired, scheme, existing', m', states', cons, plan'.requiredComputeCores⟩ :=
      ⟨rfl, rfl, rfl, h.requiredComputeCores, perm, hnodes, same⟩
    have hosts' : (computeHosts existing').Nodup := ((perm.filter _).map _).nodup_iff.mp hosts
    rcases planCompute_cases _ rfl with ⟨report, hplan, hreason, -, hno⟩ | ⟨count, cores, new, hplaced, hplan⟩
    · rcases planCompute_cases _ rfl with ⟨report', hplan', hreason', -, -⟩ | ⟨count, cores, new, hplaced', -⟩
      · rw [hplan, hplan']
        exact h.setInfeasible hreason hreason'
      · exact absurd (hi.symm.placed hosts' hplaced') (hno count cores new)
    · rw [hplan, planCompute_of_placed rfl (hi.placed hosts hplaced)]
      exact { h with computeLayout := hi.layout hosts hplaced }

/-! ### The whole plan -/

namespace Request
variable {r r' : Request} {d d' : Draft}

theorem emit_alike (h : r.Rearranged r') (proper : d.books.Proper) (hd : d.Alike d') :
    EmittedAlike (r.emit d) (r'.emit d') := by
  have hgrow : EmittedAlike (emitGrow r.desired r.cons (growRecords d.books) d)
      (emitGrow r.desired r.cons (growRecords d'.books) d') := by
    rw [hd.books.growRecords proper.keyed]
    exact emitGrow_alike _ hd
  unfold emit
  rw [h.desired, h.cons]
  change EmittedAlike ((emitGrow _ _ (growRecords d.books) d).bind fun d => emitCreate _ _ (newRecords d.books) d)
    ((emitGrow _ _ (growRecords d'.books) d').bind fun d => emitCreate _ _ (newRecords d.books) d)
  generalize hrun : emitGrow r.desired r.cons (growRecords d.books) d = grown at hgrow ⊢
  generalize emitGrow r.desired r.cons (growRecords d'.books) d' = grown' at hgrow ⊢
  cases hgrow with
  | stopped hplan => exact .stopped hplan
  | @emitted d₁ d₁' hd₁ =>
    -- The growth records left the new containers as they were.
    obtain ⟨_, -, -, -, -, hbooks⟩ := emitGrow_ok hrun
    have hnew : d₁.books.newByNode = d.books.newByNode := by rw [hbooks]
    have nodup : ((newRecords d₁.books).map (·.node)).Nodup := by
      unfold newRecords
      rw [hnew]
      exact newRecords_nodes proper.keyed
    simp only [Except.bind]
    rw [hd₁.books.newRecords nodup]
    exact emitCreate_alike _ hd₁

theorem totalDriveCores_perm {existing existing' : List ExistingContainer} {b b' : Books} (perm : existing.Perm existing')
    (same : b.Same b') (coresFor : Int → Int → Int → CapacityConstraints → Int) (cons : CapacityConstraints) :
    totalDriveCores coresFor existing' b' cons = totalDriveCores coresFor existing b cons := by
  unfold totalDriveCores finalCores
  simp only [finalPoolCap_same same, same.growth]
  rw [(perm.map _).sum_eq, ((entries_perm same.newByNode).map _).sum_eq]

theorem finish_alike (h : r.Rearranged r') (one : r.OnePerNode) (hd : d.Alike d') :
    (r.finish d).Alike (r'.finish d') := by
  have hfds : distinctDriveFds r'.existingDrives d'.books.newByNode = distinctDriveFds r.existingDrives d.books.newByNode := by
    have hperm := (h.existingDrives.map (·.fdValue)).append ((entries_perm hd.books.newByNode).map (·.2.fdValue))
    exact (hperm.filter _).dedup.length_eq.symm
  unfold finish totalTlcDriveCores totalQlcDriveCores
  dsimp only
  simp only [h.desired, h.scheme, h.cons, hfds, totalDriveCores_perm h.existingDrives hd.books, hd.plan.feasible]
  split
  · exact hd.plan.setInfeasible (by simp [toString_self]) (by simp [toString_self])
  generalize totalDriveCores tlcDriveCoresForContainer r.existingDrives d.books r.cons = tlc
  generalize totalDriveCores qlcDriveCoresForContainer r.existingDrives d.books r.cons = qlc
  have hplan := hd.plan.withCores tlc qlc (requiredComputeCores tlc qlc false r.cons)
  split
  · exact hplan.planCompute r.desired r.scheme r.cons one.compute h.existingCompute h.computeNodes hd.books.states
  · exact hplan

theorem planIn_alike (h : r.Rearranged r') (one : r.OnePerNode) (names : (r.existingDrives.map (·.name)).Nodup)
    (ω ω' : Iteration) : (r.planIn ω).Alike (r'.planIn ω') := by
  have hfloor : r'.belowFloor = r.belowFloor := by simp only [belowFloor, h.scheme, h.cons]
  have htargets : r'.targetFds = r.targetFds := by simp only [targetFds, minFd, h.desired, h.scheme]
  unfold planIn
  rw [hfloor, htargets]
  split
  · exact .setInfeasible (.refl _) belowFloorReport_reason belowFloorReport_reason
  cases ht : r.targetFds with
  | error reason => exact .setInfeasible (.refl _) (targetFds_reason ht) (targetFds_reason ht)
  | ok targets =>
    dsimp only
    obtain ⟨hplanned, proper⟩ := @plannedIn_alike r r' ω ω' targets h one names
    have hlisted : ({ r.plannedIn ω targets with books := ω.emit.arrange (r.plannedIn ω targets).books } : Draft).Alike
        { r'.plannedIn ω' targets with books := ω'.emit.arrange (r'.plannedIn ω' targets).books } :=
      ⟨(ω.emit.same _).symm.trans (hplanned.books.trans (ω'.emit.same _)), hplanned.plan⟩
    have hemit := emit_alike h (proper.same (ω.emit.same _)) hlisted
    generalize r.emit _ = emitted at hemit ⊢
    generalize r'.emit _ = emitted' at hemit ⊢
    cases hemit with
    | stopped hplan => exact hplan
    | emitted hd =>
      exact finish_alike h one ⟨(ω.finish.same _).symm.trans (hd.books.trans (ω'.finish.same _)), hd.plan⟩

end Request

/-- Plans of one request, listed in any order and with any iteration order of the maps, are both feasible or both not,
    with the same growth, the same new containers, the same compute layout and the same cores. -/
theorem planCapacity_orderFree (r r' : Request) (h : r.Rearranged r') (one : r.OnePerNode)
    (names : (r.existingDrives.map (·.name)).Nodup) :
    (planCapacity r).Alike (planCapacity r') ∧ ∀ ω ω' : Iteration, (r.planIn ω).Alike (r'.planIn ω') := by
  have hruns := r.planIn_alike h one names
  refine ⟨?_, hruns⟩
  rw [← r.planIn_asListed, ← r'.planIn_asListed]
  exact hruns {} {}

/-- The request with its lists reversed. -/
def Request.backwards (r : Request) : Request :=
  { r with
    existingDrives := r.existingDrives.reverse
    existingCompute := r.existingCompute.reverse
    inventory := r.inventory.reverse }

theorem Request.rearranged_backwards (r : Request) : r.Rearranged r.backwards where
  desired := rfl
  scheme := rfl
  cons := rfl
  existingDrives := (List.reverse_perm _).symm
  existingCompute := (List.reverse_perm _).symm
  inventory := (List.reverse_perm _).symm
  computeNodes := by
    cases h : r.computeNodes with
    | none =>
      rw [backwards, h]
      exact .none
    | some m =>
      rw [backwards, h]
      exact .some fun _ => rfl

/-- Five nodes with a drive container each, two of them also with a compute container. -/
def fiveDrives : Request where
  desired := { tlcRawGiB := 6000, qlcRawGiB := 0 }
  scheme := ⟨3, 2, 0⟩
  existingDrives := [⟨"d1", "n1", "n1", 800, 0, 1, false⟩, ⟨"d2", "n2", "n2", 1000, 0, 1, false⟩,
    ⟨"d3", "n3", "n3", 1000, 0, 1, false⟩, ⟨"d4", "n4", "n4", 1000, 0, 1, false⟩, ⟨"d5", "n5", "n5", 1000, 0, 1, false⟩]
  existingCompute := [⟨"c1", "n1", 1, 3000, false⟩, ⟨"c2", "n2", 1, 3000, false⟩]
  inventory := ["n1", "n2", "n3", "n4", "n5"].map fun n =>
    { nodeName := n, fdValue := n, tlcGiB := 2000, allocatableCPU := 40, availableHugepagesMiB := 100000
      availableMemoryMiB := 100000 }
  computeNodes := some (["n1", "n2", "n3", "n4", "n5"].foldl (fun m n => m.insert n true) ∅)
  cons := { tlcCapacityPerCoreGiB := 1000, qlcCapacityPerCoreGiB := 1000, minChunkSizeGiB := 384
            maxOverProvisionFraction := 1 / 10, allowInPlaceGrowth := true }

theorem fiveDrives_onePerNode : fiveDrives.OnePerNode := by
  have hnodes : ["n1", "n2", "n3", "n4", "n5"].Nodup := by decide
  have hcompute : ["n1", "n2"].Nodup := by decide
  exact ⟨hnodes, hnodes, hcompute⟩

theorem planCapacity_orderFree_backwards : fiveDrives.OnePerNode ∧
    (fiveDrives.existingDrives.map (·.name)).Nodup ∧
    (planCapacity fiveDrives).Alike (planCapacity fiveDrives.backwards) := by
  have names : (fiveDrives.existingDrives.map (·.name)).Nodup := by decide
  refine ⟨fiveDrives_onePerNode, names, ?_⟩
  exact (planCapacity_orderFree _ _ (Request.rearranged_backwards _) (fiveDrives_onePerNode) names).1

end WekaOperator.Planner
