import WekaOperator.Planner.ComputeLayout
import WekaOperator.Planner.Rearranged

/-! Runs of `planCapacity` under any iteration order of its maps, for a request listed in any order. -/

namespace WekaOperator.Planner
open Lib

/-! ### Runs -/

/-- The books with their maps in another order. -/
structure BooksOrder where
  arrange : Books → Books
  same : ∀ b : Books, b.Same (arrange b)

/-- The order they have. -/
def BooksOrder.asListed : BooksOrder := ⟨id, Books.Same.refl⟩

/-- The orders in which a run goes over its maps. -/
structure Iteration where
  choose : PoolKind → BooksOrder := fun _ => .asListed
  check : PoolKind → BooksOrder := fun _ => .asListed
  emit : BooksOrder := .asListed
  finish : BooksOrder := .asListed

namespace Request
variable (r : Request) (ω : Iteration)

/-- Planning a pool under these orders. -/
def stepIn (targets : Int × Int) (d : Draft) (p : PoolKind) : Draft :=
  match r.choice targets ((ω.choose p).arrange d.books) p with
  | .place o =>
    let placed := placeUniform p r.existingDrives r.cons o.level o.chosen d.books
    carryOut p (r.desiredOf p) r.minFd r.existingDrives r.cons { d with books := (ω.check p).arrange placed }
      (.place { o with chosen := [] })
  | choice => carryOut p (r.desiredOf p) r.minFd r.existingDrives r.cons d choice

/-- The draft under these orders. -/
def plannedIn (targets : Int × Int) : Draft := r.pools.foldl (r.stepIn ω targets) { books := { states := r.states } }

/-- The plan under these orders. -/
def planIn : CapacityPlan :=
  if r.belowFloor then setInfeasible {} r.belowFloorReport else
  match r.targetFds with
  | .error reason => setInfeasible {} { reason, binding := "driveContainers", fixes := fixesDriveContainers 0 }
  | .ok targets =>
    let d := r.plannedIn ω targets
    match r.emit { d with books := ω.emit.arrange d.books } with
    | .error plan => plan
    | .ok d => r.finish { d with books := ω.finish.arrange d.books }

theorem planIn_asListed : r.planIn {} = planCapacity r := by
  have hstep : r.stepIn {} = r.step := by
    funext targets d p
    unfold stepIn step planPool Request.choice
    dsimp only [BooksOrder.asListed, id]
    cases p with
    | tlc => cases choosePool .tlc (r.desiredOf .tlc) r.minFd r.existingDrives r.cons d.books targets.1 r.order <;> rfl
    | qlc => cases choosePool .qlc (r.desiredOf .qlc) r.minFd r.existingDrives r.cons d.books targets.2 r.order <;> rfl
  unfold planIn planCapacity plannedIn planned
  rw [hstep]
  rfl

end Request

/-! ### Plans and drafts that come to the same -/

/-- Plans that differ in texts at most. -/
structure CapacityPlan.Alike (plan plan' : CapacityPlan) : Prop where
  feasible : plan'.infeasible = "" ↔ plan.infeasible = ""
  grow : plan'.grow = plan.grow
  create : plan'.create = plan.create
  computeLayout : plan'.computeLayout = plan.computeLayout
  totalTlcDriveCores : plan'.totalTlcDriveCores = plan.totalTlcDriveCores
  totalQlcDriveCores : plan'.totalQlcDriveCores = plan.totalQlcDriveCores
  requiredComputeCores : plan'.requiredComputeCores = plan.requiredComputeCores

/-- Drafts that are the same. -/
structure Draft.Alike (d d' : Draft) : Prop where
  books : d.books.Same d'.books
  plan : d.plan.Alike d'.plan

namespace CapacityPlan.Alike
variable {plan plan' : CapacityPlan}

theorem refl (plan : CapacityPlan) : plan.Alike plan := ⟨Iff.rfl, rfl, rfl, rfl, rfl, rfl, rfl⟩

theorem symm (h : plan.Alike plan') : plan'.Alike plan :=
  ⟨h.feasible.symm, h.grow.symm, h.create.symm, h.computeLayout.symm, h.totalTlcDriveCores.symm, h.totalQlcDriveCores.symm,
    h.requiredComputeCores.symm⟩

theorem trans {plan'' : CapacityPlan} (h : plan.Alike plan') (h' : plan'.Alike plan'') : plan.Alike plan'' :=
  ⟨h'.feasible.trans h.feasible, h'.grow.trans h.grow, h'.create.trans h.create, h'.computeLayout.trans h.computeLayout,
    h'.totalTlcDriveCores.trans h.totalTlcDriveCores, h'.totalQlcDriveCores.trans h.totalQlcDriveCores,
    h'.requiredComputeCores.trans h.requiredComputeCores⟩

theorem setInfeasible (h : plan.Alike plan') {report report' : InfeasibilityReport} (reason : report.reason ≠ "")
    (reason' : report'.reason ≠ "") : (setInfeasible plan report).Alike (setInfeasible plan' report') :=
  ⟨⟨fun e => absurd e reason', fun e => absurd e reason⟩, h.grow, h.create, h.computeLayout, h.totalTlcDriveCores,
    h.totalQlcDriveCores, h.requiredComputeCores⟩

end CapacityPlan.Alike

theorem Draft.Alike.refl (d : Draft) : d.Alike d := ⟨.refl _, .refl _⟩

theorem Draft.Alike.symm {d d' : Draft} (h : d.Alike d') : d'.Alike d := ⟨h.books.symm, h.plan.symm⟩

theorem Draft.Alike.trans {d d' d'' : Draft} (h : d.Alike d') (h' : d'.Alike d'') : d.Alike d'' :=
  ⟨h.books.trans h'.books, h.plan.trans h'.plan⟩

/-- Books as planning builds them. -/
structure Books.Proper (b : Books) : Prop where
  named : Named b.states
  keyed : b.Keyed

namespace Books.Proper
variable {p : PoolKind} {existing : List ExistingContainer} {cons : CapacityConstraints} {b b' : Books}

theorem same (h : b.Proper) (hs : b.Same b') : b'.Proper where
  named n ns hn := h.named n ns ((hs.states n).symm.trans hn)
  keyed := ⟨fun k g hg => h.keyed.growth k g ((hs.growth k).symm.trans hg),
    fun n x hx => h.keyed.new n x ((hs.newByNode n).symm.trans hx)⟩

theorem placeUniform (h : b.Proper) (target : Int) (chosen : List FdGroup) :
    (placeUniform p existing cons target chosen b).Proper := by
  refine List.foldlRecOn chosen _ h fun b hb g _ => ⟨fun n ns hn => ?_, placeFd_keyed hb.keyed g⟩
  have hsame : SameNodes b (placeFd p existing cons target b g) := .placeFd target b g
  have hnc := hsame n
  rw [hn, Option.map_some] at hnc
  obtain ⟨ns₀, hns₀, heq⟩ := Option.map_eq_some_iff.mp hnc.symm
  rw [← heq]
  exact hb.named n ns₀ hns₀

end Books.Proper

/-! ### One pool -/

section Pool
variable {p : PoolKind} {desiredRaw minFd : Int} {existing existing' : List ExistingContainer} {cons : CapacityConstraints}
  {b b' : Books} {d d' : Draft}

theorem finalPoolCap_same (same : b.Same b') (c : ExistingContainer) (p : PoolKind) :
    finalPoolCap c b'.growth p = finalPoolCap c b.growth p := by
  unfold finalPoolCap
  rw [same.growth]

section
variable (perm : existing.Perm existing')
include perm

theorem finalCaps_perm (same : b.Same b') : (finalCaps p existing b).Perm (finalCaps p existing' b') := by
  unfold finalCaps
  simp only [finalPoolCap_same same]
  exact (perm.map _).append ((entries_perm same.newByNode).map _)

theorem placedCapacity_perm (same : b.Same b') (exclude : Bool) :
    placedCapacity p existing' exclude b' = placedCapacity p existing exclude b := by
  unfold placedCapacity
  simp only [finalPoolCap_same same]
  rw [((entries_perm same.newByNode).map _).sum_eq, ((perm.filter _).map _).sum_eq]

theorem poolFeasibility_perm (same : b.Same b') (remaining : Int) :
    poolFeasibility p minFd remaining existing' b' cons = poolFeasibility p minFd remaining existing b cons := by
  have hfds : (finalPerFD p existing' b').length = (finalPerFD p existing b).length := by
    rw [finalPerFD_length, finalPerFD_length, carriers, carriers,
      List.toFinset_eq_of_perm _ _ (((finalCaps_perm perm same).filter _).map Prod.fst)]
  unfold poolFeasibility
  rw [hfds]

end

theorem Draft.Alike.finalize (h : d.Alike d') (perm : existing.Perm existing') (exclude : Bool) :
    (finalizePoolFeasibility p desiredRaw minFd existing cons exclude d).Alike
      (finalizePoolFeasibility p desiredRaw minFd existing' cons exclude d') := by
  unfold finalizePoolFeasibility
  dsimp only
  rw [placedCapacity_perm perm h.books, poolFeasibility_perm perm h.books]
  split
  · rename_i hreason
    exact ⟨h.books, h.plan.setInfeasible hreason hreason⟩
  · exact h

theorem carryOut_checked (d : Draft) (o : PlaceOrder) :
    (finalizePoolFeasibility p desiredRaw minFd existing cons o.excludePoolPExisting d).Alike
      (carryOut p desiredRaw minFd existing cons d (.place { o with chosen := [] })) := by
  generalize hcarried : carryOut p desiredRaw minFd existing cons d (.place { o with chosen := [] }) = carried
  rcases ite_eq_iff.mp hcarried with ⟨-, rfl⟩ | ⟨-, rfl⟩
  · exact ⟨.refl _, Iff.rfl, rfl, rfl, rfl, rfl, rfl, rfl⟩
  · exact .refl _

theorem Draft.Alike.checked (h : d.Alike d') (perm : existing.Perm existing') {o o' : PlaceOrder}
    (exclude : o'.excludePoolPExisting = o.excludePoolPExisting) :
    (carryOut p desiredRaw minFd existing cons d (.place { o with chosen := [] })).Alike
      (carryOut p desiredRaw minFd existing' cons d' (.place { o' with chosen := [] })) := by
  have hcheck := @Draft.Alike.finalize p desiredRaw minFd existing existing' cons d d' h perm o.excludePoolPExisting
  refine (carryOut_checked d o).symm.trans (hcheck.trans ?_)
  rw [← exclude]
  exact carryOut_checked d' o'

end Pool

/-! ### Both pools -/

namespace Request
variable {r r' : Request} {ω ω' : Iteration} {targets : Int × Int} {d d' : Draft}

/-- The same request in another order. -/
structure Rearranged (r r' : Request) : Prop where
  desired : r'.desired = r.desired
  scheme : r'.scheme = r.scheme
  cons : r'.cons = r.cons
  existingDrives : r.existingDrives.Perm r'.existingDrives
  existingCompute : r.existingCompute.Perm r'.existingCompute
  inventory : r.inventory.Perm r'.inventory
  computeNodes : Option.Rel (fun m m' : NameMap Bool => ∀ n, m'.lookup n = m.lookup n) r.computeNodes r'.computeNodes

/-- Names and nodes are distinct. -/
structure OnePerNode (r : Request) : Prop where
  nodes : (r.inventory.map (·.nodeName)).Nodup
  drives : (driveHosts r.existingDrives).Nodup
  compute : (computeHosts r.existingCompute).Nodup

section
variable (h : r.Rearranged r')
include h

section
variable (one : r.OnePerNode)
include one

theorem Rearranged.states (n : String) : r'.states.lookup n = r.states.lookup n :=
  lookup_foldl_insert_perm _ _ h.inventory one.nodes n

theorem Rearranged.pools : r'.pools = r.pools := by
  have hcount : ∀ p, countPoolCapableNodes r'.states (poolNodeUsed r'.existingDrives p) p =
      countPoolCapableNodes r.states (poolNodeUsed r.existingDrives p) p := by
    intro p
    have hused : ∀ n, n ∈ poolNodeUsed r'.existingDrives p ↔ n ∈ poolNodeUsed r.existingDrives p := fun n =>
      ((h.existingDrives.filter _).map _).mem_iff.symm
    unfold countPoolCapableNodes
    simp only [hused]
    exact ((entries_perm (h.states one)).filter _).length_eq.symm
  unfold Request.pools
  rw [h.desired, hcount, hcount]

theorem stepIn_alike (names : (r.existingDrives.map (·.name)).Nodup) (proper : d.books.Proper) (hd : d.Alike d')
    (p : PoolKind) :
    (r.stepIn ω targets d p).Alike (r'.stepIn ω' targets d' p) ∧ (r.stepIn ω targets d p).books.Proper := by
  have hbooks : ((ω.choose p).arrange d.books).Same ((ω'.choose p).arrange d'.books) :=
    ((ω.choose p).same d.books).symm.trans (hd.books.trans ((ω'.choose p).same d'.books))
  have hproper := proper.same ((ω.choose p).same d.books)
  have hdesired : r'.desiredOf p = r.desiredOf p := by cases p <;> simp only [desiredOf, h.desired]
  have hminFd : r'.minFd = r.minFd := by simp only [minFd, h.scheme]
  have hchoice : (r.choice targets ((ω.choose p).arrange d.books) p).Alike
      (r'.choice targets ((ω'.choose p).arrange d'.books) p) := by
    unfold Request.choice
    rw [hdesired, hminFd, h.cons]
    exact choosePool_perm h.existingDrives hproper.named hbooks one.drives _ _ _
  unfold stepIn
  rw [hdesired, hminFd, h.cons]
  generalize hc : r.choice targets ((ω.choose p).arrange d.books) p = choice at hchoice ⊢
  generalize r'.choice targets ((ω'.choose p).arrange d'.books) p = choice' at hchoice ⊢
  cases hchoice with
  | keep => exact ⟨hd, proper⟩
  | shrink msg =>
    exact ⟨⟨hd.books, hd.plan.feasible, hd.plan.grow, hd.plan.create, hd.plan.computeLayout, hd.plan.totalTlcDriveCores,
      hd.plan.totalQlcDriveCores, hd.plan.requiredComputeCores⟩, proper⟩
  | infeasible reason reason' => exact ⟨⟨hd.books, hd.plan.setInfeasible reason reason'⟩, proper⟩
  | @place o o' level exclude chosen =>
    dsimp only
    have nodup := (choosePool_chosen hc).nodup hproper.named
    have hplaced : (placeUniform p r.existingDrives r.cons o.level o.chosen d.books).Same
        (placeUniform p r'.existingDrives r.cons o'.level o'.chosen d'.books) := by
      rw [level, placeUniform_existing (existingOnNode_perm one.drives h.existingDrives)]
      exact placeUniform_perm names chosen nodup hd.books
    have hplacedProper := @Books.Proper.placeUniform p r.existingDrives r.cons d.books proper o.level o.chosen
    generalize placeUniform p r.existingDrives r.cons o.level o.chosen d.books = placed at hplaced hplacedProper ⊢
    generalize placeUniform p r'.existingDrives r.cons o'.level o'.chosen d'.books = placed' at hplaced ⊢
    have hlisted : ({ d with books := (ω.check p).arrange placed } : Draft).Alike
        { d' with books := (ω'.check p).arrange placed' } :=
      ⟨((ω.check p).same placed).symm.trans (hplaced.trans ((ω'.check p).same placed')), hd.plan⟩
    refine ⟨hlisted.checked h.existingDrives exclude, ?_⟩
    rw [carryOut_books]
    exact hplacedProper.same ((ω.check p).same placed)

theorem plannedIn_alike (names : (r.existingDrives.map (·.name)).Nodup) :
    (r.plannedIn ω targets).Alike (r'.plannedIn ω' targets) ∧ (r.plannedIn ω targets).books.Proper := by
  have run : ∀ (ps : List PoolKind) (d d' : Draft), d.books.Proper → d.Alike d' →
      (ps.foldl (r.stepIn ω targets) d).Alike (ps.foldl (r'.stepIn ω' targets) d') ∧
        (ps.foldl (r.stepIn ω targets) d).books.Proper := by
    intro ps
    induction ps with
    | nil => exact fun _ _ proper hd => ⟨hd, proper⟩
    | cons p ps ih =>
      intro d d' proper hd
      obtain ⟨hstep, hproper⟩ := @stepIn_alike r r' ω ω' targets d d' h one names proper hd p
      exact ih _ _ hproper hstep
  unfold plannedIn
  rw [h.pools one]
  refine run _ _ _ ⟨OnInventory.named (SameNodes.refl _), ?_⟩ ⟨?_, .refl _⟩
  · exact ⟨fun _ _ hg => (by cases hg), fun _ _ hx => (by cases hx)⟩
  · exact ⟨h.states one, fun _ => rfl, fun _ => rfl⟩

end

end

end Request
end WekaOperator.Planner
