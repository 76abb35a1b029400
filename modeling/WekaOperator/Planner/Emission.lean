import WekaOperator.Planner.Run

/-! Emission.

What the plan says of the books: each growth and each new container is emitted once, with its capacities and with cores
that serve them, and a plan without an infeasibility report has got through every check of the emission. -/

namespace WekaOperator.Planner
open List Lib

variable {d : Draft} {plan : CapacityPlan}
variable {d' : Draft} {reason : String}

section Emit
variable {desired : DesiredCapacity} {cons : CapacityConstraints}

theorem pinCores_reason {tlc qlc : Int} {fixes : List String}
    (h : pinCores desired cons tlc qlc = .error (reason, fixes)) : reason ≠ "" := by
  unfold pinCores at h
  dsimp only at h
  split at h
  · cases h
    simp [toString_self]
  split at h
  · cases h
  split at h
  · cases h
    simp [toString_self]
  split at h
  · cases h
    simp [toString_self]
  · cases h

/-- A growth as emitted. -/
structure GrowEmitted (desired : DesiredCapacity) (cons : CapacityConstraints) (g g' : ContainerGrowth) : Prop where
  record : g' = { g with newCores := g'.newCores }
  cores : ∃ derived, pinCores desired cons g.newTlcGiB g.newQlcGiB = .ok (g'.newCores, derived)

/-- A new container as emitted. -/
structure CreateEmitted (desired : DesiredCapacity) (cons : CapacityConstraints) (states : NameMap NodeState)
    (n n' : NewContainer) : Prop where
  node : n'.node = n.node
  fdValue : n'.fdValue = n.fdValue
  tlc : n'.tlcGiB = n.tlcGiB
  qlc : n'.qlcGiB = n.qlcGiB
  cores : ∃ derived, pinCores desired cons n.tlcGiB n.qlcGiB = .ok (n'.numCores, derived) ∧
    ∀ ns, states.lookup n.node = some ns → (ns.reserveCores (n'.numCores - derived) cons).isSome

theorem GrowEmitted.poolCap {g g' : ContainerGrowth}
    (h : GrowEmitted desired cons g g') (p : PoolKind) : poolCapGrown g' p = poolCapGrown g p := by
  rw [h.record]
  cases p <;> rfl

variable {states : NameMap NodeState} {gs : List ContainerGrowth} {ns : List NewContainer}

theorem CreateEmitted.poolCap {n n' : NewContainer} (h : CreateEmitted desired cons states n n') (p : PoolKind) :
    poolCapNew n' p = poolCapNew n p := by
  cases p
  · exact h.tlc
  · exact h.qlc

theorem emitGrow_ok (h : emitGrow desired cons gs d = .ok d') :
    ∃ gs', List.Forall₂ (GrowEmitted desired cons) gs gs' ∧ d'.plan.grow = d.plan.grow ++ gs' ∧
      d'.plan.create = d.plan.create ∧ d'.plan.infeasible = d.plan.infeasible ∧
      d'.books = { d.books with growth := gs'.foldl (fun m g => m.insert g.name g) d.books.growth } := by
  induction gs generalizing d with
  | nil =>
    cases h
    exact ⟨[], .nil, by simp, rfl, rfl, rfl⟩
  | cons g rest ih =>
    unfold emitGrow at h
    split at h
    · cases h
    · rename_i cores derived hpin
      obtain ⟨gs', hall, hgrow, hrest⟩ := ih h
      exact ⟨{ g with newCores := cores } :: gs', .cons ⟨rfl, _, hpin⟩ hall, hgrow.trans (append_cons _ _ _).symm,
        hrest⟩

theorem emitGrow_error (h : emitGrow desired cons gs d = .error plan) : plan.infeasible ≠ "" := by
  induction gs generalizing d with
  | nil => cases h
  | cons g rest ih =>
    unfold emitGrow at h
    split at h
    · rename_i hpin
      cases h
      exact pinCores_reason hpin
    · exact ih h

theorem emitCreate_ok (nodes : (ns.map (·.node)).Nodup) (h : emitCreate desired cons ns d = .ok d')
    (same : ∀ n ∈ ns, d.books.states.lookup n.node = states.lookup n.node) :
    ∃ ns', List.Forall₂ (CreateEmitted desired cons states) ns ns' ∧ d'.plan.create = d.plan.create ++ ns' ∧
      d'.plan.grow = d.plan.grow ∧ d'.plan.infeasible = d.plan.infeasible := by
  induction ns generalizing d with
  | nil =>
    cases h
    exact ⟨[], .nil, by simp, rfl, rfl⟩
  | cons n rest ih =>
    rw [map_cons, nodup_cons] at nodes
    have hn := same n mem_cons_self
    have hrest : ∀ m ∈ rest, d.books.states.lookup m.node = states.lookup m.node :=
      fun m hm => same m (mem_cons_of_mem _ hm)
    unfold emitCreate at h
    split at h
    · cases h
    rename_i cores derived hpin
    dsimp only at h
    split at h
    · rename_i hns
      obtain ⟨ns', hall, hcreate, hplan⟩ := ih nodes.2 h hrest
      refine ⟨_, ?_, hcreate.trans (append_cons _ _ _).symm, hplan⟩
      refine .cons ⟨rfl, rfl, rfl, rfl, derived, hpin, ?_⟩ hall
      intro s hs
      rw [← hn, hns] at hs
      cases hs
    · rename_i s hns
      split at h
      · cases h
      rename_i s' hres
      -- The other containers are on other nodes, whose budgets this one leaves alone.
      have hothers : ∀ m ∈ rest, (d.books.setState n.node s').states.lookup m.node = states.lookup m.node := by
        intro m hm
        have hne : m.node ≠ n.node := fun e => nodes.1 (e ▸ mem_map_of_mem hm)
        rw [Books.lookup_setState, if_neg hne, hrest m hm]
      obtain ⟨ns', hall, hcreate, hplan⟩ := ih nodes.2 h hothers
      refine ⟨_, ?_, hcreate.trans (append_cons _ _ _).symm, hplan⟩
      refine .cons ⟨rfl, rfl, rfl, rfl, derived, hpin, ?_⟩ hall
      intro s₀ hs₀
      rw [← hn, hns] at hs₀
      cases hs₀
      exact Option.isSome_of_eq_some hres

theorem emitCreate_error (h : emitCreate desired cons ns d = .error plan) : plan.infeasible ≠ "" := by
  induction ns generalizing d with
  | nil => cases h
  | cons n rest ih =>
    unfold emitCreate at h
    split at h
    · rename_i hpin
      cases h
      exact pinCores_reason hpin
    dsimp only at h
    split at h
    · exact ih h
    split at h
    · cases h
      simp [setInfeasible, toString_self]
    · exact ih h

end Emit

theorem planCompute_drives (desired : DesiredCapacity) (scheme : ProtectionScheme)
    (existingCompute : List ExistingComputeContainer) (computeNodes : Option (NameMap Bool)) (states : NameMap NodeState)
    (cons : CapacityConstraints) (plan : CapacityPlan) :
    (planCompute desired scheme existingCompute computeNodes states cons plan).grow = plan.grow ∧
      (planCompute desired scheme existingCompute computeNodes states cons plan).create = plan.create := by
  generalize h : planCompute desired scheme existingCompute computeNodes states cons plan = plan'
  unfold planCompute at h
  split at h
  · subst h
    exact ⟨rfl, rfl⟩
  dsimp only at h
  -- Every branch either records a reason or fills in the compute fields.
  repeat' split at h
  all_goals
    subst h
    exact ⟨rfl, rfl⟩

variable {b : Books}

namespace Request
variable {r : Request}

theorem finish_drives (d : Draft) : (r.finish d).grow = d.plan.grow ∧ (r.finish d).create = d.plan.create := by
  unfold finish
  dsimp only
  split
  · exact ⟨rfl, rfl⟩
  split
  · exact planCompute_drives ..
  · exact ⟨rfl, rfl⟩

theorem finish_feasible (h : (r.finish d).infeasible = "") : d.plan.infeasible = "" := by
  unfold finish at h
  dsimp only at h
  split at h
  · rename_i hd
    exact hd.1
  split at h
  · rename_i hd
    exact hd
  · exact h

/-- The growth records in their order. -/
def growRecords (b : Books) : List ContainerGrowth := (b.growth.entries.map (·.2)).insertionSort fun a b => a.name ≤ b.name

/-- The new-container records in their order. -/
def newRecords (b : Books) : List NewContainer := (b.newByNode.entries.map (·.2)).insertionSort fun a b => a.node ≤ b.node

theorem growRecords_perm (b : Books) : (growRecords b).Perm (b.growth.entries.map (·.2)) := List.perm_insertionSort _ _

theorem newRecords_perm (b : Books) : (newRecords b).Perm (b.newByNode.entries.map (·.2)) := List.perm_insertionSort _ _

theorem growRecords_names (h : b.Keyed) : ((growRecords b).map (·.name)).Nodup := by
  have hnames : (b.growth.entries.map (·.2)).map (·.name) = b.growth.keys := by
    rw [map_map]
    apply map_congr_left
    intro e he
    exact h.growth e.1 e.2 (mem_entries_iff.mp he)
  rw [((growRecords_perm b).map _).nodup_iff, hnames]
  exact b.growth.keys_nodup

theorem newRecords_nodes (h : b.Keyed) : ((newRecords b).map (·.node)).Nodup := by
  have hnodes : (b.newByNode.entries.map (·.2)).map (·.node) = b.newByNode.keys := by
    rw [map_map]
    apply map_congr_left
    intro e he
    exact h.new e.1 e.2 (mem_entries_iff.mp he)
  rw [((newRecords_perm b).map _).nodup_iff, hnodes]
  exact b.newByNode.keys_nodup

theorem targetFds_reason (h : r.targetFds = .error reason) : reason ≠ "" := by
  unfold targetFds splitDriveContainers at h
  dsimp only at h
  repeat' split at h
  all_goals cases h
  all_goals simp [toString_self]

theorem belowFloorReport_reason : r.belowFloorReport.reason ≠ "" := by
  unfold belowFloorReport
  generalize minProtectionFloor r.cons.allowSingleParity = floor
  simp [toString_self]

/-- The plan has the records of the books. -/
structure Emitted (r : Request) (b : Books) (plan : CapacityPlan) : Prop where
  grow : List.Forall₂ (GrowEmitted r.desired r.cons) (growRecords b) plan.grow
  create : List.Forall₂ (CreateEmitted r.desired r.cons b.states) (newRecords b) plan.create

section
variable (h : r.Emitted b plan)
include h

theorem Emitted.growth (keyed : b.Keyed) (name : String) :
    Option.Rel (GrowEmitted r.desired r.cons) (b.growth.lookup name) (plan.grow.find? fun g => g.name = name) := by
  rw [← find?_values keyed.growth (growRecords_perm b) name]
  exact find?_forall₂ (fun g g' hg => by rw [hg.record]) h.grow

theorem Emitted.created (keyed : b.Keyed) (node : String) :
    Option.Rel (CreateEmitted r.desired r.cons b.states) (b.newByNode.lookup node)
      (plan.create.find? fun n => n.node = node) := by
  rw [← find?_values keyed.new (newRecords_perm b) node]
  exact find?_forall₂ (fun n n' hn => by rw [hn.node]) h.create

theorem Emitted.createNodes (keyed : b.Keyed) : (plan.create.map (·.node)).Nodup := by
  rw [map_eq_of_forall₂ h.create fun _ _ hn => hn.node]
  exact newRecords_nodes keyed

theorem Emitted.growNames (keyed : b.Keyed) : (plan.grow.map (·.name)).Nodup := by
  rw [map_eq_of_forall₂ h.grow fun _ _ hg => by rw [hg.record]]
  exact growRecords_names keyed

end

theorem emit_eq_ok (h : r.emit d = .ok d') : ∃ d₁,
    emitGrow r.desired r.cons (growRecords d.books) d = .ok d₁ ∧
      emitCreate r.desired r.cons (newRecords d₁.books) d₁ = .ok d' := bind_eq_ok h

theorem emit_ok {targets : Int × Int} (h : r.emit (r.planned targets) = .ok d) :
    Emitted r (r.planned targets).books d.plan ∧ d.plan.infeasible = (r.planned targets).plan.infeasible := by
  obtain ⟨d₁, hg, h⟩ := emit_eq_ok h
  obtain ⟨gs', hgrow, hplan, hcreate, hinf, hbooks⟩ := emitGrow_ok hg
  have hnew : newRecords d₁.books = newRecords (r.planned targets).books := by rw [hbooks]; rfl
  have hstates : d₁.books.states = (r.planned targets).books.states := by rw [hbooks]
  obtain ⟨ns', hnew', hcreate', hgrow', hinf'⟩ := emitCreate_ok (hnew ▸ newRecords_nodes planned_keyed) h fun _ _ => rfl
  rw [planned_drives.1, nil_append] at hplan
  rw [hcreate, planned_drives.2, nil_append] at hcreate'
  refine ⟨⟨?_, ?_⟩, hinf'.trans hinf⟩
  · rw [hgrow', hplan]
    exact hgrow
  · rw [hcreate', ← hnew, ← hstates]
    exact hnew'

theorem emit_error (h : r.emit d = .error plan) : plan.infeasible ≠ "" := by
  unfold emit at h
  cases hg : emitGrow r.desired r.cons (growRecords d.books) d with
  | error plan' =>
    have hne := emitGrow_error hg
    unfold growRecords at hg
    rw [hg] at h
    cases h
    exact hne
  | ok d₁ =>
    unfold growRecords at hg
    rw [hg] at h
    exact emitCreate_error h

end Request

theorem planCapacity_feasible {r : Request} (h : (planCapacity r).infeasible = "") :
    ∃ targets, r.targetFds = .ok targets ∧ (r.planned targets).plan.infeasible = "" ∧
      r.Emitted (r.planned targets).books (planCapacity r) := by
  unfold planCapacity at h ⊢
  split at h
  · exact absurd h Request.belowFloorReport_reason
  rename_i hfloor
  rw [if_neg hfloor]
  split at h
  · rename_i hreason
    exact absurd h (Request.targetFds_reason hreason)
  rename_i targets htargets
  split at h
  · rename_i plan hplan
    exact absurd h (Request.emit_error hplan)
  · rename_i d hd
    obtain ⟨hem, hinf⟩ := Request.emit_ok hd
    refine ⟨targets, htargets, by rw [← hinf]; exact Request.finish_feasible h, ?_⟩
    exact ⟨by rw [(Request.finish_drives d).1]; exact hem.grow, by rw [(Request.finish_drives d).2]; exact hem.create⟩

end WekaOperator.Planner
