import WekaOperator.Planner.WellFormed

/-! The books after emission.

Emission leaves the records in the books as they are in the plan, so that the compute planning that follows counts the
cores and capacities of the plan. -/

namespace WekaOperator.Planner
open Lib

theorem NodeState.reserveCores_nc {ns ns' : NodeState} {cores : Int} {cons : CapacityConstraints}
    (h : ns.reserveCores cores cons = some ns') : ns'.nc = ns.nc := by
  unfold reserveCores at h
  dsimp only at h
  split at h
  · cases h
    rfl
  split at h
  · cases h
  · cases h
    rfl

section Emit
variable {desired : DesiredCapacity} {cons : CapacityConstraints} {d d' : Draft}

theorem emitCreate_books {ns : List NewContainer} (h : emitCreate desired cons ns d = .ok d') :
    ∃ ns', d'.plan.create = d.plan.create ++ ns' ∧ d'.plan.grow = d.plan.grow ∧ d'.books.growth = d.books.growth ∧
      d'.books.newByNode = ns'.foldl (fun m n => m.insert n.node n) d.books.newByNode ∧ SameNodes d.books d'.books := by
  induction ns generalizing d with
  | nil =>
    cases h
    exact ⟨[], (List.append_nil _).symm, rfl, rfl, rfl, .refl _⟩
  | cons n rest ih =>
    unfold emitCreate at h
    split at h
    · cases h
    dsimp only at h
    split at h
    · obtain ⟨ns', hcreate, hrest⟩ := ih h
      exact ⟨_ :: ns', hcreate.trans (List.append_cons _ _ _).symm, hrest⟩
    rename_i ns hns
    split at h
    · cases h
    rename_i ns₁ hres
    obtain ⟨ns', hcreate, hgrow, hgrowth, hnew, hsame⟩ := ih h
    refine ⟨_ :: ns', hcreate.trans (List.append_cons _ _ _).symm, hgrow, hgrowth, hnew, ?_⟩
    exact (SameNodes.setState rfl hns (NodeState.reserveCores_nc hres)).trans hsame

end Emit

/-- The books are those of the plan. -/
structure Draft.Filed (d : Draft) : Prop where
  growth : ∀ name, d.books.growth.lookup name = d.plan.grow.find? fun g => g.name = name
  new : (d.books.newByNode.entries.map (·.2)).Perm d.plan.create

/-- The cores of a container after the plan is applied. -/
def CapacityPlan.appliedCores (plan : CapacityPlan) (c : ExistingContainer) : Int :=
  (plan.grow.find? fun g => g.name = c.name).elim c.numCores (·.newCores)

namespace Draft.Filed
variable {d : Draft} (h : d.Filed)
include h

theorem finalCores (c : ExistingContainer) : finalCores c d.books.growth = d.plan.appliedCores c := by
  rw [Planner.finalCores, h.growth, CapacityPlan.appliedCores]

theorem finalPoolCap (c : ExistingContainer) (p : PoolKind) : finalPoolCap c d.books.growth p = d.plan.appliedCap p c := by
  rw [Planner.finalPoolCap, h.growth, CapacityPlan.appliedCap]

end Draft.Filed

namespace Request
variable {r : Request} {targets : Int × Int} {d : Draft}

theorem planned_onInventory : r.OnInventory (r.planned targets).books :=
  planned_trace_induct (P := fun _ b => r.OnInventory b) (fun _ _ _ _ _ g _ _ b h _ => h.trans (.placeFd _ b g))
    (.refl _)

theorem emit_filed (h : r.emit (r.planned targets) = .ok d) : d.Filed ∧ r.OnInventory d.books := by
  obtain ⟨hem, -⟩ := emit_ok h
  have keyed : (r.planned targets).books.Keyed := planned_keyed
  obtain ⟨d₁, hg, h⟩ := emit_eq_ok h
  obtain ⟨gs', -, hgrow, hcreate₁, -, hbooks⟩ := emitGrow_ok hg
  obtain ⟨ns', hcreate, hgrow', hgrowth, hnew, hsame⟩ := emitCreate_books h
  rw [planned_drives.1, List.nil_append] at hgrow
  rw [hcreate₁, planned_drives.2, List.nil_append] at hcreate
  rw [hgrow] at hgrow'
  subst hgrow' hcreate
  rw [hbooks] at hgrowth hnew hsame
  refine ⟨⟨fun name => ?_, values_perm (hem.createNodes keyed) fun node => ?_⟩, planned_onInventory.trans hsame⟩
  · rw [hgrowth, lookup_foldl_insert_eq _ (hem.growNames keyed)]
    have hrel := hem.growth keyed name
    cases hf : d.plan.grow.find? fun g => g.name = name with
    | some g => rfl
    | none =>
      rw [hf] at hrel
      cases hb : (r.planned targets).books.growth.lookup name with
      | none => rfl
      | some g => rw [hb] at hrel; cases hrel
  · rw [hnew, lookup_foldl_insert_eq _ (hem.createNodes keyed)]
    have hrel := hem.created keyed node
    cases hf : d.plan.create.find? fun n => n.node = node with
    | some n => rfl
    | none =>
      rw [hf] at hrel
      cases hb : (r.planned targets).books.newByNode.lookup node with
      | none => rfl
      | some n => rw [hb] at hrel; cases hrel

end Request

theorem planCapacity_final {r : Request} (h : (planCapacity r).infeasible = "") :
    ∃ targets d, r.belowFloor = false ∧ r.targetFds = .ok targets ∧ r.emit (r.planned targets) = .ok d ∧
      planCapacity r = r.finish d := by
  unfold planCapacity at h ⊢
  split at h
  · exact absurd h Request.belowFloorReport_reason
  rename_i hfloor
  split at h
  · rename_i hreason
    exact absurd h (Request.targetFds_reason hreason)
  rename_i targets htargets
  split at h
  · rename_i plan hplan
    exact absurd h (Request.emit_error hplan)
  · rename_i d hd
    refine ⟨targets, d, by simpa using hfloor, htargets, hd, ?_⟩
    rw [if_neg hfloor]

end WekaOperator.Planner
