import WekaOperator.Planner.Emission

/-! Coverage.

A pool that is short gets its capacity on enough failure domains: the check after its placement says so of the books, the
other pool's placement leaves it alone, and emission carries it over to the plan that is applied. -/

namespace WekaOperator.Planner
open List Lib Books CapacityPlan

/-! ### What the books hold -/

/-- The capacity of a pool on the books. -/
def totalCap (p : PoolKind) (existing : List ExistingContainer) (b : Books) : Int :=
  (existing.map (finalPoolCap · b.growth p)).sum + valueSum (poolCapNew · p) b.newByNode

/-- The failure domains that carry the pool. -/
def carriers (p : PoolKind) (existing : List ExistingContainer) (b : Books) : Finset String :=
  (((finalCaps p existing b).filter fun e => 0 < e.2 ∧ e.1 ≠ "").map Prod.fst).toFinset

theorem finalPerFD_length (p : PoolKind) (existing : List ExistingContainer) (b : Books) :
    (finalPerFD p existing b).length = (carriers p existing b).card := by
  rw [finalPerFD, length_map, groupBy_length, carriers]

theorem mem_carriers {p : PoolKind} {existing : List ExistingContainer} {b : Books} {fd : String} :
    fd ∈ carriers p existing b ↔ fd ≠ "" ∧ ((∃ c ∈ existing, c.fdValue = fd ∧ 0 < finalPoolCap c b.growth p) ∨
      ∃ n x, b.newByNode.lookup n = some x ∧ x.fdValue = fd ∧ 0 < b.newCap n p) := by
  simp only [carriers, finalCaps, mem_toFinset, mem_map, mem_filter, mem_append, decide_eq_true_eq]
  constructor
  · rintro ⟨e, ⟨⟨c, hc, rfl⟩ | ⟨x, hx, rfl⟩, hpos, hne⟩, rfl⟩
    · exact ⟨hne, .inl ⟨c, hc, rfl, hpos⟩⟩
    · have hl := mem_entries_iff.mp hx
      exact ⟨hne, .inr ⟨x.1, x.2, hl, rfl, by rw [newCap, hl]; exact hpos⟩⟩
  · rintro ⟨hne, ⟨c, hc, rfl, hpos⟩ | ⟨n, x, hl, rfl, hpos⟩⟩
    · exact ⟨_, ⟨.inl ⟨c, hc, rfl⟩, hpos, hne⟩, rfl⟩
    · rw [newCap, hl] at hpos
      exact ⟨_, ⟨.inr ⟨⟨n, x⟩, mem_entries_iff.mpr hl, rfl⟩, hpos, hne⟩, rfl⟩

/-- No container loses capacity. -/
def NoShrink (existing : List ExistingContainer) (b : Books) : Prop :=
  ∀ c ∈ existing, ∀ q, poolCap c q ≤ finalPoolCap c b.growth q

theorem sum_filter_le {α : Type} (f : α → Int) (keep : α → Bool) (l : List α) (h : ∀ a ∈ l, keep a = false → 0 ≤ f a) :
    ((l.filter keep).map f).sum ≤ (l.map f).sum := by
  induction l with
  | nil => exact le_refl _
  | cons a l ih =>
    have hl := ih fun x hx => h x (mem_cons_of_mem _ hx)
    cases hk : keep a with
    | false =>
      have ha := h a mem_cons_self hk
      rw [filter_cons_of_neg (by simp [hk]), map_cons, sum_cons]
      omega
    | true =>
      rw [filter_cons_of_pos hk, map_cons, map_cons, sum_cons, sum_cons]
      omega

theorem placedCapacity_le {p : PoolKind} {existing : List ExistingContainer} {b : Books} (h : NoShrink existing b)
    (exclude : Bool) : placedCapacity p existing exclude b ≤ totalCap p existing b := by
  unfold placedCapacity totalCap valueSum
  rw [add_comm]
  refine add_le_add_left (sum_filter_le _ _ _ fun c hc hk => ?_) _
  have hcap : 0 < poolCap c p := by
    by_contra hn
    simp [poolExistingFds, hn] at hk
  exact hcap.le.trans (h c hc p)

/-! ### The other pool -/

/-- The other pool is untouched. -/
structure Framed (q : PoolKind) (existing : List ExistingContainer) (b b' : Books) : Prop where
  grown : ∀ c ∈ existing, finalPoolCap c b'.growth q = finalPoolCap c b.growth q
  new : ∀ n, b'.newCap n q = b.newCap n q
  fds : ∀ n x, b.newByNode.lookup n = some x → ∃ x', b'.newByNode.lookup n = some x' ∧ x'.fdValue = x.fdValue

namespace Framed
variable {p q : PoolKind} {existing : List ExistingContainer} {cons : CapacityConstraints} {b b' b'' : Books}

theorem refl (b : Books) : Framed q existing b b := ⟨fun _ _ => rfl, fun _ => rfl, fun _ x h => ⟨x, h, rfl⟩⟩

section
variable (h : Framed q existing b b')
include h

theorem trans (h' : Framed q existing b' b'') : Framed q existing b b'' where
  grown c hc := (h'.grown c hc).trans (h.grown c hc)
  new n := (h'.new n).trans (h.new n)
  fds n x hx := by
    obtain ⟨x', hx', e⟩ := h.fds n x hx
    obtain ⟨x'', hx'', e'⟩ := h'.fds n x' hx'
    exact ⟨x'', hx'', e'.trans e⟩

theorem totalCap : totalCap q existing b' = totalCap q existing b := by
  unfold Planner.totalCap
  rw [map_congr_left h.grown, valueSum_congr h.new]

theorem carriers : carriers q existing b ⊆ carriers q existing b' := by
  intro fd hfd
  rw [mem_carriers] at hfd ⊢
  obtain ⟨hne, ⟨c, hc, e, hpos⟩ | ⟨n, x, hx, e, hpos⟩⟩ := hfd
  · exact ⟨hne, .inl ⟨c, hc, e, by rw [h.grown c hc]; exact hpos⟩⟩
  · obtain ⟨x', hx', e'⟩ := h.fds n x hx
    exact ⟨hne, .inr ⟨n, x', hx', e'.trans e, by rw [h.new]; exact hpos⟩⟩

end

theorem of_sameAmounts (h : SameAmounts p existing cons b b') : Framed q existing b b' where
  grown c hc := by simpa using h.grown c hc q
  new n := by simpa using h.new n q
  fds := h.fds

theorem of_commit (names : (existing.map (·.name)).Nodup) (hq : q ≠ p) (h : Commit p existing cons b b') :
    Framed q existing b b' := by
  cases h with
  | grow state container pos room =>
    refine ⟨fun c' hc' => ?_, fun n => rfl, fun n x hx => ⟨x, hx, rfl⟩⟩
    rw [setState_growth,
      finalPoolCap_addGrowth _ (eq_of_name_eq names hc' (mem_of_existingOnNode container).1)]
    simp [hq]
  | create state container pos room =>
    refine ⟨fun c hc => rfl, fun n => ?_, fds_addNew fun _ x hx => ⟨x, hx, rfl⟩⟩
    rw [newCap_setState, newCap_addNew]
    simp [hq]

theorem of_placeFd (names : (existing.map (·.name)).Nodup) (hq : q ≠ p) (target : Int) (g : FdGroup) :
    Framed q existing b (placeFd p existing cons target b g) :=
  placeFd_induct names (refl b) (fun _ _ _ _ => of_sameAmounts) fun _ _ h hc => h.trans (of_commit names hq hc)

end Framed

variable {cons : CapacityConstraints}

theorem NoShrink.placeFd {p : PoolKind} {existing : List ExistingContainer} {b : Books}
    (names : (existing.map (·.name)).Nodup) (h : NoShrink existing b) (target : Int) (g : FdGroup) :
    NoShrink existing (placeFd p existing cons target b g) := by
  refine placeFd_induct names h (fun _ _ b' _ hs c hc q => ?_) fun b₁ b₂ ih hstep c hc q => ?_
  · have hg : finalPoolCap c b'.growth q = finalPoolCap c b.growth q := (Framed.of_sameAmounts hs).grown c hc
    rw [hg]
    exact h c hc q
  · cases hstep with
    | grow state container pos room =>
      rw [setState_growth,
        finalPoolCap_addGrowth _ (eq_of_name_eq names hc (mem_of_existingOnNode container).1)]
      have := ih c hc q
      split <;> omega
    | create state container pos room => exact ih c hc q

/-! ### The run -/

namespace Request
variable {r : Request} {targets : Int × Int}

/-- The pool has its capacity on enough failure domains. -/
def Covered (r : Request) (p : PoolKind) (b : Books) : Prop :=
  capacityCoverTarget (r.desiredOf p) r.cons ≤ totalCap p r.existingDrives b ∧
    r.minFd ≤ (carriers p r.existingDrives b).card

/-- The pool is wanted and short. -/
def Short (r : Request) (p : PoolKind) : Prop :=
  0 < r.desiredOf p ∧ capacityShort (poolCurrent r.existingDrives p) (r.desiredOf p) r.cons = true

variable {p : PoolKind} {d : Draft}

theorem Covered.framed {b b' : Books} (h : r.Covered p b) (hf : Framed p r.existingDrives b b') : r.Covered p b' := by
  refine ⟨hf.totalCap ▸ h.1, h.2.trans ?_⟩
  exact_mod_cast Finset.card_le_card hf.carriers

theorem pools_cases (r : Request) : r.pools = [.qlc, .tlc] ∨ r.pools = [.tlc, .qlc] := by
  unfold pools
  split
  · exact .inl rfl
  · exact .inr rfl

variable (names : (r.existingDrives.map (·.name)).Nodup)
include names

theorem step_noShrink (h : NoShrink r.existingDrives d.books) (p : PoolKind) :
    NoShrink r.existingDrives (r.step targets d p).books :=
  step_induct (fun level _ g hb _ => hb.placeFd names level g) h (poolAny_false _ _)

theorem step_framed {q : PoolKind} (hq : q ≠ p) (d : Draft) :
    Framed q r.existingDrives d.books (r.step targets d p).books :=
  step_induct (fun level _ g hb _ => hb.trans (Framed.of_placeFd names hq level g)) (Framed.refl _) (poolAny_false _ _)

omit names in
theorem step_feasible {d : Draft} {p : PoolKind} (h : (r.step targets d p).plan.infeasible = "") :
    d.plan.infeasible = "" :=
  (carryOut_feasible choosePool_sound h).1

theorem step_covered (hd : NoShrink r.existingDrives d.books) (short : r.Short p)
    (h : (r.step targets d p).plan.infeasible = "") : r.Covered p (r.step targets d p).books := by
  obtain ⟨exclude, hcover, hfds⟩ := (carryOut_feasible choosePool_sound h).2 short
  refine ⟨hcover.trans (placedCapacity_le (step_noShrink names hd p) exclude), ?_⟩
  rw [← finalPerFD_length]
  exact hfds

theorem planned_covered (short : r.Short p) (h : (r.planned targets).plan.infeasible = "") :
    r.Covered p (r.planned targets).books := by
  have init : NoShrink r.existingDrives { states := r.states } := fun c _ q => le_refl (poolCap c q)
  have two : ∀ q₁ q₂ : PoolKind, q₁ ≠ q₂ → ∀ d, NoShrink r.existingDrives d.books →
      (r.step targets (r.step targets d q₁) q₂).plan.infeasible = "" →
      r.Covered p (r.step targets (r.step targets d q₁) q₂).books := by
    intro q₁ q₂ hne d hd h
    by_cases hp : p = q₂
    · subst hp
      exact step_covered names (step_noShrink names hd q₁) short h
    · have hp₁ : p = q₁ := by cases p <;> cases q₁ <;> cases q₂ <;> simp_all
      subst hp₁
      exact (step_covered names hd short (step_feasible h)).framed (step_framed names hp _)
  unfold planned at h ⊢
  rcases r.pools_cases with hpools | hpools <;>
    simp only [hpools, foldl_cons, foldl_nil] at h ⊢
  · exact two .qlc .tlc (by decide) _ init h
  · exact two .tlc .qlc (by decide) _ init h

end Request

/-! ### The state after applying the plan -/

namespace CapacityPlan
variable (plan : CapacityPlan) (existing : List ExistingContainer) (p : PoolKind)

/-- A container's capacity after the plan is applied. -/
def appliedCap (c : ExistingContainer) : Int :=
  (plan.grow.find? fun g => g.name = c.name).elim (poolCap c p) (poolCapGrown · p)

/-- All capacities after the plan is applied, with their failure domains. -/
def appliedCaps : List (String × Int) :=
  existing.map (fun c => (c.fdValue, plan.appliedCap p c)) ++ plan.create.map fun n => (n.fdValue, poolCapNew n p)

/-- Their sum. -/
def appliedTotal : Int := ((plan.appliedCaps existing p).map Prod.snd).sum

/-- The failure domains that then carry the pool. -/
def appliedFds : List String :=
  (((plan.appliedCaps existing p).filter fun e => 0 < e.2 ∧ e.1 ≠ "").map Prod.fst).dedup

end CapacityPlan

theorem CreateEmitted.caps {desired : DesiredCapacity} {states : NameMap NodeState} {ns ns' : List NewContainer}
    (h : List.Forall₂ (CreateEmitted desired cons states) ns ns') (p : PoolKind) :
    (ns'.map fun n => (n.fdValue, poolCapNew n p)) = ns.map fun n => (n.fdValue, poolCapNew n p) :=
  map_eq_of_forall₂ h fun _ _ hn => by rw [hn.fdValue, hn.poolCap]

namespace Request
variable {r : Request} {b : Books} {plan : CapacityPlan}

section
variable (h : r.Emitted b plan)
include h

theorem Emitted.appliedCap (keyed : b.Keyed) (p : PoolKind) (c : ExistingContainer) :
    plan.appliedCap p c = finalPoolCap c b.growth p := by
  unfold CapacityPlan.appliedCap finalPoolCap
  have hrel := h.growth keyed c.name
  generalize b.growth.lookup c.name = o, (plan.grow.find? fun g => g.name = c.name) = o' at hrel ⊢
  cases hrel with
  | none => rfl
  | some hg => exact hg.poolCap p

theorem Emitted.appliedCaps (keyed : b.Keyed) (p : PoolKind) :
    (plan.appliedCaps r.existingDrives p).Perm (finalCaps p r.existingDrives b) := by
  unfold CapacityPlan.appliedCaps finalCaps
  rw [CreateEmitted.caps h.create p, funext (h.appliedCap keyed p)]
  refine List.Perm.append_left _ (((newRecords_perm b).map _).trans ?_)
  rw [map_map]
  exact .refl _

theorem Emitted.appliedTotal (keyed : b.Keyed) (p : PoolKind) :
    plan.appliedTotal r.existingDrives p = totalCap p r.existingDrives b := by
  unfold CapacityPlan.appliedTotal totalCap valueSum
  rw [((h.appliedCaps keyed p).map Prod.snd).sum_eq, finalCaps, map_append, sum_append, map_map, map_map]
  rfl

theorem Emitted.appliedFds (keyed : b.Keyed) (p : PoolKind) :
    (plan.appliedFds r.existingDrives p).length = (carriers p r.existingDrives b).card := by
  unfold CapacityPlan.appliedFds carriers
  rw [← card_toFinset, toFinset_eq_of_perm _ _ (((h.appliedCaps keyed p).filter _).map Prod.fst)]

end

end Request

/-- A feasible plan covers every pool that was short, over at least stripeWidth+redundancyLevel+hotSpare
    failure domains. -/
theorem planCapacity_covers (r : Request) (p : PoolKind) (names : (r.existingDrives.map (·.name)).Nodup)
    (pos : 0 < r.desiredOf p)
    (short : capacityShort (poolCurrent r.existingDrives p) (r.desiredOf p) r.cons = true)
    (feasible : (planCapacity r).infeasible = "") :
    capacityCoverTarget (r.desiredOf p) r.cons ≤ (planCapacity r).appliedTotal r.existingDrives p ∧
      r.scheme.stripeWidth + r.scheme.redundancyLevel + r.scheme.hotSpare ≤
        ((planCapacity r).appliedFds r.existingDrives p).length := by
  obtain ⟨targets, -, hplanned, hem⟩ := planCapacity_feasible feasible
  have covered := Request.planned_covered names ⟨pos, short⟩ hplanned
  rw [hem.appliedTotal Request.planned_keyed, hem.appliedFds Request.planned_keyed]
  exact covered

def fiveNodes : List NodeCapacity := ["n1", "n2", "n3", "n4", "n5"].map fun n =>
  { nodeName := n, fdValue := n, tlcGiB := 4000, qlcGiB := 4000, allocatableCPU := 40
    availableHugepagesMiB := 100000, availableMemoryMiB := 100000 }

def greenfield : Request where
  desired := { tlcRawGiB := 5000, qlcRawGiB := 2500 }
  scheme := ⟨3, 2, 0⟩
  existingDrives := []
  inventory := fiveNodes
  computeNodes := some (["n1", "n2", "n3", "n4", "n5"].foldl (fun m n => m.insert n true) ∅)
  cons := { tlcCapacityPerCoreGiB := 1000, qlcCapacityPerCoreGiB := 1000, minChunkSizeGiB := 384
            hugepagesPerCoreMiB := 1000, memoryBaseMiB := 8000, memoryPerCoreMiB := 3000 }

theorem greenfield_feasible : (planCapacity greenfield).infeasible = "" := by decide +kernel

theorem planCapacity_covers_greenfield :
    capacityCoverTarget (greenfield.desiredOf .qlc) greenfield.cons ≤
        (planCapacity greenfield).appliedTotal greenfield.existingDrives .qlc ∧
      greenfield.scheme.stripeWidth + greenfield.scheme.redundancyLevel + greenfield.scheme.hotSpare ≤
        ((planCapacity greenfield).appliedFds greenfield.existingDrives .qlc).length :=
  planCapacity_covers greenfield .qlc (by decide) (by decide) (by decide +kernel) greenfield_feasible

end WekaOperator.Planner
