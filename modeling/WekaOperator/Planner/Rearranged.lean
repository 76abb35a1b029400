import WekaOperator.Lib.Rearrange
import WekaOperator.Planner.Commute

/-! The decision on a pool, with the existing containers listed in another order and the maps of the books iterated in
    another order. -/

namespace WekaOperator.Planner
open List Option Bool Lib

/-- The nodes with drive containers. -/
def driveHosts (existing : List ExistingContainer) : List String := (existing.filter (·.node ≠ "")).map (·.node)

/-! ### The existing containers -/

section Existing
variable {existing existing' : List ExistingContainer} {p : PoolKind} {cons : CapacityConstraints}

theorem nodup_hosts (hosts : (driveHosts existing).Nodup) {f : ExistingContainer → Bool}
    (hf : ∀ c, f c = true → c.node ≠ "") : ((existing.filter f).map (·.node)).Nodup := by
  refine hosts.sublist (List.Sublist.map _ ?_)
  refine monotone_filter_right existing fun c hc => ?_
  exact decide_eq_true (hf c hc)

theorem existingOnNode_perm (hosts : (driveHosts existing).Nodup) (perm : existing.Perm existing') (node : String) :
    existingOnNode existing' node = existingOnNode existing node := by
  unfold existingOnNode
  have hnodup := @nodup_hosts existing hosts (fun c => c.node ≠ "" && !c.unscheduled && c.node == node) fun c hc => by
    simp only [and_eq_true, decide_eq_true_eq] at hc
    exact hc.1.1
  have hall : ∀ x ∈ (existing.filter fun c => c.node ≠ "" && !c.unscheduled && c.node == node).map (·.node), x = node := by
    intro x hx
    obtain ⟨c, hc, rfl⟩ := mem_map.mp hx
    have := (mem_filter.mp hc).2
    simp only [and_eq_true, beq_iff_eq] at this
    exact this.2
  rw [eq_replicate_of_mem hall, nodup_replicate, length_map] at hnodup
  rw [eq_of_perm_of_length_le_one (perm.filter _) hnodup]

variable (perm : existing.Perm existing')
include perm

theorem poolCurrent_perm (p : PoolKind) : poolCurrent existing' p = poolCurrent existing p := (perm.map _).sum_eq.symm

theorem poolExistingFds_perm (p : PoolKind) : poolExistingFds p existing' = poolExistingFds p existing :=
  ((perm.filter _).map _).dedup.length_eq.symm

theorem poolAvg_perm (p : PoolKind) : poolAvg existing' p = poolAvg existing p := by
  have hcaps := (perm.map (poolCap · p)).filter (0 < ·)
  unfold poolAvg
  dsimp only
  rw [hcaps.length_eq, hcaps.sum_eq]

theorem mem_freshExclusion_perm (p : PoolKind) (cons : CapacityConstraints) (n : String) :
    n ∈ freshExclusion existing' p cons ↔ n ∈ freshExclusion existing p cons := by
  unfold freshExclusion
  split
  · exact ((perm.filter _).map _).mem_iff.symm
  · exact ((perm.filter _).map _).mem_iff.symm

theorem perFdCap_perm (p : PoolKind) : (perFdCap p existing).Perm (perFdCap p existing') :=
  groupBy_map_perm (fun _ _ _ h => by rw [(h.map _).sum_eq]) (perm.filter _)

omit perm in
theorem perFdCap_pos {e : String × Int} (he : e ∈ perFdCap p existing) : 0 < e.2 := by
  obtain ⟨g, hg, rfl⟩ := mem_map.mp he
  have hne : g.2 ≠ [] := groupBy_ne_nil hg
  obtain ⟨c, rest, hmembers⟩ := exists_cons_of_ne_nil hne
  have hcap : ∀ c ∈ g.2, 0 < poolCap c p := by
    intro c hc
    have := (mem_filter.mp (mem_groupBy _ hg c hc).1).2
    simp only [decide_eq_true_eq] at this
    exact this.2
  rw [hmembers] at hcap ⊢
  rw [map_cons, sum_cons]
  have hrest : 0 ≤ (rest.map (poolCap · p)).sum := by
    refine sum_nonneg fun x hx => ?_
    obtain ⟨c', hc', rfl⟩ := mem_map.mp hx
    exact (hcap c' (mem_cons_of_mem _ hc')).le
  have := hcap c mem_cons_self
  omega

theorem perFdCap_extremes (p : PoolKind) :
    ((perFdCap p existing').map (·.2)).foldl (fun m v => if m = 0 ∨ v < m then v else m) 0 =
        ((perFdCap p existing).map (·.2)).foldl (fun m v => if m = 0 ∨ v < m then v else m) 0 ∧
      ((perFdCap p existing').map (·.2)).foldl (fun m v => if m < v then v else m) 0 =
        ((perFdCap p existing).map (·.2)).foldl (fun m v => if m < v then v else m) 0 := by
  have hperm := (perFdCap_perm perm p).map (·.2)
  have hpos : ∀ v ∈ (perFdCap p existing).map (·.2), 0 < v := by
    intro v hv
    obtain ⟨e, he, rfl⟩ := mem_map.mp hv
    exact perFdCap_pos he
  constructor
  · refine (hperm.foldl_eq' (fun x hx y hy m => ?_) 0).symm
    have := hpos x hx
    have := hpos y hy
    split_ifs <;> omega
  · refine (hperm.foldl_eq' (fun x _ y _ m => ?_) 0).symm
    split_ifs <;> omega

end Existing

/-! ### The candidate domains -/

section Candidates
variable {p : PoolKind} {cons : CapacityConstraints} {states states' : NameMap NodeState}

theorem headroomOrder_total (p : PoolKind) (cons : CapacityConstraints) (base : Bool) (a b : NodeState) :
    headroomOrder p cons base a b ∨ headroomOrder p cons base b a := by
  rcases le_total a.nc.nodeName b.nc.nodeName with h | h
  · rcases lt_trichotomy (a.nodeHeadroom p cons base) (b.nodeHeadroom p cons base) with hlt | heq | hgt
    · exact .inr (.inl hlt)
    · exact .inl (.inr ⟨heq, h⟩)
    · exact .inl (.inl hgt)
  · rcases lt_trichotomy (a.nodeHeadroom p cons base) (b.nodeHeadroom p cons base) with hlt | heq | hgt
    · exact .inr (.inl hlt)
    · exact .inr (.inr ⟨heq.symm, h⟩)
    · exact .inl (.inl hgt)

theorem headroomOrder_trans (p : PoolKind) (cons : CapacityConstraints) (base : Bool) (a b c : NodeState)
    (hab : headroomOrder p cons base a b) (hbc : headroomOrder p cons base b c) : headroomOrder p cons base a c := by
  unfold headroomOrder at *
  rcases hab with hab | ⟨hab, hname⟩
  · rcases hbc with hbc | ⟨hbc, -⟩
    · exact .inl (hbc.trans hab)
    · exact .inl (hbc ▸ hab)
  · rcases hbc with hbc | ⟨hbc, hname'⟩
    · exact .inl (hab.symm ▸ hbc)
    · exact .inr ⟨hab.trans hbc, hname.trans hname'⟩

theorem headroomSort_perm (named : Named states) (base : Bool) {l l' : List NodeState} (h : l.Perm l')
    (mem : ∀ ns ∈ l, ∃ n, states.lookup n = some ns) :
    l.insertionSort (headroomOrder p cons base) = l'.insertionSort (headroomOrder p cons base) := by
  refine insertionSort_eq_of_perm (headroomOrder_total p cons base) (headroomOrder_trans p cons base) h ?_
  intro a ha b hb hab hba
  have hname : a.nc.nodeName = b.nc.nodeName := by
    rcases hab with hab | ⟨heq, hab⟩
    · rcases hba with hba | ⟨hba, -⟩ <;> omega
    · rcases hba with hba | ⟨-, hba⟩
      · omega
      · exact le_antisymm hab hba
  obtain ⟨n, hn⟩ := mem a ha
  obtain ⟨m, hm⟩ := mem b hb
  have hsame : n = m := (named n a hn).symm.trans (hname.trans (named m b hm))
  rw [hsame, hm] at hn
  exact (some.inj hn).symm

theorem orderFreshFdGroups_perm (named : Named states) (same : ∀ n, states'.lookup n = states.lookup n)
    {used used' : List String} (hused : ∀ n, n ∈ used' ↔ n ∈ used) :
    orderFreshFdGroups p states' used' cons = orderFreshFdGroups p states used cons := by
  unfold orderFreshFdGroups
  simp only [hused]
  rw [headroomSort_perm named true (((entries_perm same).map _).filter _)]
  intro ns hns
  obtain ⟨e, he, rfl⟩ := mem_map.mp (mem_filter.mp hns).1
  exact ⟨e.1, mem_entries_iff.mp he⟩

theorem sortNodesByHeadroomDesc_congr (named : Named states) {nodes nodes' : List String} (h : nodes.Perm nodes') :
    sortNodesByHeadroomDesc states p cons nodes = sortNodesByHeadroomDesc states p cons nodes' := by
  unfold sortNodesByHeadroomDesc
  rw [headroomSort_perm named false (h.filterMap _)]
  intro ns hns
  obtain ⟨n, -, hn⟩ := mem_filterMap.mp hns
  exact ⟨n, hn⟩

theorem otherPoolPreferNodes_perm {new new' : NameMap NewContainer} (same : ∀ n, new'.lookup n = new.lookup n) :
    (otherPoolPreferNodes p new).Perm (otherPoolPreferNodes p new') :=
  ((entries_perm same).filter _).map _

theorem isColocated_perm {prefer prefer' : List String} (h : prefer.Perm prefer') :
    isColocated prefer' = isColocated prefer := by
  funext g
  unfold isColocated
  simp only [h.mem_iff]

theorem collectExistingFd_eq {pool : List ExistingContainer} (nodup : (pool.map (·.node)).Nodup) :
    (pool.foldl collectExistingFd ([], [])).1 =
      (groupBy (·.fdValue) pool).map fun g => (g.1, g.2.map (·.node)) := by
  have insert : ∀ (c : ExistingContainer) (gs : List (String × List ExistingContainer)), (gs.map Prod.fst).Nodup →
      (if (gs.map fun g => (g.1, g.2.map (·.node))).any (·.1 = c.fdValue) then gs.map fun g => (g.1, g.2.map (·.node))
        else (gs.map fun g => (g.1, g.2.map (·.node))) ++ [(c.fdValue, [])]).map
          (fun g => if g.1 = c.fdValue then (g.1, g.2 ++ [c.node]) else g) =
        (groupInsert (·.fdValue) c gs).map fun g => (g.1, g.2.map (·.node)) := by
    intro c gs keys
    induction gs with
    | nil => simp [groupInsert]
    | cons g gs ih =>
      rw [List.map_cons, List.nodup_cons] at keys
      unfold groupInsert
      by_cases hkey : g.1 = c.fdValue
      · have hrest : ∀ g' ∈ gs, g'.1 ≠ c.fdValue := fun g' hg' e => keys.1 (hkey.trans e.symm ▸ List.mem_map_of_mem hg')
        have hkept : (gs.map fun g => (g.1, g.2.map (·.node))).map
            (fun g => if g.1 = c.fdValue then (g.1, g.2 ++ [c.node]) else g) = gs.map fun g => (g.1, g.2.map (·.node)) := by
          rw [List.map_map]
          exact List.map_congr_left fun g' hg' => if_neg (hrest g' hg')
        simp only [List.map_cons, List.any_cons, hkey, decide_true, Bool.true_or, if_true, hkept, List.map_append,
          List.map_nil]
      · have ih := ih keys.2
        rw [if_neg hkey]
        simp only [List.map_cons, List.any_cons, hkey, decide_false, Bool.false_or] at ih ⊢
        rw [← ih]
        split <;> simp [hkey]
  induction pool using List.reverseRecOn with
  | nil => rfl
  | append_singleton pool c ih =>
    rw [List.map_append, List.nodup_append] at nodup
    have hnew : c.node ∉ (pool.foldl collectExistingFd ([], [])).2 := by
      intro hmem
      obtain ⟨c', hc', hnode⟩ := Collected.foldl.hosts c.node hmem
      exact nodup.2.2 _ (List.mem_map_of_mem hc') _ (by simp) hnode
    rw [List.foldl_append, List.foldl_cons, List.foldl_nil, groupBy_snoc, collectExistingFd, if_neg hnew, ih nodup.1]
    exact insert c _ (groupBy_keys _ pool).1

theorem existingFdsAsChosen_perm (named : Named states) (same : ∀ n, states'.lookup n = states.lookup n)
    {existing existing' : List ExistingContainer} (hosts : (driveHosts existing).Nodup) (perm : existing.Perm existing') :
    (existingFdsAsChosen p existing states cons).Perm (existingFdsAsChosen p existing' states' cons) := by
  have hgrow : growable states' = growable states := by
    funext c
    simp only [growable, same]
  have hsort : sortNodesByHeadroomDesc states' p cons = sortNodesByHeadroomDesc states p cons := by
    funext nodes
    simp only [sortNodesByHeadroomDesc, same]
  have hnodup := @nodup_hosts existing hosts (fun c => growable states c && poolExistingFds p [c] ≠ 0) fun c hc => by
    simp only [growable, Bool.and_eq_true, decide_eq_true_eq] at hc
    exact hc.1.1.2
  have hpool := perm.filter fun c => growable states c && poolExistingFds p [c] ≠ 0
  unfold existingFdsAsChosen
  dsimp only
  rw [hgrow, hsort, collectExistingFd_eq hnodup, collectExistingFd_eq ((hpool.map _).nodup_iff.mp hnodup), List.map_map,
    List.map_map]
  refine groupBy_map_perm (fun k l l' h => ?_) hpool
  simp only [Function.comp_apply]
  rw [sortNodesByHeadroomDesc_congr named (h.map _)]

end Candidates

/-! ### The decision -/

/-- Decisions that are alike. -/
inductive PoolChoice.Alike : PoolChoice → PoolChoice → Prop
  | keep : Alike .keep .keep
  | shrink (msg : String) : Alike (.shrink msg) (.shrink msg)
  | infeasible {report report' : InfeasibilityReport} (reason : report.reason ≠ "") (reason' : report'.reason ≠ "") :
      Alike (.infeasible report) (.infeasible report')
  | place {o o' : PlaceOrder} (level : o'.level = o.level) (exclude : o'.excludePoolPExisting = o.excludePoolPExisting)
      (chosen : o.chosen.Perm o'.chosen) : Alike (.place o) (.place o')

section Decision
variable {p : PoolKind} {desiredRaw minFd : Int} {existing existing' : List ExistingContainer} {cons : CapacityConstraints}
  {b b' : Books} (perm : existing.Perm existing') (named : Named b.states) (same : b.Same b')
include perm

include named same

theorem freshCandidates_perm : freshCandidates p existing' cons b' = freshCandidates p existing cons b :=
  orderFreshFdGroups_perm named same.states (mem_freshExclusion_perm perm p cons)

theorem planPoolFreshUniform_perm (isFallback : Bool) :
    planPoolFreshUniform p desiredRaw minFd existing' cons b' isFallback =
      planPoolFreshUniform p desiredRaw minFd existing cons b isFallback := by
  unfold planPoolFreshUniform selectUniform pickPreferringColocated
  rw [freshCandidates_perm perm named same, isColocated_perm (otherPoolPreferNodes_perm same.newByNode)]

theorem increaseOf_perm :
    increaseOf p desiredRaw minFd existing' cons b' = increaseOf p desiredRaw minFd existing cons b := by
  obtain ⟨hleast, hmost⟩ := perFdCap_extremes perm p
  have hprefer := otherPoolPreferNodes_perm (p := p) same.newByNode
  unfold increaseOf colocatedFirst
  dsimp only
  rw [poolCurrent_perm perm, hleast, hmost, ((perFdCap_perm perm p).map _).length_eq, freshCandidates_perm perm named same,
    isColocated_perm hprefer, hprefer.length_eq]

omit named in
theorem existingReach_perm (L : Int) : existingReach p existing' cons b' L = existingReach p existing cons b L := by
  have hgrow : growable b'.states = growable b.states := by
    funext c
    simp only [growable, same.states]
  unfold existingReach
  rw [hgrow]
  simp only [same.states]
  have hreach := @groupBy_map_perm _ _ _ (fun c : ExistingContainer => c.fdValue) _
    (fun g : String × List ExistingContainer => ((g.2.map (poolCap · p)).sum, (g.2.map fun c => poolCap c p +
      (b.states.lookup c.node).elim 0 (·.nodeHeadroom p cons false)).sum))
    (fun _ _ _ h => by rw [(h.map _).sum_eq, (h.map _).sum_eq]) _ _ (perm.filter (growable b.states))
  refine ((hreach.filter _).foldl_eq' (fun x _ y _ acc => ?_) (some 0)).symm
  cases acc with
  | none => rfl
  | some sum =>
    simp only [bind_some]
    by_cases hx : L ≤ x.1 <;> by_cases hx' : L ≤ x.2 <;> by_cases hy : L ≤ y.1 <;> by_cases hy' : L ≤ y.2 <;>
      simp [hx, hx', hy, hy', add_right_comm]

section
variable (hosts : (driveHosts existing).Nodup)
include hosts

theorem planPoolUniformIncrease_perm :
    (planPoolUniformIncrease p desiredRaw minFd existing cons b).Alike
      (planPoolUniformIncrease p desiredRaw minFd existing' cons b') := by
  have hcover : coverWithNew p desiredRaw existing' cons = coverWithNew p desiredRaw existing cons := by
    funext i
    unfold coverWithNew
    rw [poolAvg_perm perm]
  have hbest : bestGrow p desiredRaw minFd existing' cons b' = bestGrow p desiredRaw minFd existing cons b := by
    funext i
    unfold bestGrow
    simp only [existingReach_perm perm same]
  unfold planPoolUniformIncrease
  dsimp only
  rw [increaseOf_perm perm named same, hcover, hbest]
  split
  · exact .place rfl rfl (.refl _)
  split
  · refine .infeasible ?_ ?_ <;> simp [increaseUnreachable, toString_self]
  split
  · exact .place rfl rfl (.refl _)
  split
  · exact .infeasible increaseFrozen_reason increaseFrozen_reason
  split
  · exact .infeasible increaseTooSmall_reason increaseTooSmall_reason
  · exact .place rfl rfl ((existingFdsAsChosen_perm named same.states hosts perm).append_right _)

theorem planPoolExplicit_perm (targetFds : Int) (order order' : MapOrder (String × Int)) :
    (planPoolExplicit p desiredRaw existing cons b targetFds order).Alike
      (planPoolExplicit p desiredRaw existing' cons b' targetFds order') := by
  have hbelow : ∀ T : Int, ((order'.arrange (perFdCap p existing')).find? (·.2 < T)).isSome =
      ((order.arrange (perFdCap p existing)).find? (·.2 < T)).isSome := by
    intro T
    have hperm : (order.arrange (perFdCap p existing)).Perm (order'.arrange (perFdCap p existing')) :=
      (order.perm _).trans ((perFdCap_perm perm p).trans (order'.perm _).symm)
    rw [isSome_find?, isSome_find?, hperm.any_eq]
  unfold planPoolExplicit
  have hfds : resolveExactNewFds p existing' cons = resolveExactNewFds p existing cons := by
    simp only [funext_iff, resolveExactNewFds, poolExistingFds_perm perm, implies_true]
  rw [hfds, poolCurrent_perm perm]
  split
  · rename_i hreason
    exact .infeasible (resolveExactNewFds_reason hreason) (resolveExactNewFds_reason hreason)
  have hplace : (existingFdsAsChosen p existing b.states cons).Perm (existingFdsAsChosen p existing' b'.states cons) :=
    existingFdsAsChosen_perm named same.states hosts perm
  have hb := hbelow (ceilDiv desiredRaw targetFds)
  cases hgrow : cons.allowInPlaceGrowth with
  | true =>
    simp only [if_true]
    rw [freshCandidates_perm perm named same]
    exact .place rfl rfl (hplace.append_right _)
  | false =>
    simp only [false_eq_true, if_false]
    cases hfind : (order.arrange (perFdCap p existing)).find? (·.2 < ceilDiv desiredRaw targetFds) with
    | none =>
      rw [hfind, isSome_none, isSome_eq_false_iff, isNone_iff_eq_none] at hb
      rw [hb, freshCandidates_perm perm named same]
      exact .place rfl rfl (hplace.append_right _)
    | some e =>
      rw [hfind, isSome_some] at hb
      obtain ⟨e', he'⟩ := isSome_iff_exists.mp hb
      rw [he']
      refine .infeasible ?_ ?_ <;> simp [toString_self]

theorem choosePool_perm (targetFds : Int) (order order' : MapOrder (String × Int)) :
    (choosePool p desiredRaw minFd existing cons b targetFds order).Alike
      (choosePool p desiredRaw minFd existing' cons b' targetFds order') := by
  unfold choosePool
  rw [poolCurrent_perm perm, poolAvg_perm perm, poolExistingFds_perm perm]
  simp only [planPoolFreshUniform_perm perm named same]
  split
  · exact .keep
  split
  · split
    · exact .shrink _
    · exact .keep
  split
  · exact .keep
  split
  · exact .place rfl rfl (.refl _)
  split
  · exact planPoolExplicit_perm perm named same hosts targetFds order order'
  split
  · exact planPoolUniformIncrease_perm perm named same hosts
  split
  · exact .place rfl rfl (.refl _)
  · exact .infeasible freshInfeasible_reason freshInfeasible_reason

end

end Decision
end WekaOperator.Planner
