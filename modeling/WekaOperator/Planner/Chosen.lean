import WekaOperator.Planner.Trace

/-! The failure domains a decision places on.

Whatever the decision, they are apart from each other, and each is one that carries the pool or one of fresh nodes with
room for a chunk. -/

namespace WekaOperator.Planner
open List Lib

theorem nodup_flatten_of_subperm {α : Type} {L L' : List (List α)} (h : L.Subperm L') (nodup : L'.flatten.Nodup) :
    L.flatten.Nodup := by
  obtain ⟨M, hperm, hsub⟩ := h
  exact (hperm.flatten.nodup_iff).mp (nodup.sublist hsub.flatten)

/-- States are filed under their node. -/
def Named (states : NameMap NodeState) : Prop := ∀ n ns, states.lookup n = some ns → ns.nc.nodeName = n

variable {g : FdGroup}

section Fresh
variable {p : PoolKind} {existing : List ExistingContainer} {cons : CapacityConstraints} {b : Books}

theorem Named.entries (h : Named b.states) : (b.states.entries.map (·.2)).map (·.nc.nodeName) = b.states.keys := by
  rw [map_map]
  apply map_congr_left
  intro e he
  exact h e.1 e.2 (mem_entries_iff.mp he)

theorem freshCandidates_nodes (named : Named b.states) (hg : g ∈ freshCandidates p existing cons b) :
    ∃ fd, ∀ node ∈ g.nodes, node ∉ freshExclusion existing p cons ∧
      ∃ ns, b.states.lookup node = some ns ∧ ns.nc.ineligibleReason = "" ∧ ns.nc.fdValue = fd := by
  obtain ⟨group, hgroup, rfl⟩ := mem_map.mp hg
  refine ⟨group.1, fun node hnode => ?_⟩
  obtain ⟨ns, hns, rfl⟩ := mem_map.mp hnode
  obtain ⟨hmem, hkey⟩ := mem_groupBy _ hgroup ns hns
  rw [mem_insertionSort, mem_filter, decide_eq_true_eq] at hmem
  obtain ⟨hval, hused, helig, -⟩ := hmem
  obtain ⟨e, he, rfl⟩ := mem_map.mp hval
  have hl := mem_entries_iff.mp he
  refine ⟨hused, e.2, ?_, helig, hkey.symm⟩
  rw [named _ _ hl, hl]

theorem orderFreshFdGroups_nodup (named : Named b.states) (used : List String) :
    ((orderFreshFdGroups p b.states used cons).map (·.nodes)).flatten.Nodup := by
  unfold orderFreshFdGroups
  generalize hc : (b.states.entries.map (·.2)).filter _ = cands
  have hsub : (cands.map (·.nc.nodeName)).Sublist b.states.keys := by
    rw [← named.entries, ← hc]
    exact filter_sublist.map _
  have hperm : ((groupBy (·.nc.fdValue) (cands.insertionSort (headroomOrder p cons true))).flatMap (·.2)).Perm cands :=
    (groupBy_members _ _).trans (perm_insertionSort _ _)
  have hnodes : (((groupBy (fun ns : NodeState => ns.nc.fdValue) (cands.insertionSort (headroomOrder p cons true))).map
      fun g => ({ nodes := g.2.map (·.nc.nodeName), headroom := (g.2.map (·.nodeHeadroom p cons true)).sum
                  hasDeletingDriveContainer := g.2.any (·.hasDeletingDriveContainer) } : FdGroup)).map (·.nodes)).flatten =
      ((groupBy (fun ns : NodeState => ns.nc.fdValue) (cands.insertionSort (headroomOrder p cons true))).flatMap (·.2)).map
        (·.nc.nodeName) := by
    rw [map_map, map_flatMap]
    rfl
  rw [hnodes, (hperm.map _).nodup_iff]
  exact b.states.keys_nodup.sublist hsub

/-- Groups of fresh nodes with room. -/
def FreshPart (p : PoolKind) (existing : List ExistingContainer) (cons : CapacityConstraints) (b : Books)
    (gs : List FdGroup) : Prop :=
  (gs.map (·.nodes)).Subperm ((freshCandidates p existing cons b).map (·.nodes))

theorem takeFreshAtLevel_subperm (fresh : List FdGroup) (k level : Int) : (takeFreshAtLevel fresh k level).Subperm fresh := by
  have tiers : takeFreshAtLevel fresh k level = ([(true, false), (true, true), (false, false), (false, true)].flatMap
      fun k => fresh.filter fun g =>
        decide (level ≤ g.headroom) && decide ((g.colocated, g.hasDeletingDriveContainer) = k)).take k.toNat := by
    simp [takeFreshAtLevel, Prod.ext_iff]
  rw [tiers]
  exact (take_sublist _ _).subperm.trans
    ((filter_classes_perm _ _ fresh _ (by decide)).subperm.trans filter_sublist.subperm)

theorem pickPreferringColocated_eq (candidates : List FdGroup) (n target : Int) (preferNodes : List String) :
    pickPreferringColocated candidates n target preferNodes = ([true, false].flatMap fun k =>
      candidates.filter fun g => decide (target ≤ g.headroom) && decide (isColocated preferNodes g = k)).take n.toNat := by
  simp [pickPreferringColocated]

theorem pickPreferringColocated_subperm (candidates : List FdGroup) (n target : Int) (preferNodes : List String) :
    (pickPreferringColocated candidates n target preferNodes).Subperm candidates := by
  rw [pickPreferringColocated_eq]
  exact (take_sublist _ _).subperm.trans
    ((filter_classes_perm _ _ candidates _ (by decide)).subperm.trans filter_sublist.subperm)

theorem colocatedFirst_nodes (groups : List FdGroup) (preferNodes : List String) :
    ((colocatedFirst groups preferNodes).map (·.nodes)).Perm (groups.map (·.nodes)) := by
  unfold colocatedFirst
  split
  · exact .refl _
  · have hnodes : (·.nodes) ∘ (fun g : FdGroup => { g with colocated := true }) = (·.nodes) := rfl
    rw [map_append, map_map, hnodes, ← map_append]
    exact (filter_append_perm _ groups).map _

theorem subperm_map {α β : Type} (f : α → β) {l l' : List α} (h : l.Subperm l') : (l.map f).Subperm (l'.map f) := by
  obtain ⟨m, hperm, hsub⟩ := h
  exact ⟨m.map f, hperm.map f, hsub.map f⟩

end Fresh

/-! ### Existing domains -/

variable {c : ExistingContainer}

section Existing
variable {p : PoolKind} {existing : List ExistingContainer} {cons : CapacityConstraints} {states : NameMap NodeState}

theorem flatMap_addTo {gs : List (String × List String)} (nodup : (gs.map Prod.fst).Nodup) {k : String}
    (hk : k ∈ gs.map Prod.fst) (x : String) :
    ((gs.map fun g => if g.1 = k then (g.1, g.2 ++ [x]) else g).flatMap (·.2)).Perm (x :: gs.flatMap (·.2)) := by
  induction gs with
  | nil => cases hk
  | cons g gs ih =>
    rw [map_cons, nodup_cons] at nodup
    rw [map_cons, flatMap_cons, flatMap_cons]
    by_cases h : g.1 = k
    · have hrest : (gs.map fun g => if g.1 = k then (g.1, g.2 ++ [x]) else g) = gs := by
        refine (map_congr_left fun g' hg' => ?_).trans (map_id gs)
        rw [if_neg]
        · rfl
        · rintro rfl
          exact nodup.1 (h ▸ mem_map_of_mem hg')
      rw [hrest, if_pos h, append_assoc]
      exact perm_middle
    · rw [map_cons, mem_cons] at hk
      rw [if_neg h]
      exact ((ih nodup.2 (hk.resolve_left fun e => h e.symm)).append_left _).trans perm_middle

/-- The groups collected so far. -/
structure Collected (pool : List ExistingContainer) (acc : List (String × List String) × List String) : Prop where
  keys : (acc.1.map Prod.fst).Nodup
  nodes : (acc.1.flatMap (·.2)).Perm acc.2
  nodup : acc.2.Nodup
  hosts : ∀ n ∈ acc.2, ∃ c ∈ pool, c.node = n

variable {pool : List ExistingContainer}

theorem Collected.step {acc : List (String × List String) × List String} (h : Collected pool acc) (hc : c ∈ pool) :
    Collected pool (collectExistingFd acc c) := by
  have opened : ∀ groups, groups = (if acc.1.any (·.1 = c.fdValue) then acc.1 else acc.1 ++ [(c.fdValue, [])]) →
      (groups.map Prod.fst).Nodup ∧ c.fdValue ∈ groups.map Prod.fst ∧ groups.flatMap (·.2) = acc.1.flatMap (·.2) := by
    rintro groups rfl
    split
    · rename_i hany
      obtain ⟨g, hg, hk⟩ := any_eq_true.mp hany
      exact ⟨h.keys, mem_map.mpr ⟨g, hg, by simpa using hk⟩, rfl⟩
    · rename_i hany
      refine ⟨?_, by simp, by simp⟩
      rw [map_append, map_singleton]
      refine nodup_append.mpr ⟨h.keys, by simp, ?_⟩
      rintro k hk k' hk' rfl
      obtain ⟨g, hg, rfl⟩ := mem_map.mp hk
      exact hany (any_eq_true.mpr ⟨g, hg, by simpa using hk'⟩)
  obtain ⟨hkeys, hmem, hflat⟩ := opened _ rfl
  unfold collectExistingFd
  dsimp only
  split
  · exact ⟨hkeys, hflat ▸ h.nodes, h.nodup, h.hosts⟩
  · rename_i hseen
    refine ⟨?_, ?_, nodup_cons.mpr ⟨hseen, h.nodup⟩, ?_⟩
    · rw [map_map]
      refine (map_congr_left fun g _ => ?_) ▸ hkeys
      dsimp only [Function.comp_apply]
      split <;> rfl
    · refine (flatMap_addTo hkeys hmem c.node).trans (.cons _ ?_)
      rw [hflat]
      exact h.nodes
    · intro n hn
      rcases mem_cons.mp hn with rfl | hn
      · exact ⟨c, hc, rfl⟩
      · exact h.hosts n hn

theorem Collected.foldl : Collected pool (pool.foldl collectExistingFd ([], [])) :=
  List.foldlRecOn _ _ ⟨by simp, by simp, by simp, by simp⟩ fun _ h _ hc => h.step hc

theorem sortNodesByHeadroomDesc_perm (named : Named states) (nodes : List String) :
    (sortNodesByHeadroomDesc states p cons nodes).Perm (nodes.filter fun n => (states.lookup n).isSome) := by
  refine ((perm_insertionSort _ _).map _).trans (.of_eq ?_)
  induction nodes with
  | nil => rfl
  | cons n nodes ih =>
    cases hn : states.lookup n with
    | none => simpa [hn] using ih
    | some ns => simpa [hn, named n ns hn] using ih

theorem existingFdsAsChosen_nodes (named : Named states) {node : String}
    (h : node ∈ ((existingFdsAsChosen p existing states cons).map (·.nodes)).flatten) :
    ∃ c ∈ existing, c.node = node ∧ c.node ≠ "" ∧ c.unscheduled = false ∧ 0 < poolCap c p := by
  obtain ⟨nodes, hnodes, hnode⟩ := mem_flatten.mp h
  unfold existingFdsAsChosen at hnodes
  rw [map_map] at hnodes
  obtain ⟨g, hg, rfl⟩ := mem_map.mp hnodes
  have hmem := (sortNodesByHeadroomDesc_perm named g.2).mem_iff.mp hnode
  have hseen := Collected.foldl.nodes.mem_iff.mp (mem_flatMap.mpr ⟨g, hg, (mem_filter.mp hmem).1⟩)
  obtain ⟨c, hc, rfl⟩ := Collected.foldl.hosts node hseen
  obtain ⟨hc, hgrow⟩ := mem_filter.mp hc
  simp only [growable, Bool.and_eq_true, decide_eq_true_eq, Bool.not_eq_true'] at hgrow
  obtain ⟨⟨⟨⟨-, hun⟩, hne⟩, -⟩, hpos⟩ := hgrow
  refine ⟨c, hc, rfl, hne, hun, ?_⟩
  by_contra hn
  simp [poolExistingFds, hn] at hpos

theorem existingFdsAsChosen_nodup (named : Named states) :
    ((existingFdsAsChosen p existing states cons).map (·.nodes)).flatten.Nodup := by
  unfold existingFdsAsChosen
  generalize existing.filter _ = pool
  have collected : Collected pool _ := Collected.foldl
  rw [map_map]
  have hperm : (((pool.foldl collectExistingFd ([], [])).1.map fun g =>
      sortNodesByHeadroomDesc states p cons g.2).flatten).Perm
      ((pool.foldl collectExistingFd ([], [])).1.flatMap fun g => g.2.filter fun n => (states.lookup n).isSome) :=
    .flatMap_left _ fun g _ => sortNodesByHeadroomDesc_perm named g.2
  refine hperm.nodup_iff.mpr ((collected.nodes.nodup_iff.mpr collected.nodup).sublist ?_)
  exact .flatMap_right _ fun g _ => filter_sublist

end Existing

/-! ### The chosen domains -/

section Choice
variable {p : PoolKind} {desiredRaw minFd : Int} {existing : List ExistingContainer} {cons : CapacityConstraints}
  {b : Books}

theorem mem_freshExclusion (cons : CapacityConstraints) (hc : c ∈ existing) (hne : c.node ≠ "") (hpos : 0 < poolCap c p) :
    c.node ∈ freshExclusion existing p cons := by
  unfold freshExclusion
  split
  · exact mem_map_of_mem (mem_filter.mpr ⟨hc, by simp [hpos, hne]⟩)
  · refine mem_map_of_mem (mem_filter.mpr ⟨hc, ?_⟩)
    cases p <;> simp [hne, poolCap] at hpos ⊢ <;> omega

/-- The groups are apart, and of existing or fresh nodes. -/
def Chosen (p : PoolKind) (existing : List ExistingContainer) (cons : CapacityConstraints) (b : Books)
    (chosen : List FdGroup) : Prop :=
  ∃ fresh, FreshPart p existing cons b fresh ∧
    (chosen = fresh ∨ chosen = existingFdsAsChosen p existing b.states cons ++ fresh)

variable {o : PlaceOrder} {targetFds : Int}

theorem planPoolFreshUniform_chosen {isFallback : Bool}
    (h : planPoolFreshUniform p desiredRaw minFd existing cons b isFallback = some o) :
    Chosen p existing cons b o.chosen := by
  unfold planPoolFreshUniform at h
  obtain ⟨⟨chosen, T⟩, hsel, rfl⟩ := Option.map_eq_some_iff.mp h
  obtain ⟨N, -, hN⟩ := exists_of_findSome?_eq_some hsel
  dsimp only at hN
  split at hN
  · cases hN
    exact ⟨_, subperm_map _ (pickPreferringColocated_subperm _ _ _ _), .inl rfl⟩
  · cases hN

variable {order : MapOrder (String × Int)}

theorem planPoolExplicit_chosen (h : planPoolExplicit p desiredRaw existing cons b targetFds order = .place o) :
    Chosen p existing cons b o.chosen := by
  unfold planPoolExplicit at h
  split at h
  · cases h
  dsimp only at h
  split at h
  · cases h
  · cases h
    exact ⟨_, subperm_map _ (takeFreshAtLevel_subperm _ _ _), .inr rfl⟩

theorem increase_freshPart (k level : Int) : FreshPart p existing cons b
    (takeFreshAtLevel (increaseOf p desiredRaw minFd existing cons b).freshGroups k level) :=
  (subperm_map _ (takeFreshAtLevel_subperm _ _ _)).trans (colocatedFirst_nodes _ _).subperm

theorem planPoolUniformIncrease_chosen (h : planPoolUniformIncrease p desiredRaw minFd existing cons b = .place o) :
    Chosen p existing cons b o.chosen := by
  unfold planPoolUniformIncrease at h
  dsimp only at h
  split at h
  · cases h
    exact ⟨_, increase_freshPart _ _, .inl rfl⟩
  split at h
  · cases h
  split at h
  · cases h
    exact ⟨_, increase_freshPart _ _, .inl rfl⟩
  split at h
  · cases h
  split at h
  · cases h
  · cases h
    exact ⟨_, increase_freshPart _ _, .inr rfl⟩

/-- What every strategy gives its orders, a chosen order has. -/
theorem choosePool_induct {P : PlaceOrder → Prop}
    (fresh : ∀ {o isFallback}, planPoolFreshUniform p desiredRaw minFd existing cons b isFallback = some o → P o)
    (explicit : planPoolExplicit p desiredRaw existing cons b targetFds order = .place o → P o)
    (increase : planPoolUniformIncrease p desiredRaw minFd existing cons b = .place o → P o)
    (h : choosePool p desiredRaw minFd existing cons b targetFds order = .place o) : P o := by
  unfold choosePool at h
  split at h
  · cases h
  dsimp only at h
  split at h
  · split at h <;> cases h
  split at h
  · cases h
  split at h
  · rename_i hf
    cases h
    split at hf
    · exact fresh hf
    · cases hf
  split at h
  · exact explicit h
  split at h
  · exact increase h
  split at h
  · rename_i hf
    cases h
    exact fresh hf
  · cases h

theorem choosePool_chosen (h : choosePool p desiredRaw minFd existing cons b targetFds order = .place o) :
    Chosen p existing cons b o.chosen :=
  choosePool_induct (P := fun o => Chosen p existing cons b o.chosen) planPoolFreshUniform_chosen planPoolExplicit_chosen
    planPoolUniformIncrease_chosen h

namespace Chosen
variable {chosen : List FdGroup}

theorem sited (h : Chosen p existing cons b chosen) (named : Named b.states) (hg : g ∈ chosen) :
    (∀ node ∈ g.nodes, (existingOnNode existing node).isSome) ∨
      ∃ fd, ∀ node ∈ g.nodes, ∃ ns, b.states.lookup node = some ns ∧ ns.nc.ineligibleReason = "" ∧ ns.nc.fdValue = fd := by
  obtain ⟨fresh, hfresh, hchosen⟩ := h
  have inFresh : g ∈ fresh → ∃ fd, ∀ node ∈ g.nodes, ∃ ns, b.states.lookup node = some ns ∧
      ns.nc.ineligibleReason = "" ∧ ns.nc.fdValue = fd := by
    intro hg
    obtain ⟨g', hg', hnodes⟩ := mem_map.mp (hfresh.subset (mem_map_of_mem hg))
    obtain ⟨fd, hfd⟩ := freshCandidates_nodes named hg'
    exact ⟨fd, fun node hnode => (hfd node (hnodes ▸ hnode)).2⟩
  rcases hchosen with rfl | rfl
  · exact .inr (inFresh hg)
  rcases mem_append.mp hg with hg | hg
  · refine .inl fun node hnode => ?_
    obtain ⟨c, hc, hn, hne, hun, -⟩ :=
      existingFdsAsChosen_nodes named (mem_flatten.mpr ⟨_, mem_map_of_mem hg, hnode⟩)
    have hmem : c ∈ existing.filter fun c => c.node ≠ "" && !c.unscheduled && c.node == node :=
      mem_filter.mpr ⟨hc, by subst hn; simp [hne, hun]⟩
    rw [existingOnNode, List.getLast?_eq_some_getLast (ne_nil_of_mem hmem)]
    rfl
  · exact .inr (inFresh hg)

theorem nodup (h : Chosen p existing cons b chosen) (named : Named b.states) : (chosen.map (·.nodes)).flatten.Nodup := by
  obtain ⟨fresh, hfresh, hchosen⟩ := h
  have hnodup := nodup_flatten_of_subperm hfresh (orderFreshFdGroups_nodup named _)
  rcases hchosen with rfl | rfl
  · exact hnodup
  rw [map_append, flatten_append]
  refine nodup_append.mpr ⟨existingFdsAsChosen_nodup named, hnodup, ?_⟩
  -- A host of an existing domain carries the pool, so fresh placement excludes it.
  rintro node hex _ hfr rfl
  obtain ⟨c, hc, hn, hne, -, hpos⟩ := existingFdsAsChosen_nodes named hex
  obtain ⟨nodes, hnodes, hnode⟩ := mem_flatten.mp hfr
  obtain ⟨g, hg, rfl⟩ := mem_map.mp (hfresh.subset hnodes)
  obtain ⟨fd, hfd⟩ := freshCandidates_nodes named hg
  exact (hfd node hnode).1 (hn ▸ mem_freshExclusion cons hc hne hpos)

end Chosen
end Choice
end WekaOperator.Planner
