import WekaOperator.Planner.Undone

/-! The uniform search against its specification.

What the searches for a level accept, what they miss, and when the placement that follows reaches the level. -/

namespace WekaOperator.Planner
open List Lib

/-! ### The search -/

theorem intRange_pairwise (lo hi : Int) : (intRange lo hi).Pairwise (· < ·) := by
  unfold intRange
  rw [pairwise_map]
  exact pairwise_lt_range.imp fun h => by omega

/-- The level of so many failure domains. -/
def uniformLevel (desiredRaw : Int) (cons : CapacityConstraints) (N : Int) : Int :=
  max cons.minChunkSizeGiB (ceilDiv desiredRaw N)

section Search
variable (desiredRaw minFd : Int) (candidates : List FdGroup) (preferNodes : List String) (cons : CapacityConstraints)

/-- So many failure domains have room for their level. -/
structure Suffices (N : Int) : Prop where
  floor : max minFd 1 ≤ N
  known : N ≤ candidates.length
  room : N ≤ (candidates.filter (uniformLevel desiredRaw cons N ≤ ·.headroom)).length

/-- The first so many of them have. -/
structure PrefixFits (N : Int) : Prop where
  floor : max minFd 1 ≤ N
  known : N ≤ candidates.length
  room : ∀ g ∈ candidates.take N.toNat, uniformLevel desiredRaw cons N ≤ g.headroom

/-- A choice of the fewest that suffice. -/
structure MinimalChoice (N : Int) (chosen : List FdGroup) (T : Int) : Prop where
  enough : Suffices desiredRaw minFd candidates cons N
  minimal : ∀ M, Suffices desiredRaw minFd candidates cons M → N ≤ M
  level : T = uniformLevel desiredRaw cons N
  count : chosen.length = N
  distinct : chosen.Subperm candidates
  room : ∀ g ∈ chosen, T ≤ g.headroom
  colocated : (∃ g ∈ chosen, isColocated preferNodes g = false) →
    ∀ g ∈ candidates, T ≤ g.headroom → isColocated preferNodes g = true → g ∈ chosen

/-- The search finds such a choice if there is one. -/
def SelectsMinimal : Prop :=
  ((selectUniform desiredRaw minFd candidates preferNodes cons).isSome = true ↔
      ∃ N, Suffices desiredRaw minFd candidates cons N) ∧
    ∀ chosen T, selectUniform desiredRaw minFd candidates preferNodes cons = some (chosen, T) →
      ∃ N, MinimalChoice desiredRaw minFd candidates preferNodes cons N chosen T

end Search

section Select
variable {desiredRaw minFd : Int} {candidates : List FdGroup} {preferNodes : List String} {cons : CapacityConstraints}

theorem PrefixFits.enough {N : Int} (h : PrefixFits desiredRaw minFd candidates cons N) :
    Suffices desiredRaw minFd candidates cons N := by
  refine ⟨h.floor, h.known, ?_⟩
  have hfilter : (candidates.take N.toNat).filter (uniformLevel desiredRaw cons N ≤ ·.headroom) = candidates.take N.toNat :=
    filter_eq_self.mpr fun g hg => by simpa using h.room g hg
  have hle := ((take_sublist N.toNat candidates).filter (uniformLevel desiredRaw cons N ≤ ·.headroom)).length_le
  have hknown := h.known
  have hfloor := h.floor
  rw [hfilter, length_take] at hle
  omega

theorem selectUniform_cases : (selectUniform desiredRaw minFd candidates preferNodes cons = none ∧
      ∀ N, ¬PrefixFits desiredRaw minFd candidates cons N) ∨
    ∃ N, PrefixFits desiredRaw minFd candidates cons N ∧ (∀ M, PrefixFits desiredRaw minFd candidates cons M → N ≤ M) ∧
      selectUniform desiredRaw minFd candidates preferNodes cons =
        some (pickPreferringColocated candidates N (uniformLevel desiredRaw cons N) preferNodes,
          uniformLevel desiredRaw cons N) := by
  have tried : ∀ N, (candidates.take N.toNat).all (uniformLevel desiredRaw cons N ≤ ·.headroom) = true ↔
      ∀ g ∈ candidates.take N.toNat, uniformLevel desiredRaw cons N ≤ g.headroom := fun N => by simp
  have hrange : ∀ N, PrefixFits desiredRaw minFd candidates cons N → N ∈ intRange (max minFd 1) candidates.length :=
    fun N h => mem_intRange.mpr ⟨h.floor, h.known⟩
  cases hsel : selectUniform desiredRaw minFd candidates preferNodes cons with
  | none =>
    refine Or.inl ⟨rfl, fun N h => ?_⟩
    have hN := List.findSome?_eq_none_iff.mp hsel N (hrange N h)
    exact absurd (hN.symm.trans (if_pos ((tried N).mpr h.room))) (by simp)
  | some r =>
    obtain ⟨l₁, N, l₂, hsplit, hN, hbefore⟩ := List.findSome?_eq_some_iff.mp hsel
    dsimp only at hN
    split at hN
    · rename_i hfits
      cases hN
      obtain ⟨hlo, hhi⟩ := mem_intRange.mp (hsplit ▸ mem_append_right l₁ mem_cons_self)
      refine Or.inr ⟨N, ⟨hlo, hhi, (tried N).mp hfits⟩, fun M hM => ?_, rfl⟩
      -- The range ascends, so a smaller count was tried before and failed.
      have hsorted := intRange_pairwise (max minFd 1) candidates.length
      rw [hsplit, pairwise_append] at hsorted
      have hmem := hrange M hM
      rw [hsplit, mem_append, mem_cons] at hmem
      rcases hmem with hmem | rfl | hmem
      · have hnone := hbefore M hmem
        exact absurd (hnone.symm.trans (if_pos ((tried M).mpr hM.room))) (by simp)
      · exact le_refl M
      · exact ((pairwise_cons.mp hsorted.2.1).1 M hmem).le
    · cases hN

variable {g : FdGroup} {target n : Int}

theorem mem_pickPreferringColocated (h : g ∈ pickPreferringColocated candidates n target preferNodes) :
    target ≤ g.headroom := by
  have hmem := mem_of_mem_take h
  rw [mem_append, mem_filter, mem_filter] at hmem
  rcases hmem with ⟨-, hg⟩ | ⟨-, hg⟩ <;> exact (of_decide_eq_true hg).1

theorem pickPreferringColocated_length (hn : 0 ≤ n) (h : n ≤ (candidates.filter (target ≤ ·.headroom)).length) :
    ((pickPreferringColocated candidates n target preferNodes).length : Int) = n := by
  have hperm := (filter_classes_perm (isColocated preferNodes) (fun g => decide (target ≤ g.headroom)) candidates
    [true, false] (by decide)).length_eq
  have hall : candidates.filter (fun g => decide (target ≤ g.headroom) && decide (isColocated preferNodes g ∈ [true, false])) =
      candidates.filter (target ≤ ·.headroom) := by
    refine filter_congr fun g _ => ?_
    cases isColocated preferNodes g <;> simp
  rw [hall] at hperm
  rw [pickPreferringColocated_eq, length_take, hperm]
  omega

theorem pickPreferringColocated_colocated
    (h : ∃ g ∈ pickPreferringColocated candidates n target preferNodes, isColocated preferNodes g = false)
    (hg : g ∈ candidates) (hroom : target ≤ g.headroom) (hcol : isColocated preferNodes g = true) :
    g ∈ pickPreferringColocated candidates n target preferNodes := by
  obtain ⟨g', hg', hnot⟩ := h
  unfold pickPreferringColocated at hg' ⊢
  dsimp only at hg' ⊢
  rw [take_append, mem_append] at hg' ⊢
  refine .inl ?_
  have hfirst : ∀ x ∈ candidates.filter fun g => target ≤ g.headroom ∧ isColocated preferNodes g = true,
      isColocated preferNodes x = true := fun x hx => (of_decide_eq_true (mem_filter.mp hx).2).2
  rcases hg' with hg' | hg'
  · rw [hfirst g' (mem_of_mem_take hg')] at hnot
    cases hnot
  · have hpos : 0 < n.toNat - (candidates.filter fun g => target ≤ g.headroom ∧ isColocated preferNodes g = true).length := by
      by_contra hz
      rw [Nat.le_zero.mp (not_lt.mp hz), take_zero] at hg'
      cases hg'
    rw [take_of_length_le (by omega)]
    exact mem_filter.mpr ⟨hg, by simp [hroom, hcol]⟩

theorem exists_least_suffices (h : ∃ N, Suffices desiredRaw minFd candidates cons N) :
    ∃ N, Suffices desiredRaw minFd candidates cons N ∧ ∀ M, Suffices desiredRaw minFd candidates cons M → N ≤ M :=
  Int.exists_least_of_bdd ⟨1, fun _ hN => (le_max_right minFd 1).trans hN.floor⟩ h

theorem selectsMinimal_iff : SelectsMinimal desiredRaw minFd candidates preferNodes cons ↔
    ∀ N, Suffices desiredRaw minFd candidates cons N → (∀ M, Suffices desiredRaw minFd candidates cons M → N ≤ M) →
      ∀ g ∈ candidates.take N.toNat, uniformLevel desiredRaw cons N ≤ g.headroom := by
  have count : ∀ N, PrefixFits desiredRaw minFd candidates cons N →
      ((pickPreferringColocated candidates N (uniformLevel desiredRaw cons N) preferNodes).length : Int) = N := by
    intro N hN
    have hfloor := hN.floor
    exact pickPreferringColocated_length (by omega) hN.enough.room
  constructor
  · rintro ⟨hsome, hchoice⟩ N hN hmin
    rcases @selectUniform_cases desiredRaw minFd candidates preferNodes cons with ⟨hnone, -⟩ | ⟨N', hfits, -, heq⟩
    · rw [hnone] at hsome
      cases hsome.mpr ⟨N, hN⟩
    · -- The count found is the length of the choice, so it is the smallest that suffices.
      obtain ⟨M, hM⟩ := hchoice _ _ heq
      have hN' : N = N' := by
        have h₁ := hM.minimal N hN
        have h₂ := hmin M hM.enough
        have h₃ := hM.count
        have h₄ := count N' hfits
        omega
      exact hN' ▸ hfits.room
  · intro h
    have least : ∀ N, Suffices desiredRaw minFd candidates cons N →
        (∀ M, Suffices desiredRaw minFd candidates cons M → N ≤ M) → PrefixFits desiredRaw minFd candidates cons N :=
      fun N hN hmin => ⟨hN.floor, hN.known, h N hN hmin⟩
    rcases @selectUniform_cases desiredRaw minFd candidates preferNodes cons with ⟨hnone, hno⟩ | ⟨N, hfits, hmin, heq⟩
    · have none : ¬∃ N, Suffices desiredRaw minFd candidates cons N := by
        intro hex
        obtain ⟨N, hN, hleast⟩ := exists_least_suffices hex
        exact hno N (least N hN hleast)
      exact ⟨by simp [hnone, none], by simp [hnone]⟩
    · refine ⟨by simpa [heq] using ⟨N, hfits.enough⟩, fun chosen T hsel => ?_⟩
      obtain ⟨N₀, hN₀, hleast⟩ := exists_least_suffices ⟨N, hfits.enough⟩
      have heqN : N = N₀ := le_antisymm (hmin N₀ (least N₀ hN₀ hleast)) (hleast N hfits.enough)
      rw [heq] at hsel
      cases hsel
      exact ⟨N, hfits.enough, heqN ▸ hleast, rfl, count N hfits, pickPreferringColocated_subperm _ _ _ _,
        fun g hg => mem_pickPreferringColocated hg,
        fun hex g hg hroom hcol => pickPreferringColocated_colocated hex hg hroom hcol⟩

end Select

/-- On the candidates of `orderFreshFdGroups` the search is complete and minimal if and only if the first
    `N` candidates, for the smallest `N` that suffices, have the headroom for its level. -/
theorem selectUniform_minimal_iff (p : PoolKind) (states : NameMap NodeState) (used preferNodes : List String)
    (desiredRaw minFd : Int) (cons : CapacityConstraints) :
    SelectsMinimal desiredRaw minFd (orderFreshFdGroups p states used cons) preferNodes cons ↔
      ∀ N, Suffices desiredRaw minFd (orderFreshFdGroups p states used cons) cons N →
        (∀ M, Suffices desiredRaw minFd (orderFreshFdGroups p states used cons) cons M → N ≤ M) →
        ∀ g ∈ (orderFreshFdGroups p states used cons).take N.toNat, uniformLevel desiredRaw cons N ≤ g.headroom :=
  selectsMinimal_iff

def smallFirst : NameMap NodeState :=
  ([("a", "f", 400), ("b1", "g", 395), ("b2", "g", 395), ("b3", "g", 395)] : List (String × String × Int)).foldl
    (fun m (n, fd, size) => m.insert n (NodeState.ofCapacity
      { nodeName := n, fdValue := fd, tlcGiB := size, allocatableCPU := 40, availableHugepagesMiB := 100000
        availableMemoryMiB := 100000 })) ∅

/-- One domain suffices for 1000 GiB and none is found. -/
theorem selectUniform_misses_smallFirst :
    selectUniform 1000 1 (orderFreshFdGroups .tlc smallFirst [] pairCons) [] pairCons = none ∧
      Suffices 1000 1 (orderFreshFdGroups .tlc smallFirst [] pairCons) pairCons 1 ∧
      ¬SelectsMinimal 1000 1 (orderFreshFdGroups .tlc smallFirst [] pairCons) [] pairCons := by
  have missed : selectUniform 1000 1 (orderFreshFdGroups .tlc smallFirst [] pairCons) [] pairCons = none := by
    decide +kernel
  have enough : Suffices 1000 1 (orderFreshFdGroups .tlc smallFirst [] pairCons) pairCons 1 :=
    ⟨by decide, by decide +kernel, by decide +kernel⟩
  refine ⟨missed, enough, fun h => ?_⟩
  have hsome := h.1.mpr ⟨1, enough⟩
  rw [missed] at hsome
  cases hsome

/-! ### Acceptance and placement -/

/-- What the decisions accept. -/
inductive Accepted (p : PoolKind) (desiredRaw minFd : Int) (existing : List ExistingContainer) (cons : CapacityConstraints)
    (b : Books) : List FdGroup → Int → Prop
  | fresh {used preferNodes : List String} {chosen : List FdGroup} {T : Int}
      (h : selectUniform desiredRaw minFd (orderFreshFdGroups p b.states used cons) preferNodes cons = some (chosen, T)) :
      Accepted p desiredRaw minFd existing cons b chosen T
  | increase {o : PlaceOrder} (fds : 0 < poolExistingFds p existing) (delta : poolCurrent existing p < desiredRaw)
      (h : planPoolUniformIncrease p desiredRaw minFd existing cons b = .place o) :
      Accepted p desiredRaw minFd existing cons b o.chosen o.level

section Accept
variable {p : PoolKind} {desiredRaw minFd : Int} {existing : List ExistingContainer} {cons : CapacityConstraints}
  {b : Books} {chosen : List FdGroup} {level : Int}

theorem perFdCap_length (p : PoolKind) (existing : List ExistingContainer) :
    (perFdCap p existing).length = poolExistingFds p existing := by
  have hfilter : (existing.filter fun c => c.fdValue ≠ "" ∧ poolCap c p > 0) =
      existing.filter fun c => poolCap c p > 0 ∧ c.fdValue ≠ "" :=
    filter_congr fun c _ => decide_eq_decide.mpr and_comm
  unfold perFdCap poolExistingFds
  rw [length_map, groupBy_length, hfilter, card_toFinset]

variable {i : Increase}

theorem coverWithNew_pos (delta : 0 < i.delta) {k perFd : Int}
    (h : coverWithNew p desiredRaw existing cons i = some (k, perFd)) : 0 < perFd := by
  unfold coverWithNew at h
  split at h
  · obtain ⟨k', hk', h⟩ := exists_of_findSome?_eq_some h
    have hpos := ceilDiv_pos delta (show 0 < k' by have := mem_intRange.mp hk'; omega)
    dsimp only at h
    repeat' split at h
    all_goals cases h
    all_goals omega
  · cases h

/-- What the search over existing domains accepts. -/
structure Grown (p : PoolKind) (desiredRaw minFd : Int) (existing : List ExistingContainer) (cons : CapacityConstraints)
    (b : Books) (i : Increase) (f : FeasN) : Prop where
  floor : max minFd i.numExisting ≤ f.N
  level : f.L = max i.T0 (ceilDiv desiredRaw f.N)
  fresh : f.N - i.numExisting ≤ i.freshCountAtLeast f.L
  total : ∃ sumE, existingReach p existing cons b f.L = some sumE ∧ f.total = sumE + (f.N - i.numExisting) * f.L
  within : f.total - desiredRaw ≤ i.overshootCap

theorem bestGrow_grown {f : FeasN} (h : bestGrow p desiredRaw minFd existing cons b i = some f) :
    Grown p desiredRaw minFd existing cons b i f := by
  unfold bestGrow at h
  revert h f
  refine List.foldlRecOn (motive := fun best => ∀ {f}, best = some f → Grown p desiredRaw minFd existing cons b i f) _ _
    (by rintro f ⟨⟩) fun best ih N hN f h => ?_
  obtain ⟨hlo, -⟩ := mem_intRange.mp hN
  dsimp only at h
  split at h
  · exact ih h
  rename_i hfresh
  split at h
  · exact ih h
  rename_i sumE hreach
  split at h
  · exact ih h
  split at h
  · exact ih h
  rename_i hcap
  have found : Grown p desiredRaw minFd existing cons b i
      ⟨N, max i.T0 (ceilDiv desiredRaw N), sumE + (N - i.numExisting) * max i.T0 (ceilDiv desiredRaw N)⟩ :=
    ⟨hlo, rfl, not_lt.mp hfresh, ⟨sumE, hreach, rfl⟩, not_lt.mp hcap⟩
  split at h
  · cases h
    exact found
  · split at h
    · cases h
      exact found
    · exact ih h

namespace Accepted

section
variable (h : Accepted p desiredRaw minFd existing cons b chosen level)
include h

theorem nodup (named : Named b.states) : (chosen.map (·.nodes)).flatten.Nodup := by
  cases h with
  | fresh h =>
    rcases selectUniform_cases with ⟨hnone, -⟩ | ⟨N, -, -, heq⟩
    · rw [hnone] at h
      cases h
    · rw [heq] at h
      cases h
      exact nodup_flatten_of_subperm (subperm_map _ (pickPreferringColocated_subperm _ _ _ _))
        (orderFreshFdGroups_nodup named _)
  | increase _ _ h => exact (planPoolUniformIncrease_chosen h).nodup named

theorem pos (pos : 0 < desiredRaw) : 0 < level := by
  cases h with
  | fresh h =>
    rcases selectUniform_cases with ⟨hnone, -⟩ | ⟨N, hfits, -, heq⟩
    · rw [hnone] at h
      cases h
    · rw [heq] at h
      cases h
      have hfloor := hfits.floor
      exact lt_max_of_lt_right (ceilDiv_pos pos (by omega))
  | increase fds delta h =>
    have hexisting : 0 < (increaseOf p desiredRaw minFd existing cons b).numExisting := by
      simp only [increaseOf, length_map, perFdCap_length]
      exact_mod_cast fds
    have grown : ∀ {f}, bestGrow p desiredRaw minFd existing cons b (increaseOf p desiredRaw minFd existing cons b) = some f →
        0 < f.L := by
      intro f hf
      have g := bestGrow_grown hf
      have hfloor := g.floor
      rw [g.level]
      exact lt_max_of_lt_right (ceilDiv_pos pos (by omega))
    unfold planPoolUniformIncrease at h
    dsimp only at h
    split at h
    · rename_i hcover
      cases h
      exact coverWithNew_pos (sub_pos.mpr delta) hcover
    split at h
    · cases h
    rename_i best hbest
    split at h
    · rename_i hlevel
      cases h
      exact hlevel ▸ grown hbest
    split at h
    · cases h
    split at h
    · cases h
    · cases h
      exact grown hbest

end

end Accepted
end Accept

/-- No accepted domain is rolled back if and only if each of them has hosts and every host can take its
    even share of the level. -/
theorem accepted_reached_iff (p : PoolKind) (desiredRaw minFd : Int) (existing : List ExistingContainer)
    (cons : CapacityConstraints) (b : Books) (chosen : List FdGroup) (level : Int) (named : Named b.states)
    (pos : 0 < desiredRaw) (accepted : Accepted p desiredRaw minFd existing cons b chosen level) :
    reachedFds p existing cons level chosen b = chosen ↔
      ∀ g ∈ chosen, g.nodes ≠ [] ∧ FdFits p existing cons level b g := by
  have nodup := accepted.nodup named
  have hpos := accepted.pos pos
  rw [reachedFds_eq nodup, filter_eq_self]
  refine forall₂_congr fun g hg => ?_
  have hnodes : g.nodes.Nodup := nodup.sublist (sublist_flatten_of_mem (mem_map_of_mem hg))
  rw [fdReaches, decide_eq_true_eq]
  by_cases hne : g.nodes = []
  · rw [hne]
    exact iff_of_false (not_le.mpr hpos) fun h => h.1 rfl
  · rw [runFd_reaches_iff hpos.le hnodes hne]
    exact (and_iff_right hne).symm

theorem accepted_reached_pair : reachedFds .tlc [] pairCons 800 [{ nodes := ["n1", "n2"], headroom := 1100 }] unevenPair =
    [{ nodes := ["n1", "n2"], headroom := 1100 }] := by
  have named : Named unevenPair.states := by
    intro n ns h
    rcases lookup_foldl_insert_cases _ _ _ _ h with h | ⟨nc, -, hname, rfl⟩
    · cases h
    · exact hname
  have accepted : Accepted .tlc 800 1 [] pairCons unevenPair [{ nodes := ["n1", "n2"], headroom := 1100 }] 800 :=
    @Accepted.fresh .tlc 800 1 [] pairCons unevenPair [] [] _ _ (by decide +kernel)
  exact (accepted_reached_iff .tlc 800 1 [] pairCons unevenPair _ 800 named (by decide) accepted).mpr (by decide +kernel)

/-- The pair has 1100 GiB of headroom and is accepted for 1000 GiB, but its second host has no room for
    half of it. -/
theorem accepted_rolledBack_pair :
    Accepted .tlc 1000 1 [] pairCons unevenPair [{ nodes := ["n1", "n2"], headroom := 1100 }] 1000 ∧
      reachedFds .tlc [] pairCons 1000 [{ nodes := ["n1", "n2"], headroom := 1100 }] unevenPair = [] := by
  refine ⟨@Accepted.fresh .tlc 1000 1 [] pairCons unevenPair [] [] _ _ ?_, ?_⟩
  · decide +kernel
  · decide +kernel

end WekaOperator.Planner
