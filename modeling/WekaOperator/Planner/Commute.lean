import WekaOperator.Planner.Undone

/-! Placements in another order.

Failure domains share no node and no container, so their placements commute, and a uniform placement does not depend on
the order of the chosen domains. -/

namespace WekaOperator.Planner
open List Lib

section Commute
variable {p : PoolKind} {existing existing' : List ExistingContainer} {cons : CapacityConstraints} {target : Int}
  {b b' : Books} {g g' : FdGroup}

theorem placeUniform_existing (h : ∀ node, existingOnNode existing' node = existingOnNode existing node) :
    placeUniform p existing' cons = placeUniform p existing cons := by
  have host : placeHost p existing' cons = placeHost p existing cons := by
    funext fdValue share node r
    unfold placeHost
    rw [h]
  have hosts : ∀ fdValue base rem nodes hi r, placeHosts p existing' cons fdValue base rem nodes hi r =
      placeHosts p existing cons fdValue base rem nodes hi r := by
    intro fdValue base rem nodes
    induction nodes with
    | nil => exact fun _ _ => rfl
    | cons node nodes ih =>
      intro hi r
      rw [placeHosts, placeHosts, host, ih]
  have run : runFd p existing' cons = runFd p existing cons := by
    funext target fdValue nodes b
    exact hosts ..
  have fd : placeFd p existing' cons = placeFd p existing cons := by
    funext target b g
    unfold placeFd
    rw [run]
  funext target chosen b
  rw [placeUniform, placeUniform, fd]

variable (names : (existing.map (·.name)).Nodup)
include names

theorem Agree.placeFd (nodup : g.nodes.Nodup) (h : Agree g.nodes b b') :
    Agree g.nodes (placeFd p existing cons target b g) (placeFd p existing cons target b' g) := by
  intro n hn
  obtain ⟨hstate, hnew⟩ := h n hn
  constructor
  · rw [(placeFd_shifted names target b' g).states n, (placeFd_shifted names target b g).states n,
      fdTrace_congr target nodup h, hstate]
  · rw [placeFd_new, placeFd_new, fdMoves_congr target nodup h, fdReaches_congr target nodup h, h.fdOf, hnew]

theorem placeFd_after (nodup : g.nodes.Nodup) (disjoint : ∀ n ∈ g'.nodes, n ∉ g.nodes) {n : String} (hn : n ∉ g'.nodes) :
    Agree [n] (placeFd p existing cons target b g)
      (placeFd p existing cons target (placeFd p existing cons target b g') g) := by
  have others : ∀ g₀ : FdGroup, n ∉ g₀.nodes → ∀ b, Agree [n] b (placeFd p existing cons target b g₀) := by
    intro g₀ hn₀ b
    refine placeFd_agree target b fun m hm hmem => ?_
    rw [mem_singleton.mp hmem] at hm
    exact hn₀ hm
  by_cases hg : n ∈ g.nodes
  · refine (Agree.placeFd names nodup (placeFd_agree target b disjoint)).subset ?_
    simpa using hg
  · intro m hm
    obtain ⟨hstate, hnew⟩ := others g hg b m hm
    obtain ⟨hstate', hnew'⟩ := (others g' hn b).trans (others g hg _) m hm
    exact ⟨hstate'.trans hstate.symm, hnew'.trans hnew.symm⟩

theorem placeFd_comm (nodup : g.nodes.Nodup) (nodup' : g'.nodes.Nodup) (disjoint : ∀ n ∈ g.nodes, n ∉ g'.nodes) :
    (placeFd p existing cons target (placeFd p existing cons target b g) g').Same
      (placeFd p existing cons target (placeFd p existing cons target b g') g) := by
  have disjoint' : ∀ n ∈ g'.nodes, n ∉ g.nodes := fun n hn hn' => disjoint n hn' hn
  -- A node is outside one of the two domains, and that one may as well come first.
  have nodes : ∀ n, Agree [n] (placeFd p existing cons target (placeFd p existing cons target b g) g')
      (placeFd p existing cons target (placeFd p existing cons target b g') g) := by
    intro n m hm
    obtain rfl := mem_singleton.mp hm
    by_cases hn : m ∈ g'.nodes
    · have hng := disjoint' m hn
      obtain ⟨hstate, hnew⟩ := @placeFd_after p existing cons target b g' g names nodup' disjoint m hng m hm
      have hkept : Agree [m] (placeFd p existing cons target b g')
          (placeFd p existing cons target (placeFd p existing cons target b g') g) := by
        refine placeFd_agree target _ fun k hk hmem => ?_
        rw [mem_singleton.mp hmem] at hk
        exact hng hk
      exact ⟨(hkept m hm).1.trans hstate.symm, (hkept m hm).2.trans hnew.symm⟩
    · obtain ⟨hstate, hnew⟩ := @placeFd_after p existing cons target b g g' names nodup disjoint' m hn m hm
      have hkept : Agree [m] (placeFd p existing cons target b g)
          (placeFd p existing cons target (placeFd p existing cons target b g) g') := by
        refine placeFd_agree target _ fun k hk hmem => ?_
        rw [mem_singleton.mp hmem] at hk
        exact hn hk
      exact ⟨hstate.trans (hkept m hm).1.symm, hnew.trans (hkept m hm).2.symm⟩
  refine ⟨fun n => (nodes n n mem_cons_self).1, fun k => ?_, fun n => (nodes n n mem_cons_self).2⟩
  have hagree : Agree g.nodes b (placeFd p existing cons target b g') := placeFd_agree target b disjoint'
  have hagree' : Agree g'.nodes b (placeFd p existing cons target b g) := placeFd_agree target b disjoint
  rw [placeFd_growth target _ g, placeFd_growth target b g', placeFd_growth target _ g', placeFd_growth target b g,
    fdMoves_congr target nodup hagree, fdReaches_congr target nodup hagree, fdMoves_congr target nodup' hagree',
    fdReaches_congr target nodup' hagree']
  -- Of the two, only one can write the record.
  by_cases hwrites : ∃ m ∈ fdMoves p existing cons target b g, m.record = .growth k
  · obtain ⟨m, hm, hrecord⟩ := hwrites
    have silent : ∀ m' ∈ fdMoves p existing cons target b g', ∀ sign o, Move.growthWrite p sign k o m' = o :=
      fun m' hm' sign o => Move.growthWrite_of_ne (fun e => fdMoves_records names disjoint hm hm' (hrecord.trans e.symm)) o
    rw [rewritten_eq_self silent, rewritten_eq_self silent]
  · have silent : ∀ m ∈ fdMoves p existing cons target b g, ∀ sign o, Move.growthWrite p sign k o m = o :=
      fun m hm sign o => Move.growthWrite_of_ne (fun e => hwrites ⟨m, hm, e⟩) o
    rw [rewritten_eq_self silent, rewritten_eq_self silent]

theorem placeUniform_perm {chosen chosen' : List FdGroup} (h : chosen.Perm chosen')
    (nodup : (chosen.map (·.nodes)).flatten.Nodup) (same : b.Same b') :
    (placeUniform p existing cons target chosen b).Same (placeUniform p existing cons target chosen' b') := by
  induction h generalizing b b' with
  | nil => exact same
  | cons g _ ih =>
    rw [map_cons, flatten_cons, nodup_append] at nodup
    exact ih nodup.2.1 (same.placeFd names target nodup.1)
  | swap g g' gs =>
    rw [map_cons, map_cons, flatten_cons, flatten_cons, nodup_append, nodup_append] at nodup
    obtain ⟨nodup', ⟨nodup, hgs, -⟩, hdisj⟩ := nodup
    have disjoint : ∀ n ∈ g'.nodes, n ∉ g.nodes := fun n hn hn' => hdisj n hn n (mem_append_left _ hn') rfl
    have hgroups : ∀ g ∈ gs, g.nodes.Nodup := fun g hg =>
      hgs.sublist (sublist_flatten_of_mem (mem_map_of_mem hg))
    refine Books.Same.placeUniform names ?_ target hgroups
    exact (placeFd_comm names nodup' nodup disjoint).trans ((same.placeFd names target nodup).placeFd names target nodup')
  | trans h₁ h₂ ih₁ ih₂ =>
    have nodup₂ := ((h₁.map (·.nodes)).flatten.nodup_iff).mp nodup
    exact (ih₁ nodup same).trans (ih₂ nodup₂ (Books.Same.refl b'))

end Commute
end WekaOperator.Planner
