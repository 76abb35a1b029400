import WekaOperator.Lib.Rearrange
import WekaOperator.Planner.ComputeFit

/-! Compute sizing with the existing containers listed in another order and the maps iterated in another order. -/

namespace WekaOperator.Planner
open List Option Bool Lib

/-! ### Laying out the existing containers -/

section LayOut
variable {existing existing' : List ExistingComputeContainer} {states states' : NameMap NodeState} {cores hp : Int}
  {cons : CapacityConstraints}

theorem computeOn_perm (hosts : (computeHosts existing).Nodup) (perm : existing.Perm existing') (node : String) :
    computeOn existing' node = computeOn existing node := by
  have hosts' : (computeHosts existing').Nodup := ((perm.filter _).map _).nodup_iff.mp hosts
  cases hon : computeOn existing node with
  | none =>
    refine find?_eq_none.mpr fun ec hec => ?_
    exact find?_eq_none.mp hon ec (perm.mem_iff.mpr hec)
  | some ec =>
    have hec := mem_of_find?_eq_some hon
    obtain ⟨hne, rfl⟩ : ec.node ≠ "" ∧ ec.node = node := by simpa using find?_some hon
    exact computeOn_eq_some hosts' (perm.mem_iff.mp hec) hne

/-- An existing container in the new layout. -/
def resolved (cores hp : Int) (cons : CapacityConstraints) (states : NameMap NodeState) (ec : ExistingComputeContainer) :
    LaidOut :=
  if (states.lookup ec.node).any (growsInPlace cores hp cons · ec) then ⟨⟨ec.node, cores, hp⟩, false⟩
  else ⟨⟨ec.node, ec.numCores, ec.hugepagesMiB⟩, true⟩

theorem Resolved.eq_resolved {ec : ExistingComputeContainer} {lo : LaidOut} (h : Resolved cores hp cons states ec lo) :
    lo = resolved cores hp cons states ec := by
  obtain ⟨⟨ns, hns, hfrozen⟩, hspec⟩ := h
  unfold resolved
  rw [hns, any_some]
  cases lo with
  | mk spec frozen =>
    dsimp only at hfrozen hspec
    rw [hspec, hfrozen]
    cases growsInPlace cores hp cons ns ec <;> rfl

theorem layOutExistingCompute_resolved (hosts : (computeHosts existing).Nodup) :
    (layOutExistingCompute cores hp cons existing states).1 =
      (existing.filter (onBudget states)).map (resolved cores hp cons states) := by
  have hspec := @layOutExistingCompute_spec cores hp cons existing states states hosts fun _ _ _ => rfl
  rw [← forall₂_eq_eq_eq, forall₂_map_right_iff]
  exact (hspec.imp fun _ _ h => h.eq_resolved).flip

/-- What its node has left. -/
def leftBudget (cores hp : Int) (cons : CapacityConstraints) (ns : NodeState) (ec : ExistingComputeContainer) : NodeState :=
  if growsInPlace cores hp cons ns ec then
    { ns with
      coresFree := if cores - ec.numCores > 0 then ns.coresFree - ns.cpuCost cons.cpuPolicy (cores - ec.numCores) false
        else ns.coresFree
      hugepagesMiB := if hp - ec.hugepagesMiB > 0 then ns.hugepagesMiB - (hp - ec.hugepagesMiB) else ns.hugepagesMiB }
  else ns

theorem layOutExistingCompute_left {ec : ExistingComputeContainer} {ns : NodeState} (hne : ec.node ≠ "")
    (hns : states.lookup ec.node = some ns) : ∃ states',
      (layOutExistingCompute cores hp cons (ec :: existing) states).2 =
        (layOutExistingCompute cores hp cons existing states').2 ∧
      ∀ n, states'.lookup n = if n = ec.node then some (leftBudget cores hp cons ns ec) else states.lookup n := by
  rw [layOutExistingCompute, if_neg hne, hns]
  dsimp only
  split
  · rename_i hgrow
    refine ⟨states, rfl, fun n => ?_⟩
    have hleft : leftBudget cores hp cons ns ec = ns := by
      rw [leftBudget, growsInPlace, decide_eq_true hgrow, Bool.not_true, if_neg Bool.false_ne_true]
    rw [hleft]
    split
    · rename_i hn
      rw [hn, hns]
    · rfl
  · rename_i hgrow
    refine ⟨_, rfl, fun n => ?_⟩
    rw [lookup_insert_eq, leftBudget, growsInPlace, decide_eq_false hgrow, Bool.not_false, if_pos rfl]

theorem layOutExistingCompute_budgets (hosts : (computeHosts existing).Nodup) (n : String) :
    (layOutExistingCompute cores hp cons existing states).2.lookup n =
      (states.lookup n).map fun ns => (computeOn existing n).elim ns (leftBudget cores hp cons ns) := by
  induction existing generalizing states with
  | nil => simp [layOutExistingCompute, computeOn]
  | cons ec rest ih =>
    rw [computeHosts_cons] at hosts
    by_cases hne : ec.node = ""
    · rw [if_pos hne] at hosts
      rw [layOutExistingCompute_skip (by simp [onBudget, hne]), ih hosts, computeOn, computeOn,
        find?_cons_of_neg (by simp [hne])]
    rw [if_neg hne, nodup_cons] at hosts
    have hothers : n ≠ ec.node → computeOn (ec :: rest) n = computeOn rest n := by
      intro hn
      rw [computeOn, computeOn, find?_cons_of_neg (by simp [Ne.symm hn])]
    have hown : computeOn (ec :: rest) ec.node = some ec := by
      rw [computeOn, find?_cons_of_pos (by simp [hne])]
    cases hns : states.lookup ec.node with
    | none =>
      rw [layOutExistingCompute_skip (by simp [onBudget, hns]), ih hosts.2]
      by_cases hn : n = ec.node
      · rw [hn, hns, map_none, map_none]
      · rw [hothers hn]
    | some ns =>
      obtain ⟨states', hstep, hleft⟩ := @layOutExistingCompute_left rest states cores hp cons ec ns hne hns
      rw [hstep, ih hosts.2, hleft]
      by_cases hn : n = ec.node
      · -- No other container is on this node, so what this one leaves stays.
        rw [if_pos hn, hn, hns, hown, computeOn_eq_none hosts.1]
        rfl
      · rw [if_neg hn, hothers hn]

variable (hosts : (computeHosts existing).Nodup) (perm : existing.Perm existing')
  (same : ∀ n, states'.lookup n = states.lookup n)
include hosts perm same

theorem layOutExistingCompute_perm :
    (layOutExistingCompute cores hp cons existing states).1.Perm (layOutExistingCompute cores hp cons existing' states').1 := by
  have hosts' : (computeHosts existing').Nodup := ((perm.filter _).map _).nodup_iff.mp hosts
  have hon : onBudget states' = onBudget states := by
    funext ec
    rw [onBudget, onBudget, same]
  have hresolved : resolved cores hp cons states' = resolved cores hp cons states := by
    funext ec
    rw [resolved, resolved, same]
  rw [layOutExistingCompute_resolved hosts, layOutExistingCompute_resolved hosts', hon, hresolved]
  exact (perm.filter _).map _

theorem layOutExistingCompute_same (n : String) : (layOutExistingCompute cores hp cons existing' states').2.lookup n =
    (layOutExistingCompute cores hp cons existing states).2.lookup n := by
  have hosts' : (computeHosts existing').Nodup := ((perm.filter _).map _).nodup_iff.mp hosts
  rw [layOutExistingCompute_budgets hosts, layOutExistingCompute_budgets hosts', same, computeOn_perm hosts perm]

end LayOut

/-! ### The steps after it -/

theorem extendSpan_perm (minFds : Int) (fdOf : String → String) (rest : List String) {span span' : List String}
    (h : span.Perm span') (n : Nat) : extendSpan minFds fdOf rest span' n = extendSpan minFds fdOf rest span n := by
  induction rest generalizing span span' n with
  | nil => rfl
  | cons node rest ih => rw [extendSpan, extendSpan, h.dedup.length_eq, ih (h.cons _)]

theorem newComputeContainers_congr {states states' : NameMap NodeState} (same : ∀ n, states'.lookup n = states.lookup n)
    (hugepages : Int → Int) (cons : CapacityConstraints) (base rem : Int) (nodes : List String) (i : Int) :
    newComputeContainers hugepages cons base rem states' nodes i = newComputeContainers hugepages cons base rem states nodes i := by
  induction nodes generalizing i with
  | nil => rfl
  | cons node rest ih => rw [newComputeContainers, newComputeContainers, same, ih]

/-! ### Compute sizing -/

namespace ComputeInput

/-- The same inputs in another order. -/
structure Rearranged (i i' : ComputeInput) : Prop where
  desired : i'.desired = i.desired
  scheme : i'.scheme = i.scheme
  cons : i'.cons = i.cons
  required : i'.required = i.required
  existing : i.existing.Perm i'.existing
  nodes : ∀ n, i'.nodes.lookup n = i.nodes.lookup n
  states : ∀ n, i'.states.lookup n = i.states.lookup n

namespace Rearranged
variable {i i' : ComputeInput} (h : i.Rearranged i')
include h

theorem symm : i'.Rearranged i :=
  ⟨h.desired.symm, h.scheme.symm, h.cons.symm, h.required.symm, h.existing.symm, fun n => (h.nodes n).symm,
    fun n => (h.states n).symm⟩

theorem eligible : i'.eligible = i.eligible := by
  unfold ComputeInput.eligible
  simp only [h.states]
  symm
  refine insertionSort_key_eq (id : String → String) (fun _ _ => Iff.rfl) (((entries_perm h.nodes).filter _).map _) ?_
  rw [List.map_id]
  exact (List.filter_sublist.map _).nodup i.nodes.keys_nodup

theorem hugepagesFor : i'.hugepagesFor = i.hugepagesFor := by
  funext count cores
  rw [ComputeInput.hugepagesFor, ComputeInput.hugepagesFor, h.desired, h.cons]

theorem fdOf : i'.fdOf = i.fdOf := by
  funext node
  rw [ComputeInput.fdOf, ComputeInput.fdOf, h.states]

theorem sizing : i'.sizing = i.sizing := by
  have honNode : ∀ node, (i.onNode node).Perm (i'.onNode node) := fun node => h.existing.filter _
  have hcore : i'.coreHeadroom = i.coreHeadroom := by
    funext node
    unfold coreHeadroom
    simp only [h.states, h.cons, ((honNode node).map _).sum_eq]
  have hpages : i'.hugepagesFree = i.hugepagesFree := by
    funext node
    rw [hugepagesFree, hugepagesFree, h.states, (honNode node).length_eq]
  rw [ComputeInput.sizing, ComputeInput.sizing, h.desired, h.required, h.scheme, h.cons, h.eligible, hcore, hpages,
    h.hugepagesFor]

variable (hosts : (computeHosts i.existing).Nodup) (count cores : Int)
include hosts

theorem laidOut : (i.laidOut count cores).1.Perm (i'.laidOut count cores).1 ∧
    ∀ n, (i'.laidOut count cores).2.lookup n = (i.laidOut count cores).2.lookup n := by
  unfold ComputeInput.laidOut
  rw [h.hugepagesFor, h.cons]
  exact ⟨layOutExistingCompute_perm hosts h.existing h.states, layOutExistingCompute_same hosts h.existing h.states⟩

theorem pinned : (i.pinned count cores).Perm (i'.pinned count cores) := (h.laidOut hosts count cores).1.map _

theorem shortfall : i'.shortfall count cores = i.shortfall count cores := by
  rw [ComputeInput.shortfall, ComputeInput.shortfall, ((h.laidOut hosts count cores).1.map _).sum_eq]

theorem needed : i'.needed count cores = i.needed count cores := by
  rw [ComputeInput.needed, ComputeInput.needed, h.shortfall hosts]

theorem fitNodes : i'.fitNodes count cores = i.fitNodes count cores := by
  unfold ComputeInput.fitNodes orderFitNodesByFreshFD
  have hpinned := h.pinned hosts count cores
  simp only [h.eligible, h.fdOf, h.hugepagesFor, h.cons, (h.laidOut hosts count cores).2, hpinned.mem_iff, (hpinned.map _).mem_iff]

theorem extended : i'.extended count cores = i.extended count cores := by
  unfold ComputeInput.extended
  rw [h.needed hosts, h.fitNodes hosts, h.fdOf, h.scheme]
  exact extendSpan_perm _ _ _ (((h.pinned hosts count cores).map _).append_right _) _

theorem newNodes : i'.newNodes count cores = i.newNodes count cores := by
  rw [ComputeInput.newNodes, ComputeInput.newNodes, h.fitNodes hosts, h.extended hosts]

theorem total : i'.total count cores = i.total count cores := by
  rw [ComputeInput.total, ComputeInput.total, (h.laidOut hosts count cores).1.length_eq, h.extended hosts]

theorem added : i'.added count cores = i.added count cores := by
  unfold ComputeInput.added splitCores
  rw [h.shortfall hosts, h.extended hosts, h.total hosts, h.newNodes hosts, h.hugepagesFor, h.cons]
  exact newComputeContainers_congr (h.laidOut hosts count cores).2 _ _ _ _ _ _

variable {new : List ComputeContainerSpec}

theorem placed {count cores : Int} (hp : i.Placed count cores new) :
    i'.Placed count cores new where
  sized := h.sizing.trans hp.sized
  fits := by
    rw [h.needed hosts, h.fitNodes hosts]
    exact hp.fits
  spans := by
    rw [h.scheme, h.fdOf, h.newNodes hosts, (((h.pinned hosts count cores).map _).append_right _).symm.dedup.length_eq]
    exact hp.spans
  added := (h.added hosts count cores).trans hp.added

theorem layout {count cores : Int} (hp : i.Placed count cores new) :
    i'.layout count cores new = i.layout count cores new := by
  have hkept : (i.kept count cores).Perm (i'.kept count cores) := by
    unfold kept
    rw [h.hugepagesFor, h.total hosts]
    exact (h.laidOut hosts count cores).1.map _
  symm
  refine insertionSort_key_eq (·.node) (fun _ _ => Iff.rfl) (hkept.append_right new) ?_
  exact ((layout_perm count cores new).map _).nodup_iff.mp (layout_nodup hosts hp)

end Rearranged
end ComputeInput
end WekaOperator.Planner
