import WekaOperator.Lib.Rearrange
import WekaOperator.Planner.ComputePlan
import WekaOperator.Planner.Final

/-! The compute layout of a feasible plan.

One container a node, existing ones kept or grown and new ones on free nodes that fit them, with the cores that were
asked for in sum and enough failure domains. -/

namespace WekaOperator.Planner
open List Lib

/-! ### Existing containers -/

/-- The container grows where it is. -/
def growsInPlace (cores hp : Int) (cons : CapacityConstraints) (ns : NodeState) (ec : ExistingComputeContainer) : Bool :=
  !decide (ec.unscheduled ∨ !cons.allowInPlaceGrowth ∨
    (cores - ec.numCores > 0 ∧ ns.coresFree < ns.cpuCost cons.cpuPolicy (cores - ec.numCores) false) ∨
    (hp - ec.hugepagesMiB > 0 ∧ ns.hugepagesMiB < hp - ec.hugepagesMiB))

/-- What becomes of an existing container. -/
structure Resolved (cores hp : Int) (cons : CapacityConstraints) (states : NameMap NodeState) (ec : ExistingComputeContainer)
    (lo : LaidOut) : Prop where
  budget : ∃ ns, states.lookup ec.node = some ns ∧ lo.frozen = !growsInPlace cores hp cons ns ec
  spec : lo.spec = if lo.frozen then ⟨ec.node, ec.numCores, ec.hugepagesMiB⟩ else ⟨ec.node, cores, hp⟩

variable {ec : ExistingComputeContainer}

theorem Resolved.node {cores hp : Int} {cons : CapacityConstraints} {states : NameMap NodeState} {lo : LaidOut}
    (h : Resolved cores hp cons states ec lo) : lo.spec.node = ec.node := by
  rw [h.spec]
  split <;> rfl

/-- The container is charged to a known node. -/
def onBudget (states : NameMap NodeState) (ec : ExistingComputeContainer) : Bool :=
  ec.node ≠ "" && (states.lookup ec.node).isSome

/-- The nodes with compute containers. -/
def computeHosts (existing : List ExistingComputeContainer) : List String :=
  (existing.filter (·.node ≠ "")).map (·.node)

theorem computeHosts_cons (ec : ExistingComputeContainer) (rest : List ExistingComputeContainer) :
    computeHosts (ec :: rest) = if ec.node = "" then computeHosts rest else ec.node :: computeHosts rest := by
  unfold computeHosts
  split <;> rename_i h <;> simp [h]

variable {n : String}

theorem mem_computeHosts {existing : List ExistingComputeContainer} :
    n ∈ computeHosts existing ↔ n ≠ "" ∧ ∃ ec ∈ existing, ec.node = n := by
  unfold computeHosts
  simp only [mem_map, mem_filter, decide_eq_true_eq]
  constructor
  · rintro ⟨ec, ⟨hec, hne⟩, rfl⟩
    exact ⟨hne, ec, hec, rfl⟩
  · rintro ⟨hne, ec, hec, rfl⟩
    exact ⟨ec, ⟨hec, hne⟩, rfl⟩

section LayOut
variable {cores hp : Int} {cons : CapacityConstraints} {existing : List ExistingComputeContainer}
  {states states₀ : NameMap NodeState}

theorem layOutExistingCompute_skip (h : onBudget states ec = false) :
    layOutExistingCompute cores hp cons (ec :: existing) states = layOutExistingCompute cores hp cons existing states := by
  rw [onBudget, Bool.and_eq_false_iff, decide_eq_false_iff_not, not_not, Option.isSome_eq_false_iff, Option.isNone_iff_eq_none] at h
  rw [layOutExistingCompute]
  by_cases hnode : ec.node = ""
  · rw [if_pos hnode]
  · rw [if_neg hnode, h.resolve_left hnode]

theorem layOutExistingCompute_step {ec : ExistingComputeContainer} (h : onBudget states ec = true) :
    ∃ lo states', layOutExistingCompute cores hp cons (ec :: existing) states =
        (lo :: (layOutExistingCompute cores hp cons existing states').1, (layOutExistingCompute cores hp cons existing states').2) ∧
      Resolved cores hp cons states ec lo ∧ (∀ n, n ≠ ec.node → states'.lookup n = states.lookup n) ∧
        (states'.lookup ec.node).isSome := by
  rw [onBudget, Bool.and_eq_true, decide_eq_true_eq] at h
  obtain ⟨hnode, hsome⟩ := h
  obtain ⟨ns, hns⟩ := Option.isSome_iff_exists.mp hsome
  rw [layOutExistingCompute, if_neg hnode, hns]
  dsimp only
  split
  · rename_i hgrow
    have hfrozen : growsInPlace cores hp cons ns ec = false := by rw [growsInPlace, decide_eq_true hgrow, Bool.not_true]
    exact ⟨_, states, rfl, ⟨⟨ns, hns, by rw [hfrozen]; rfl⟩, rfl⟩, fun _ _ => rfl, hsome⟩
  · rename_i hgrow
    have hgrows : growsInPlace cores hp cons ns ec = true := by rw [growsInPlace, decide_eq_false hgrow, Bool.not_false]
    refine ⟨_, _, rfl, ⟨⟨ns, hns, by rw [hgrows]; rfl⟩, rfl⟩, fun n hn => ?_, ?_⟩
    · rw [lookup_insert_eq, if_neg hn]
    · rw [lookup_insert_eq, if_pos rfl, Option.isSome_some]

theorem layOutExistingCompute_nodes (budgets : ∀ n, (states.lookup n).isSome = (states₀.lookup n).isSome) :
    (layOutExistingCompute cores hp cons existing states).1.map (·.spec.node) =
      (existing.filter (onBudget states₀)).map (·.node) ∧
    ∀ n, n ∉ computeHosts existing →
      (layOutExistingCompute cores hp cons existing states).2.lookup n = states.lookup n := by
  induction existing generalizing states with
  | nil => exact ⟨rfl, fun _ _ => rfl⟩
  | cons ec rest ih =>
    have hsame : onBudget states ec = onBudget states₀ ec := by rw [onBudget, onBudget, budgets]
    cases hon : onBudget states ec with
    | false =>
      rw [layOutExistingCompute_skip hon, filter_cons_of_neg (by rw [← hsame, hon]; exact Bool.false_ne_true)]
      obtain ⟨hnodes, hlook⟩ := ih budgets
      refine ⟨hnodes, fun n hn => hlook n fun hmem => hn ?_⟩
      obtain ⟨hne, ec', hec', he⟩ := mem_computeHosts.mp hmem
      exact mem_computeHosts.mpr ⟨hne, ec', mem_cons_of_mem _ hec', he⟩
    | true =>
      obtain ⟨lo, states', hstep, hlo, hothers, hown⟩ := @layOutExistingCompute_step cores hp cons rest states ec hon
      rw [onBudget, Bool.and_eq_true, decide_eq_true_eq] at hon
      have hbudgets : ∀ n, (states'.lookup n).isSome = (states₀.lookup n).isSome := by
        intro n
        by_cases hn : n = ec.node
        · rw [hn, hown, ← budgets, hon.2]
        · rw [hothers n hn, budgets]
      obtain ⟨hnodes, hlook⟩ := ih hbudgets
      rw [hstep, computeHosts_cons, if_neg hon.1, filter_cons_of_pos (by rw [← hsame, onBudget, hon.2]; simpa using hon.1)]
      refine ⟨by rw [map_cons, map_cons, hnodes, hlo.node], fun n hn => ?_⟩
      rw [mem_cons, not_or] at hn
      rw [hlook n hn.2, hothers n hn.1]

theorem layOutExistingCompute_spec (nodes : (computeHosts existing).Nodup)
    (same : ∀ ec ∈ existing, ec.node ≠ "" → states.lookup ec.node = states₀.lookup ec.node) :
    List.Forall₂ (Resolved cores hp cons states₀) (existing.filter (onBudget states₀))
      (layOutExistingCompute cores hp cons existing states).1 := by
  induction existing generalizing states with
  | nil => exact .nil
  | cons ec rest ih =>
    rw [computeHosts_cons] at nodes
    have hrest : ∀ ec' ∈ rest, ec'.node ≠ "" → states.lookup ec'.node = states₀.lookup ec'.node :=
      fun ec' h => same ec' (mem_cons_of_mem _ h)
    have hsame : onBudget states ec = onBudget states₀ ec := by
      by_cases hnode : ec.node = ""
      · simp [onBudget, hnode]
      · rw [onBudget, onBudget, same ec mem_cons_self hnode]
    cases hon : onBudget states ec with
    | false =>
      rw [layOutExistingCompute_skip hon, filter_cons_of_neg (by rw [← hsame, hon]; exact Bool.false_ne_true)]
      refine ih ?_ hrest
      split at nodes
      · exact nodes
      · exact (nodup_cons.mp nodes).2
    | true =>
      obtain ⟨lo, states', hstep, hlo, hothers, -⟩ := @layOutExistingCompute_step cores hp cons rest states ec hon
      have hnode : ec.node ≠ "" := by
        rw [onBudget, Bool.and_eq_true, decide_eq_true_eq] at hon
        exact hon.1
      rw [if_neg hnode, nodup_cons] at nodes
      rw [hstep, filter_cons_of_pos (by rw [← hsame, hon])]
      refine .cons ⟨?_, hlo.spec⟩ (ih nodes.2 fun ec' h hne => ?_)
      · rw [← same ec mem_cons_self hnode]
        exact hlo.budget
      · -- The others are on other nodes, so their budgets are still those they started with.
        have hdiff : ec'.node ≠ ec.node := fun e => nodes.1 (mem_computeHosts.mpr ⟨hnode, ec', h, e⟩)
        rw [hothers _ hdiff, hrest ec' h hne]

end LayOut

/-! ### Fitting nodes -/

theorem orderNodesByFDSpread_perm (nodes : List String) (headroom : String → Int) (fdOf : String → String) :
    (orderNodesByFDSpread nodes headroom fdOf).Perm nodes := by
  have columns : ∀ groups : List (String × List String), (groups.map (·.2)).flatten.Perm nodes →
      ((range nodes.length).flatMap fun round => groups.filterMap (·.2[round]?)).Perm nodes := by
    intro groups hflat
    have hcolumns := columns_perm (groups.map (·.2)) fun l hl =>
      (sublist_flatten_of_mem hl).length_le.trans hflat.length_eq.le
    simp only [filterMap_map, Function.comp_def] at hcolumns
    exact hcolumns.trans hflat
  refine columns _ (((perm_insertionSort _ _).map _).flatten.trans ?_)
  rw [map_map, ← flatMap_def]
  refine (List.Perm.flatMap_left _ fun g _ => ?_).trans (groupBy_members fdOf nodes)
  exact perm_insertionSort _ _

/-- The first round takes one node of each failure domain, the later rounds only repeat domains. -/
theorem orderNodesByFDSpread_rounds (nodes : List String) (headroom : String → Int) (fdOf : String → String) :
    ∃ first rest, (orderNodesByFDSpread nodes headroom fdOf).map fdOf = first ++ rest ∧ first.Nodup ∧ ∀ k ∈ rest, k ∈ first := by
  have rounds : ∀ (groups : List (String × List String)) (out : List String),
      out = ((range nodes.length).flatMap fun round => groups.filterMap (·.2[round]?)) → out.Perm nodes →
      (∀ g ∈ groups, g.2 ≠ [] ∧ ∀ n ∈ g.2, g.1 = fdOf n) → (groups.map (·.1)).Perm ((groupBy fdOf nodes).map (·.1)) →
      ∃ first rest, out.map fdOf = first ++ rest ∧ first.Nodup ∧ ∀ k ∈ rest, k ∈ first := by
    rintro groups _ rfl perm headed keys
    obtain ⟨nodup, mem⟩ := groupBy_keys fdOf nodes
    have listed := fun k => (perm.map fdOf).mem_iff.trans ((mem k).symm.trans keys.mem_iff.symm)
    cases nodes with
    | nil => exact ⟨[], [], rfl, nodup_nil, by simp⟩
    | cons n ns =>
      -- The first round takes the best node of each group.
      have first : (groups.filterMap (·.2[0]?)).map fdOf = groups.map (·.1) := by
        rw [map_filterMap, ← filterMap_eq_map]
        refine filterMap_congr fun g hg => ?_
        obtain ⟨nonempty, key⟩ := headed g hg
        obtain ⟨n, rest, hn⟩ := exists_cons_of_ne_nil nonempty
        simp [hn, key n (hn ▸ mem_cons_self)]
      rw [length_cons, range_succ_eq_map, flatMap_cons, map_append, first] at listed ⊢
      exact ⟨_, _, rfl, keys.nodup_iff.mpr nodup, fun k hk => (listed k).mp (mem_append_right _ hk)⟩
  refine rounds _ _ rfl (orderNodesByFDSpread_perm ..) (fun g hg => ?_) (((perm_insertionSort _ _).map _).trans (.of_eq (by simp)))
  obtain ⟨group, hgroup, rfl⟩ := mem_map.mp ((perm_insertionSort _ _).mem_iff.mp hg)
  refine ⟨fun h => groupBy_ne_nil hgroup ((perm_insertionSort _ _).symm.trans (.of_eq h)).eq_nil, fun n hn => ?_⟩
  exact (mem_groupBy fdOf hgroup n ((perm_insertionSort _ _).mem_iff.mp hn)).2

/-- A new container fits the node. -/
def fitsOn (states : NameMap NodeState) (pinned : List String) (cores hp : Int) (cons : CapacityConstraints) (node : String) :
    Prop :=
  node ∉ pinned ∧ ∃ ns, states.lookup node = some ns ∧ ns.cpuCost cons.cpuPolicy cores true ≤ ns.coresFree ∧
    hp ≤ ns.hugepagesMiB

section FitNodes
variable {nodes pinned coveredFDs : List String} {states : NameMap NodeState} {cores hp : Int} {fdOf : String → String}
  {cons : CapacityConstraints}

theorem orderFitNodesByFreshFD_perm : (orderFitNodesByFreshFD nodes states pinned coveredFDs cores hp fdOf cons).Perm
    (nodes.filter fun node => node ∉ pinned ∧ (states.lookup node).any fun ns =>
      ns.cpuCost cons.cpuPolicy cores true ≤ ns.coresFree ∧ hp ≤ ns.hugepagesMiB) := by
  refine ((orderNodesByFDSpread_perm _ _ _).append (orderNodesByFDSpread_perm _ _ _)).trans ?_
  refine perm_append_comm.trans ?_
  have := filter_append_perm (fun n => decide (fdOf n ∈ coveredFDs)) (nodes.filter fun node => node ∉ pinned ∧
    (states.lookup node).any fun ns => ns.cpuCost cons.cpuPolicy cores true ≤ ns.coresFree ∧ hp ≤ ns.hugepagesMiB)
  simpa using this

/-- Every prefix spans as many failure domains as its length allows. -/
theorem order_maximises_span (headroom : String → Int) :
    let fit := nodes.filter fun node => node ∉ pinned ∧ (states.lookup node).any fun ns =>
      ns.cpuCost cons.cpuPolicy cores true ≤ ns.coresFree ∧ hp ≤ ns.hugepagesMiB
    let order := orderFitNodesByFreshFD nodes states pinned coveredFDs cores hp fdOf cons
    let spread := orderNodesByFDSpread nodes headroom fdOf
    (order.Perm fit ∧ ∀ k, (coveredFDs ++ (order.take k).map fdOf).toFinset.card =
      min (coveredFDs.toFinset.card + k) (coveredFDs ++ fit.map fdOf).toFinset.card) ∧
    spread.Perm nodes ∧ ∀ k, ((spread.take k).map fdOf).toFinset.card = min k (nodes.map fdOf).toFinset.card := by
  intro fit order spread
  have perm : order.Perm fit := orderFitNodesByFreshFD_perm
  have spreadPerm : spread.Perm nodes := orderNodesByFDSpread_perm ..
  refine ⟨⟨perm, fun k => ?_⟩, spreadPerm, fun k => ?_⟩
  · have listed : ∀ (p : String → Bool) (f : String → Int), ∀ fd ∈ (orderNodesByFDSpread (fit.filter p) f fdOf).map fdOf,
        ∃ n, p n = true ∧ fdOf n = fd := by
      intro p f fd hfd
      obtain ⟨n, hn, rfl⟩ := mem_map.mp (((orderNodesByFDSpread_perm _ _ _).map _).mem_iff.mp hfd)
      exact ⟨n, (mem_filter.mp hn).2, rfl⟩
    obtain ⟨first, rest, keys, nodup, repeated⟩ := orderNodesByFDSpread_rounds (fit.filter fun n => fdOf n ∉ coveredFDs)
      (fun node => (states.lookup node).elim 0 (·.coresFree)) fdOf
    have all : order.map fdOf = _ := map_append
    rw [keys, append_assoc] at all
    rw [map_take, ← toFinset_eq_of_perm _ _ ((perm.map fdOf).append_left coveredFDs), all]
    refine card_take_spread nodup (fun fd hfd => ?_) (fun fd hfd => ?_) k
    · obtain ⟨n, hn, rfl⟩ := listed _ _ fd (keys ▸ mem_append_left _ hfd)
      exact of_decide_eq_true hn
    · rcases mem_append.mp hfd with hfd | hfd
      · exact mem_append_right _ (repeated fd hfd)
      · obtain ⟨n, hn, rfl⟩ := listed _ _ fd hfd
        exact mem_append_left _ (of_decide_eq_true hn)
  · obtain ⟨first, rest, keys, nodup, repeated⟩ := orderNodesByFDSpread_rounds nodes headroom fdOf
    have := card_take_spread (c := []) nodup (by simp) repeated k
    rw [map_take, ← toFinset_eq_of_perm _ _ (spreadPerm.map fdOf), keys]
    simpa using this

theorem mem_orderFitNodesByFreshFD (h : n ∈ orderFitNodesByFreshFD nodes states pinned coveredFDs cores hp fdOf cons) :
    n ∈ nodes ∧ fitsOn states pinned cores hp cons n := by
  rw [orderFitNodesByFreshFD_perm.mem_iff, mem_filter, decide_eq_true_eq, Option.any_eq_true] at h
  obtain ⟨hn, hpin, ns, hns, hfit⟩ := h
  rw [decide_eq_true_eq] at hfit
  exact ⟨hn, hpin, ns, hns, hfit⟩

end FitNodes

/-! ### New containers -/

/-- The layout has one container a node, each sized. -/
structure Hosted (hugepages : Int → Int) (cons : CapacityConstraints) (states : NameMap NodeState) (e : ComputeContainerSpec) :
    Prop where
  budget : ∃ ns, states.lookup e.node = some ns ∧ ns.cpuCost cons.cpuPolicy e.numCores true ≤ ns.coresFree ∧
    e.hugepagesMiB ≤ ns.hugepagesMiB
  hugepages : e.hugepagesMiB = hugepages e.numCores

theorem newComputeContainers_ok {hugepages : Int → Int} {cons : CapacityConstraints} {base rem : Int}
    {states : NameMap NodeState} {nodes : List String} {i : Int} {new : List ComputeContainerSpec}
    (known : ∀ n ∈ nodes, (states.lookup n).isSome)
    (h : newComputeContainers hugepages cons base rem states nodes i = .ok new) :
    new.map (·.node) = nodes ∧
      (∀ e ∈ new, Hosted hugepages cons states e ∧ (e.numCores = base ∨ (e.numCores = base + 1 ∧ i < rem))) ∧
      (new.map (·.numCores)).sum = base * nodes.length + max 0 (min (rem - i) nodes.length) := by
  induction nodes generalizing i new with
  | nil =>
    cases h
    refine ⟨rfl, fun e he => (by cases he), ?_⟩
    simp only [map_nil, sum_nil, length_nil, Nat.cast_zero, mul_zero]
    omega
  | cons node rest ih =>
    obtain ⟨ns, hns⟩ := Option.isSome_iff_exists.mp (known node mem_cons_self)
    unfold newComputeContainers at h
    rw [hns] at h
    generalize hcores : (if i < rem then base + 1 else base) = cCores at h
    dsimp only at h
    split at h
    · cases h
    rename_i hroom
    obtain ⟨hcpu, hhp⟩ := not_or.mp hroom
    cases hrest : newComputeContainers hugepages cons base rem states rest (i + 1) with
    | error report => rw [hrest] at h; cases h
    | ok new' =>
      rw [hrest] at h
      cases h
      obtain ⟨hnodes, hall, hsum⟩ := ih (fun n hn => known n (mem_cons_of_mem _ hn)) hrest
      refine ⟨by rw [map_cons, hnodes], ?_, ?_⟩
      · rintro e he
        rcases mem_cons.mp he with rfl | he
        · refine ⟨⟨⟨ns, hns, not_lt.mp hcpu, not_lt.mp hhp⟩, rfl⟩, ?_⟩
          dsimp only
          split at hcores <;> omega
        · obtain ⟨hosted, hbase⟩ := hall e he
          exact ⟨hosted, by omega⟩
      · rw [map_cons, sum_cons, hsum, length_cons, Nat.cast_add, Nat.cast_one, Int.mul_add]
        dsimp only
        split at hcores <;> omega

/-! ### The sizing -/

/-- One step of the search. -/
def scanLayout (t maxCores : Int) (headroom : List Int) (hp : Option (List Int)) (f : Option (Int → Int → Int)) (n : Int) :
    Option (Int × Int) :=
  let c := max 1 (ceilDiv t n)
  if topNMin headroom n maxCores < c then none
  else if f.any fun f => nodesFitting headroom hp c (f n c) maxCores < n then none
  else some (n, c)

/-- How the size came about. -/
inductive Sized (specCount specCores t floor maxCores : Int) (headroom : List Int) (hp : Option (List Int))
    (f : Option (Int → Int → Int)) : Int → Int → Prop where
  | byCount {cores} (given : specCount ≠ 0) (nodes : specCount ≤ headroom.length)
      (hcores : cores = if specCores = 0 then max 1 (ceilDiv t specCount) else specCores)
      (check : hugepagesFitCheck headroom hp specCount cores maxCores f = "") (supplied : t ≤ specCount * cores) :
      Sized specCount specCores t floor maxCores headroom hp f specCount cores
  | byCores {count} (free : specCount = 0) (pos : 0 < specCores) (hcount : count = max floor (ceilDiv t specCores))
      (nodes : count ≤ headroom.length) (cap : 0 < topNMin headroom count maxCores)
      (check : hugepagesFitCheck headroom hp count specCores maxCores f = "") :
      Sized specCount specCores t floor maxCores headroom hp f count specCores
  | scanned {count cores} (free : specCount = 0) (unset : specCores = 0)
      (found : (intRange (max floor 1) headroom.length).findSome? (scanLayout t maxCores headroom hp f) = some (count, cores)) :
      Sized specCount specCores t floor maxCores headroom hp f count cores

section Sizing
variable {specCount specCores t floor maxCores : Int} {headroom : List Int} {hp : Option (List Int)}
  {f : Option (Int → Int → Int)} {count cores : Int}

theorem deriveComputeLayout_sized
    (h : deriveComputeLayout specCount specCores t floor maxCores headroom hp f = .ok (count, cores)) :
    Sized specCount specCores t floor maxCores headroom hp f count cores := by
  unfold deriveComputeLayout at h
  dsimp only at h
  split at h
  · rename_i given
    generalize hcores : (if specCores = 0 then max 1 (ceilDiv t specCount) else specCores) = c at h
    obtain ⟨nodes, h⟩ := ite_error_eq_ok.mp h
    obtain ⟨-, h⟩ := ite_error_eq_ok.mp h
    obtain ⟨check, h⟩ := ite_error_eq_ok.mp h
    obtain ⟨supplied, h⟩ := ite_error_eq_ok.mp h
    cases h
    exact .byCount given (not_lt.mp nodes) hcores.symm (not_not.mp check) (not_lt.mp supplied)
  rename_i free
  split at h
  · obtain ⟨pos, h⟩ := ite_error_eq_ok.mp h
    obtain ⟨nodes, h⟩ := ite_error_eq_ok.mp h
    obtain ⟨cap, h⟩ := ite_error_eq_ok.mp h
    obtain ⟨-, h⟩ := ite_error_eq_ok.mp h
    obtain ⟨check, h⟩ := ite_error_eq_ok.mp h
    cases h
    exact .byCores (not_not.mp free) (not_le.mp pos) rfl (not_lt.mp nodes) (not_le.mp cap) (not_not.mp check)
  · rename_i unset
    split at h
    · rename_i layout hfound
      cases h
      exact .scanned (not_not.mp free) (not_not.mp unset) hfound
    · obtain ⟨-, h⟩ := ite_error_eq_ok.mp h
      cases f with
      | none => cases h
      | some f =>
        obtain ⟨-, h⟩ := ite_error_eq_ok.mp h
        obtain ⟨-, h⟩ := ite_error_eq_ok.mp h
        obtain ⟨-, h⟩ := ite_error_eq_ok.mp h
        cases h

theorem scanLayout_eq_some {n : Int} (h : scanLayout t maxCores headroom hp f n = some (count, cores)) :
    count = n ∧ cores = max 1 (ceilDiv t n) ∧ ∀ g, f = some g → n ≤ nodesFitting headroom hp cores (g n cores) maxCores := by
  unfold scanLayout at h
  dsimp only at h
  split at h
  · cases h
  split at h
  · cases h
  · rename_i hfits
    cases h
    refine ⟨rfl, rfl, ?_⟩
    rintro g rfl
    simpa using hfits

theorem le_mul_of_ceilDiv_le {n c : Int} (hn : 0 < n) (hc : ceilDiv t n ≤ c) : t ≤ n * c := by
  rw [Int.mul_comm]
  exact (le_ceilDiv_mul t hn).trans (Int.mul_le_mul_of_nonneg_right hc hn.le)

theorem deriveComputeLayout_ok (hcount : 0 ≤ specCount) (ht : 0 ≤ t)
    (h : deriveComputeLayout specCount specCores t floor maxCores headroom hp f = .ok (count, cores)) :
    0 < cores ∧ t ≤ count * cores := by
  cases deriveComputeLayout_sized h with
  | byCount given _ hcores _ supplied =>
    refine ⟨?_, supplied⟩
    by_contra hneg
    split at hcores
    · omega
    · have : specCount * cores < 0 := Int.mul_neg_of_pos_of_neg (by omega) (by omega)
      omega
  | byCores _ pos hcount _ _ _ =>
    refine ⟨pos, ?_⟩
    rw [Int.mul_comm]
    exact le_mul_of_ceilDiv_le pos (hcount ▸ le_max_right _ _)
  | scanned _ _ found =>
    obtain ⟨n, hn, hlayout⟩ := exists_of_findSome?_eq_some found
    have hn := (mem_intRange.mp hn).1
    obtain ⟨rfl, rfl, -⟩ := scanLayout_eq_some hlayout
    exact ⟨by omega, le_mul_of_ceilDiv_le (by omega) (le_max_right _ _)⟩

end Sizing

/-! ### The layout -/

namespace ComputeInput
variable {i : ComputeInput} {count cores : Int} {new : List ComputeContainerSpec}

theorem eligible_nodup : i.eligible.Nodup := by
  refine (perm_insertionSort _ _).nodup_iff.mpr ?_
  exact (filter_sublist.map _).nodup i.nodes.keys_nodup

theorem mem_eligible (h : n ∈ i.eligible) : i.nodes.lookup n = some true ∧ (i.states.lookup n).isSome := by
  rw [eligible, mem_insertionSort, mem_map] at h
  obtain ⟨e, he, rfl⟩ := h
  obtain ⟨hmem, hcond⟩ := mem_filter.mp he
  rw [Bool.and_eq_true] at hcond
  exact ⟨by rw [mem_entries_iff.mp hmem, hcond.1], hcond.2⟩

theorem extended_bounds (h : i.Placed count cores new) :
    i.needed count cores ≤ i.extended count cores ∧ i.extended count cores ≤ (i.fitNodes count cores).length := by
  have hfits := h.fits
  have := extendSpan_bounds i.scheme.minFdNum i.fdOf ((i.fitNodes count cores).drop (i.needed count cores).toNat)
    ((i.pinned count cores).map i.fdOf ++ ((i.fitNodes count cores).take (i.needed count cores).toNat).map i.fdOf)
    (i.needed count cores).toNat
  rw [length_drop] at this
  unfold extended
  dsimp only
  omega

theorem newNodes_length (h : i.Placed count cores new) : (i.newNodes count cores).length = i.extended count cores := by
  rw [newNodes, length_take]
  exact min_eq_left (extended_bounds h).2

theorem pinned_eq (count cores : Int) : i.pinned count cores = (i.existing.filter (onBudget i.states)).map (·.node) :=
  (layOutExistingCompute_nodes fun _ => rfl).1

theorem pinned_sublist (count cores : Int) : (i.pinned count cores).Sublist (computeHosts i.existing) := by
  have hfilter : i.existing.filter (onBudget i.states) =
      (i.existing.filter (·.node ≠ "")).filter fun ec => (i.states.lookup ec.node).isSome := by
    rw [filter_filter]
    congr 1
    funext ec
    simp [onBudget, Bool.and_comm]
  rw [pinned_eq, hfilter]
  exact filter_sublist.map _

theorem mem_newNodes (h : n ∈ i.newNodes count cores) : n ∉ computeHosts i.existing ∧ n ∈ i.eligible ∧
    (i.laidOut count cores).2.lookup n = i.states.lookup n := by
  obtain ⟨helig, hpin, -⟩ := mem_orderFitNodesByFreshFD (take_subset _ _ h)
  have hfree : n ∉ computeHosts i.existing := by
    intro hn
    obtain ⟨hne, ec, hec, rfl⟩ := mem_computeHosts.mp hn
    rw [pinned_eq] at hpin
    exact hpin (mem_map_of_mem (mem_filter.mpr ⟨hec, by simp [onBudget, hne, (mem_eligible helig).2]⟩))
  exact ⟨hfree, helig, (layOutExistingCompute_nodes fun _ => rfl).2 n hfree⟩

theorem added_spec (h : i.Placed count cores new) :
    new.map (·.node) = i.newNodes count cores ∧
      (∀ e ∈ new, Hosted (i.hugepagesFor (i.total count cores)) i.cons i.states e ∧
        (e.numCores = (i.splitCores count cores).tdiv (i.extended count cores) ∨
          (e.numCores = (i.splitCores count cores).tdiv (i.extended count cores) + 1 ∧
            0 < (i.splitCores count cores).tmod (i.extended count cores)))) ∧
      (new.map (·.numCores)).sum = (i.splitCores count cores).tdiv (i.extended count cores) * i.extended count cores +
        max 0 (min ((i.splitCores count cores).tmod (i.extended count cores)) (i.extended count cores)) := by
  have known : ∀ n ∈ i.newNodes count cores, ((i.laidOut count cores).2.lookup n).isSome := by
    intro n hn
    obtain ⟨-, helig, hlook⟩ := mem_newNodes hn
    rw [hlook]
    exact (mem_eligible helig).2
  obtain ⟨hnodes, hall, hsum⟩ := newComputeContainers_ok known h.added
  rw [newNodes_length h, sub_zero] at hsum
  refine ⟨hnodes, fun e he => ?_, hsum⟩
  obtain ⟨⟨⟨ns, hns, hroom⟩, hhp⟩, hcores⟩ := hall e he
  have hmem : e.node ∈ i.newNodes count cores := hnodes ▸ mem_map_of_mem he
  rw [(mem_newNodes hmem).2.2] at hns
  exact ⟨⟨⟨ns, hns, hroom⟩, hhp⟩, hcores⟩

theorem kept_nodes (count cores : Int) : (i.kept count cores).map (·.node) = i.pinned count cores := by
  unfold kept pinned
  rw [map_map]
  refine map_congr_left fun lo _ => ?_
  rw [Function.comp_apply]
  split <;> rfl

theorem kept_cores (count cores : Int) :
    (i.kept count cores).map (·.numCores) = (i.laidOut count cores).1.map (·.spec.numCores) := by
  unfold kept
  rw [map_map]
  refine map_congr_left fun lo _ => ?_
  rw [Function.comp_apply]
  split <;> rfl

theorem layout_perm (count cores : Int) (new : List ComputeContainerSpec) :
    (i.layout count cores new).Perm (i.kept count cores ++ new) :=
  perm_insertionSort _ _

theorem layout_nodes (h : i.Placed count cores new) : ((i.layout count cores new).map (·.node)).Perm
    (i.pinned count cores ++ i.newNodes count cores) := by
  rw [← kept_nodes, ← (added_spec h).1, ← map_append]
  exact (layout_perm count cores new).map _

theorem layout_nodup (hosts : (computeHosts i.existing).Nodup) (h : i.Placed count cores new) : ((i.layout count cores new).map (·.node)).Nodup := by
  rw [(layout_nodes h).nodup_iff, nodup_append']
  refine ⟨(pinned_sublist count cores).nodup hosts, ?_, fun n hpin hnew => ?_⟩
  · exact (take_sublist _ _).nodup (orderFitNodesByFreshFD_perm.nodup_iff.mpr (eligible_nodup.filter _))
  · exact (mem_newNodes hnew).1 ((pinned_sublist count cores).subset hpin)

theorem layout_fds (h : i.Placed count cores new) :
    i.scheme.minFdNum ≤ (((i.layout count cores new).map (·.node)).map i.fdOf).dedup.length := by
  rw [((layout_nodes h).map i.fdOf).dedup.length_eq, map_append]
  exact h.spans

variable {e : ComputeContainerSpec}

theorem mem_layout (h : i.Placed count cores new) (he : e ∈ i.layout count cores new) :
    (e ∈ i.kept count cores ∧ e.node ∈ computeHosts i.existing) ∨ (e ∈ new ∧ e.node ∉ computeHosts i.existing) := by
  rcases mem_append.mp ((layout_perm count cores new).mem_iff.mp he) with he | he
  · refine Or.inl ⟨he, (pinned_sublist count cores).subset ?_⟩
    rw [← kept_nodes]
    exact mem_map_of_mem he
  · have hmem : e.node ∈ i.newNodes count cores := (added_spec h).1 ▸ mem_map_of_mem he
    exact Or.inr ⟨he, (mem_newNodes hmem).1⟩

theorem le_splitCores (count cores : Int) : (i.extended count cores : Int) ≤ i.splitCores count cores := le_max_right _ _

theorem new_cores_pos (h : i.Placed count cores new) (he : e ∈ new) : 1 ≤ e.numCores := by
  obtain ⟨hnodes, hall, -⟩ := added_spec h
  obtain ⟨-, hsize⟩ := hall e he
  have hn : 0 < (i.extended count cores : Int) := by
    rw [← newNodes_length h, ← hnodes, length_map]
    exact_mod_cast length_pos_of_mem he
  have hlow := i.le_splitCores count cores
  rw [Int.tdiv_eq_ediv_of_nonneg (by omega)] at hsize
  have hbase : 1 ≤ i.splitCores count cores / (i.extended count cores : Int) := (Int.le_ediv_iff_mul_le hn).mpr (by omega)
  rcases hsize with hsize | ⟨hsize, -⟩ <;> omega

section
variable (pinnedCount : 0 ≤ i.desired.computeContainers) (hrequired : 0 ≤ i.required)
variable (h : i.Placed count cores new)
include pinnedCount hrequired h

theorem sizing_ok : 0 < cores ∧ i.required ≤ count * cores :=
  deriveComputeLayout_ok pinnedCount hrequired h.sized

theorem shortfall_le : i.shortfall count cores ≤ i.extended count cores * cores := by
  obtain ⟨hcores, -⟩ := sizing_ok pinnedCount hrequired h
  obtain ⟨hneeded, -⟩ := extended_bounds h
  unfold needed at hneeded
  split at hneeded
  · exact (le_ceilDiv_mul _ hcores).trans (Int.mul_le_mul_of_nonneg_right hneeded hcores.le)
  · have : 0 ≤ (i.extended count cores : Int) * cores := Int.mul_nonneg (Int.natCast_nonneg _) hcores.le
    omega

theorem new_cores (he : e ∈ new) : 1 ≤ e.numCores ∧ e.numCores ≤ cores := by
  obtain ⟨hcores, -⟩ := sizing_ok pinnedCount hrequired h
  obtain ⟨hnodes, hall, -⟩ := added_spec h
  obtain ⟨-, hsize⟩ := hall e he
  refine ⟨new_cores_pos h he, ?_⟩
  have hn : 0 < (i.extended count cores : Int) := by
    rw [← newNodes_length h, ← hnodes, length_map]
    exact_mod_cast length_pos_of_mem he
  have hlow := i.le_splitCores count cores
  have hhigh : i.splitCores count cores ≤ i.extended count cores * cores :=
    max_le (shortfall_le pinnedCount hrequired h) (le_mul_of_one_le_right hn.le hcores)
  generalize (i.extended count cores : Int) = n, i.splitCores count cores = s at hn hlow hhigh hsize
  rw [Int.tdiv_eq_ediv_of_nonneg (by omega), Int.tmod_eq_emod_of_nonneg (by omega)] at hsize
  have htop : s / n ≤ cores := Int.ediv_le_of_le_mul hn (by rwa [Int.mul_comm])
  rcases hsize with hsize | ⟨hsize, hrem⟩
  · omega
  · -- With a remainder the base is below the cores of the sizing.
    have hlt : s / n < cores := by
      refine lt_of_le_of_ne htop fun e => ?_
      have := Int.mul_ediv_add_emod s n
      rw [e] at this
      omega
    omega

theorem new_sum : i.shortfall count cores ≤ (new.map (·.numCores)).sum := by
  obtain ⟨-, -, hsum⟩ := added_spec h
  have hshort := shortfall_le pinnedCount hrequired h
  have hsplit : i.shortfall count cores ≤ i.splitCores count cores := le_max_left _ _
  have hlow := i.le_splitCores count cores
  rw [hsum]
  generalize hn : (i.extended count cores : Int) = n, i.splitCores count cores = s at hshort hsplit hlow
  have hnonneg : 0 ≤ n := hn ▸ Int.natCast_nonneg _
  rcases hnonneg.eq_or_lt with rfl | hpos
  · simp only [zero_mul] at hshort
    simp only [mul_zero]
    omega
  · rw [Int.tdiv_eq_ediv_of_nonneg (by omega), Int.tmod_eq_emod_of_nonneg (by omega), Int.mul_comm]
    have := Int.mul_ediv_add_emod s n
    have := Int.emod_nonneg s hpos.ne'
    have := Int.emod_lt_of_pos s hpos
    omega

theorem layout_cores :
    i.required ≤ ((i.layout count cores new).map (·.numCores)).sum := by
  obtain ⟨-, hrequired'⟩ := sizing_ok pinnedCount hrequired h
  have hnew := new_sum pinnedCount hrequired h
  rw [((layout_perm count cores new).map _).sum_eq, map_append, sum_append, kept_cores]
  unfold shortfall at hnew
  omega

end
end ComputeInput
end WekaOperator.Planner
