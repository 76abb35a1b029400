import WekaOperator.Planner.ComputeLayout

/-! The uniform compute layout on its own (`compute_layout.go`): a layout that is found fits on the nodes, and the
    scan finds the one with the fewest containers. -/

namespace WekaOperator.Planner
open List Lib

/-- A layout of the compute containers: at least one core on each, as many containers as the floor asks for and no more
    than nodes, the required cores, the core limit, and for each container a node with headroom and hugepages for it. -/
structure Fitting (t floor maxCores : Int) (headroom hugepages : List Int) (f : Int → Int → Int) (count cores : Int) : Prop where
  one_le_count : 1 ≤ count
  one_le_cores : 1 ≤ cores
  floor_le : floor ≤ count
  le_nodes : count ≤ headroom.length
  supplies : t ≤ count * cores
  limit : 0 < maxCores → cores ≤ maxCores
  nodes : count ≤ (headroom.zip hugepages).countP fun node => cores ≤ node.1 ∧ f count cores ≤ node.2

/-! ### Nodes -/

section Nodes
variable {headroom hugepages : List Int} {cores hpMiB maxCores n : Int}

theorem nodesFitting_eq (hlen : headroom.length = hugepages.length) :
    nodesFitting headroom (some hugepages) cores hpMiB maxCores =
      (headroom.zip hugepages).countP fun node => (cores ≤ node.1 ∧ (0 < maxCores → cores ≤ maxCores)) ∧ hpMiB ≤ node.2 := by
  -- The nodes before the rest are `seen`; the index into the hugepages goes on from them.
  have rest : ∀ (headroom hugepages seen : List Int), headroom.length = hugepages.length →
      ((headroom.zipIdx seen.length).filter fun e =>
        (cores ≤ if maxCores > 0 ∧ maxCores < e.1 then maxCores else e.1) ∧ ((seen ++ hugepages)[e.2]?).all (hpMiB ≤ ·)).length =
      (headroom.zip hugepages).countP fun node => (cores ≤ node.1 ∧ (0 < maxCores → cores ≤ maxCores)) ∧ hpMiB ≤ node.2 := by
    intro headroom
    induction headroom with
    | nil => exact fun _ _ _ => rfl
    | cons h headroom ih =>
      intro hugepages seen hlen
      cases hugepages with
      | nil => cases hlen
      | cons p hugepages =>
        have := ih hugepages (seen ++ [p]) (Nat.succ.inj hlen)
        rw [length_append, length_singleton, append_assoc, singleton_append] at this
        have heff : (cores ≤ if maxCores > 0 ∧ maxCores < h then maxCores else h) ↔
            cores ≤ h ∧ (0 < maxCores → cores ≤ maxCores) := by
          split <;> omega
        rw [zipIdx_cons, zip_cons_cons, countP_cons, ← this, ← countP_eq_length_filter,
          countP_cons, ← countP_eq_length_filter]
        simp [heff]
  exact rest headroom hugepages [] hlen

theorem le_getD_of_le_countP {l : List Int} (sorted : l.Pairwise (· ≥ ·)) {k : Nat} {c : Int}
    (h : k < l.countP (c ≤ ·)) : c ≤ (l[k]?).getD 0 := by
  induction l generalizing k with
  | nil => cases h
  | cons x l ih =>
    obtain ⟨most, sorted⟩ := pairwise_cons.mp sorted
    rw [countP_cons] at h
    cases k with
    | zero =>
      by_contra hx
      have hnone : l.countP (c ≤ ·) = 0 := countP_eq_zero.mpr fun y hy hc => hx ((of_decide_eq_true hc).trans (most y hy))
      rw [hnone, if_neg (by simpa using hx)] at h
      omega
    | succ k =>
      refine ih sorted ?_
      split at h <;> omega

theorem le_topNMin (hn : 1 ≤ n) (limit : 0 < maxCores → cores ≤ maxCores) (h : n ≤ headroom.countP (cores ≤ ·)) :
    cores ≤ topNMin headroom n maxCores := by
  have hle := countP_le_length (p := fun h : Int => decide (cores ≤ h)) (l := headroom)
  have hcap : cores ≤ ((headroom.insertionSort (· ≥ ·))[(n - 1).toNat]?).getD 0 := by
    refine le_getD_of_le_countP (pairwise_insertionSort _ _) ?_
    rw [(perm_insertionSort _ _).countP_eq]
    omega
  unfold topNMin
  rw [if_neg (by omega)]
  dsimp only
  split
  · exact limit (by omega)
  · exact hcap

theorem hugepagesFitCheck_eq_empty {f : Int → Int → Int} {hp : Option (List Int)} {count : Int}
    (h : hugepagesFitCheck headroom hp count cores maxCores (some f) = "") :
    count ≤ nodesFitting headroom hp cores (f count cores) maxCores := by
  unfold hugepagesFitCheck at h
  dsimp only at h
  split at h
  · assumption
  · simp [String.append_eq_empty_iff] at h

end Nodes

/-! ### The layout -/

section Layout
variable {specCount specCores t floor maxCores : Int} {headroom hugepages : List Int} {f : Int → Int → Int}
  {count cores n c : Int}

theorem Fitting.of_nodes (hlen : headroom.length = hugepages.length) (hcount : 1 ≤ count) (hcores : 1 ≤ cores)
    (hfloor : floor ≤ count) (hnodes : count ≤ headroom.length) (hsupplied : t ≤ count * cores)
    (h : count ≤ nodesFitting headroom (some hugepages) cores (f count cores) maxCores) :
    Fitting t floor maxCores headroom hugepages f count cores := by
  rw [nodesFitting_eq hlen] at h
  refine ⟨hcount, hcores, hfloor, hnodes, hsupplied, ?_, h.trans (Int.ofNat_le.mpr (countP_mono_left fun node _ hnode => ?_))⟩
  · have hpos := (show 0 < count by omega).trans_le h
    obtain ⟨node, -, hnode⟩ := countP_pos_iff.mp (Int.natCast_pos.mp hpos)
    exact (of_decide_eq_true hnode).1.2
  · obtain ⟨⟨hcpu, -⟩, hhp⟩ := of_decide_eq_true hnode
    exact decide_eq_true ⟨hcpu, hhp⟩

theorem Fitting.scanned (hlen : headroom.length = hugepages.length) (mono : ∀ n c c', c ≤ c' → f n c ≤ f n c')
    (h : Fitting t floor maxCores headroom hugepages f n c) :
    ∃ cores, scanLayout t maxCores headroom (some hugepages) (some f) n = some (n, cores) := by
  have hn := h.one_le_count
  have hc := h.one_le_cores
  -- The scan asks for no more cores than the layout has.
  have hfewest : max 1 (ceilDiv t n) ≤ c :=
    max_le hc (ceilDiv_le (by omega) (by omega) ((Int.mul_comm n c) ▸ h.supplies))
  have hlimit : 0 < maxCores → max 1 (ceilDiv t n) ≤ maxCores := fun pos => hfewest.trans (h.limit pos)
  have hcpu : n ≤ headroom.countP (max 1 (ceilDiv t n) ≤ ·) := by
    have hfst : (headroom.zip hugepages).map Prod.fst = headroom := map_fst_zip hlen.le
    rw [← hfst, countP_map]
    refine h.nodes.trans (Int.ofNat_le.mpr (countP_mono_left fun node _ hnode => ?_))
    exact decide_eq_true (hfewest.trans (of_decide_eq_true hnode).1)
  have hfits : n ≤ nodesFitting headroom (some hugepages) (max 1 (ceilDiv t n)) (f n (max 1 (ceilDiv t n))) maxCores := by
    rw [nodesFitting_eq hlen]
    refine h.nodes.trans (Int.ofNat_le.mpr (countP_mono_left fun node _ hnode => ?_))
    obtain ⟨hhead, hhp⟩ := of_decide_eq_true hnode
    exact decide_eq_true ⟨⟨hfewest.trans hhead, hlimit⟩, (mono n _ _ hfewest).trans hhp⟩
  refine ⟨max 1 (ceilDiv t n), ?_⟩
  unfold scanLayout
  rw [if_neg (not_lt.mpr (le_topNMin hn hlimit hcpu)), if_neg]
  simpa using hfits

theorem scan_least (h : (intRange (max floor 1) headroom.length).findSome? (scanLayout t maxCores headroom (some hugepages) (some f)) =
      some (count, cores))
    (hn : max floor 1 ≤ n ∧ n ≤ headroom.length) (hscan : scanLayout t maxCores headroom (some hugepages) (some f) n ≠ none) :
    count ≤ n := by
  have sorted : (intRange (max floor 1) headroom.length).Pairwise (· < ·) := by
    refine pairwise_map.mpr (pairwise_lt_range.imp fun hlt => ?_)
    omega
  obtain ⟨before, m, after, hsplit, hfound, hbefore⟩ := List.findSome?_eq_some_iff.mp h
  obtain ⟨rfl, -⟩ := scanLayout_eq_some hfound
  have hmem := mem_intRange.mpr hn
  rw [hsplit] at hmem sorted
  rcases mem_append.mp hmem with hmem | hmem
  · exact absurd (hbefore n hmem) hscan
  rcases mem_cons.mp hmem with rfl | hmem
  · exact le_refl _
  · exact ((pairwise_cons.mp (pairwise_append.mp sorted).2.1).1 n hmem).le

/-- A layout is found only if it fits. Where neither count nor cores are given it has the fewest containers of all that
    fit, and one is found if any fits. -/
theorem deriveComputeLayout_least (hlen : headroom.length = hugepages.length) (mono : ∀ n c c', c ≤ c' → f n c ≤ f n c')
    (hspecCores : 0 ≤ specCores) (hspecCount : specCount = 0 ∨ floor ≤ specCount ∧ 0 < specCount) :
    (∀ count cores, deriveComputeLayout specCount specCores t floor maxCores headroom (some hugepages) (some f) =
        .ok (count, cores) → Fitting t floor maxCores headroom hugepages f count cores) ∧
      (specCount = 0 → specCores = 0 → ∀ n c, Fitting t floor maxCores headroom hugepages f n c →
        ∃ count cores, deriveComputeLayout specCount specCores t floor maxCores headroom (some hugepages) (some f) =
          .ok (count, cores) ∧ count ≤ n) := by
  constructor
  · intro count cores h
    cases deriveComputeLayout_sized h with
    | byCount given nodes hcores check supplied =>
      have : 1 ≤ cores := by
        rw [hcores]
        split <;> omega
      exact .of_nodes hlen (by omega) this (by omega) nodes supplied (hugepagesFitCheck_eq_empty check)
    | byCores free pos hcount nodes cap check =>
      have hpos : 1 ≤ count := by
        by_contra hneg
        rw [topNMin, if_pos (by omega)] at cap
        exact lt_irrefl _ cap
      refine .of_nodes hlen hpos pos (by omega) nodes ?_ (hugepagesFitCheck_eq_empty check)
      rw [Int.mul_comm]
      exact le_mul_of_ceilDiv_le pos (by omega)
    | scanned free unset found =>
      obtain ⟨n, hn, hlayout⟩ := exists_of_findSome?_eq_some found
      obtain ⟨hfloor, hnodes⟩ := mem_intRange.mp hn
      obtain ⟨rfl, rfl, hfits⟩ := scanLayout_eq_some hlayout
      exact .of_nodes hlen (by omega) (le_max_left _ _) (by omega) hnodes
        (le_mul_of_ceilDiv_le (by omega) (le_max_right _ _)) (hfits f rfl)
  · rintro rfl rfl n c hfit
    obtain ⟨cores, hscan⟩ := hfit.scanned hlen mono
    have hn : max floor 1 ≤ n ∧ n ≤ headroom.length := ⟨max_le hfit.floor_le hfit.one_le_count, hfit.le_nodes⟩
    have hsome : ((intRange (max floor 1) headroom.length).findSome?
        (scanLayout t maxCores headroom (some hugepages) (some f))).isSome := by
      rw [List.findSome?_isSome_iff]
      exact ⟨n, mem_intRange.mpr hn, by rw [hscan]; rfl⟩
    obtain ⟨⟨count, cores'⟩, hfound⟩ := Option.isSome_iff_exists.mp hsome
    refine ⟨count, cores', ?_, scan_least hfound hn (by rw [hscan]; nofun)⟩
    unfold deriveComputeLayout
    dsimp only
    rw [if_neg (not_not.mpr rfl), if_neg (not_not.mpr rfl)]
    split
    · rename_i layout hlayout
      have hsame : some layout = some (count, cores') := hlayout.symm.trans hfound
      cases hsame
      rfl
    · rename_i hnone
      cases hnone.symm.trans hfound

end Layout

theorem deriveComputeLayout_least_twoNodes :
    ∃ count cores, deriveComputeLayout 0 0 4 1 0 [3, 2] (some [6000, 6000]) (some fun _ c => 3000 * c) = .ok (count, cores) ∧
      count ≤ 2 := by
  have two : Fitting 4 1 0 [3, 2] [6000, 6000] (fun _ c => 3000 * c) 2 2 :=
    ⟨by decide, by decide, by decide, by decide, by decide, by decide, by decide⟩
  have lengths : ([3, 2] : List Int).length = ([6000, 6000] : List Int).length := rfl
  exact (deriveComputeLayout_least lengths (fun _ _ _ h => by omega) (le_refl 0) (.inl rfl)).2 rfl rfl 2 2 two

/-- No cores are required, and one container of no cores would fit; the scan asks for one core of each container and
    takes two of them. A negative count above the floor is taken as it is, with more cores than the limit. -/
theorem deriveComputeLayout_twoForNoCores :
    let f := fun n c : Int => 1000 * c / n
    (deriveComputeLayout 0 0 0 1 0 [3, 3] (some [600, 600]) (some f) = .ok (2, 1) ∧
      (0 : Int) ≤ 1 * 0 ∧ 1 ≤ (([3, 3] : List Int).zip [600, 600]).countP fun node => 0 ≤ node.1 ∧ f 1 0 ≤ node.2) ∧
    deriveComputeLayout (-1) 3 (-4) (-2) 2 [3, 3] (some [600, 600]) (some f) = .ok (-1, 3) :=
  ⟨⟨rfl, by decide, by decide⟩, rfl⟩

/-! ### The diagnosis -/

/-- The cores with one container a node. -/
def coresAtAll (t : Int) (headroom : List Int) : Int := max 1 (ceilDiv t headroom.length)

section Diagnosis
variable (t floor maxCores : Int) (headroom : List Int) (hp : Option (List Int)) (f : Int → Int → Int)

/-- The search starts above the number of nodes, or finds some of the nodes short of hugepages and no smaller layout. -/
def PassedOver : Prop :=
  headroom.length < floor ∨
    nodesFitting headroom hp (coresAtAll t headroom) (f headroom.length (coresAtAll t headroom)) maxCores < headroom.length ∧
      ∀ n ∈ intRange (max floor 1) (headroom.length - 1), scanLayout t maxCores headroom hp (some f) n = none

/-- Cores and hugepages fit with one container on every node, and still the search accepts no layout. -/
structure Undiagnosed : Prop where
  nodes : 0 < headroom.length
  cores : coresAtAll t headroom ≤ topNMin headroom headroom.length maxCores
  hugepages : hp.isSome → headroom.length ≤ hugepagesFitAlone headroom hp (f headroom.length (coresAtAll t headroom))
  passedOver : PassedOver t floor maxCores headroom hp f

variable {t floor maxCores headroom hp f}

/-- Where the cores fit on all nodes, the search fails exactly if it passes that layout over. -/
theorem scan_fails_iff (nodes : 0 < headroom.length)
    (fit : coresAtAll t headroom ≤ topNMin headroom headroom.length maxCores) :
    (intRange (max floor 1) headroom.length).findSome? (scanLayout t maxCores headroom hp (some f)) = none ↔
      PassedOver t floor maxCores headroom hp f := by
  have last : scanLayout t maxCores headroom hp (some f) headroom.length = none ↔ nodesFitting headroom hp
      (coresAtAll t headroom) (f headroom.length (coresAtAll t headroom)) maxCores < headroom.length := by
    unfold coresAtAll at fit
    simp [scanLayout, not_lt.mpr fit, coresAtAll]
  rw [findSome?_eq_none_iff, PassedOver, ← last]
  simp only [mem_intRange]
  constructor
  · intro none
    by_cases low : (headroom.length : Int) < floor
    · exact .inl low
    · exact .inr ⟨none _ ⟨by omega, le_rfl⟩, fun n hn => none n ⟨hn.1, by omega⟩⟩
  · rintro (low | ⟨atAll, less⟩) n ⟨hlo, hhi⟩
    · omega
    · rcases hhi.eq_or_lt with rfl | hlt
      · exact atAll
      · exact less n ⟨hlo, by omega⟩

end Diagnosis

theorem layout_diagnosed_iff (specCount specCores t floor maxCores : Int) (headroom : List Int) (hp : Option (List Int))
    (f : Option (Int → Int → Int)) :
    (∀ reason, deriveComputeLayout specCount specCores t floor maxCores headroom hp f = .error (reason, "") →
      specCount ≠ 0) ↔
    ¬(specCount = 0 ∧ specCores = 0 ∧ ∃ g, f = some g ∧ Undiagnosed t floor maxCores headroom hp g) := by
  by_cases free : specCount = 0
  swap
  · simp [free]
  subst free
  by_cases unset : specCores = 0
  swap
  · simp only [unset, false_and, and_false, not_false_iff, iff_true]
    intro reason h
    unfold deriveComputeLayout at h
    simp only [ne_eq, not_true_eq_false, if_false, unset, not_false_eq_true, if_true] at h
    repeat' split at h
    all_goals simp at h
  subst unset
  simp only [ne_eq, not_true_eq_false, imp_false, true_and]
  unfold deriveComputeLayout
  simp only [ne_eq, not_true_eq_false, if_false]
  split
  · rename_i layout found
    refine ⟨fun _ => ?_, fun _ _ h => by cases h⟩
    rintro ⟨g, rfl, nodes, cores, -, passed⟩
    cases ((scan_fails_iff nodes cores).mpr passed).symm.trans found
  · rename_i failed
    cases f with
    | none =>
      simp only [reduceCtorEq, false_and, exists_false, not_false_iff, iff_true]
      intro reason h
      split at h <;> simp at h
    | some g =>
      have alone : (headroom.length : Int) ≤ (if hp.isSome then (hugepagesFitAlone headroom hp
          (if hp.isSome then g headroom.length (coresAtAll t headroom) else 0) : Int) else headroom.length) ↔
          (hp.isSome → headroom.length ≤ hugepagesFitAlone headroom hp (g headroom.length (coresAtAll t headroom))) := by
        cases hp <;> simp
      dsimp only
      rw [show max 1 (ceilDiv t headroom.length) = coresAtAll t headroom from rfl]
      generalize (if hp.isSome then g headroom.length (coresAtAll t headroom) else 0) = atAll at alone ⊢
      generalize (if hp.isSome then (hugepagesFitAlone headroom hp atAll : Int) else headroom.length) = fitting at alone ⊢
      constructor
      · rintro never ⟨_, same, nodes, cores, hugepages, -⟩
        cases same
        have positive : 1 ≤ coresAtAll t headroom := le_max_left _ _
        rw [if_neg (by omega), if_neg fun h => h.1 cores, if_neg (not_not.mpr cores),
          if_neg (not_not.mpr (alone.mpr hugepages))] at never
        exact never _ rfl
      · intro diagnosed reason h
        split at h
        · simp at h
        rename_i room
        have nodes : 0 < headroom.length := by omega
        repeat' split at h
        all_goals simp only [Except.error.injEq, Prod.mk.injEq, String.reduceEq, and_false] at h
        rename_i cores hugepages
        rw [not_not] at cores hugepages
        exact diagnosed ⟨g, rfl, nodes, cores, alone.mp hugepages, (scan_fails_iff nodes cores).mp failed⟩

theorem layout_undiagnosed : (deriveComputeLayout 0 0 3 5 0 [4, 4, 4] (some [9000, 9000, 9000]) (some fun _ _ => 3000)) =
    .error ("cannot satisfy the compute:drive ratio: need 1 compute containers but only 3 compute nodes (max 12 compute cores < the 3 required compute core(s)) [unexpected: cores and hugepages both fit at n=3]", "") := by
  decide +kernel

end WekaOperator.Planner
