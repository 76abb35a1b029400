import WekaOperator.Ports.Cluster

/-! Whether a cluster without an explicit base port finds a range. -/

namespace WekaOperator.Ports
open List hiding Disjoint
open Bool

theorem Range.disjoint_iff {r q : Range} (hr : 0 < r.size) (hq : 0 < q.size) :
    Disjoint r.ports q.ports ↔ r.stop ≤ q.base ∨ q.stop ≤ r.base := by
  unfold Range.ports Range.stop
  rw [Set.Ico_disjoint_Ico]
  omega

section Search
variable {sorting : Sorting} {startingPort size : Int} {ranges l : List Range}

theorem isClusterRangeAvailable_iff {target : Range} : isClusterRangeAvailable sorting ranges target = true ↔
    (0 ≤ target.base ∧ target.stop ≤ maxPort) ∧ ∀ r ∈ ranges, target.stop ≤ r.base ∨ r.stop ≤ target.base := by
  unfold isClusterRangeAvailable isRangeAvailable Range.stop
  rw [if_false_left, and_eq_true]
  refine and_congr ?_ ?_
  · simp only [not_eq_true', decide_eq_false_iff_not, id_eq]
    omega
  · simp only [not_eq_true', any_eq_false, and_eq_true, decide_eq_true_eq, sorting.mem, id_eq]
    refine forall₂_congr fun r _ => ?_
    omega

theorem scanFreeRange_ok {port : Int} (h : scanFreeRange startingPort size l = .ok port) (hl : l ≠ []) :
    ∃ r ∈ l, port = r.stop := by
  fun_induction scanFreeRange startingPort size l with
  | case1 => exact absurd rfl hl
  | case2 v full => cases h
  | case3 v room =>
    cases h
    exact ⟨v, mem_cons_self, rfl⟩
  | case4 v next rest fits =>
    cases h
    exact ⟨v, mem_cons_self, rfl⟩
  | case5 v next rest tight ih =>
    obtain ⟨r, hr, same⟩ := ih h (cons_ne_nil _ _)
    exact ⟨r, mem_cons_of_mem _ hr, same⟩

theorem scanFreeRange_finds (apart : l.Pairwise (·.stop ≤ ·.base)) (nonempty : ∀ r ∈ l, 0 < r.size)
    (inside : ∀ r ∈ l, r.stop ≤ maxPort) {r : Range} (hr : r ∈ l) (room : r.stop + size ≤ maxPort)
    (free : ∀ q ∈ l, r.stop + size ≤ q.base ∨ q.stop ≤ r.stop) :
    ∃ v ∈ l, scanFreeRange startingPort size l = .ok v.stop ∧ v.stop + size ≤ maxPort ∧
      ∀ q ∈ l, v.stop + size ≤ q.base ∨ q.stop ≤ v.stop := by
  fun_induction scanFreeRange startingPort size l with
  | case1 => cases hr
  | case2 v full =>
    obtain rfl := mem_singleton.mp hr
    have := nonempty r hr
    unfold Range.stop at room
    rw [id_eq] at full
    omega
  | case3 v _ =>
    obtain rfl := mem_singleton.mp hr
    exact ⟨r, hr, rfl, room, free⟩
  | case4 v next rest fits =>
    rw [id_eq] at fits
    obtain ⟨first, others⟩ := pairwise_cons.mp apart
    refine ⟨v, mem_cons_self, rfl, ?_, fun q hq => ?_⟩
    · have := nonempty next (by simp)
      have := inside next (by simp)
      unfold Range.stop at *
      omega
    · rcases mem_cons.mp hq with rfl | hq
      · exact .inr le_rfl
      rcases mem_cons.mp hq with rfl | hq
      · exact .inl fits
      · -- what follows begins even later
        have after := (pairwise_cons.mp others).1 q hq
        have := nonempty next (by simp)
        unfold Range.stop at *
        omega
  | case5 v next rest tight ih =>
    obtain ⟨first, others⟩ := pairwise_cons.mp apart
    have later : r ∈ next :: rest := by
      rcases mem_cons.mp hr with rfl | hr
      · have := first next (by simp)
        have := nonempty next (by simp)
        rcases free next (by simp) with fits | before
        · exact absurd fits tight
        · unfold Range.stop at *
          omega
      · exact hr
    obtain ⟨u, hu, found, fits, clear⟩ := ih others (fun q hq => nonempty q (mem_cons_of_mem _ hq))
      (fun q hq => inside q (mem_cons_of_mem _ hq)) later fun q hq => free q (mem_cons_of_mem _ hq)
    refine ⟨u, mem_cons_of_mem _ hu, found, fits, forall_mem_cons.mpr ⟨.inr ?_, clear⟩⟩
    have := first u hu
    have := nonempty u (mem_cons_of_mem _ hu)
    unfold Range.stop at *
    omega

end Search

/-! ### The range of a new cluster -/

/-- Ranges apart and within the ports. -/
structure RangesWithin (ranges : List Range) : Prop where
  apart : ranges.Pairwise fun r q => Disjoint r.ports q.ports
  inside : ∀ r ∈ ranges, 0 ≤ r.base ∧ 0 < r.size ∧ r.stop ≤ maxPort

/-- A free range exists. -/
def FreeFrom (ranges : List Range) (startingPort size : Int) : Prop :=
  ∃ b, startingPort ≤ b ∧ b + size < maxPort ∧ ∀ r ∈ ranges, Disjoint (Range.ports ⟨b, size⟩) r.ports

/-- One that starts right after a range. -/
def FreeAfterRange (ranges : List Range) (startingPort size : Int) : Prop :=
  (ranges = [] ∧ 0 ≤ startingPort) ∨
    ∃ r ∈ ranges, r.stop + size ≤ maxPort ∧ ∀ q ∈ ranges, Disjoint (Range.ports ⟨r.stop, size⟩) q.ports

section Found
variable {sorting : Sorting} {startingPort : Int} {ranges : List Range} {flags : Option FeatureFlags} {spec status : ClusterPorts}

theorem RangesWithin.sorted (h : RangesWithin ranges) (sorting : Sorting) :
    (sorting.sort ranges).Pairwise (·.stop ≤ ·.base) := by
  have apart : (sorting.sort ranges).Pairwise fun r q => Disjoint r.ports q.ports :=
    ((sorting.perm ranges).pairwise_iff fun h => h.symm).mpr h.apart
  refine .imp_of_mem ?_ (apart.and (sorting.sorted ranges))
  rintro r q hr hq ⟨disjoint, base⟩
  have hr := (h.inside r (sorting.mem.mp hr)).2.1
  have hq := (h.inside q (sorting.mem.mp hq)).2.1
  rcases (Range.disjoint_iff hr hq).mp disjoint with before | after
  · exact before
  · unfold Range.stop at *
    omega

theorem chooseClusterRange_iff (h : RangesWithin ranges) (auto : spec.basePort = 0) (pos : 0 < targetSize spec flags)
    (low : startingPort + targetSize spec flags < maxPort) :
    (∃ range, chooseClusterRange sorting startingPort ranges spec flags = .ok range) ↔
      FreeAfterRange ranges startingPort (targetSize spec flags) := by
  have clear_iff : ∀ b, (∀ q ∈ ranges, Disjoint (Range.ports ⟨b, targetSize spec flags⟩) q.ports) ↔
      ∀ q ∈ ranges, b + targetSize spec flags ≤ q.base ∨ q.stop ≤ b := fun b =>
    forall₂_congr fun q hq => Range.disjoint_iff pos (h.inside q hq).2.1
  have scan : ∀ result, scanFreeRange startingPort (targetSize spec flags) (sorting.sort ranges) = result →
      getFreeClusterRange sorting startingPort ranges
        (if spec.portRange = 0 then getClusterPortRangeFromFlags flags else spec.portRange) = result := fun _ => id
  have chosen : ∀ {port}, scanFreeRange startingPort (targetSize spec flags) (sorting.sort ranges) = .ok port →
      chooseClusterRange sorting startingPort ranges spec flags =
        if isClusterRangeAvailable sorting ranges ⟨port, targetSize spec flags⟩ then .ok ⟨port, targetSize spec flags⟩
        else .error (.notAvailable ⟨port, targetSize spec flags⟩) := by
    intro port scanned
    simp only [chooseClusterRange, auto, if_true, scan _ scanned]
    rfl
  constructor
  · rintro ⟨range, found⟩
    cases scanned : scanFreeRange startingPort (targetSize spec flags) (sorting.sort ranges) with
    | error text =>
      simp only [chooseClusterRange, auto, if_true, scan _ scanned] at found
      cases found
    | ok port =>
      rw [chosen scanned] at found
      split at found
      next available =>
        obtain ⟨⟨low, high⟩, clear⟩ := isClusterRangeAvailable_iff.mp available
        by_cases empty : ranges = []
        · have none : sorting.sort ranges = [] := length_eq_zero_iff.mp (by rw [(sorting.perm ranges).length_eq, empty]; rfl)
          rw [none] at scanned
          cases scanned
          exact .inl ⟨empty, low⟩
        · obtain ⟨r, hr, rfl⟩ := scanFreeRange_ok scanned fun none => empty (by simpa [none] using (sorting.perm ranges).symm)
          exact .inr ⟨r, sorting.mem.mp hr, high, (clear_iff _).mpr clear⟩
      next => cases found
  · rintro (⟨rfl, start⟩ | ⟨r, hr, room, free⟩)
    · have available : isClusterRangeAvailable sorting [] ⟨startingPort, targetSize spec flags⟩ = true :=
        isClusterRangeAvailable_iff.mpr ⟨⟨start, low.le⟩, by simp⟩
      have scanned : scanFreeRange startingPort (targetSize spec flags) (sorting.sort []) = .ok startingPort := by
        rw [perm_nil.mp (sorting.perm [])]
        rfl
      exact ⟨⟨startingPort, targetSize spec flags⟩, (chosen scanned).trans (if_pos available)⟩
    · obtain ⟨v, hv, found, fits, clear⟩ := @scanFreeRange_finds startingPort _ _ (h.sorted sorting)
        (fun q hq => (h.inside q (sorting.mem.mp hq)).2.1) (fun q hq => (h.inside q (sorting.mem.mp hq)).2.2) _
        (sorting.mem.mpr hr) room fun q hq => (clear_iff _).mp free q (sorting.mem.mp hq)
      obtain ⟨low, pos, -⟩ := h.inside v (sorting.mem.mp hv)
      have available : isClusterRangeAvailable sorting ranges ⟨v.stop, targetSize spec flags⟩ = true :=
        isClusterRangeAvailable_iff.mpr ⟨⟨Int.add_nonneg low pos.le, fits⟩, fun q hq => clear q (sorting.mem.mpr hq)⟩
      exact ⟨⟨v.stop, targetSize spec flags⟩, (chosen found).trans (if_pos available)⟩

theorem allocateClusterRange_portRange {clusters : Clusters} {nodes : Except String Nodes} (auto : spec.basePort = 0)
    (fresh : status.basePort = 0 ∧ status.portRange = 0) (pos : 0 < targetSize spec flags) :
    (allocateClusterRange sorting startingPort (.ok clusters) nodes flags spec status).2.portRange = targetSize spec flags ↔
      ∃ range, chooseClusterRange sorting startingPort (aggregateClusterPortRanges clusters) spec flags = .ok range := by
  unfold allocateClusterRange
  rw [if_neg (by simp [auto]), if_neg (by simp [fresh.2]), if_neg (by simp [fresh.1])]
  dsimp only
  split
  next e failed =>
    rw [failed]
    simp only [fresh.2, reduceCtorEq, exists_false, iff_false]
    omega
  next range chosen =>
    have size : range.size = targetSize spec flags := (chooseClusterRange_ok chosen).2.1
    refine iff_of_true ?_ ⟨range, chosen⟩
    split
    · exact size
    next claims _ =>
      have kept := congrArg Range.size (ensureGlobalPorts_range sorting spec flags claims [.lb, .lbAdmin, .s3]
        { status with basePort := range.base, portRange := range.size })
      exact kept.trans size

end Found

/-- A new cluster gets a range whenever one is free, exactly where the free ports that there are include some that begin
    where a range ends. -/
theorem allocateClusterRange_found_iff (sorting : Sorting) (startingPort : Int) (clusters : Clusters) (nodes : Except String Nodes)
    (flags : Option FeatureFlags) (spec status : ClusterPorts) (auto : spec.basePort = 0)
    (fresh : status.basePort = 0 ∧ status.portRange = 0) (size : 1 ≤ targetSize spec flags)
    (within : RangesWithin (aggregateClusterPortRanges clusters)) :
    (FreeFrom (aggregateClusterPortRanges clusters) startingPort (targetSize spec flags) →
      (allocateClusterRange sorting startingPort (.ok clusters) nodes flags spec status).2.portRange = targetSize spec flags) ↔
    (FreeFrom (aggregateClusterPortRanges clusters) startingPort (targetSize spec flags) →
      FreeAfterRange (aggregateClusterPortRanges clusters) startingPort (targetSize spec flags)) := by
  refine imp_congr_right fun free => ?_
  obtain ⟨b, start, room, -⟩ := free
  rw [allocateClusterRange_portRange auto fresh size]
  exact chooseClusterRange_iff within auto size (lt_of_le_of_lt (Int.add_le_add_right start _) room)

def oneCluster (basePort : Int) : Clusters :=
  (∅ : Clusters).insert ⟨"a", "ns"⟩ { spec := {}, status := { basePort, portRange := 500 } }

/-- Nothing is found for a second cluster, although all ports from the starting port on are free. -/
theorem allocateClusterRange_misses_lowPorts :
    FreeFrom (aggregateClusterPortRanges (oneCluster 65000)) 35000 500 ∧
    (allocateClusterRange .stable 35000 (.ok (oneCluster 65000)) (.ok []) none {} {}).1 = some (.notAvailable ⟨65500, 500⟩) := by
  have ranges : aggregateClusterPortRanges (oneCluster 65000) = [⟨65000, 500⟩] := by decide
  refine ⟨⟨35000, by decide, by decide, ?_⟩, by decide +kernel⟩
  rw [ranges]
  simp only [mem_singleton, forall_eq]
  exact Range.disjoint_of_stop_le (by decide)

/-- Behind a cluster at the starting port there is room. -/
theorem allocateClusterRange_found_second :
    (allocateClusterRange .stable 35000 (.ok (oneCluster 35000)) (.ok []) none {} {}).2.portRange = 500 := by
  have ranges : aggregateClusterPortRanges (oneCluster 35000) = [⟨35000, 500⟩] := by decide
  have clear : ∀ q ∈ [Range.mk 35000 500], Disjoint (Range.ports ⟨35500, 500⟩) q.ports := by
    simp only [mem_singleton, forall_eq]
    exact (Range.disjoint_of_stop_le (by decide)).symm
  refine (allocateClusterRange_found_iff .stable 35000 (oneCluster 35000) (.ok []) none {} {} rfl ⟨rfl, rfl⟩ (by decide) ?_).mpr ?_ ?_
  · rw [ranges]
    exact ⟨pairwise_singleton _ _, by decide⟩
  · rw [ranges]
    exact fun _ => .inr ⟨⟨35000, 500⟩, mem_singleton_self _, by decide, clear⟩
  · rw [ranges]
    exact ⟨35500, by decide, by decide, clear⟩

end WekaOperator.Ports
