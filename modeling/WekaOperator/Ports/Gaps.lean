import WekaOperator.Ports.Node

/-! What the search for a free range finds. It returns the first gap of the sorted ranges that looks large enough, and it
    measures a gap from the end of the range before it to the base of the next one. That is right for every offset just
    when each gap so measured lies within the boundaries and behind all ranges sorted before it; the agent port of a
    container then stays clear of its weka ports unless the node is crowded. -/

namespace WekaOperator.Ports

open List Range Sorting

/-! ### The gaps -/

/-- A gap as the search measures it: the ranges sorted before it, its first port and its width. -/
structure Gap where
  below : List Range
  start : Int
  room : Int
  deriving DecidableEq, Repr

/-- The gaps between ranges. -/
def gapsFrom (startBoundary boundary : Int) (below : List Range) : List Range → List Gap
  | [] => []
  | [last] => [⟨below ++ [last], max startBoundary last.stop, boundary - max startBoundary last.stop⟩]
  | r :: next :: rest =>
    ⟨below ++ [r], max startBoundary r.stop, next.base - max startBoundary r.stop⟩ ::
      gapsFrom startBoundary boundary (below ++ [r]) (next :: rest)

/-- The gaps of a sorted list, each from the offset or the end of the range before it to the base of the next range. -/
def gaps (boundaries : Range) (offset : Int) : List Range → List Gap
  | [] => [⟨[], boundaries.base + offset, boundaries.size⟩]
  | first :: rest =>
    ⟨[], boundaries.base + offset, first.base - (boundaries.base + offset)⟩ ::
      gapsFrom (boundaries.base + offset) boundaries.stop [] (first :: rest)

/-- The gap the search settles on: the first one with room. -/
def FirstGap (sorting : Sorting) (boundaries : Range) (ranges : List Range) (size offset : Int) (g : Gap) : Prop :=
  ∃ earlier later, gaps boundaries offset (sorting.sort ranges) = earlier ++ g :: later ∧ size ≤ g.room ∧
    ∀ g' ∈ earlier, g'.room < size

/-- So many ports from `b` on lie within the boundaries, behind the offset, and belong to no range. -/
def IsFree (boundaries : Range) (ranges : List Range) (size offset b : Int) : Prop :=
  boundaries.base + offset ≤ b ∧ b + size ≤ boundaries.stop ∧ ∀ r ∈ ranges, Disjoint (Range.ports ⟨b, size⟩) r.ports

/-- So many ports from `b` on belong to no range and end within the boundaries or before some range. -/
def Vacant (boundaries : Range) (ranges : List Range) (size b : Int) : Prop :=
  (∀ r ∈ ranges, Disjoint (Range.ports ⟨b, size⟩) r.ports) ∧ (b + size ≤ boundaries.stop ∨ ∃ r ∈ ranges, b + size ≤ r.base)

variable {r : Range}

section Search
variable {sorting : Sorting} {boundaries : Range} {ranges l below : List Range} {size offset start boundary b : Int} {g : Gap}

theorem gapFrom_eq_find (below : List Range) (l : List Range) :
    gapFrom start boundary size l = ((gapsFrom start boundary below l).find? (size ≤ ·.room)).map (·.start) := by
  induction l generalizing below with
  | nil => rfl
  | cons r rest ih =>
    cases rest with
    | nil =>
      simp only [gapFrom, gapsFrom, find?_cons, find?_nil, ge_iff_le]
      by_cases h : size ≤ boundary - max start r.stop
      · simp [h]
      · simp only [h, if_false, decide_false, Option.map_none]
    | cons next rest =>
      simp only [gapFrom, gapsFrom, find?_cons, ge_iff_le, ih (below ++ [r])]
      by_cases h : size ≤ next.base - max start r.stop
      · simp [h]
      · simp only [h, if_false, decide_false]

theorem getFreeRangeWithOffset_eq : getFreeRangeWithOffset sorting boundaries ranges size offset =
    match (gaps boundaries offset (sorting.sort ranges)).find? (size ≤ ·.room) with
    | some g => .ok g.start
    | none => .error ⟨size, offset⟩ := by
  unfold getFreeRangeWithOffset
  cases sorting.sort ranges with
  | nil =>
    simp only [gaps, find?_cons, find?_nil, ge_iff_le]
    by_cases h : size ≤ boundaries.size
    · simp [h]
    · simp [h]
  | cons first rest =>
    simp only [gaps, find?_cons, ge_iff_le, gapFrom_eq_find []]
    by_cases h : size ≤ first.base - (boundaries.base + offset)
    · simp [h]
    · simp only [h, if_false, decide_false]
      cases (gapsFrom (boundaries.base + offset) boundaries.stop [] (first :: rest)).find? (size ≤ ·.room) <;> rfl

theorem firstGap_iff : FirstGap sorting boundaries ranges size offset g ↔
    (gaps boundaries offset (sorting.sort ranges)).find? (size ≤ ·.room) = some g := by
  rw [find?_eq_some_iff_append]
  simp only [FirstGap, decide_eq_true_eq, Bool.not_eq_true', decide_eq_false_iff_not, not_le]
  constructor
  · rintro ⟨earlier, later, hl, hroom, hearlier⟩
    exact ⟨hroom, earlier, later, hl, hearlier⟩
  · rintro ⟨hroom, earlier, later, hl, hearlier⟩
    exact ⟨earlier, later, hl, hroom, hearlier⟩

theorem getFreeRangeWithOffset_ok_iff : getFreeRangeWithOffset sorting boundaries ranges size offset = .ok b ↔
    ∃ g, FirstGap sorting boundaries ranges size offset g ∧ g.start = b := by
  rw [getFreeRangeWithOffset_eq]
  simp only [firstGap_iff]
  cases (gaps boundaries offset (sorting.sort ranges)).find? (size ≤ ·.room) with
  | none => simp
  | some g => simp

theorem getFreeRangeWithOffset_error_iff : (∃ e, getFreeRangeWithOffset sorting boundaries ranges size offset = .error e) ↔
    ∀ g ∈ gaps boundaries offset (sorting.sort ranges), g.room < size := by
  rw [getFreeRangeWithOffset_eq]
  cases h : (gaps boundaries offset (sorting.sort ranges)).find? (size ≤ ·.room) with
  | none => simpa using h
  | some g =>
    have hmem := mem_of_find?_eq_some h
    have hroom : size ≤ g.room := by simpa using find?_some h
    simp only [reduceCtorEq, exists_false, false_iff, not_forall, not_lt]
    exact ⟨g, hmem, hroom⟩

/-! ### Where a gap lies -/

theorem mem_gapsFrom (hl : l.Pairwise (·.base ≤ ·.base)) (hg : g ∈ gapsFrom start boundary below l) (hroom : size ≤ g.room) :
    ∃ above, below ++ l = g.below ++ above ∧ start ≤ g.start ∧ ∀ q ∈ above, g.start + size ≤ q.base := by
  induction l generalizing below with
  | nil => cases hg
  | cons r rest ih =>
    cases rest with
    | nil =>
      obtain rfl := mem_singleton.mp hg
      exact ⟨[], by simp, le_max_left _ _, by simp⟩
    | cons next rest =>
      obtain ⟨-, hrest⟩ := pairwise_cons.mp hl
      rcases mem_cons.mp hg with rfl | hg
      · refine ⟨next :: rest, by simp, le_max_left _ _, fun q hq => ?_⟩
        have hnext : max start r.stop + size ≤ next.base := by
          simp only at hroom
          omega
        rcases mem_cons.mp hq with rfl | hq
        · exact hnext
        · exact hnext.trans (rel_of_pairwise_cons hrest hq)
      · obtain ⟨above, hsplit, hstart, habove⟩ := ih hrest hg
        exact ⟨above, by simpa using hsplit, hstart, habove⟩

theorem mem_gaps (hl : l.Pairwise (·.base ≤ ·.base)) (hg : g ∈ gaps boundaries offset l) (hroom : size ≤ g.room) :
    ∃ above, l = g.below ++ above ∧ boundaries.base + offset ≤ g.start ∧ ∀ q ∈ above, g.start + size ≤ q.base := by
  cases l with
  | nil =>
    obtain rfl := mem_singleton.mp hg
    exact ⟨[], rfl, le_rfl, by simp⟩
  | cons first rest =>
    rcases mem_cons.mp hg with rfl | hg
    · refine ⟨first :: rest, rfl, le_rfl, fun q hq => ?_⟩
      have hfirst : boundaries.base + offset + size ≤ first.base := by
        simp only at hroom
        omega
      rcases mem_cons.mp hq with rfl | hq
      · exact hfirst
      · exact hfirst.trans (rel_of_pairwise_cons hl hq)
    · exact mem_gapsFrom hl hg hroom

theorem gapsFrom_start (hg : g ∈ gapsFrom start boundary below l) :
    ∃ before last, g.below = before ++ [last] ∧ g.start = max start last.stop := by
  induction l generalizing below with
  | nil => cases hg
  | cons r rest ih =>
    cases rest with
    | nil =>
      obtain rfl := mem_singleton.mp hg
      exact ⟨below, r, rfl, rfl⟩
    | cons next rest =>
      rcases mem_cons.mp hg with rfl | hg
      · exact ⟨below, r, rfl, rfl⟩
      · exact ih hg

theorem gaps_start (hg : g ∈ gaps boundaries offset l) :
    (g.below = [] ∧ g.start = boundaries.base + offset) ∨
      ∃ before last, g.below = before ++ [last] ∧ g.start = max (boundaries.base + offset) last.stop := by
  cases l with
  | nil =>
    obtain rfl := mem_singleton.mp hg
    exact .inl ⟨rfl, rfl⟩
  | cons first rest =>
    rcases mem_cons.mp hg with rfl | hg
    · exact .inl ⟨rfl, rfl⟩
    · exact .inr (gapsFrom_start hg)

section
variable (h : FirstGap sorting boundaries ranges size offset g)
include h

theorem FirstGap.mem :
    g ∈ gaps boundaries offset (sorting.sort ranges) := by
  obtain ⟨earlier, later, hl, -⟩ := h
  simp [hl]

theorem FirstGap.split :
    ∃ above, sorting.sort ranges = g.below ++ above ∧ boundaries.base + offset ≤ g.start ∧
      ∀ q ∈ above, g.start + size ≤ q.base := by
  have hg := h.mem
  obtain ⟨-, -, -, hroom, -⟩ := h
  exact mem_gaps (sorting.sorted ranges) hg hroom

theorem FirstGap.disjoint_iff :
    (∀ r ∈ ranges, Disjoint (Range.ports ⟨g.start, size⟩) r.ports) ↔
      ∀ r ∈ g.below, Disjoint (Range.ports ⟨g.start, size⟩) r.ports := by
  obtain ⟨above, hsplit, -, habove⟩ := h.split
  constructor
  · intro hall r hr
    exact hall r (sorting.mem.mp (hsplit ▸ mem_append_left _ hr))
  · intro hbelow r hr
    rcases mem_append.mp (hsplit ▸ sorting.mem.mpr hr) with hr | hr
    · exact hbelow r hr
    · exact disjoint_of_stop_le (habove r hr)

theorem FirstGap.isFree_iff :
    IsFree boundaries ranges size offset g.start ↔
      g.start + size ≤ boundaries.stop ∧ ∀ r ∈ g.below, Disjoint (Range.ports ⟨g.start, size⟩) r.ports := by
  rw [IsFree, h.disjoint_iff]
  obtain ⟨above, -, hstart, -⟩ := h.split
  exact and_iff_right hstart

end

/-! ### What is missed -/

theorem Range.apart_of_disjoint {q : Range} (hr : 0 < r.size) (hq : 0 < q.size) (h : Disjoint r.ports q.ports) :
    q.stop ≤ r.base ∨ r.stop ≤ q.base := by
  rw [ports, ports, Set.Ico_disjoint_Ico] at h
  unfold stop at *
  omega

theorem exists_gapsFrom (hsize : 0 < size) (hstart : start ≤ b) {rest : List Range}
    (hend : b + size ≤ boundary ∨ ∃ q ∈ rest, b + size ≤ q.base) (hr : r.stop ≤ b) (hpos : ∀ q ∈ rest, 0 < q.size)
    (hfree : ∀ q ∈ rest, Disjoint (Range.ports ⟨b, size⟩) q.ports) (hsorted : (r :: rest).Pairwise (·.base ≤ ·.base)) :
    ∃ g ∈ gapsFrom start boundary below (r :: rest), g.start ≤ b ∧ b + size ≤ g.start + g.room := by
  induction rest generalizing r below with
  | nil =>
    refine ⟨_, mem_singleton_self _, max_le hstart hr, ?_⟩
    rcases hend with hend | ⟨q, hq, -⟩
    · simp only
      omega
    · cases hq
  | cons next rest ih =>
    obtain ⟨-, hrest⟩ := pairwise_cons.mp hsorted
    rcases apart_of_disjoint hsize (hpos next mem_cons_self) (hfree next mem_cons_self) with hnext | hnext
    · have hend : b + size ≤ boundary ∨ ∃ q ∈ rest, b + size ≤ q.base := by
        refine hend.imp_right ?_
        rintro ⟨q, hq, hbase⟩
        rcases mem_cons.mp hq with rfl | hq
        · have := hpos q mem_cons_self
          unfold stop at hnext
          dsimp only at hnext
          omega
        · exact ⟨q, hq, hbase⟩
      obtain ⟨g, hg, hin⟩ := ih hend hnext (fun q hq => hpos q (mem_cons_of_mem _ hq))
        (fun q hq => hfree q (mem_cons_of_mem _ hq)) hrest
      exact ⟨g, mem_cons_of_mem _ hg, hin⟩
    · refine ⟨_, mem_cons_self, max_le hstart hr, ?_⟩
      simp only [stop] at hnext ⊢
      omega

theorem Vacant.exists_gap (h : Vacant boundaries ranges size b) (hsize : 0 < size) (hstart : boundaries.base + offset ≤ b)
    (hpos : ∀ r ∈ ranges, 0 < r.size) (hranges : ranges ≠ []) :
    ∃ g ∈ gaps boundaries offset (sorting.sort ranges), g.start ≤ b ∧ b + size ≤ g.start + g.room := by
  obtain ⟨hfree, hend⟩ := h
  have hpos : ∀ r ∈ sorting.sort ranges, 0 < r.size := fun r hr => hpos r (sorting.mem.mp hr)
  have hfree : ∀ r ∈ sorting.sort ranges, Disjoint (ports ⟨b, size⟩) r.ports := fun r hr => hfree r (sorting.mem.mp hr)
  simp only [← @Sorting.mem ranges sorting] at hend
  have hsorted := sorting.sorted ranges
  have hnil : sorting.sort ranges ≠ [] := fun hnil => hranges (perm_nil.mp (hnil ▸ (sorting.perm ranges).symm))
  cases hl : sorting.sort ranges with
  | nil => exact absurd hl hnil
  | cons first rest =>
    rw [hl] at hpos hfree hend hsorted
    rcases apart_of_disjoint hsize (hpos first mem_cons_self) (hfree first mem_cons_self) with hfirst | hfirst
    · have hend : b + size ≤ boundaries.stop ∨ ∃ q ∈ rest, b + size ≤ q.base := by
        refine hend.imp_right ?_
        rintro ⟨q, hq, hbase⟩
        rcases mem_cons.mp hq with rfl | hq
        · have := hpos q mem_cons_self
          unfold stop at hfirst
          dsimp only at hfirst
          omega
        · exact ⟨q, hq, hbase⟩
      obtain ⟨g, hg, hin⟩ := exists_gapsFrom hsize hstart hend hfirst (fun q hq => hpos q (mem_cons_of_mem _ hq))
        (fun q hq => hfree q (mem_cons_of_mem _ hq)) hsorted
      exact ⟨g, mem_cons_of_mem _ hg, hin⟩
    · refine ⟨_, mem_cons_self, hstart, ?_⟩
      simp only [stop] at hfirst ⊢
      omega

end Search

/-! ### The gaps at another offset -/

section Offset
variable {sorting : Sorting} {boundaries : Range} {ranges l below : List Range} {size offset start boundary b : Int} {g : Gap}

/-- The part of a gap from a port on. -/
def Gap.from (port : Int) (g : Gap) : Gap := ⟨g.below, max port g.start, g.start + g.room - max port g.start⟩

theorem gapsFrom_from {start' : Int} (h : start ≤ start') (below l : List Range) :
    gapsFrom start' boundary below l = (gapsFrom start boundary below l).map (Gap.from start') := by
  have cut : ∀ r : Range, max start' (max start r.stop) = max start' r.stop := fun r => by
    rw [← max_assoc, max_eq_left h]
  induction l generalizing below with
  | nil => rfl
  | cons r rest ih =>
    cases rest with
    | nil => simp only [gapsFrom, List.map_cons, List.map_nil, Gap.from, cut, add_sub_cancel]
    | cons next rest => simp only [gapsFrom, List.map_cons, Gap.from, cut, add_sub_cancel, ih]

theorem gaps_from (hl : l ≠ []) (hoffset : 0 ≤ offset) :
    gaps boundaries offset l = (gaps boundaries 0 l).map (Gap.from (boundaries.base + offset)) := by
  have hstart : boundaries.base + 0 ≤ boundaries.base + offset := by omega
  cases l with
  | nil => exact absurd rfl hl
  | cons first rest =>
    rw [gaps, gaps, List.map_cons, gapsFrom_from hstart]
    simp only [Gap.from, max_eq_left hstart, add_sub_cancel]

theorem gaps_end (hl : l ≠ []) (hg : g ∈ gaps boundaries offset l) :
    g.start + g.room = boundaries.stop ∨ ∃ r ∈ l, g.start + g.room = r.base := by
  have later : ∀ {start boundary : Int} (l below : List Range), g ∈ gapsFrom start boundary below l →
      g.start + g.room = boundary ∨ ∃ r ∈ l, g.start + g.room = r.base := by
    intro start boundary l
    induction l with
    | nil => exact fun _ hg => absurd hg not_mem_nil
    | cons r rest ih =>
      intro below hg
      cases rest with
      | nil =>
        obtain rfl := mem_singleton.mp hg
        exact .inl (by simp only; omega)
      | cons next rest =>
        rcases mem_cons.mp hg with rfl | hg
        · exact .inr ⟨next, by simp, by simp only; omega⟩
        · exact (ih _ hg).imp_right fun ⟨q, hq, same⟩ => ⟨q, mem_cons_of_mem _ hq, same⟩
  cases l with
  | nil => exact absurd rfl hl
  | cons first rest =>
    rcases mem_cons.mp hg with rfl | hg
    · exact .inr ⟨first, mem_cons_self, by simp only; omega⟩
    · exact later _ _ hg

/-- A gap ends where the next range begins, hence before every later gap. -/
theorem gapsFrom_ordered (hl : l.Pairwise (·.base ≤ ·.base)) (hpos : ∀ r ∈ l, 0 < r.size) {port : Int}
    (hport : ∀ r ∈ l, port ≤ r.base) :
    (∀ g ∈ gapsFrom start boundary below l, port ≤ g.start) ∧
      (gapsFrom start boundary below l).Pairwise fun g g' => g.start + g.room ≤ g'.start := by
  have behind : ∀ (port : Int) (r : Range), 0 < r.size → port ≤ r.base → port ≤ max start r.stop := fun port r hr hbase =>
    le_max_of_le_right (by unfold stop; omega)
  induction l generalizing below port with
  | nil => exact ⟨fun g hg => absurd hg not_mem_nil, .nil⟩
  | cons r rest ih =>
    obtain ⟨hr, hrest⟩ := pairwise_cons.mp hl
    cases rest with
    | nil =>
      refine ⟨fun g hg => ?_, pairwise_singleton _ _⟩
      obtain rfl := mem_singleton.mp hg
      exact behind port r (hpos r mem_cons_self) (hport r mem_cons_self)
    | cons next rest =>
      have hpos' : ∀ q ∈ next :: rest, 0 < q.size := fun q hq => hpos q (mem_cons_of_mem _ hq)
      have hnext : ∀ q ∈ next :: rest, next.base ≤ q.base := fun q hq => by
        rcases mem_cons.mp hq with rfl | hq
        · exact le_rfl
        · exact rel_of_pairwise_cons hrest hq
      obtain ⟨low, ordered⟩ := @ih (below ++ [r]) hrest hpos' next.base hnext
      refine ⟨?_, pairwise_cons.mpr ⟨fun g' hg' => ?_, ordered⟩⟩
      · intro g hg
        rcases mem_cons.mp hg with rfl | hg
        · exact behind port r (hpos r mem_cons_self) (hport r mem_cons_self)
        · exact (hport next (by simp)).trans (low g hg)
      · have := low g' hg'
        dsimp only
        omega

theorem gaps_ordered (hl : l.Pairwise (·.base ≤ ·.base)) (hpos : ∀ r ∈ l, 0 < r.size) :
    (gaps boundaries offset l).Pairwise fun g g' => g.start + g.room ≤ g'.start := by
  cases l with
  | nil => exact pairwise_singleton _ _
  | cons first rest =>
    have hfirst : ∀ r ∈ first :: rest, first.base ≤ r.base := fun r hr => by
      rcases mem_cons.mp hr with rfl | hr
      · exact le_rfl
      · exact rel_of_pairwise_cons hl hr
    obtain ⟨low, ordered⟩ := gapsFrom_ordered hl hpos hfirst
    refine pairwise_cons.mpr ⟨fun g' hg' => ?_, ordered⟩
    have := low g' hg'
    dsimp only
    omega

theorem gaps_below (hl : l.Pairwise (·.base ≤ ·.base)) (hpos : ∀ r ∈ l, 0 < r.size) (hg : g ∈ gaps boundaries offset l)
    (hroom : 0 ≤ g.room) : ∀ r ∈ g.below, r ∈ l ∧ r.base ≤ g.start := by
  intro r hr
  obtain ⟨above, hsplit, -, -⟩ := mem_gaps hl hg hroom
  have mem : ∀ q ∈ g.below, q ∈ l := fun q hq => hsplit ▸ mem_append_left _ hq
  refine ⟨mem r hr, ?_⟩
  rcases gaps_start hg with ⟨hnil, -⟩ | ⟨before, last, hbelow, hstart⟩
  · exact absurd (hnil ▸ hr) not_mem_nil
  · have hlast := hpos last (mem last (by simp [hbelow]))
    have hstop : last.base ≤ g.start := hstart ▸ le_max_of_le_right (by unfold stop; omega)
    rw [hbelow] at hr hsplit
    rcases mem_append.mp hr with hr | hr
    · rw [hsplit, append_assoc] at hl
      exact ((pairwise_append.mp hl).2.2 r hr last (by simp)).trans hstop
    · rwa [mem_singleton.mp hr]

/-- With the offset set to a port of a gap, the search returns that port. -/
theorem getFreeRangeWithOffset_within (hranges : ranges ≠ []) (hsize : 0 < size) (hpos : ∀ r ∈ ranges, 0 < r.size)
    (hg : g ∈ gaps boundaries 0 (sorting.sort ranges)) (hstart : g.start ≤ b) (hend : b + size ≤ g.start + g.room) :
    0 ≤ b - boundaries.base ∧
      getFreeRangeWithOffset sorting boundaries ranges size (b - boundaries.base) = .ok b := by
  have hsort : sorting.sort ranges ≠ [] := fun hnil => hranges (perm_nil.mp (hnil ▸ (sorting.perm ranges).symm))
  have hroom : size ≤ g.room := by omega
  obtain ⟨-, -, hbase, -⟩ := mem_gaps (sorting.sorted ranges) hg hroom
  have hoffset : 0 ≤ b - boundaries.base := by omega
  have hport : boundaries.base + (b - boundaries.base) = b := by omega
  refine ⟨hoffset, ?_⟩
  have ordered := @gaps_ordered boundaries _ 0 (sorting.sorted ranges) fun r hr => hpos r (sorting.mem.mp hr)
  obtain ⟨earlier, later, hsplit⟩ := append_of_mem hg
  have hgap : (g.from b).start = b := max_eq_left hstart
  rw [getFreeRangeWithOffset_ok_iff]
  refine ⟨g.from b, ⟨earlier.map (Gap.from b), later.map (Gap.from b), ?_, ?_, ?_⟩, hgap⟩
  · rw [gaps_from hsort hoffset, hport, hsplit, List.map_append, List.map_cons]
  · simp only [Gap.from, max_eq_left hstart]
    omega
  · intro g' hg'
    obtain ⟨e, he, rfl⟩ := List.mem_map.mp hg'
    rw [hsplit] at ordered
    have := (pairwise_append.mp ordered).2.2 e he g mem_cons_self
    have : b ≤ max b e.start := le_max_left _ _
    simp only [Gap.from]
    omega

end Offset

/-! ### Whether the search is right -/

/-- What is returned is free, and nothing is free where nothing is returned. -/
def SearchCorrect (sorting : Sorting) (boundaries : Range) (ranges : List Range) (size offset : Int) : Prop :=
  (∀ b, getFreeRangeWithOffset sorting boundaries ranges size offset = .ok b → IsFree boundaries ranges size offset b) ∧
    ((∃ e, getFreeRangeWithOffset sorting boundaries ranges size offset = .error e) →
      ¬∃ b, IsFree boundaries ranges size offset b)

/-- Every gap wide enough ends within the boundaries, and no range sorted before it reaches into it. -/
def GapsClear (sorting : Sorting) (boundaries : Range) (ranges : List Range) (size : Int) : Prop :=
  ∀ g ∈ gaps boundaries 0 (sorting.sort ranges), size ≤ g.room →
    g.start + g.room ≤ boundaries.stop ∧ ∀ r ∈ g.below, r.stop ≤ g.start

instance (sorting : Sorting) (boundaries : Range) (ranges : List Range) (size : Int) :
    Decidable (GapsClear sorting boundaries ranges size) := inferInstanceAs (Decidable (∀ g ∈ _, _))

/-- Where there is no range, the boundaries have room behind the offset if they have room at all. -/
def OffsetFits (boundaries : Range) (ranges : List Range) (size offset : Int) : Prop :=
  ranges = [] → size ≤ boundaries.size → offset + size ≤ boundaries.size

section Correct
variable {sorting : Sorting} {boundaries : Range} {ranges : List Range} {size offset : Int}

theorem searchCorrect_nil_iff (hoffset : 0 ≤ offset) :
    SearchCorrect sorting boundaries [] size offset ↔ (size ≤ boundaries.size → offset + size ≤ boundaries.size) := by
  unfold SearchCorrect
  rw [getFreeRangeWithOffset_error_iff, getFreeRangeWithOffset_eq, perm_nil.mp (sorting.perm [])]
  simp only [gaps, find?_cons, find?_nil, IsFree, not_mem_nil, stop, mem_singleton, forall_eq]
  by_cases room : size ≤ boundaries.size
  · simp only [room, decide_true, Except.ok.injEq, forall_eq', le_refl, true_and, forall_const]
    constructor
    · rintro ⟨⟨inside, -⟩, -⟩
      omega
    · intro inside
      exact ⟨⟨by omega, by simp⟩, fun full => absurd full (by omega)⟩
  · simp only [room, decide_false, reduceCtorEq, false_implies, implies_true, iff_true, true_and]
    rintro - ⟨b, low, high, -⟩
    omega

theorem GapsClear.searchCorrect (h : GapsClear sorting boundaries ranges size) (hsize : 1 ≤ size)
    (hports : ∀ r ∈ ranges, 1 ≤ r.size) (hoffset : 0 ≤ offset) (hranges : ranges ≠ []) :
    SearchCorrect sorting boundaries ranges size offset := by
  have hsort : sorting.sort ranges ≠ [] := fun hnil => hranges (perm_nil.mp (hnil ▸ (sorting.perm ranges).symm))
  refine ⟨fun b hb => ?_, fun failed hfree => ?_⟩
  · obtain ⟨g, first, rfl⟩ := getFreeRangeWithOffset_ok_iff.mp hb
    have hg := first.mem
    rw [gaps_from hsort hoffset] at hg
    obtain ⟨g₀, hg₀, rfl⟩ := List.mem_map.mp hg
    obtain ⟨-, -, -, hroom, -⟩ := id first
    have : g₀.start ≤ max (boundaries.base + offset) g₀.start := le_max_right _ _
    simp only [Gap.from] at hroom
    obtain ⟨inside, behind⟩ := h g₀ hg₀ (by omega)
    refine first.isFree_iff.mpr ⟨by simp only [Gap.from]; omega, fun r hr => ?_⟩
    exact (disjoint_of_stop_le ((behind r hr).trans this)).symm
  · obtain ⟨b, low, high, free⟩ := hfree
    have vacant : Vacant boundaries ranges size b := ⟨free, .inl high⟩
    obtain ⟨g, hg, low, high⟩ := @Vacant.exists_gap sorting _ _ _ _ _ vacant hsize low hports hranges
    have := getFreeRangeWithOffset_error_iff.mp failed g hg
    omega

end Correct

/-- Every gap lies behind the ranges sorted before it. -/
def Unnested (sorting : Sorting) (boundaries : Range) (ranges : List Range) : Prop :=
  ∀ g ∈ gaps boundaries 0 (sorting.sort ranges), 1 ≤ g.room → ∀ r ∈ g.below, r.stop ≤ g.start

instance (sorting : Sorting) (boundaries : Range) (ranges : List Range) : Decidable (Unnested sorting boundaries ranges) :=
  inferInstanceAs (Decidable (∀ g ∈ _, _))

section Least
variable {sorting : Sorting} {boundaries : Range} {ranges ranges' : List Range} {size offset b : Int}

theorem Vacant.perm (h : Vacant boundaries ranges size b) (perm : ranges'.Perm ranges) : Vacant boundaries ranges' size b :=
  ⟨fun r hr => h.1 r (perm.mem_iff.mp hr), h.2.imp_right fun ⟨r, hr, hend⟩ => ⟨r, perm.mem_iff.mpr hr, hend⟩⟩

theorem Vacant.single (h : Vacant boundaries ranges size b) {port : Int} (hport : b ≤ port ∧ port < b + size) :
    Vacant boundaries ranges 1 port := by
  refine ⟨fun r hr => (h.1 r hr).mono_left ?_, h.2.imp (fun _ => by omega) fun ⟨r, hr, hend⟩ => ⟨r, hr, by omega⟩⟩
  intro p hp
  simp only [ports, stop, Set.mem_Ico] at hp ⊢
  omega

/-- The search returns the first vacant place behind the offset. -/
theorem getFreeRangeWithOffset_least (unnested : Unnested sorting boundaries ranges) (hsize : 1 ≤ size)
    (hports : ∀ r ∈ ranges, 1 ≤ r.size) (hoffset : 0 ≤ offset) (hranges : ranges ≠ [])
    (h : getFreeRangeWithOffset sorting boundaries ranges size offset = .ok b) :
    Vacant boundaries ranges size b ∧ boundaries.base + offset ≤ b ∧
      ∀ b', boundaries.base + offset ≤ b' → Vacant boundaries ranges size b' → b ≤ b' := by
  have hsort : sorting.sort ranges ≠ [] := fun hnil => hranges (perm_nil.mp (hnil ▸ (sorting.perm ranges).symm))
  obtain ⟨g, first, rfl⟩ := getFreeRangeWithOffset_ok_iff.mp h
  have hg := first.mem
  obtain ⟨above, hsplit, hstart, habove⟩ := first.split
  have ends := gaps_end hsort hg
  have ordered := @gaps_ordered boundaries _ offset (sorting.sorted ranges) fun r hr => hports r (sorting.mem.mp hr)
  obtain ⟨earlier, later, hlist, hroom, hearlier⟩ := id first
  refine ⟨⟨first.disjoint_iff.mpr fun r hr => ?_, ?_⟩, hstart, fun b' hb' vacant => ?_⟩
  · rw [gaps_from hsort hoffset] at hg
    obtain ⟨g₀, hg₀, rfl⟩ := List.mem_map.mp hg
    have : g₀.start ≤ max (boundaries.base + offset) g₀.start := le_max_right _ _
    simp only [Gap.from] at hroom
    exact (disjoint_of_stop_le ((unnested g₀ hg₀ (by omega) r hr).trans this)).symm
  · rcases ends with inside | ⟨r, hr, next⟩
    · exact .inl (by omega)
    · exact .inr ⟨r, sorting.mem.mp hr, by omega⟩
  · obtain ⟨g', hg', low, high⟩ := @Vacant.exists_gap sorting _ _ _ _ _ vacant hsize hb' hports hranges
    rw [hlist] at hg' ordered
    rcases mem_append.mp hg' with hg' | hg'
    · have := hearlier g' hg'
      omega
    rcases mem_cons.mp hg' with rfl | hg'
    · exact low
    · have := rel_of_pairwise_cons (pairwise_append.mp ordered).2.1 hg'
      omega

theorem Vacant.found (h : Vacant boundaries ranges size b) (hsize : 1 ≤ size) (hports : ∀ r ∈ ranges, 1 ≤ r.size)
    (hranges : ranges ≠ []) (hb : boundaries.base + offset ≤ b) :
    ∃ b', getFreeRangeWithOffset sorting boundaries ranges size offset = .ok b' := by
  obtain ⟨g, hg, low, high⟩ := @Vacant.exists_gap sorting _ _ _ _ _ h hsize hb hports hranges
  cases found : getFreeRangeWithOffset sorting boundaries ranges size offset with
  | ok b' => exact ⟨b', rfl⟩
  | error e =>
    have := getFreeRangeWithOffset_error_iff.mp ⟨e, found⟩ g hg
    omega

end Least

namespace PortRequest
variable (sorting : Sorting) (q : PortRequest) (allocatedRanges : List Range)

/-- The list both searches go through: what is allocated on the node and the ports of the cluster's services. -/
def excluded : List Range := allocatedRanges ++ q.cluster.getClusterGlobalAllocatedRanges

/-- So many ports from `b` on are free for the request. -/
def Free (size b : Int) : Prop :=
  q.cluster.basePort ≤ b ∧ Vacant q.cluster.getClusterRange (q.excluded allocatedRanges) size b

/-- Wherever the weka ports fit, they also fit below the offset of the single ports, or a single port behind the offset is
    free before them. -/
def Uncrowded : Prop :=
  ∀ b, q.Free allocatedRanges (getPortsPerContainerFromFlags q.flags) b →
    (∃ b', b' + getPortsPerContainerFromFlags q.flags ≤ q.cluster.basePort + getSinglePortsOffsetFromFlags q.flags ∧
      q.Free allocatedRanges (getPortsPerContainerFromFlags q.flags) b') ∨
    ∃ port, q.cluster.basePort + getSinglePortsOffsetFromFlags q.flags ≤ port ∧ port < b ∧ q.Free allocatedRanges 1 port

end PortRequest

section Container
variable {sorting : Sorting} {q : PortRequest} {allocatedRanges : List Range}

theorem allocatePortRangesFromStatus_ok_iff (hweka : q.allocateWeka = true) (hagent : q.allocateAgent = true) {ports : ContainerPorts} :
    allocatePortRangesFromStatus sorting q allocatedRanges = .ok ports ↔
      q.cluster.basePort ≠ 0 ∧
        getFreeRangeWithOffset sorting q.cluster.getClusterRange (q.excluded allocatedRanges)
          (getPortsPerContainerFromFlags q.flags) 0 = .ok ports.wekaPort ∧
        getFreeRangeWithOffset sorting q.cluster.getClusterRange (sorting.sort (q.excluded allocatedRanges)) 1
          (getSinglePortsOffsetFromFlags q.flags) = .ok ports.agentPort := by
  unfold PortRequest.excluded allocatePortRangesFromStatus getFreeRange
  simp only [hweka, hagent, if_true]
  by_cases hbase : q.cluster.basePort = 0
  · simp [hbase]
  · rw [if_neg hbase]
    split
    · rename_i e he
      simp [he]
    · rename_i wekaPort hw
      split
      · rename_i e he
        simp [he]
      · rename_i agentPort ha
        rw [hw, ha]
        obtain ⟨w, a⟩ := ports
        simp [hbase]

theorem Range.disjoint_single {port : Int} : Disjoint (Range.ports ⟨port, 1⟩) r.ports ↔ port ∉ r.ports := by
  have single : ports ⟨port, 1⟩ = {port} := by
    ext p
    simp only [ports, stop, Set.mem_Ico, Set.mem_singleton_iff]
    omega
  rw [single, Set.disjoint_singleton_left]

theorem portsPerContainer_le_offset (flags : Option FeatureFlags) :
    getPortsPerContainerFromFlags flags ≤ getSinglePortsOffsetFromFlags flags := by
  unfold getPortsPerContainerFromFlags getSinglePortsOffsetFromFlags
  split <;> decide

end Container

end WekaOperator.Ports
