import WekaOperator.Lib.Arith

/-! Port ranges (`ranges.go`): the first gap between ranges sorted by their base, and whether one given range is free.
    -/

namespace WekaOperator.Ports
open List

/-- `Range`: so many ports from a base on. -/
structure Range where
  base : Int
  size : Int
  deriving DecidableEq, Repr

namespace Range

/-- One past the end. -/
def stop (r : Range) : Int := r.base + r.size

/-- The ports of a range. -/
def ports (r : Range) : Set Int := Set.Ico r.base r.stop

theorem disjoint_of_stop_le {r q : Range} (h : r.stop ≤ q.base) : Disjoint r.ports q.ports := by
  rw [Set.disjoint_left]
  intro port hr hq
  exact absurd (lt_of_lt_of_le hr.2 h) (not_lt.mpr hq.1)

end Range

/-- `sort.Slice` by the base, which may leave equal bases in any order. -/
structure Sorting where
  sort : List Range → List Range
  perm : ∀ l, (sort l).Perm l
  sorted : ∀ l, (sort l).Pairwise (·.base ≤ ·.base)

variable {l : List Range}

theorem Sorting.mem (sorting : Sorting) {r : Range} : r ∈ sorting.sort l ↔ r ∈ l := (sorting.perm l).mem_iff

/-- A stable sort. -/
def Sorting.stable : Sorting where
  sort l := l.insertionSort (·.base ≤ ·.base)
  perm l := List.perm_insertionSort _ l
  sorted l := List.pairwise_insertionSort _ l

/-! ### The search -/

/-- No range is free. -/
structure NoFreeRange where
  size : Int
  offset : Int
  deriving DecidableEq, Repr

/-- Its text. -/
def NoFreeRange.message (e : NoFreeRange) : String :=
  let size := e.size
  let offset := e.offset
  s!"no free range found with size {size} and offset {offset}"

/-- The loop of `GetFreeRangeWithOffset` over neighbours of the sorted list, and the check after the last range. -/
def gapFrom (startBoundary boundary size : Int) : List Range → Option Int
  | [] => none
  | [last] =>
    let start := max startBoundary last.stop
    if boundary - start ≥ size then some start else none
  | r :: next :: rest =>
    let start := max startBoundary r.stop
    if next.base - start ≥ size then some start else gapFrom startBoundary boundary size (next :: rest)

/-- `GetFreeRangeWithOffset`. -/
def getFreeRangeWithOffset (sorting : Sorting) (boundaries : Range) (ranges : List Range) (size offset : Int) :
    Except NoFreeRange Int :=
  let startBoundary := boundaries.base + offset
  match sorting.sort ranges with
  | [] => if boundaries.size ≥ size then .ok startBoundary else .error ⟨size, offset⟩
  | first :: rest =>
    if first.base - startBoundary ≥ size then .ok startBoundary
    else match gapFrom startBoundary boundaries.stop size (first :: rest) with
      | some start => .ok start
      | none => .error ⟨size, offset⟩

/-- The first free range. -/
def getFreeRange (sorting : Sorting) (boundaries : Range) (ranges : List Range) (size : Int) : Except NoFreeRange Int :=
  getFreeRangeWithOffset sorting boundaries ranges size 0

/-- Where a range after `r` would start. -/
def gapStart (boundaries : Range) (offset : Int) (r : Range) : Int := max (boundaries.base + offset) r.stop

/-- The gap after `r` looks large enough to the search. -/
def FitsAfter (boundaries : Range) (ranges : List Range) (size offset : Int) (r : Range) : Prop :=
  (∀ q ∈ ranges, r.base < q.base → gapStart boundaries offset r + size ≤ q.base) ∧
    ((∃ q ∈ ranges, r.base < q.base) ∨ gapStart boundaries offset r + size ≤ boundaries.stop)

instance (boundaries : Range) (ranges : List Range) (size offset : Int) (r : Range) :
    Decidable (FitsAfter boundaries ranges size offset r) := inferInstanceAs (Decidable (_ ∧ _))

theorem gapFrom_some {startBoundary boundary size start : Int} (h : gapFrom startBoundary boundary size l = some start) :
    ∃ before r after, l = before ++ r :: after ∧ start = max startBoundary r.stop ∧
      (∀ q ∈ after.head?, start + size ≤ q.base) ∧ (after = [] → start + size ≤ boundary) := by
  fun_induction gapFrom startBoundary boundary size l with
  | case1 => cases h
  | case2 last start' hroom =>
    obtain rfl : start' = start := Option.some.inj h
    exact ⟨[], last, [], rfl, rfl, by simp, fun _ => by omega⟩
  | case3 => cases h
  | case4 r next rest start' hroom =>
    obtain rfl : start' = start := Option.some.inj h
    refine ⟨[], r, next :: rest, rfl, rfl, ?_, by simp⟩
    intro q hq
    cases hq
    omega
  | case5 r next rest start' hroom ih =>
    obtain ⟨before, r', after, hl, hstart, hnext, hlast⟩ := ih h
    exact ⟨r :: before, r', after, by rw [hl, cons_append], hstart, hnext, hlast⟩

variable {ranges : List Range} {boundaries : Range}

theorem getFreeRangeWithOffset_ok {sorting : Sorting} {size offset start : Int} (hsize : 0 < size)
    (hranges : ∀ r ∈ ranges, 0 ≤ r.size) (h : getFreeRangeWithOffset sorting boundaries ranges size offset = .ok start) :
    (∀ q ∈ ranges, start + size ≤ q.base) ∨
      ∃ r ∈ ranges, FitsAfter boundaries ranges size offset r ∧ start = gapStart boundaries offset r := by
  have sorted := sorting.sorted ranges
  unfold getFreeRangeWithOffset at h
  simp only at h
  split at h
  · rename_i hnil
    refine Or.inl fun q hq => ?_
    have hq := sorting.mem.mpr hq
    rw [hnil] at hq
    cases hq
  · rename_i first rest hl
    split at h
    · rename_i hfirst
      cases h
      refine Or.inl fun q hq => ?_
      have hq := sorting.mem.mpr hq
      rw [hl] at hq sorted
      rcases mem_cons.mp hq with rfl | hq
      · omega
      · have := rel_of_pairwise_cons sorted hq
        omega
    · split at h
      · rename_i start' hgap
        cases h
        rw [← hl] at hgap
        obtain ⟨before, r, after, hsplit, hstart, hnext, hlast⟩ := gapFrom_some hgap
        change start = gapStart boundaries offset r at hstart
        have hr : r ∈ ranges := sorting.mem.mp (by rw [hsplit]; simp)
        have hstop : r.base ≤ r.stop := by have := hranges r hr; unfold Range.stop; omega
        rw [hsplit] at sorted
        obtain ⟨-, hafter, hbefore⟩ := pairwise_append.mp sorted
        -- the neighbour of `r` bounds every later range from below
        have later : ∀ q ∈ after, start + size ≤ q.base := by
          intro q hq
          cases after with
          | nil => cases hq
          | cons next rest' =>
            have hn := hnext next rfl
            rcases mem_cons.mp hq with rfl | hq
            · exact hn
            · have := rel_of_pairwise_cons (pairwise_cons.mp hafter).2 hq
              omega
        refine Or.inr ⟨r, hr, ⟨?_, ?_⟩, hstart⟩
        · intro q hq hbase
          have hq := sorting.mem.mpr hq
          rw [hsplit] at hq
          rcases mem_append.mp hq with hq | hq
          · exact absurd (hbefore q hq r mem_cons_self) (by omega)
          · rcases mem_cons.mp hq with rfl | hq
            · omega
            · exact hstart ▸ later q hq
        · cases after with
          | nil => exact Or.inr (hstart ▸ hlast rfl)
          | cons next rest' =>
            have hn := later next mem_cons_self
            refine Or.inl ⟨next, sorting.mem.mp (by rw [hsplit]; simp), ?_⟩
            have : r.stop ≤ start := hstart ▸ le_max_right _ _
            omega
      · cases h

/-- `IsRangeAvailable`, whose ends may wrap around. -/
def isRangeAvailable (boundaries : Range) (ranges : List Range) (target : Range) (int : Int → Int := id) : Bool :=
  let targetEnd := int (target.base + target.size - 1)
  if target.base < boundaries.base ∨ targetEnd > int (boundaries.base + boundaries.size - 1) then false
  else !ranges.any fun r => decide (target.base ≤ int (r.base + r.size - 1)) && decide (r.base ≤ targetEnd)

theorem isRangeAvailable_low {target : Range} {int : Int → Int} (h : isRangeAvailable boundaries ranges target int = true) :
    boundaries.base ≤ target.base := by
  unfold isRangeAvailable at h
  rw [Bool.if_false_left, Bool.and_eq_true] at h
  simp only [Bool.not_eq_true', decide_eq_false_iff_not, not_or, not_lt] at h
  exact h.1.1

theorem isRangeAvailable_spec {target : Range} {int : Int → Int} (same : ∀ r ∈ boundaries :: target :: ranges,
    int (r.base + r.size - 1) = r.base + r.size - 1) (h : isRangeAvailable boundaries ranges target int = true) :
    target.stop ≤ boundaries.stop ∧ ∀ r ∈ ranges, Disjoint target.ports r.ports := by
  unfold isRangeAvailable at h
  simp only [Bool.if_false_left, Bool.and_eq_true, same boundaries (by simp), same target (by simp)] at h
  obtain ⟨inside, free⟩ := h
  simp only [Bool.not_eq_true', decide_eq_false_iff_not, not_or, not_lt] at inside
  refine ⟨?_, ?_⟩
  · unfold Range.stop
    omega
  · intro r hr
    have apart : target.base ≤ r.base + r.size - 1 → target.base + target.size - 1 < r.base := by
      simp only [Bool.not_eq_true', any_eq_false, Bool.and_eq_true, decide_eq_true_eq, not_and, not_le] at free
      have := free r hr
      rwa [same r (by simp [hr])] at this
    rw [Set.disjoint_left]
    intro port ht hr
    simp only [Range.ports, Range.stop, Set.mem_Ico] at ht hr
    omega

end WekaOperator.Ports
