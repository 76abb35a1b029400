import WekaOperator.Allocator.Claims

/-! What a successful allocation by capacity hands out. -/

namespace WekaOperator.Allocator
open List Option Lib Planner Containers SharedRequest AllocationStrategyGenerator

/-! ### Strategies -/

namespace AllocationStrategyGenerator
variable {g : AllocationStrategyGenerator} {sizes : List Int}

/-- The sizes make up the capacity, in chunks and within the numbers allowed. -/
structure Splits (g : AllocationStrategyGenerator) (sizes : List Int) : Prop where
  total : sizes.sum = g.totalCapacityNeeded
  chunks : ∀ size ∈ sizes, g.minChunkSizeGiB ≤ size
  enough : g.numCores ≤ sizes.length
  most : (sizes.length : Int) ≤ g.maxDrives

theorem distributeEvenly_splits {numDrives : Int} (need : 0 ≤ g.totalCapacityNeeded) (pos : 0 < numDrives)
    (hmax : numDrives ≤ g.maxDrives) (h : g.distributeEvenly numDrives = some sizes) : g.Splits sizes := by
  obtain ⟨hmin, h⟩ := ite_none_left_eq_some.mp h
  obtain ⟨hbase, h⟩ := ite_none_left_eq_some.mp h
  cases h
  have hdiv := Int.mul_tdiv_add_tmod g.totalCapacityNeeded numDrives
  have hrem : 0 ≤ g.totalCapacityNeeded.tmod numDrives := Int.tmod_nonneg _ need
  have hlt : g.totalCapacityNeeded.tmod numDrives < numDrives := Int.tmod_lt_of_pos _ pos
  generalize g.totalCapacityNeeded.tdiv numDrives = base at hdiv hbase ⊢
  generalize g.totalCapacityNeeded.tmod numDrives = remainder at hdiv hrem hlt ⊢
  have hlength : ((replicate remainder.toNat (base + 1) ++
      replicate (numDrives - remainder).toNat base).length : Int) = numDrives := by
    rw [length_append, length_replicate, length_replicate]
    omega
  refine ⟨?_, ?_, by omega, by omega⟩
  · rw [sum_append, sum_replicate, sum_replicate, nsmul_eq_mul, nsmul_eq_mul, Int.natCast_toNat_eq_self.mpr hrem,
      Int.natCast_toNat_eq_self.mpr (by omega), ← hdiv]
    ring
  · intro size hsize
    rcases mem_append.mp hsize with hsize | hsize
    · have := eq_of_mem_replicate hsize
      omega
    · have := eq_of_mem_replicate hsize
      omega

theorem evenDistributionStrategies_splits (need : 0 ≤ g.totalCapacityNeeded) (cores : 0 < g.numCores)
    (h : sizes ∈ g.evenDistributionStrategies) : g.Splits sizes := by
  unfold evenDistributionStrategies at h
  split at h
  · obtain ⟨_, hsome, rfl⟩ := mem_filterMap.mp h
    obtain ⟨numDrives, hrange, hsizes⟩ := mem_map.mp ((takeWhile_sublist _).subset hsome)
    obtain ⟨hlo, hhi⟩ := mem_intRange.mp hrange
    exact distributeEvenly_splits need (by omega) hhi hsizes
  · cases h

theorem takePhysical_takes (available : List Int) {soFar : Int} (hle : soFar ≤ g.totalCapacityNeeded) :
    (g.takePhysical available soFar).2 = soFar + (g.takePhysical available soFar).1.sum ∧
      (g.takePhysical available soFar).2 ≤ g.totalCapacityNeeded ∧
      ∀ size ∈ (g.takePhysical available soFar).1, g.minChunkSizeGiB ≤ size := by
  induction available generalizing soFar with
  | nil => exact ⟨(add_zero _).symm, hle, fun _ h => by cases h⟩
  | cons availCap rest ih =>
    unfold takePhysical
    split
    · exact ih hle
    dsimp only
    generalize htaken : (if min availCap (g.totalCapacityNeeded - soFar) ≥ g.minChunkSizeGiB then
      [min availCap (g.totalCapacityNeeded - soFar)] else []) = taken
    have hsum : soFar + taken.sum ≤ g.totalCapacityNeeded ∧ ∀ size ∈ taken, g.minChunkSizeGiB ≤ size := by
      subst htaken
      split
      · rename_i hchunk
        have := min_le_right availCap (g.totalCapacityNeeded - soFar)
        simp only [sum_singleton, mem_singleton, forall_eq]
        exact ⟨by omega, hchunk⟩
      · simpa using hle
    split
    · exact ⟨rfl, hsum⟩
    · obtain ⟨htotal, hmost, hchunks⟩ := ih hsum.1
      refine ⟨by rw [htotal, sum_append, add_assoc], hmost, ?_⟩
      intro size hsize
      rcases mem_append.mp hsize with hsize | hsize
      · exact hsum.2 size hsize
      · exact hchunks size hsize

theorem largestSplittable_size {i : Nat} (h : g.largestSplittable sizes = some i) :
    ∃ size, sizes[i]? = some size ∧ 2 * g.minChunkSizeGiB ≤ size := by
  refine foldlRecOn (motive := fun best : Int × Option Nat => ∀ i, best.2 = some i →
    ∃ size, sizes[i]? = some size ∧ 2 * g.minChunkSizeGiB ≤ size) sizes.zipIdx _ ?_ ?_ i h
  · rintro i ⟨⟩
  · intro best hbest x hx i hi
    split at hi
    · rename_i hsize
      cases hi
      exact ⟨x.1, mem_zipIdx_iff_getElem?.mp hx, hsize.2⟩
    · exact hbest i hi

theorem splitLargest_keeps (chunk : 0 ≤ g.minChunkSizeGiB) (rounds : Nat) (chunks : ∀ size ∈ sizes, g.minChunkSizeGiB ≤ size) :
    (g.splitLargest rounds sizes).sum = sizes.sum ∧ ∀ size ∈ g.splitLargest rounds sizes, g.minChunkSizeGiB ≤ size := by
  induction rounds generalizing sizes with
  | zero => exact ⟨rfl, chunks⟩
  | succ rounds ih =>
    unfold splitLargest
    split
    swap
    · exact ⟨rfl, chunks⟩
    split
    · exact ⟨rfl, chunks⟩
    rename_i i hi
    obtain ⟨size, hsize, hlarge⟩ := largestSplittable_size hi
    obtain ⟨hlt, rfl⟩ := List.getElem?_eq_some_iff.mp hsize
    have hget : sizes.getD i 0 = sizes[i] := by rw [getD_eq_getElem?_getD, hsize, getD_some]
    dsimp only
    rw [hget]
    have hhalf : g.minChunkSizeGiB ≤ sizes[i].tdiv 2 ∧ g.minChunkSizeGiB ≤ sizes[i] - sizes[i].tdiv 2 := by
      rw [Int.tdiv_eq_ediv_of_nonneg (by omega)]
      omega
    generalize sizes[i].tdiv 2 = half at hhalf ⊢
    obtain ⟨hsum, hchunks⟩ := @ih (sizes.set i half ++ [sizes[i] - half]) (by
      intro size hmem
      rcases mem_append.mp hmem with hmem | hmem
      · rcases mem_or_eq_of_mem_set hmem with hmem | rfl
        · exact chunks size hmem
        · exact hhalf.1
      · rw [mem_singleton.mp hmem]
        exact hhalf.2)
    refine ⟨?_, hchunks⟩
    rw [hsum, sum_append, sum_singleton, sum_set', dif_pos hlt]
    omega

theorem fitToPhysicalStrategies_splits (need : 0 ≤ g.totalCapacityNeeded) (chunk : 0 ≤ g.minChunkSizeGiB)
    (h : sizes ∈ g.fitToPhysicalStrategies) : g.Splits sizes := by
  unfold fitToPhysicalStrategies at h
  split at h
  swap
  · cases h
  obtain ⟨htotal, hmost, hchunks⟩ := @takePhysical_takes g g.sortedAvailableCapacities 0 need
  obtain ⟨hsum, hkept⟩ := splitLargest_keeps chunk g.numCores.toNat hchunks
  dsimp only at h
  split at h
  · cases h
  split at h
  · rename_i hcount
    cases mem_singleton.mp h
    exact ⟨by omega, hkept, hcount.1, hcount.2⟩
  · cases h

theorem generateStrategies_splits (need : 0 ≤ g.totalCapacityNeeded) (cores : 0 < g.numCores) (chunk : 0 ≤ g.minChunkSizeGiB)
    (h : sizes ∈ g.generateStrategies) : g.Splits sizes := by
  rcases mem_append.mp h with h | h
  · exact evenDistributionStrategies_splits need cores h
  · exact fitToPhysicalStrategies_splits need chunk h

theorem splitLargest_enough {rounds : Nat} (enough : g.numCores ≤ sizes.length + rounds) (more : Nat) :
    g.splitLargest (rounds + more) sizes = g.splitLargest rounds sizes := by
  induction rounds generalizing sizes with
  | zero =>
    cases more with
    | zero => rfl
    | succ more => rw [Nat.zero_add, splitLargest, splitLargest, if_neg (by omega)]
  | succ rounds ih =>
    rw [Nat.add_right_comm, splitLargest, splitLargest]
    split
    · split
      · rfl
      · refine ih ?_
        rw [length_append, length_set, length_singleton]
        push_cast at enough ⊢
        omega
    · rfl

end AllocationStrategyGenerator

theorem strategies_sound {g : AllocationStrategyGenerator} (need : 1 ≤ g.totalCapacityNeeded) (cores : 1 ≤ g.numCores)
    (chunk : 1 ≤ g.minChunkSizeGiB) {usable : List PhysicalDriveCapacity}
    (sorted : usable.Pairwise fun a b => b.availableCapacity ≤ a.availableCapacity) (driveSizes : List Int) :
    (∀ sizes rounds, g.numCores.toNat ≤ rounds → g.splitLargest rounds sizes = g.splitLargest g.numCores.toNat sizes) ∧
      (∀ sizes ∈ g.generateStrategies, g.Splits sizes) ∧
      (∀ placed bins, placed <+: driveSizes → workingList usable placed = some bins →
        (bins.Pairwise fun a b => b.2 ≤ a.2) ∧ (bins.map (·.1)).Perm (usable.map (·.drive))) ∧
      ∀ plan, tryAllocateStrategy usable driveSizes = some plan →
        (workingList usable driveSizes).isSome ∧ plan.map (·.2) = driveSizes ∧
          ∀ uuid, ((plan.filter fun x => x.1.physicalUUID = uuid).map (·.2)).sum ≤
            ((usable.filter fun dc => dc.drive.physicalUUID = uuid).map fun dc => max 0 dc.availableCapacity).sum := by
  refine ⟨fun sizes rounds h => ?_, fun sizes h => ?_, fun placed bins _ h => ?_, fun plan h => ?_⟩
  · obtain ⟨more, rfl⟩ := Nat.exists_eq_add_of_le h
    exact splitLargest_enough (by omega) more
  · exact generateStrategies_splits (by omega) cores (by omega) h
  · have := binsAfter_keeps (pairwise_map.mpr sorted) h
    rw [List.map_map] at this
    exact this
  · unfold tryAllocateStrategy at h
    split at h
    · cases h
    refine ⟨?_, packAll_sizes h, fun uuid => ?_⟩
    · rw [workingList, binsAfter_isSome]
      exact isSome_of_eq_some h
    · refine (packedInto_le_sum (fun d : SharedDriveInfo => d.physicalUUID = uuid) h).trans_eq ?_
      rw [List.filter_map, List.map_map]
      rfl

def unevenDrives : List PhysicalDriveCapacity :=
  [⟨⟨"u0", "s0", 900, none⟩, 900, 0, 900⟩, ⟨⟨"u1", "s1", 500, none⟩, 500, 0, 500⟩]

def unevenGenerator : AllocationStrategyGenerator where
  totalCapacityNeeded := 1000
  numCores := 2
  maxDrives := 4
  minChunkSizeGiB := 384
  driveCapacities := unevenDrives.foldl (fun m dc => m.insert dc.drive.physicalUUID dc) ∅

theorem strategies_sound_uneven : [500, 500] ∈ unevenGenerator.generateStrategies ∧ unevenGenerator.Splits [500, 500] ∧
    ∃ plan, tryAllocateStrategy unevenDrives [500, 500] = some plan ∧ plan.map (·.2) = [500, 500] := by
  have generated : [500, 500] ∈ unevenGenerator.generateStrategies := by decide
  obtain ⟨-, splits, -, packed⟩ := @strategies_sound unevenGenerator (by decide) (by decide) (by decide) unevenDrives
    (by decide) [500, 500]
  exact ⟨generated, splits _ generated, _, rfl, (packed _ rfl).2.1⟩

end WekaOperator.Allocator
