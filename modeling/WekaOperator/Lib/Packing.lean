import Mathlib

/-! Packing sizes into bins, first fit: each size goes to the first bin with room for it, and that bin then moves down
    past the bins that have more room left. -/

namespace WekaOperator.Lib

open List Option

variable {α : Type}

/-- Bins with more room come first. -/
def roomier (a b : α × Int) : Prop := b.2 ≤ a.2

instance : DecidableRel (roomier (α := α)) := fun _ _ => inferInstanceAs (Decidable (_ ≤ _))

/-- Puts a size into the first bin with room. -/
def packOne (size : Int) : List (α × Int) → Option (α × List (α × Int))
  | [] => none
  | (a, room) :: rest =>
    if room < size then (packOne size rest).map fun packed => (packed.1, (a, room) :: packed.2)
    else some (a, rest.orderedInsert roomier (a, room - size))

/-- Puts all sizes into the bins, one after the other. -/
def packAll : List Int → List (α × Int) → Option (List (α × Int))
  | [], _ => some []
  | size :: sizes, bins => (packOne size bins).bind fun packed => (packAll sizes packed.2).map ((packed.1, size) :: ·)

/-- The bins left after the sizes are placed one by one. -/
def binsAfter : List Int → List (α × Int) → Option (List (α × Int))
  | [], bins => some bins
  | size :: sizes, bins => (packOne size bins).bind fun packed => binsAfter sizes packed.2

instance : Std.Total (roomier (α := α)) := ⟨fun a b => le_total b.2 a.2⟩

instance : IsTrans (α × Int) roomier := ⟨fun _ _ _ hab hbc => le_trans hbc hab⟩

section
variable {size : Int} {sizes : List Int} {bins bins' placed : List (α × Int)} {a : α}

theorem packOne_perm (h : packOne size bins = some (a, bins')) :
    ∃ room others, size ≤ room ∧ bins.Perm ((a, room) :: others) ∧ bins'.Perm ((a, room - size) :: others) := by
  induction bins generalizing bins' with
  | nil => cases h
  | cons bin rest ih =>
    obtain ⟨b, room⟩ := bin
    unfold packOne at h
    split at h
    · obtain ⟨⟨a', rest'⟩, hrest, heq⟩ := map_eq_some_iff.mp h
      cases heq
      obtain ⟨room', others, hle, hperm, hperm'⟩ := ih hrest
      refine ⟨room', (b, room) :: others, hle, ?_, ?_⟩
      · exact (hperm.cons _).trans (.swap ..)
      · exact (hperm'.cons _).trans (.swap ..)
    · rename_i hroom
      cases h
      exact ⟨room, rest, not_lt.mp hroom, .refl _, perm_orderedInsert ..⟩

theorem packOne_sorted (sorted : bins.Pairwise roomier) (h : packOne size bins = some (a, bins')) :
    bins'.Pairwise roomier := by
  cases bins with
  | nil => cases h
  | cons bin rest =>
    obtain ⟨b, room⟩ := bin
    obtain ⟨first, below⟩ := pairwise_cons.mp sorted
    unfold packOne at h
    split at h
    · -- The bins further down have no more room than the first.
      rename_i short
      obtain ⟨⟨a', rest'⟩, hrest, -⟩ := map_eq_some_iff.mp h
      obtain ⟨room', others, hle, hperm, -⟩ := packOne_perm hrest
      have : room' ≤ room := first (a', room') (hperm.mem_iff.mpr mem_cons_self)
      omega
    · cases h
      exact below.orderedInsert _ _

theorem packAll_cons : packAll (size :: sizes) bins = some placed ↔
    ∃ a bins' rest, packOne size bins = some (a, bins') ∧ packAll sizes bins' = some rest ∧ placed = (a, size) :: rest := by
  simp only [packAll, bind_eq_some_iff, map_eq_some_iff, Prod.exists]
  constructor
  · rintro ⟨a, bins', hone, rest, hrest, rfl⟩
    exact ⟨a, bins', rest, hone, hrest, rfl⟩
  · rintro ⟨a, bins', rest, hone, hrest, rfl⟩
    exact ⟨a, bins', hone, rest, hrest, rfl⟩

theorem packAll_sizes (h : packAll sizes bins = some placed) : placed.map (·.2) = sizes := by
  induction sizes generalizing bins placed with
  | nil => cases h; rfl
  | cons size sizes ih =>
    obtain ⟨a, bins', rest, -, hrest, rfl⟩ := packAll_cons.mp h
    rw [map_cons, ih hrest]

theorem packAll_bins (h : packAll sizes bins = some placed) : ∀ x ∈ placed, x.1 ∈ bins.map (·.1) := by
  induction sizes generalizing bins placed with
  | nil =>
    cases h
    exact fun _ hx => (by cases hx)
  | cons size sizes ih =>
    obtain ⟨a, bins', rest, hone, hrest, rfl⟩ := packAll_cons.mp h
    obtain ⟨room, others, -, hperm, hperm'⟩ := packOne_perm hone
    intro x hx
    rw [(hperm.map _).mem_iff, map_cons]
    rcases mem_cons.mp hx with rfl | hx
    · exact mem_cons_self
    · have := ih hrest x hx
      rwa [(hperm'.map _).mem_iff, map_cons] at this

theorem binsAfter_isSome : (binsAfter sizes bins).isSome = (packAll sizes bins).isSome := by
  induction sizes generalizing bins with
  | nil => rfl
  | cons size sizes ih =>
    rw [packAll, binsAfter]
    cases packOne size bins with
    | none => rfl
    | some packed => rw [bind_some, bind_some, isSome_map, ih]

theorem binsAfter_keeps (sorted : bins.Pairwise roomier) (h : binsAfter sizes bins = some bins') :
    bins'.Pairwise roomier ∧ (bins'.map (·.1)).Perm (bins.map (·.1)) := by
  induction sizes generalizing bins with
  | nil =>
    cases h
    exact ⟨sorted, .refl _⟩
  | cons size sizes ih =>
    obtain ⟨⟨a, next⟩, hone, hrest⟩ := bind_eq_some_iff.mp h
    obtain ⟨sorted', kept⟩ := ih (packOne_sorted sorted hone) hrest
    obtain ⟨room, others, -, hperm, hperm'⟩ := packOne_perm hone
    exact ⟨sorted', kept.trans ((hperm'.map (·.1)).trans (hperm.map (·.1)).symm)⟩

/-- What was put into the bins that satisfy `p`. -/
def packedInto (p : α → Bool) (placed : List (α × Int)) : Int := ((placed.filter fun x => p x.1).map (·.2)).sum

theorem packedInto_le_sum (p : α → Bool) (h : packAll sizes bins = some placed) :
    packedInto p placed ≤ ((bins.filter fun bin => p bin.1).map fun bin => max 0 bin.2).sum := by
  induction sizes generalizing bins placed with
  | nil =>
    cases h
    refine sum_nonneg fun x hx => ?_
    obtain ⟨bin, -, rfl⟩ := mem_map.mp hx
    exact le_max_left _ _
  | cons size sizes ih =>
    obtain ⟨a, bins', rest, hone, hrest, rfl⟩ := packAll_cons.mp h
    obtain ⟨room, others, hle, hperm, hperm'⟩ := packOne_perm hone
    have := ih hrest
    rw [((hperm'.filter _).map _).sum_eq, filter_cons] at this
    rw [((hperm.filter _).map _).sum_eq, packedInto, filter_cons, filter_cons]
    split at this
    · rename_i hp
      simp only [if_pos hp, map_cons, sum_cons, packedInto] at this ⊢
      omega
    · rename_i hp
      rw [if_neg hp, if_neg hp]
      exact this

theorem packedInto_le {κ : Type} [DecidableEq κ] {key : α → κ} (h : packAll sizes bins = some placed)
    (keys : (bins.map fun bin => key bin.1).Nodup) {bin : α × Int} (hbin : bin ∈ bins) (hroom : 0 ≤ bin.2) :
    packedInto (fun b => key b = key bin.1) placed ≤ bin.2 := by
  obtain ⟨before, after, rfl⟩ := append_of_mem hbin
  -- The bin has its key to itself.
  have others : ∀ other ∈ before ++ after, key other.1 ≠ key bin.1 := by
    rw [(perm_middle.map _).nodup_iff, map_cons, nodup_cons] at keys
    exact fun other hother e => keys.1 (mem_map.mpr ⟨other, hother, e⟩)
  refine (packedInto_le_sum _ h).trans_eq ?_
  rw [((perm_middle.filter _).map _).sum_eq, filter_cons_of_pos (by simp),
    filter_eq_nil_iff.mpr fun other hother => by simpa using others other hother]
  exact sum_singleton.trans (max_eq_right hroom)

end
end WekaOperator.Lib
