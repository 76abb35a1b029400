import WekaOperator.Allocator.Claims

/-! Shared drives by number: when the rounds succeed. -/

namespace WekaOperator.Allocator
open List Lib Planner Containers

/-- How many virtual drives of a size fit into the bins. -/
def slots (size : Int) (bins : List PhysicalDriveCapacity) : Int := (bins.map (·.availableCapacity / size)).sum

/-- What the containers leave of a shared drive. -/
def leftOn (containers : List WekaContainer) (d : SharedDriveInfo) : Int :=
  d.capacityGiB - claimedOn d.physicalUUID (virtualDrivesOf containers)

/-- How many virtual drives of a size fit into the TLC drives. -/
def drivesThatFit (size : Int) (containers : List WekaContainer) (drives : List SharedDriveInfo) : Int :=
  (((typedDrives drives .tlc).filter fun d => size ≤ leftOn containers d).map (leftOn containers · / size)).sum

/-! ### Rounds -/

section Rounds
variable {order : MapOrder PhysicalDriveCapacity} {size : Int} {bins : List PhysicalDriveCapacity}

theorem slots_eq_zero (h : ∀ dc ∈ bins, 0 ≤ dc.availableCapacity ∧ dc.availableCapacity < size) : slots size bins = 0 := by
  refine sum_eq_zero fun n hn => ?_
  obtain ⟨dc, hdc, rfl⟩ := mem_map.mp hn
  exact Int.ediv_eq_zero_of_lt (h dc hdc).1 (h dc hdc).2

theorem slots_mul_le (hsize : 0 < size) (bins : List PhysicalDriveCapacity) : slots size bins * size ≤ (bins.map (·.availableCapacity)).sum := by
  unfold slots
  induction bins with
  | nil => simp
  | cons dc bins ih =>
    rw [map_cons, sum_cons, map_cons, sum_cons, Int.add_mul]
    exact Int.add_le_add (Int.ediv_mul_le _ hsize.ne') ih

theorem allocateRounds_ok_iff (order : MapOrder PhysicalDriveCapacity) (hsize : 0 < size) (rounds i : Nat) (room : ∀ dc ∈ bins, 0 ≤ dc.availableCapacity)
    (sorted : bins.Pairwise fun a b => b.availableCapacity ≤ a.availableCapacity) :
    (∃ vds, allocateRounds order size rounds i bins = .ok vds) ↔ (rounds : Int) ≤ slots size bins := by
  induction rounds generalizing i bins with
  | zero =>
    have hslots : 0 ≤ slots size bins := by
      refine sum_nonneg fun n hn => ?_
      obtain ⟨dc, hdc, rfl⟩ := mem_map.mp hn
      exact Int.ediv_nonneg (room dc hdc) hsize.le
    exact ⟨fun _ => hslots, fun _ => ⟨[], rfl⟩⟩
  | succ rounds ih =>
    cases bins with
    | nil =>
      refine ⟨fun ⟨_, h⟩ => (by cases h), fun h => ?_⟩
      have : slots size [] = 0 := rfl
      omega
    | cons selected others =>
      obtain ⟨most, -⟩ := pairwise_cons.mp sorted
      rcases lt_or_ge selected.availableCapacity size with hfull | hfits
      · -- The first bin has most room, so no bin has room for one.
        have : slots size (selected :: others) = 0 := by
          refine slots_eq_zero fun dc hdc => ⟨room dc hdc, ?_⟩
          rcases mem_cons.mp hdc with rfl | hdc
          · exact hfull
          · exact (most dc hdc).trans_lt hfull
        obtain ⟨e, he⟩ := @allocateRounds_succ_full order size rounds i selected others hfull
        rw [he]
        refine ⟨fun ⟨_, h⟩ => (by cases h), fun h => ?_⟩
        omega
      · have hperm := nextBins_perm order size selected others
        have hroom : ∀ dc ∈ nextBins order size selected others, 0 ≤ dc.availableCapacity := by
          intro dc hdc
          rcases mem_cons.mp (hperm.mem_iff.mp hdc) with rfl | hdc
          · exact Int.sub_nonneg.mpr hfits
          · exact room dc (mem_cons_of_mem _ hdc)
        have hslots : slots size (selected :: others) = slots size (nextBins order size selected others) + 1 := by
          have hone : (afterRound size selected).availableCapacity / size = selected.availableCapacity / size - 1 := by
            rw [afterRound, Int.sub_ediv_of_dvd _ (dvd_refl size), Int.ediv_self hsize.ne']
          unfold slots
          rw [(hperm.map _).sum_eq, map_cons, map_cons, sum_cons, sum_cons, hone]
          omega
        have hrest := ih (i + 1) hroom (pairwise_insertionSort _ _)
        rw [hslots]
        push_cast
        constructor
        · rintro ⟨vds, h⟩
          obtain ⟨_, _, rest, e, -, hok, -⟩ := allocateRounds_succ_ok h
          cases e
          have := hrest.mp ⟨rest, hok⟩
          omega
        · intro h
          obtain ⟨rest, hok⟩ := hrest.mpr (by omega)
          exact ⟨_, by rw [allocateRounds_succ hfits, hok]; rfl⟩

end Rounds

/-! ### Usable drives -/

section Usable
variable {drives : List SharedDriveInfo}

theorem isSome_lookup_claim (capacities : DriveCapacities) (vd : VirtualDrive) (uuid : String) :
    ((claim capacities vd).lookup uuid).isSome = (capacities.lookup uuid).isSome := by
  unfold claim
  split
  · rfl
  · rename_i dc hdc
    rw [lookup_insert_eq]
    split
    · rename_i e
      rw [e, hdc]
      rfl
    · rfl

theorem isSome_lookup_buildDriveCapacityMap (containers : List WekaContainer) {d : SharedDriveInfo} (hd : d ∈ drives) :
    ((buildDriveCapacityMap drives containers).lookup d.physicalUUID).isSome := by
  have claims : ∀ (vds : List VirtualDrive) (capacities : DriveCapacities),
      ((vds.foldl claim capacities).lookup d.physicalUUID).isSome = (capacities.lookup d.physicalUUID).isSome := by
    intro vds
    induction vds with
    | nil => exact fun _ => rfl
    | cons vd vds ih =>
      intro capacities
      rw [foldl_cons, ih, isSome_lookup_claim]
  rw [buildDriveCapacityMap, claims, isSome_lookup_foldl_insert, decide_eq_true (mem_map_of_mem hd), Bool.or_true]

theorem buildDriveCapacityMap_drives (containers : List WekaContainer) (uuids : (drives.map (·.physicalUUID)).Nodup) :
    ((buildDriveCapacityMap drives containers).entries.map (·.2.drive)).Perm drives := by
  have named : ∀ e ∈ (buildDriveCapacityMap drives containers).entries, e.2.drive.physicalUUID = e.1 :=
    fun e he => (buildDriveCapacityMap_tracks (mem_entries_iff.mp he)).named
  have keys : (((buildDriveCapacityMap drives containers).entries.map (·.2.drive)).map (·.physicalUUID)).Nodup := by
    rw [map_map, map_congr_left (g := (·.1)) named]
    exact (buildDriveCapacityMap drives containers).keys_nodup
  refine (perm_ext_iff_of_nodup keys.of_map uuids.of_map).mpr fun d => ⟨fun h => ?_, fun h => ?_⟩
  · obtain ⟨e, he, rfl⟩ := mem_map.mp h
    exact (buildDriveCapacityMap_tracks (mem_entries_iff.mp he)).drive
  · obtain ⟨dc, hdc⟩ := Option.isSome_iff_exists.mp (isSome_lookup_buildDriveCapacityMap containers h)
    have tracks := buildDriveCapacityMap_tracks hdc
    obtain rfl := inj_on_of_nodup_map uuids tracks.drive h tracks.named
    exact mem_map.mpr ⟨⟨_, dc⟩, mem_entries_iff.mpr hdc, rfl⟩

theorem slots_usable (order : MapOrder PhysicalDriveCapacity) (size : Int) (containers : List WekaContainer)
    (uuids : (drives.map (·.physicalUUID)).Nodup) :
    slots size (filterAndSortUsableDrives order (buildDriveCapacityMap (typedDrives drives .tlc) containers) size) =
      drivesThatFit size containers drives := by
  have typed : ((typedDrives drives .tlc).map (·.physicalUUID)).Nodup := (filter_sublist.map _).nodup uuids
  have left : ∀ e ∈ (buildDriveCapacityMap (typedDrives drives .tlc) containers).entries,
      e.2.availableCapacity = leftOn containers e.2.drive := by
    intro e he
    have tracks := buildDriveCapacityMap_tracks (mem_entries_iff.mp he)
    rw [tracks.available, leftOn, tracks.named]
  have keep : ∀ e ∈ (buildDriveCapacityMap (typedDrives drives .tlc) containers).entries,
      decide (size ≤ e.2.availableCapacity) = decide (size ≤ leftOn containers e.2.drive) := by
    intro e he
    rw [left e he]
  unfold slots filterAndSortUsableDrives drivesThatFit
  rw [((perm_insertionSort _ _).map _).sum_eq, (((order.perm _).filter _).map _).sum_eq,
    ← (((buildDriveCapacityMap_drives containers typed).filter _).map _).sum_eq, filter_map, filter_map,
    map_map, map_map]
  refine congrArg List.sum ((congrArg (List.map _) (filter_congr keep)).trans (map_congr_left fun e he => ?_))
  exact congrArg (· / size) (left e (mem_filter.mp he).1)

end Usable

/-- Shared drives by number are allocated if and only if so many fit on the usable TLC drives. They are as many as asked
    for and of the size asked for, and no physical drive has more on it than its capacity. -/
theorem allocateSharedDrivesByDrivesNum_ok_iff {order : MapOrder PhysicalDriveCapacity} {driveCapacity numDrives : Int}
    {containers : List WekaContainer} {drives : List SharedDriveInfo} (uuids : (drives.map (·.physicalUUID)).Nodup)
    (within : ∀ d ∈ drives, claimedOn d.physicalUUID (virtualDrivesOf containers) ≤ d.capacityGiB)
    (hcapacity : 1 ≤ driveCapacity) (hnum : 1 ≤ numDrives) :
    ((∃ vds, allocateSharedDrivesByDrivesNum order driveCapacity numDrives containers drives = .ok vds) ↔
      numDrives ≤ drivesThatFit driveCapacity containers drives) ∧
    ∀ vds, allocateSharedDrivesByDrivesNum order driveCapacity numDrives containers drives = .ok vds →
      (vds.length : Int) = numDrives ∧ (∀ vd ∈ vds, vd.capacityGiB = driveCapacity) ∧
      ∀ d ∈ drives, claimedOn d.physicalUUID (virtualDrivesOf containers) + claimedOn d.physicalUUID vds ≤ d.capacityGiB := by
  have hslots := slots_usable order driveCapacity containers uuids
  have hsorted : (filterAndSortUsableDrives order (buildDriveCapacityMap (typedDrives drives .tlc) containers) driveCapacity).Pairwise
      fun a b => b.availableCapacity ≤ a.availableCapacity := pairwise_insertionSort _ _
  have hroom : ∀ dc ∈ filterAndSortUsableDrives order (buildDriveCapacityMap (typedDrives drives .tlc) containers) driveCapacity,
      0 ≤ dc.availableCapacity := by
    intro dc hdc
    have := (usable_tracks hdc).2.2.2
    omega
  have hsum := slots_mul_le (show 0 < driveCapacity by omega)
    (filterAndSortUsableDrives order (buildDriveCapacityMap (typedDrives drives .tlc) containers) driveCapacity)
  have hrounds := allocateRounds_ok_iff order (show 0 < driveCapacity by omega) numDrives.toNat 1 hroom hsorted
  rw [hslots] at hsum hrounds
  rw [Int.toNat_of_nonneg (by omega)] at hrounds
  refine ⟨?_, fun vds h => ?_⟩
  · rw [← hrounds]
    unfold allocateSharedDrivesByDrivesNum
    rw [if_neg (by omega)]
    dsimp only
    split
    · rename_i hshort
      refine ⟨fun ⟨_, h⟩ => (by cases h), fun h => ?_⟩
      have hfit := hrounds.mp h
      rcases hshort with hnil | hshort
      · rw [hnil] at hslots
        have : drivesThatFit driveCapacity containers drives = 0 := hslots.symm
        omega
      · have := Int.mul_le_mul_of_nonneg_right hfit (show 0 ≤ driveCapacity by omega)
        omega
    · exact Iff.rfl
  · refine ⟨?_, ?_, fun d hd => allocateSharedDrivesByDrivesNum_fits uuids h d hd (within d hd)⟩
    all_goals
      unfold allocateSharedDrivesByDrivesNum at h
      obtain ⟨-, h⟩ := ite_error_eq_ok.mp h
      obtain ⟨-, h⟩ := ite_error_eq_ok.mp h
      obtain ⟨hlength, hsizes⟩ := allocateRounds_sizes h
    · omega
    · exact hsizes

/-- Two drives of which a container holds a part: two virtual drives fit, one on each. -/
theorem allocateSharedDrivesByDrivesNum_two :
    let drives : List SharedDriveInfo := [⟨"p1", "s1", 1000, some .tlc⟩, ⟨"p2", "s2", 700, some .tlc⟩]
    let other : WekaContainer :=
      { name := "drive-0", spec := { mode := .drive, numCores := 1 }
        allocations := some { virtualDrives := [{ physicalUUID := "p1", capacityGiB := 400, serial := "s1", type := some .tlc }] } }
    ∃ vds, allocateSharedDrivesByDrivesNum .asListed 400 2 [other] drives = .ok vds :=
  (allocateSharedDrivesByDrivesNum_ok_iff (by decide) (by decide) (by decide) (by decide)).1.mpr (by decide)

end WekaOperator.Allocator
