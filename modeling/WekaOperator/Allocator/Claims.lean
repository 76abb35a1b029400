import WekaOperator.Allocator.Drives

/-! What an allocation adds to the drives of a container: exclusive drives that no listed container has, and virtual
    drives within what the listed containers leave of the physical ones. -/

namespace WekaOperator.Allocator
open List Lib Planner Containers

/-! ### Bins -/

/-- The virtual drives fit into the bins. -/
structure Packed (bins : List PhysicalDriveCapacity) (vds : List VirtualDrive) : Prop where
  source : ∀ vd ∈ vds, ∃ dc ∈ bins, dc.drive.physicalUUID = vd.physicalUUID
  room : ∀ dc ∈ bins, 0 ≤ dc.availableCapacity → claimedOn dc.drive.physicalUUID vds ≤ dc.availableCapacity

theorem claimedOn_cons (uuid : String) (vd : VirtualDrive) (vds : List VirtualDrive) :
    claimedOn uuid (vd :: vds) = (if vd.physicalUUID = uuid then vd.capacityGiB else 0) + claimedOn uuid vds := by
  unfold claimedOn
  by_cases h : vd.physicalUUID = uuid <;> simp [h]

theorem claimedOn_eq_zero {uuid : String} {vds : List VirtualDrive} (h : ∀ vd ∈ vds, vd.physicalUUID ≠ uuid) :
    claimedOn uuid vds = 0 := by
  rw [claimedOn, filter_eq_nil_iff.mpr (by simpa using h)]
  rfl

theorem tryAllocateStrategy_packed {bins : List PhysicalDriveCapacity} {sizes : List Int} {plan : List (SharedDriveInfo × Int)}
    (p : PoolKind) (keys : (bins.map (·.drive.physicalUUID)).Nodup) (h : tryAllocateStrategy bins sizes = some plan) :
    Packed bins (plan.map (plannedDrive p)) := by
  unfold tryAllocateStrategy at h
  split at h
  · cases h
  have hclaimed : ∀ uuid, claimedOn uuid (plan.map (plannedDrive p)) = packedInto (fun d => d.physicalUUID = uuid) plan := by
    intro uuid
    rw [claimedOn, packedInto, filter_map, map_map]
    rfl
  refine ⟨fun vd hvd => ?_, fun dc hdc hroom => ?_⟩
  · obtain ⟨x, hx, rfl⟩ := mem_map.mp hvd
    have hbin := packAll_bins h x hx
    rw [map_map] at hbin
    obtain ⟨dc, hdc, hdrive⟩ := mem_map.mp hbin
    exact ⟨dc, hdc, congrArg (·.physicalUUID) hdrive⟩
  · rw [hclaimed]
    have hbin : (dc.drive, dc.availableCapacity) ∈ bins.map fun dc => (dc.drive, dc.availableCapacity) :=
      mem_map.mpr ⟨dc, hdc, rfl⟩
    have hkeys : ((bins.map fun dc => (dc.drive, dc.availableCapacity)).map fun bin => bin.1.physicalUUID).Nodup := by
      rwa [map_map]
    exact packedInto_le h hkeys hbin hroom

section Rounds
variable {order : MapOrder PhysicalDriveCapacity} {size : Int} {rounds i : Nat} {bins : List PhysicalDriveCapacity}
  {vds : List VirtualDrive}

/-- The bin after one virtual drive. -/
def afterRound (size : Int) (selected : PhysicalDriveCapacity) : PhysicalDriveCapacity := { selected with
  claimedCapacity := selected.claimedCapacity + size, availableCapacity := selected.availableCapacity - size }

/-- The bins for the next round, the roomiest first. -/
def nextBins (order : MapOrder PhysicalDriveCapacity) (size : Int) (selected : PhysicalDriveCapacity)
    (others : List PhysicalDriveCapacity) : List PhysicalDriveCapacity :=
  (order.arrange (afterRound size selected :: others)).insertionSort fun a b => b.availableCapacity ≤ a.availableCapacity

theorem nextBins_perm (order : MapOrder PhysicalDriveCapacity) (size : Int) (selected : PhysicalDriveCapacity)
    (others : List PhysicalDriveCapacity) : (nextBins order size selected others).Perm (afterRound size selected :: others) :=
  (perm_insertionSort _ _).trans (order.perm _)

theorem allocateRounds_succ {selected : PhysicalDriveCapacity} {others : List PhysicalDriveCapacity}
    (h : size ≤ selected.availableCapacity) : allocateRounds order size (rounds + 1) i (selected :: others) =
      (allocateRounds order size rounds (i + 1) (nextBins order size selected others)).map
        (plannedDrive .tlc (selected.drive, size) :: ·) :=
  if_neg (not_lt.mpr h)

theorem allocateRounds_succ_full {selected : PhysicalDriveCapacity} {others : List PhysicalDriveCapacity}
    (h : selected.availableCapacity < size) :
    ∃ e, allocateRounds order size (rounds + 1) i (selected :: others) = .error e :=
  ⟨_, if_pos h⟩

theorem allocateRounds_succ_ok (h : allocateRounds order size (rounds + 1) i bins = .ok vds) :
    ∃ selected others rest, bins = selected :: others ∧ size ≤ selected.availableCapacity ∧
      allocateRounds order size rounds (i + 1) (nextBins order size selected others) = .ok rest ∧
      vds = plannedDrive .tlc (selected.drive, size) :: rest := by
  cases bins with
  | nil => cases h
  | cons selected others =>
    rcases lt_or_ge selected.availableCapacity size with hfull | hfits
    · obtain ⟨e, he⟩ := @allocateRounds_succ_full order size rounds i selected others hfull
      rw [he] at h
      cases h
    · rw [allocateRounds_succ hfits] at h
      cases hrest : allocateRounds order size rounds (i + 1) (nextBins order size selected others) with
      | error e =>
        rw [hrest] at h
        cases h
      | ok rest =>
        rw [hrest] at h
        cases h
        exact ⟨selected, others, rest, rfl, hfits, hrest, rfl⟩

theorem allocateRounds_packed (keys : (bins.map (·.drive.physicalUUID)).Nodup)
    (h : allocateRounds order size rounds i bins = .ok vds) : Packed bins vds := by
  induction rounds generalizing i bins vds with
  | zero =>
    cases h
    exact ⟨fun vd hvd => (by cases hvd), fun _ _ hroom => hroom⟩
  | succ rounds ih =>
    obtain ⟨selected, others, rest, rfl, hfits, hrest, rfl⟩ := allocateRounds_succ_ok h
    have hperm := nextBins_perm order size selected others
    have hkeys : ((nextBins order size selected others).map (·.drive.physicalUUID)).Nodup := by
      rw [(hperm.map _).nodup_iff]
      exact keys
    obtain ⟨source, room⟩ := ih hkeys hrest
    rw [map_cons, nodup_cons] at keys
    refine ⟨fun vd hvd => ?_, fun dc hdc hroom => ?_⟩
    · rcases mem_cons.mp hvd with rfl | hvd
      · exact ⟨selected, mem_cons_self, rfl⟩
      · obtain ⟨dc, hdc, huuid⟩ := source vd hvd
        rcases mem_cons.mp (hperm.mem_iff.mp hdc) with rfl | hdc
        · exact ⟨selected, mem_cons_self, huuid⟩
        · exact ⟨dc, mem_cons_of_mem _ hdc, huuid⟩
    · have hfirst : claimedOn dc.drive.physicalUUID (plannedDrive .tlc (selected.drive, size) :: rest) =
          (if selected.drive.physicalUUID = dc.drive.physicalUUID then size else 0) +
            claimedOn dc.drive.physicalUUID rest := claimedOn_cons _ _ _
      rw [hfirst]
      rcases mem_cons.mp hdc with rfl | hdc
      · have : claimedOn dc.drive.physicalUUID rest ≤ dc.availableCapacity - size :=
          room _ (hperm.mem_iff.mpr mem_cons_self) (Int.sub_nonneg.mpr hfits)
        rw [if_pos rfl]
        omega
      · have hne : selected.drive.physicalUUID ≠ dc.drive.physicalUUID := by
          intro e
          exact keys.1 (e ▸ mem_map_of_mem (f := fun dc : PhysicalDriveCapacity => dc.drive.physicalUUID) hdc)
        rw [if_neg hne, zero_add]
        exact room dc (hperm.mem_iff.mpr (mem_cons_of_mem _ hdc)) hroom

theorem allocateRounds_sizes (h : allocateRounds order size rounds i bins = .ok vds) :
    vds.length = rounds ∧ ∀ vd ∈ vds, vd.capacityGiB = size := by
  induction rounds generalizing i bins vds with
  | zero =>
    cases h
    exact ⟨rfl, fun vd hvd => by cases hvd⟩
  | succ rounds ih =>
    obtain ⟨_, _, rest, -, -, hrest, rfl⟩ := allocateRounds_succ_ok h
    obtain ⟨hlength, hsizes⟩ := ih hrest
    refine ⟨congrArg (· + 1) hlength, fun vd hvd => ?_⟩
    rcases mem_cons.mp hvd with rfl | hvd
    · rfl
    · exact hsizes vd hvd

end Rounds

/-! ### Shared drives -/

/-- The virtual drives fit on the drives next to those of the containers. -/
def FitsOn (drives : List SharedDriveInfo) (containers : List WekaContainer) (vds : List VirtualDrive) : Prop :=
  ∀ d ∈ drives, claimedOn d.physicalUUID (virtualDrivesOf containers) ≤ d.capacityGiB →
    claimedOn d.physicalUUID (virtualDrivesOf containers) + claimedOn d.physicalUUID vds ≤ d.capacityGiB

/-- They fit, on drives of this type. -/
structure FitsType (drives : List SharedDriveInfo) (containers : List WekaContainer) (p : PoolKind) (vds : List VirtualDrive) :
    Prop where
  fits : FitsOn drives containers vds
  typed : ∀ vd ∈ vds, ∃ d ∈ drives, d.type = some p ∧ d.physicalUUID = vd.physicalUUID

section Shared
variable {order : MapOrder PhysicalDriveCapacity} {drives : List SharedDriveInfo} {containers : List WekaContainer}
  {vds : List VirtualDrive} {p : PoolKind}

theorem FitsOn.nil : FitsOn drives containers [] := by
  intro d _ h
  have hnone : claimedOn d.physicalUUID [] = 0 := rfl
  omega

theorem FitsType.nil : FitsType drives containers p [] := ⟨.nil, fun _ hvd => by cases hvd⟩

variable (uuids : (drives.map (·.physicalUUID)).Nodup)
include uuids

theorem FitsType.append {tlc qlc : List VirtualDrive} (htlc : FitsType drives containers .tlc tlc)
    (hqlc : FitsType drives containers .qlc qlc) : FitsOn drives containers (tlc ++ qlc) := by
  have none : ∀ {q vds}, FitsType drives containers q vds → ∀ d ∈ drives, d.type ≠ some q →
      claimedOn d.physicalUUID vds = 0 := by
    intro q vds h d hd htype
    refine claimedOn_eq_zero fun vd hvd huuid => ?_
    obtain ⟨d', hd', htype', huuid'⟩ := h.typed vd hvd
    have hsame := inj_on_of_nodup_map uuids hd' hd (huuid'.trans huuid)
    exact htype (hsame ▸ htype')
  intro d hd hclaimed
  rw [claimedOn_append]
  by_cases htype : d.type = some .tlc
  · rw [none hqlc d hd (by rw [htype]; decide), add_zero]
    exact htlc.fits d hd hclaimed
  · rw [none htlc d hd htype, zero_add]
    exact hqlc.fits d hd hclaimed

omit uuids in
theorem usable_tracks {minCapacity : Int} {dc : PhysicalDriveCapacity}
    (h : dc ∈ filterAndSortUsableDrives order (buildDriveCapacityMap (typedDrives drives p) containers) minCapacity) :
    dc.drive ∈ drives ∧ dc.drive.type = some p ∧
      dc.availableCapacity = dc.drive.capacityGiB - claimedOn dc.drive.physicalUUID (virtualDrivesOf containers) ∧
      minCapacity ≤ dc.availableCapacity := by
  rw [filterAndSortUsableDrives, mem_insertionSort] at h
  obtain ⟨hdc, hleft⟩ := mem_filter.mp h
  obtain ⟨e, he, rfl⟩ := mem_map.mp ((order.perm _).mem_iff.mp hdc)
  have := buildDriveCapacityMap_tracks (mem_entries_iff.mp he)
  obtain ⟨hmem, htype⟩ := mem_filter.mp this.drive
  exact ⟨hmem, by simpa using htype, by rw [this.available, this.named], by simpa using hleft⟩

theorem Packed.fits {minCapacity : Int}
    (h : Packed (filterAndSortUsableDrives order (buildDriveCapacityMap (typedDrives drives p) containers) minCapacity) vds) :
    FitsType drives containers p vds := by
  refine ⟨fun d hd hclaimed => ?_, fun vd hvd => ?_⟩
  · by_cases hbin : ∃ dc ∈ filterAndSortUsableDrives order (buildDriveCapacityMap (typedDrives drives p) containers) minCapacity,
        dc.drive.physicalUUID = d.physicalUUID
    · obtain ⟨dc, hdc, huuid⟩ := hbin
      obtain ⟨hmem, -, hroom, -⟩ := usable_tracks hdc
      obtain rfl := inj_on_of_nodup_map uuids hmem hd huuid
      have := h.room dc hdc (by omega)
      omega
    · have hzero : claimedOn d.physicalUUID vds = 0 := by
        refine claimedOn_eq_zero fun vd hvd huuid => ?_
        obtain ⟨dc, hdc, hsource⟩ := h.source vd hvd
        exact hbin ⟨dc, hdc, hsource.trans huuid⟩
      omega
  · obtain ⟨dc, hdc, huuid⟩ := h.source vd hvd
    obtain ⟨hmem, htype, -⟩ := usable_tracks hdc
    exact ⟨dc.drive, hmem, htype, huuid⟩

omit uuids in
theorem usable_nodup (order : MapOrder PhysicalDriveCapacity) (drives : List SharedDriveInfo) (containers : List WekaContainer)
    (minCapacity : Int) :
    ((filterAndSortUsableDrives order (buildDriveCapacityMap drives containers) minCapacity).map (·.drive.physicalUUID)).Nodup := by
  have hkeys : (((buildDriveCapacityMap drives containers).entries.map (·.2)).map (·.drive.physicalUUID)) =
      (buildDriveCapacityMap drives containers).keys := by
    rw [map_map]
    exact map_congr_left fun e he => (buildDriveCapacityMap_tracks (mem_entries_iff.mp he)).named
  have hall : ((order.arrange ((buildDriveCapacityMap drives containers).entries.map (·.2))).map (·.drive.physicalUUID)).Nodup := by
    rw [((order.perm _).map _).nodup_iff, hkeys]
    exact (buildDriveCapacityMap drives containers).keys_nodup
  rw [filterAndSortUsableDrives, ((perm_insertionSort _ _).map _).nodup_iff]
  exact (filter_sublist.map _).nodup hall

omit uuids in
theorem allocateType_ok {q : SharedRequest} {minDrives maxDrives : Int}
    (h : allocateType order q containers drives p minDrives maxDrives = .ok vds) :
    (q.needed p ≤ 0 ∧ vds = []) ∨
      (0 < q.needed p ∧
        ∃ sizes ∈ (generator (q.needed p) minDrives maxDrives
            (buildDriveCapacityMap (typedDrives drives p) containers)).generateStrategies,
          ∃ plan, tryAllocateStrategy (filterAndSortUsableDrives order
              (buildDriveCapacityMap (typedDrives drives p) containers) minChunkSizeGiB) sizes = some plan ∧
            vds = plan.map (plannedDrive p)) := by
  unfold allocateType at h
  split at h
  · rename_i hpos
    unfold allocateSingleDriveType at h
    split at h
    · rename_i plan hplan
      cases h
      obtain ⟨sizes, hsizes, htry⟩ := exists_of_findSome?_eq_some hplan
      exact .inr ⟨hpos, sizes, hsizes, plan, htry, rfl⟩
    · cases h
  · rename_i hpos
    cases h
    exact .inl ⟨not_lt.mp hpos, rfl⟩

variable {q : SharedRequest} {config : DriveSharingConfig}

theorem allocateType_fits {minDrives maxDrives : Int}
    (h : allocateType order q containers drives p minDrives maxDrives = .ok vds) : FitsType drives containers p vds := by
  rcases allocateType_ok h with ⟨-, rfl⟩ | ⟨-, sizes, -, plan, htry, rfl⟩
  · exact .nil
  · exact (tryAllocateStrategy_packed p (usable_nodup _ _ _ _) htry).fits uuids

theorem attempts_fits (mins : List Int) (last : Attempt) (h : FitsOn drives containers last.drives) :
    FitsOn drives containers (attempts config order q containers drives mins last).drives := by
  induction mins generalizing last with
  | nil => exact h
  | cons tlcMin rest ih =>
    unfold attempts
    split
    · exact ih _ .nil
    · rename_i tlc htlc
      have tlcFits := allocateType_fits uuids htlc
      split
      · exact ih _ tlcFits.fits
      · rename_i qlc hqlc
        exact tlcFits.append uuids (allocateType_fits uuids hqlc)

theorem allocateSharedDrivesByCapacityWithTypes_fits
    (h : allocateSharedDrivesByCapacityWithTypes config order q containers drives = .ok vds) :
    FitsOn drives containers vds := by
  unfold allocateSharedDrivesByCapacityWithTypes at h
  split at h
  · cases h
  split at h
  · cases h
  rcases ite_eq_iff.mp h with ⟨-, h⟩ | ⟨-, h⟩
  · cases h
  · cases h
    exact attempts_fits uuids _ _ .nil

theorem allocateSharedDrivesByDrivesNum_fits {size numDrives : Int}
    (h : allocateSharedDrivesByDrivesNum order size numDrives containers drives = .ok vds) : FitsOn drives containers vds := by
  unfold allocateSharedDrivesByDrivesNum at h
  split at h
  · cases h
  dsimp only at h
  split at h
  · cases h
  · exact ((allocateRounds_packed (usable_nodup _ _ _ _) h).fits uuids).fits

omit uuids in
theorem claimedOn_labelled (env : AllocationEnv) (uuid : String) (vds : List VirtualDrive) :
    claimedOn uuid (labelled env vds) = claimedOn uuid vds := by
  have step : ∀ (vds : List VirtualDrive) (k : Nat), claimedOn uuid ((vds.zipIdx k).map fun x =>
      { x.1 with label := env.uuid x.2, virtualUUID := if env.ssdProxyVidLabelAdd then x.1.virtualUUID else env.uuid x.2 }) =
      claimedOn uuid vds := by
    intro vds
    induction vds with
    | nil => exact fun _ => rfl
    | cons vd vds ih =>
      intro k
      rw [zipIdx_cons, map_cons, claimedOn_cons, claimedOn_cons, ih]
  exact step vds 0

end Shared

theorem allocateSharedDrives_fits {env : AllocationEnv} {node : AllocatorNodeInfo} {container : WekaContainer}
    {capacityGiB numDrives : Int} {containers : List WekaContainer} {vds : List VirtualDrive}
    (uuids : (node.sharedDrives.map (·.physicalUUID)).Nodup)
    (h : allocateSharedDrives env node container capacityGiB numDrives containers = .ok vds) :
    FitsOn node.sharedDrives containers vds := by
  have labelledFits : ∀ {res : Except AllocationError (List VirtualDrive)},
      (∀ vds, res = .ok vds → FitsOn node.sharedDrives containers vds) → res.map (labelled env) = .ok vds →
        FitsOn node.sharedDrives containers vds := by
    intro res hres hmap
    cases res with
    | error e => cases hmap
    | ok vds₀ =>
      cases hmap
      intro d hd hclaimed
      rw [claimedOn_labelled]
      exact hres vds₀ rfl d hd hclaimed
  unfold allocateSharedDrives at h
  split at h
  · cases h
  split at h
  · exact labelledFits (fun _ => allocateSharedDrivesByCapacityWithTypes_fits uuids) h
  split at h
  · exact labelledFits (fun _ => allocateSharedDrivesByDrivesNum_fits uuids) h
  · cases h

/-! ### Whole allocations -/

/-- New allocations take only what no listed container has. -/
structure Adds (node : AllocatorNodeInfo) (containers : List WekaContainer) (held new : Allocations) : Prop where
  drives : ∀ serial ∈ new.drives, serial ∈ held.drives ∨ ∀ c ∈ containers, serial ∉ (c.allocations.getD {}).drives
  shared : ∃ vds, new.virtualDrives = held.virtualDrives ++ vds ∧ FitsOn node.sharedDrives containers vds

section Whole
variable {env : AllocationEnv} {node : AllocatorNodeInfo} {container : WekaContainer} {containers : List WekaContainer}
  {new : Allocations}
variable {serial : String}

theorem mem_aggregate {c : WekaContainer} (hc : c ∈ containers) (h : serial ∈ (c.allocations.getD {}).drives) :
    serial ∈ aggregateNodeDrivesAllocations containers := by
  refine mem_flatMap.mpr ⟨c, hc, ?_⟩
  cases ha : c.allocations with
  | none =>
    rw [ha] at h
    cases h
  | some a =>
    rw [ha] at h
    exact mem_append_left _ h

theorem not_mem_of_available {allocated : List String} (h : serial ∈ getAvailableDrivesFromStatus node allocated) :
    serial ∉ allocated := by
  simpa using (mem_filter.mp h).2

theorem allocateResources_adds (uuids : (node.sharedDrives.map (·.physicalUUID)).Nodup)
    (h : allocateResources env node container containers = .ok new) : Adds node containers {} new := by
  unfold allocateResources at h
  split at h
  · cases hvds : allocateSharedDrives env node container container.spec.containerCapacity container.spec.numDrives containers with
    | error e =>
      rw [hvds] at h
      cases h
    | ok vds =>
      rw [hvds] at h
      cases h
      exact ⟨fun _ hs => (by cases hs), vds, rfl, allocateSharedDrives_fits uuids hvds⟩
  split at h
  · dsimp only at h
    split at h
    · cases h
    · cases h
      refine ⟨fun serial hs => .inr fun c hc hmem => ?_, [], rfl, .nil⟩
      exact not_mem_of_available (mem_of_mem_take hs) (mem_aggregate hc hmem)
  · cases h
    exact ⟨fun _ hs => (by cases hs), [], rfl, .nil⟩

variable {req : DriveReallocationRequest}

theorem formReallocationRequest_failedDrives (h : formReallocationRequest container = some req) : req.failedDrives = [] := by
  unfold formReallocationRequest at h
  dsimp only at h
  repeat' split at h
  all_goals cases h
  all_goals rfl

theorem reallocateDrives_adds (uuids : (node.sharedDrives.map (·.physicalUUID)).Nodup)
    (hreq : formReallocationRequest container = some req)
    (h : reallocateDrives env node container req containers = .ok new) :
    Adds node containers (container.allocations.getD {}) new := by
  have hnone := formReallocationRequest_failedDrives hreq
  unfold reallocateDrives at h
  split at h
  · unfold reallocateVirtualDrives at h
    cases hvds : allocateSharedDrives env node container req.capacityGiB req.numNewDrives containers with
    | error e =>
      rw [hvds] at h
      cases h
    | ok vds =>
      rw [hvds] at h
      cases h
      refine ⟨fun _ hs => Or.inl hs, vds, ?_, allocateSharedDrives_fits uuids hvds⟩
      simp [hnone]
  · unfold reallocateRegularDrives at h
    dsimp only at h
    generalize hheld : container.allocations.getD {} = held at h ⊢
    split at h
    · cases h
    · cases h
      refine ⟨fun serial hs => ?_, [], (append_nil _).symm, .nil⟩
      rcases mem_append.mp hs with hs | hs
      · exact Or.inl (mem_of_mem_filter hs)
      · -- A drive that is added is neither one of the container's own nor aggregated from another one.
        refine Or.inr fun c hc hmem => ?_
        have hfree := not_mem_of_available (mem_of_mem_take hs)
        rw [mem_append, not_or, mem_filter, mem_filter] at hfree
        simp only [hnone, not_mem_nil, not_false_eq_true, decide_true, and_true] at hfree
        exact hfree.1 ⟨mem_aggregate hc hmem, by simpa using hfree.2⟩

end Whole
end WekaOperator.Allocator
