import WekaOperator.Lib.Collections
import WekaOperator.Migrate.World

/-! What the container entries of a campaign satisfy at any time, in memory and persisted: names are distinct, at most
    one entry is in flight, and one in flight was started with its drives recorded, the gate open and enough headroom.
    -/

namespace WekaOperator.Migrate
open List Lib Operations

/-- A start behind an open gate with enough headroom. -/
def Start.Gated (st : Start) : Prop := st.gate = some true ∧ ∃ h, st.headroom = some h ∧ st.capacityBytes ≤ h

/-- The record accounts for every container that was started, and one at most is in flight. -/
structure Consistent (starts : List Start) (l : List ContainerState) : Prop where
  names : (l.map (·.container)).Nodup
  single : (l.filter (·.phase = .inFlight)).length ≤ 1
  recorded : ∀ s ∈ l, s.serials ≠ [] → 0 < s.capacityBytes
  flown : ∀ s ∈ l, s.phase = .inFlight → s.serials ≠ [] ∧ ∃ st ∈ starts, st.container = s.container
  started : ∀ st ∈ starts, st.Gated ∧
    ∃ s ∈ l, s.container = st.container ∧ s.phase ≠ .pending ∧ s.capacityBytes = st.capacityBytes

/-- What may become of an entry other than being started. -/
structure Updates (s s' : ContainerState) : Prop where
  container : s'.container = s.container
  recorded : (s'.serials = s.serials ∧ s'.capacityBytes = s.capacityBytes) ∨ 0 < s'.capacityBytes
  flown : s'.phase = .inFlight → s.phase = .inFlight ∧ s'.serials = s.serials
  started : s.phase ≠ .pending → s'.phase ≠ .pending ∧ s'.capacityBytes = s.capacityBytes

theorem Consistent.nil : Consistent [] [] := ⟨List.nodup_nil, by simp, by simp, by simp, by simp⟩

variable {starts : List Start} {l l' : List ContainerState}

theorem Consistent.perm (h : Consistent starts l) (hp : l'.Perm l) :
    Consistent starts l' where
  names := (hp.map _).nodup_iff.mpr h.names
  single := by
    rw [(hp.filter _).length_eq]
    exact h.single
  recorded s hs := h.recorded s (hp.mem_iff.mp hs)
  flown s hs := h.flown s (hp.mem_iff.mp hs)
  started st hst := by
    obtain ⟨gated, s, hs, rest⟩ := h.started st hst
    exact ⟨gated, s, hp.mem_iff.mpr hs, rest⟩

theorem names_eq (h : List.Forall₂ (fun s s' => s'.container = s.container) l l') :
    l'.map (·.container) = l.map (·.container) := by
  induction h with
  | nil => rfl
  | cons hs _ ih => rw [map_cons, map_cons, hs, ih]

theorem Consistent.forall₂ (h : Consistent starts l)
    (hu : List.Forall₂ Updates l l') : Consistent starts l' where
  names := by
    rw [names_eq (hu.imp fun _ _ hs => hs.container)]
    exact h.names
  single := by
    have fewer : (l'.filter (·.phase = .inFlight)).length ≤ (l.filter (·.phase = .inFlight)).length := by
      refine length_filter_le_of_forall₂ (fun s s' hs flying => ?_) hu
      rw [decide_eq_true_eq] at flying ⊢
      exact (hs.flown flying).1
    exact fewer.trans h.single
  recorded s' hs' := by
    obtain ⟨s, hs, hu⟩ := forall₂_mem_right hu hs'
    rcases hu.recorded with ⟨serials, capacity⟩ | positive
    · rw [serials, capacity]
      exact h.recorded s hs
    · exact fun _ => positive
  flown s' hs' hp := by
    obtain ⟨s, hs, hu⟩ := forall₂_mem_right hu hs'
    obtain ⟨hp, same⟩ := hu.flown hp
    rw [same, hu.container]
    exact h.flown s hs hp
  started st hst := by
    obtain ⟨gated, s, hs, name, moved, capacity⟩ := h.started st hst
    obtain ⟨s', hs', hu⟩ := forall₂_mem_left hu hs
    obtain ⟨moved', same⟩ := hu.started moved
    exact ⟨gated, s', hs', hu.container.trans name, moved', same.trans capacity⟩

variable {s : ContainerState}
variable {s' : ContainerState}

theorem Updates.of_same (container : s'.container = s.container) (phase : s'.phase = s.phase)
    (serials : s'.serials = s.serials) (capacity : s'.capacityBytes = s.capacityBytes) : Updates s s' where
  container := container
  recorded := .inl ⟨serials, capacity⟩
  flown h := ⟨phase ▸ h, serials⟩
  started h := ⟨phase ▸ h, capacity⟩

theorem Updates.refl (s : ContainerState) : Updates s s := .of_same rfl rfl rfl rfl

theorem countAnnotated_nonneg (entries : List DriveEntry) (acc : Int × List String) (h : 0 ≤ acc.1) :
    0 ≤ (entries.foldl countAnnotated acc).1 := by
  induction entries generalizing acc with
  | nil => exact h
  | cons e entries ih =>
    refine ih _ ?_
    unfold countAnnotated
    split
    next counted =>
      have : 0 ≤ e.capacityGiB * gibBytes := Int.mul_nonneg counted.2.le (by decide)
      exact Int.add_nonneg h this
    next => exact h

theorem annotatedCapacityBytes_nonneg {node : String} {entries : List DriveEntry} {serials : List String} {n : Int}
    (h : annotatedCapacityBytes node entries serials = .ok n) : 0 ≤ n := by
  unfold annotatedCapacityBytes at h
  dsimp only at h
  split at h
  · cases h
  · cases h
    exact countAnnotated_nonneg _ _ le_rfl

theorem Consistent.start (h : Consistent starts l) {idx : Nat} {st : Start} (idle : ∀ t ∈ l, t.phase ≠ .inFlight)
    (hs : l[idx]? = some s) (pending : s.phase = .pending) (container : s'.container = s.container)
    (flying : s'.phase = .inFlight) (serials : s'.serials ≠ []) (capacity : 0 < s'.capacityBytes)
    (name : st.container = s'.container) (same : st.capacityBytes = s'.capacityBytes) (gated : st.Gated) :
    Consistent (starts ++ [st]) (l.set idx s') := by
  have hidx : idx < l.length := (List.getElem?_eq_some_iff.mp hs).1
  have hmem : s' ∈ l.set idx s' := mem_set hidx s'
  refine ⟨?_, ?_, ?_, ?_, ?_⟩
  · have unchanged : (l.set idx s').map (·.container) = l.map (·.container) :=
      names_eq (forall₂_set (R := fun s s' : ContainerState => s'.container = s.container) (fun _ => rfl) hs container)
    rw [unchanged]
    exact h.names
  · rw [filter_set_eq_singleton (by simpa using idle) hs (by simpa using flying)]
    exact le_rfl
  · intro t ht
    rcases mem_or_eq_of_mem_set ht with ht | rfl
    · exact h.recorded t ht
    · exact fun _ => capacity
  · intro t ht hflying
    rcases mem_or_eq_of_mem_set ht with ht | rfl
    · exact absurd hflying (idle t ht)
    · exact ⟨serials, st, mem_append_right _ (mem_singleton.mpr rfl), name⟩
  · intro st' hst'
    rcases mem_append.mp hst' with hst' | hst'
    · obtain ⟨gated', t, ht, name', moved, capacity'⟩ := h.started st' hst'
      refine ⟨gated', t, mem_set_of_ne hs ht ?_, name', moved, capacity'⟩
      rintro rfl
      exact moved pending
    · obtain rfl := mem_singleton.mp hst'
      exact ⟨gated, s', hmem, name.symm, by simp [flying], same.symm⟩

/-! ### Planning -/

theorem refreshState_updates (exclusive : List Target) (s : ContainerState) : Updates s (refreshState exclusive s) := by
  unfold refreshState
  split
  next pending =>
    split
    · exact ⟨rfl, .inl ⟨rfl, rfl⟩, nofun, fun h => absurd pending h⟩
    · exact .of_same rfl rfl rfl rfl
  next => exact Updates.refl s

variable {exclusive : List Target}

theorem refreshState_inFlight (h : (refreshState exclusive s).phase = .inFlight) :
    refreshState exclusive s = s := by
  unfold refreshState
  split
  next pending =>
    -- A Pending entry stays Pending or is skipped.
    have moved := (refreshState_updates exclusive s).flown h
    rw [pending] at moved
    cases moved.1
  next => rfl

theorem refreshState_of_inFlight (h : s.phase = .inFlight) :
    refreshState exclusive s = s := by
  unfold refreshState
  rw [if_neg]
  rw [h]
  simp

theorem sortMigrationStates_perm (l : List ContainerState) : (sortMigrationStates l).Perm l :=
  perm_insertionSort _ _

theorem Consistent.fresh (names : (l.map (·.container)).Nodup)
    (idle : ∀ s ∈ l, s.phase ≠ .inFlight ∧ s.serials = []) : Consistent [] l where
  names := names
  single := by
    have none : l.filter (·.phase = .inFlight) = [] := by simpa using fun s hs => (idle s hs).1
    rw [none]
    exact Nat.zero_le _
  recorded s hs h := absurd (idle s hs).2 h
  flown s hs h := absurd h (idle s hs).1
  started st hst := by cases hst

theorem Consistent.starts_nil (h : Consistent starts []) : starts = [] := by
  cases starts with
  | nil => rfl
  | cons st _ =>
    obtain ⟨_, s, hs, _⟩ := h.started st mem_cons_self
    cases hs

theorem firstSet_idle (exclusive sharing : List Target) (s : ContainerState)
    (hs : s ∈ exclusive.map (fun t => ({ node := t.node, container := t.name, phase := .pending } : ContainerState)) ++
      sharing.map fun t => ({ node := t.node, container := t.name, phase := .skipped, reason := "already uses drive sharing" } :
        ContainerState)) : s.phase ≠ .inFlight ∧ s.serials = [] := by
  rcases mem_append.mp hs with hs | hs
  · obtain ⟨t, -, rfl⟩ := mem_map.mp hs
    exact ⟨by simp, rfl⟩
  · obtain ⟨t, -, rfl⟩ := mem_map.mp hs
    exact ⟨by simp, rfl⟩

theorem Consistent.plan (h : Consistent starts l)
    {sharing : List Target} (names : ((exclusive ++ sharing).map (·.name)).Nodup) :
    Consistent starts (planMigrationContainers l exclusive sharing) := by
  unfold planMigrationContainers
  split
  next first =>
    obtain rfl := length_eq_zero_iff.mp first
    rw [h.starts_nil]
    refine (Consistent.fresh ?_ (firstSet_idle exclusive sharing)).perm (sortMigrationStates_perm _)
    rw [map_append, map_map, map_map]
    rw [map_append] at names
    exact names
  next =>
    refine (h.forall₂ ?_).perm (sortMigrationStates_perm _)
    exact forall₂_map_right_iff.mpr (forall₂_same.mpr fun s _ => refreshState_updates exclusive s)

theorem plan_started (exclusive sharing : List Target) (started : s.phase ≠ .pending) (hs : s ∈ l) :
    s ∈ planMigrationContainers l exclusive sharing := by
  unfold planMigrationContainers
  split
  next first =>
    obtain rfl := length_eq_zero_iff.mp first
    cases hs
  next =>
    rw [(sortMigrationStates_perm _).mem_iff]
    exact mem_map.mpr ⟨s, hs, if_neg started⟩

theorem plan_inFlight (l : List ContainerState) (exclusive sharing : List Target)
    (hs : s.phase = .inFlight) : s ∈ planMigrationContainers l exclusive sharing ↔ s ∈ l := by
  unfold planMigrationContainers
  split
  next first =>
    obtain rfl := length_eq_zero_iff.mp first
    rw [(sortMigrationStates_perm _).mem_iff]
    exact ⟨fun h => absurd hs (firstSet_idle _ _ s h).1, fun h => by cases h⟩
  next =>
    rw [(sortMigrationStates_perm _).mem_iff, mem_map]
    constructor
    · rintro ⟨t, ht, rfl⟩
      rw [refreshState_inFlight hs]
      exact ht
    · exact fun h => ⟨s, h, refreshState_of_inFlight hs⟩

theorem splitTargets_names {containers : List DriveContainer} (names : (containers.map (·.name)).Nodup)
    (nodeFilter : Option (List String)) :
    (((splitTargets containers nodeFilter).1 ++ (splitTargets containers nodeFilter).2).map (·.name)).Nodup := by
  unfold splitTargets
  set selected := containers.filter fun c => nodeFilter.all (c.node ∈ ·) with hselected
  have nodup : (selected.map (·.name)).Nodup := names.sublist (filter_sublist.map _)
  have perm : (selected.filter (!·.usesDriveSharing) ++ selected.filter (·.usesDriveSharing)).Perm selected := by
    have := filter_append_perm (fun c : DriveContainer => !c.usesDriveSharing) selected
    simpa using this
  rw [map_append, map_map, map_map]
  have := (perm.map (·.name)).nodup_iff.mpr nodup
  rw [map_append] at this
  exact this

end WekaOperator.Migrate
