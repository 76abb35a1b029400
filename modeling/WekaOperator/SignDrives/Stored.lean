import WekaOperator.SignDrives.Results

/-! What is stored when the container is Completed. -/

namespace WekaOperator.SignDrives
open List Lib Operations

/-! ### What a node stores -/

/-- The whole drives, if readable. -/
def Node.fullDrives (node : Node) : List DriveEntry :=
  match readDriveAnnotations node.annotations.fullDrives with
  | .ok entries => seenDrives entries
  | .error _ => []

/-- The shared drives, if readable. -/
def Node.sharedDrives (node : Node) : List SharedDriveInfo :=
  match readNodeSharedDrives node with
  | .ok drives => drivesBySerial drives
  | .error _ => []

/-- The serials on record. -/
def Node.annotatedSerials (node : Node) (proxyMode : Bool) : List String :=
  if proxyMode then node.sharedDrives.map (·.serial) else node.fullDrives.map (·.serial)

/-- The blocked serials, if readable. -/
def Node.blockedSerials (node : Node) : List String :=
  match unmarshalBlockedDrives node with
  | .ok serials => serials
  | .error _ => []

/-- The blocked UUIDs, if readable. -/
def Node.blockedUUIDs (node : Node) : List String :=
  match readBlockedDrivePhysicalUUIDs node with
  | .ok uuids => uuids
  | .error _ => []

/-- The rules, if readable. -/
def Node.overrides (node : Node) : List DriveTypeOverrideRule :=
  match readDriveTypeOverrides node with
  | .ok rules => rules
  | .error _ => []

/-- The resources agree with the annotations. -/
def Node.Published (node : Node) (proxyMode : Bool) : Prop :=
  if proxyMode then
    let sums := sumSharedDriveCapacityByType node.sharedDrives node.blockedUUIDs node.blockedSerials
    (∀ res ∈ [node.status.capacity, node.status.allocatable], res.sharedCapacity = some sums.1 ∧ res.sharedCapacityQLC = some sums.2)
  else
    let available := availableDrives (node.fullDrives.map (·.serial)) node.blockedSerials
    (∀ res ∈ [node.status.capacity, node.status.allocatable], res.drives = some available)

/-- The serials reported. -/
def DriveNodeResults.reported (opResult : DriveNodeResults) (proxyMode : Bool) : List String :=
  (if proxyMode then opResult.proxyDrives.map (·.serial) else opResult.drives).filter (· ≠ "")

/-- The resources are set. -/
def Node.publishes (node updated : Node) (proxyMode : Bool) : Bool :=
  if proxyMode then ¬(node.annotations.sharedDrives = .absent ∧ updated.annotations.sharedDrives = .value [])
  else ¬(node.fullDrivesAbsent ∧ updated.annotations.fullDrives = .value [])

/-- What holds of the node after a report is stored. -/
structure Stored (proxyMode : Bool) (opResult : DriveNodeResults) (node updated after : Node) : Prop where
  annotated : ∀ s ∈ node.annotatedSerials proxyMode, s ∈ after.annotatedSerials proxyMode
  reported : ∀ s ∈ opResult.reported proxyMode, s ∈ after.annotatedSerials proxyMode
  blocked : ∀ s ∈ node.blockedSerials, s ∈ after.blockedSerials
  decided : ∀ s ∈ updated.blockedSerials, s ∈ after.blockedSerials
  published : node.publishes updated proxyMode → after.Published proxyMode

/-- The report has nothing new. -/
structure Known (text : Text) (proxyMode : Bool) (opResult : DriveNodeResults) (node : Node) : Prop where
  reported : ∀ s ∈ opResult.reported proxyMode, s ∈ node.annotatedSerials proxyMode
  mounted : proxyMode = false → ∀ raw ∈ opResult.rawDrives, raw.isMounted → raw.serialId ∈ node.annotatedSerials proxyMode →
    raw.serialId ∈ node.blockedSerials
  missing : opResult.kernelViewComplete → ∀ s ∈ node.annotatedSerials proxyMode, s ∉ opResult.rawDrives.map (·.serialId) →
    s ∈ node.blockedSerials
  capacity : proxyMode = true →
    sumSharedDriveCapacityByType (mergedDrives text (mergeProxyDrives node.sharedDrives opResult.proxyDrives) node.overrides)
        node.blockedUUIDs node.blockedSerials =
      sumSharedDriveCapacityByType node.sharedDrives node.blockedUUIDs node.blockedSerials

/-! ### The drives by serial -/

variable {s : String}

theorem ne_empty_of_mem_keys {α : Type} {serial : α → String} {l : List α}
    (h : s ∈ ((l.filter (serial · ≠ "")).foldl (fun known a => upsert serial a known) []).map serial) : s ≠ "" := by
  rw [mem_foldl_upsert_keys] at h
  rcases h with h | h
  · cases h
  · obtain ⟨a, ha, rfl⟩ := mem_map.mp h
    simpa using (mem_filter.mp ha).2

theorem fullDrives_nodup (node : Node) : (node.fullDrives.map (·.serial)).Nodup := by
  unfold Node.fullDrives
  split
  · exact nodup_foldl_upsert_keys _ nodup_nil
  · exact nodup_nil

variable {node : Node}

theorem ne_empty_of_annotated {proxyMode : Bool} (h : s ∈ node.annotatedSerials proxyMode) : s ≠ "" := by
  unfold Node.annotatedSerials at h
  split_ifs at h
  · unfold Node.sharedDrives at h
    split at h
    · exact ne_empty_of_mem_keys h
    · cases h
  · unfold Node.fullDrives at h
    split at h
    · exact ne_empty_of_mem_keys h
    · cases h

theorem addReported_keys {capacities seen seen' : List DriveEntry} {drives : List String}
    (h : addReported capacities drives seen = .ok seen') :
    (∀ s, s ∈ seen'.map (·.serial) ↔ s ∈ seen.map (·.serial) ∨ s ∈ drives.filter (· ≠ "")) ∧
      ((seen.map (·.serial)).Nodup → (seen'.map (·.serial)).Nodup) := by
  induction drives generalizing seen with
  | nil =>
    cases h
    exact ⟨fun s => by simp, id⟩
  | cons serialId rest ih =>
    rw [addReported] at h
    split_ifs at h with hempty
    · obtain ⟨hmem, hnodup⟩ := ih h
      refine ⟨fun s => ?_, hnodup⟩
      rw [hmem, filter_cons_of_neg (by simpa using hempty)]
    · split at h
      · cases h
      · obtain ⟨hmem, hnodup⟩ := ih h
        refine ⟨fun s => ?_, fun hn => hnodup (nodup_upsert_keys hn)⟩
        rw [hmem, mem_upsert_keys, filter_cons_of_pos (by simpa using hempty), mem_cons, or_assoc]

theorem mergeReported_keys {known : List SharedDriveInfo} {drive : SharedDriveInfo} (hd : drive.serial ≠ "") :
    s ∈ (mergeReported known drive).map (·.serial) ↔ s ∈ known.map (·.serial) ∨ s = drive.serial := by
  unfold mergeReported
  split
  · rw [mem_upsert_keys, mergeSharedDriveInfo_serial hd]
  · rw [mem_upsert_keys]

theorem mergeProxyDrives_keys (known proxyDrives : List SharedDriveInfo) :
    s ∈ (mergeProxyDrives known proxyDrives).map (·.serial) ↔
      s ∈ known.map (·.serial) ∨ s ∈ (proxyDrives.map (·.serial)).filter (· ≠ "") := by
  unfold mergeProxyDrives
  induction proxyDrives generalizing known with
  | nil => simp
  | cons drive rest ih =>
    rw [map_cons]
    by_cases hd : drive.serial = ""
    · rw [filter_cons_of_neg (by simpa using hd), filter_cons_of_neg (by simpa using hd), ih]
    · rw [filter_cons_of_pos (by simpa using hd), filter_cons_of_pos (by simpa using hd), foldl_cons, ih,
        mergeReported_keys hd, mem_cons, or_assoc]

variable {blocked : List String}

theorem mem_blockMounted {seen : List DriveEntry} {rawDrives : List DriveRawInfo} :
    s ∈ blockMounted seen rawDrives blocked ↔
      s ∈ blocked ∨ ∃ raw ∈ rawDrives, raw.isMounted = true ∧ raw.serialId ∈ seen.map (·.serial) ∧ raw.serialId = s := by
  simp only [blockMounted, mem_appendNew, mem_map, mem_filter, decide_eq_true_eq, and_assoc]

variable {opResult : DriveNodeResults}

theorem mem_appendMissing {annotated : List String} (hempty : "" ∉ annotated) :
    s ∈ appendMissingDrivesToBlocked annotated opResult blocked ↔
      s ∈ blocked ∨ (opResult.kernelViewComplete = true ∧ s ∈ annotated ∧ s ∉ opResult.rawDrives.map (·.serialId)) := by
  unfold appendMissingDrivesToBlocked
  split_ifs with hview
  · rw [mem_appendNew, mem_filter, sortSerials, (List.perm_insertionSort _ _).mem_iff]
    simp only [decide_eq_true_eq, mem_filter, true_and, hview]
    constructor
    · rintro (h | ⟨ha, hne, hraw⟩)
      · exact .inl h
      · exact .inr ⟨ha, fun hr => hraw ⟨hr, hne⟩⟩
    · rintro (h | ⟨ha, hraw⟩)
      · exact .inl h
      · exact .inr ⟨ha, fun e => hempty (e ▸ ha), fun hr => hraw hr.1⟩
  · simp [hview]

/-! ### What the function computes -/

theorem sharedDrives_of_read {drives : List SharedDriveInfo} (h : readNodeSharedDrives node = .ok drives) :
    node.sharedDrives = drivesBySerial drives := by
  simp only [Node.sharedDrives, h]

theorem sharedDrives_of_absent (h : node.annotations.sharedDrives = .absent) : node.sharedDrives = [] := by
  have hread : readNodeSharedDrives node = .ok [] := by simp only [readNodeSharedDrives, h]
  exact sharedDrives_of_read hread

theorem blockedSerials_of_read {serials : List String} (h : unmarshalBlockedDrives node = .ok serials) :
    node.blockedSerials = serials := by
  simp only [Node.blockedSerials, h]

variable {text : Text} {updated : Node}

theorem fullDriveAnnotations_ok (h : fullDriveAnnotations text node opResult = .ok updated) :
    ∃ seen : List DriveEntry,
      (∀ s, s ∈ seen.map (·.serial) ↔ s ∈ node.fullDrives.map (·.serial) ∨ s ∈ opResult.reported false) ∧
      (seen.map (·.serial)).Nodup ∧
      updated.blockedSerials =
        appendMissingDrivesToBlocked (seen.map (·.serial)) opResult (blockMounted seen opResult.rawDrives node.blockedSerials) ∧
      (node.publishes updated false →
        ∀ res ∈ [updated.status.capacity, updated.status.allocatable],
          res.drives = some (availableDrives (seen.map (·.serial)) updated.blockedSerials)) := by
  unfold fullDriveAnnotations at h
  obtain ⟨capacities, -, h⟩ := bind_eq_ok h
  obtain ⟨existing, hexisting, h⟩ := bind_eq_ok h
  obtain ⟨seen, hseen, h⟩ := bind_eq_ok h
  obtain ⟨unmarshalled, hblocked, h⟩ := bind_eq_ok h
  have hfull : node.fullDrives = seenDrives existing := by simp only [Node.fullDrives, mapError_eq_ok hexisting]
  have hserials := blockedSerials_of_read hblocked
  obtain ⟨hkeys, hnodup⟩ := addReported_keys hseen
  refine ⟨seen, fun s => ?_, hnodup (hfull ▸ fullDrives_nodup node), ?_⟩
  · rw [hkeys, hfull]
    rfl
  · simp only [pure, Except.pure, Except.ok.injEq] at h
    split_ifs at h with habsent
    · subst h
      refine ⟨by rw [hserials]; rfl, fun hpub => ?_⟩
      simp [Node.publishes, habsent.1, habsent.2] at hpub
    · subst h
      refine ⟨by rw [hserials]; rfl, fun _ res hres => ?_⟩
      have sorted : (sortDriveEntriesDesc seen).Perm seen := perm_insertionSort ..
      rw [← availableDrives_perm (sorted.map _)]
      simp only [setNodeDriveAllocatable, mem_cons, not_mem_nil, or_false] at hres
      rcases hres with rfl | rfl <;> rfl

theorem sharedDriveAnnotations_ok (h : sharedDriveAnnotations text node opResult = .ok updated) :
    updated.blockedSerials =
        appendMissingDrivesToBlocked ((mergeProxyDrives node.sharedDrives opResult.proxyDrives).map (·.serial)) opResult
          node.blockedSerials ∧
      updated.annotations.sharedDrives =
        .value (mergedDrives text (mergeProxyDrives node.sharedDrives opResult.proxyDrives) node.overrides) ∧
      (node.publishes updated true → ∀ sums,
        sumSharedDriveCapacityByType (mergedDrives text (mergeProxyDrives node.sharedDrives opResult.proxyDrives) node.overrides)
          node.blockedUUIDs updated.blockedSerials = sums →
        ∀ res ∈ [updated.status.capacity, updated.status.allocatable],
          res.sharedCapacity = some sums.1 ∧ res.sharedCapacityQLC = some sums.2) := by
  unfold sharedDriveAnnotations at h
  obtain ⟨unmarshalled, hblocked, h⟩ := bind_eq_ok h
  obtain ⟨existing, hexisting, h⟩ := bind_eq_ok h
  obtain ⟨rules, hrules, h⟩ := bind_eq_ok h
  have hshared := sharedDrives_of_read (mapError_eq_ok hexisting)
  have hserials := blockedSerials_of_read hblocked
  have hoverrides : node.overrides = rules := by simp only [Node.overrides, mapError_eq_ok hrules]
  rw [hshared, hserials, hoverrides]
  dsimp only at h
  split at h
  · cases h
  obtain ⟨uuids, huuids, h⟩ := bind_eq_ok h
  have huuids' : node.blockedUUIDs = uuids := by simp only [Node.blockedUUIDs, huuids]
  rw [huuids']
  simp only [pure, Except.pure, Except.ok.injEq] at h
  split_ifs at h with habsent
  · subst h
    refine ⟨rfl, rfl, fun hpub => ?_⟩
    simp [Node.publishes, habsent.1, habsent.2] at hpub
  · subst h
    refine ⟨rfl, rfl, ?_⟩
    rintro - sums rfl res hres
    simp only [setSharedDriveCapacityResources, mem_cons, not_mem_nil, or_false] at hres
    rcases hres with rfl | rfl <;> exact ⟨rfl, rfl⟩

/-! ### What is stored -/

theorem stored_fullDrives_iff (h : fullDriveAnnotations text node opResult = .ok updated) :
    Stored false opResult node updated (node.storeStatus updated) ↔ Known text false opResult node := by
  obtain ⟨seen, hkeys, hnodup, hblocked, hpub⟩ := fullDriveAnnotations_ok h
  have hempty : "" ∉ seen.map (·.serial) := by
    intro hmem
    rcases (hkeys _).mp hmem with hfull | hrep
    · have hann : "" ∈ node.annotatedSerials false := hfull
      exact ne_empty_of_annotated hann rfl
    · simpa using (mem_filter.mp hrep).2
  have hmem : ∀ s, s ∈ updated.blockedSerials ↔ s ∈ blockMounted seen opResult.rawDrives node.blockedSerials ∨
      (opResult.kernelViewComplete = true ∧ s ∈ seen.map (·.serial) ∧ s ∉ opResult.rawDrives.map (·.serialId)) := by
    intro s
    rw [hblocked, mem_appendMissing hempty]
  constructor
  · rintro ⟨-, hrep, -, hdecided, -⟩
    refine ⟨hrep, fun _ raw hraw hmounted hann => ?_, fun hview s hs hmissing => ?_, nofun⟩
    · exact hdecided _ ((hmem _).mpr (.inl (mem_blockMounted.mpr (.inr ⟨raw, hraw, hmounted, (hkeys _).mpr (.inl hann), rfl⟩))))
    · exact hdecided _ ((hmem _).mpr (.inr ⟨hview, (hkeys _).mpr (.inl hs), hmissing⟩))
  · rintro ⟨hrep, hmounted, hmissing, -⟩
    have hseen : ∀ s, s ∈ seen.map (·.serial) ↔ s ∈ node.fullDrives.map (·.serial) := fun s =>
      ⟨fun hs => ((hkeys s).mp hs).elim id (hrep s), fun hs => (hkeys s).mpr (.inl hs)⟩
    have hsame : ∀ s, s ∈ updated.blockedSerials ↔ s ∈ node.blockedSerials := by
      intro s
      rw [hmem, mem_blockMounted]
      constructor
      · rintro ((hs | ⟨raw, hraw, hmount, hs, rfl⟩) | ⟨hview, hs, hraw⟩)
        · exact hs
        · exact hmounted rfl raw hraw hmount ((hseen _).mp hs)
        · exact hmissing hview s ((hseen s).mp hs) hraw
      · exact fun hs => .inl (.inl hs)
    refine ⟨fun s hs => hs, hrep, fun s hs => hs, fun s hs => (hsame s).mp hs, fun hpublishes res hres => ?_⟩
    simp only [hpub hpublishes res hres, availableDrives, hsame]
    rw [← availableDrives, availableDrives_perm ((perm_ext_iff_of_nodup hnodup (fullDrives_nodup node)).mpr hseen)]
    rfl

theorem stored_sharedDrives_iff (h : sharedDriveAnnotations text node opResult = .ok updated) :
    Stored true opResult node updated (node.storeStatus updated) ↔ Known text true opResult node := by
  obtain ⟨hblocked, hmerged, hpub⟩ := sharedDriveAnnotations_ok h
  have hkeys : ∀ s, s ∈ (mergeProxyDrives node.sharedDrives opResult.proxyDrives).map (·.serial) ↔
      s ∈ node.sharedDrives.map (·.serial) ∨ s ∈ opResult.reported true := fun s => mergeProxyDrives_keys _ _
  have hempty : "" ∉ (mergeProxyDrives node.sharedDrives opResult.proxyDrives).map (·.serial) := by
    intro hmem
    rcases (hkeys _).mp hmem with hshared | hrep
    · have hann : "" ∈ node.annotatedSerials true := hshared
      exact ne_empty_of_annotated hann rfl
    · simpa using (mem_filter.mp hrep).2
  have hmem : ∀ s, s ∈ updated.blockedSerials ↔ s ∈ node.blockedSerials ∨
      (opResult.kernelViewComplete = true ∧ s ∈ (mergeProxyDrives node.sharedDrives opResult.proxyDrives).map (·.serial) ∧
        s ∉ opResult.rawDrives.map (·.serialId)) := by
    intro s
    rw [hblocked, mem_appendMissing hempty]
  constructor
  · rintro ⟨-, hrep, -, hdecided, hpublished⟩
    have hsame : ∀ s, s ∈ updated.blockedSerials ↔ s ∈ node.blockedSerials := fun s =>
      ⟨hdecided s, fun hs => (hmem s).mpr (.inl hs)⟩
    refine ⟨hrep, nofun, fun hview s hs hmissing => ?_, fun _ => ?_⟩
    · exact hdecided s ((hmem s).mpr (.inr ⟨hview, (hkeys s).mpr (.inl hs), hmissing⟩))
    · rw [← sumSharedDriveCapacityByType_congr hsame]
      by_cases hpublishes : node.publishes updated true = true
      · obtain ⟨htlc, hqlc⟩ := hpub hpublishes _ rfl updated.status.capacity mem_cons_self
        obtain ⟨htlc', hqlc'⟩ := hpublished hpublishes updated.status.capacity mem_cons_self
        exact Prod.ext (Option.some.inj (htlc.symm.trans htlc')) (Option.some.inj (hqlc.symm.trans hqlc'))
      · -- Nothing was and nothing is annotated: both sums are zero.
        obtain ⟨habsent, hnil⟩ : node.annotations.sharedDrives = .absent ∧ updated.annotations.sharedDrives = .value [] := by
          simpa [Node.publishes] using hpublishes
        have hempty := Annotation.value.inj (hmerged.symm.trans hnil)
        rw [hempty, sharedDrives_of_absent habsent]
        rfl
  · rintro ⟨hrep, -, hmissing, hcapacity⟩
    have hsame : ∀ s, s ∈ updated.blockedSerials ↔ s ∈ node.blockedSerials := by
      intro s
      rw [hmem]
      constructor
      · rintro (hs | ⟨hview, hs, hraw⟩)
        · exact hs
        · exact hmissing hview s (((hkeys s).mp hs).elim id (hrep s)) hraw
      · exact .inl
    refine ⟨fun s hs => hs, hrep, fun s hs => hs, fun s hs => (hsame s).mp hs, fun hpublishes => ?_⟩
    exact hpub hpublishes _ ((sumSharedDriveCapacityByType_congr hsame _ _).trans (hcapacity rfl))

theorem stored_of_completed {api : Replies} {container : Container}
    (hresult : container.executionResult = .ok opResult)
    (hcompleted : (updateNodeAnnotations text api (some node) container).completed = true) :
    ∃ updated, newAnnotations text (container.isProxyMode opResult) node opResult = .ok updated ∧
      (updateNodeAnnotations text api (some node) container).stored = some (node.storeStatus updated) := by
  simp only [updateNodeAnnotations, hresult] at hcompleted ⊢
  cases hnew : newAnnotations text (container.isProxyMode opResult) node opResult with
  | error err =>
    simp only [hnew] at hcompleted
    cases hcompleted
  | ok updated =>
    simp only [hnew] at hcompleted ⊢
    refine ⟨updated, rfl, ?_⟩
    unfold storeResults at hcompleted ⊢
    split at hcompleted
    · cases hcompleted
    · split at hcompleted
      · cases hcompleted
      · rfl

/-- When the container is Completed, its results are stored iff they change nothing that the annotations hold. -/
theorem results_stored_iff (text : Text) (api : Replies) (node : Node) (container : Container) (opResult : DriveNodeResults)
    (hresult : container.executionResult = .ok opResult)
    (hcompleted : (updateNodeAnnotations text api (some node) container).completed = true) :
    ∃ updated after, newAnnotations text (container.isProxyMode opResult) node opResult = .ok updated ∧
      (updateNodeAnnotations text api (some node) container).stored = some after ∧
      (Stored (container.isProxyMode opResult) opResult node updated after ↔
        Known text (container.isProxyMode opResult) opResult node) := by
  obtain ⟨updated, hnew, hstored⟩ := stored_of_completed hresult hcompleted
  refine ⟨updated, node.storeStatus updated, hnew, hstored, ?_⟩
  cases hmode : container.isProxyMode opResult with
  | false =>
    have hfull : fullDriveAnnotations text node opResult = .ok updated := by simpa [newAnnotations, hmode] using hnew
    exact stored_fullDrives_iff hfull
  | true =>
    have hshared : sharedDriveAnnotations text node opResult = .ok updated := by simpa [newAnnotations, hmode] using hnew
    exact stored_sharedDrives_iff hshared

/-! ### Two runs -/

def plainText : Text := ⟨id, id, fun a b => a = b⟩

def oneDrive : DriveNodeResults :=
  { drives := ["S1"], rawDrives := [{ serialId := "S1", capacityGiB := 100 }], kernelViewComplete := true }

def signed : Container := { instructions := some (.signDrives (.ok false)), executionResult := .ok oneDrive }

def freshNode : Node := { name := "node-1" }

def annotatedNode : Node := { name := "node-1", annotations := { fullDrives := .value [⟨"S1", 100⟩] } }

/-- Signing again what is annotated already is stored. -/
theorem results_stored_again :
    ∃ updated after, newAnnotations plainText false annotatedNode oneDrive = .ok updated ∧
      (updateNodeAnnotations plainText {} (some annotatedNode) signed).stored = some after ∧
      Stored false oneDrive annotatedNode updated after := by
  obtain ⟨updated, after, hnew, hstored, hiff⟩ :=
    results_stored_iff plainText {} annotatedNode signed oneDrive rfl (by decide +kernel)
  refine ⟨updated, after, hnew, hstored, hiff.mpr ⟨?_, ?_, ?_, nofun⟩⟩ <;> decide +kernel

/-- The first signing of a node publishes one drive and stores no annotation. -/
theorem results_not_stored :
    ∃ updated after, newAnnotations plainText false freshNode oneDrive = .ok updated ∧
      updated.annotations.fullDrives = .value [⟨"S1", 100⟩] ∧
      (updateNodeAnnotations plainText {} (some freshNode) signed).completed = true ∧
      (updateNodeAnnotations plainText {} (some freshNode) signed).stored = some after ∧
      after.annotations = {} ∧ after.status.allocatable.drives = some 1 ∧
      ¬Stored false oneDrive freshNode updated after := by
  refine ⟨_, _, rfl, ?_, ?_, rfl, ?_, ?_, fun h => ?_⟩
  · decide +kernel
  · decide +kernel
  · decide +kernel
  · decide +kernel
  · have hmem := h.reported "S1" (by decide +kernel)
    revert hmem
    decide +kernel

end WekaOperator.SignDrives
