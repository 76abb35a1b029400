import WekaOperator.Containers.Cluster

/-! The admission policy on sizing modes (`cluster_sizing_mode_flip.go`): which updates of a WekaCluster that has
    drive containers it admits, and which modes a sequence of admitted updates can lead to. -/

namespace WekaOperator.Validation
open List Containers

/-! ### The policy -/

/-- How a cluster is sized. -/
inductive SizingMode
  | autoFullDrives | clusterCapacity | driveSharing | counts
  deriving DecidableEq, Repr

/-- As shown to the user. -/
def SizingMode.text : SizingMode → String
  | .autoFullDrives => "auto-full-drives (acts as a daemonset)"
  | .clusterCapacity => "clusterCapacity"
  | .driveSharing => "drive-sharing (containerCapacity/driveCapacity)"
  | .counts => "explicit container counts"

/-- The fields it depends on. -/
def sizingModeFields : String := "computeContainers, driveContainers, clusterCapacity, containerCapacity, driveCapacity"

/-- The annotation that allows a switch. -/
def annotationSizingModeMigration : String := "weka.io/sizing-mode-migration"

/-- Its value. -/
def sizingModeMigrationDriveSharing : String := "drive-sharing"

/-- A cluster, as far as it is read. -/
structure Cluster where
  uid : String
  namespaceName : String
  annotations : List (String × String) := []
  dynamicTemplate : Option WekaClusterTemplate := none
  deriving DecidableEq, Repr

/-- What a webhook may be given. -/
inductive Object
  | cluster (c : Cluster)
  | other
  deriving DecidableEq, Repr

/-- A container, as listed. -/
structure ListedContainer where
  namespaceName : String
  clusterId : String
  mode : String
  exclusive : Bool
  deriving DecidableEq, Repr

/-- Errors of the validation. -/
inductive FieldError
  | internalError (path detail : String)
  | forbidden (path detail : String)
  deriving DecidableEq, Repr

/-- The field they name. -/
def FieldError.path : FieldError → String
  | internalError path _ => path
  | forbidden path _ => path

/-- The mode of a template. -/
def derivedSizingMode : Option WekaClusterTemplate → SizingMode
  | none => .autoFullDrives
  | some d =>
    if d.usesAutoFullDrives then .autoFullDrives
    else if d.usesClusterCapacity then .clusterCapacity
    else if 0 < d.containerCapacity ∨ 0 < d.driveCapacity then .driveSharing
    else .counts

/-- The switch is allowed. -/
def modeSwitchSupported (oldMode newMode : SizingMode) (newCluster : Cluster) : Bool :=
  match oldMode, newMode with
  | .counts, .autoFullDrives => true
  | .autoFullDrives, .counts => true
  | .driveSharing, .clusterCapacity => true
  | .counts, .driveSharing =>
    newCluster.annotations.lookup annotationSizingModeMigration = some sizingModeMigrationDriveSharing
  | _, _ => false

/-- What it would do. -/
def modeFlipConsequence (oldMode newMode : SizingMode) : String :=
  match oldMode, newMode with
  | .autoFullDrives, _ =>
    "the per-node containers sized from each node's own signed drives would be joined by a " ++
      "second, differently sized population planned from the new fields (clusterCapacity or " ++
      "drive-sharing capacity)"
  | _, .autoFullDrives =>
    "the running containers hold virtual drives that the full-drives inventory accounts for " ++
      "on neither side, so they could be neither adopted nor grown, and every eligible node would " ++
      "additionally get a new container sized from its own signed drives"
  | .counts, .clusterCapacity =>
    "the running full-drives containers report no capacity to the capacity planner, so it " ++
      "would plan a fresh set covering the whole target on top of them — and would then fail to " ++
      "write containerCapacity onto a container that has numDrives set, wedging reconciliation on " ++
      "every pass"
  | .clusterCapacity, _ =>
    "the planner-placed, node-pinned containers would be abandoned — counted toward the new " ++
      "container count without being resized, with unpinned count-based containers created for any " ++
      "shortfall, and nothing removed if there is a surplus, since the operator never auto-shrinks"
  | _, _ =>
    "the running containers would keep the drive layout their own family gave them while the " ++
      "operator sizes new ones under the other family's rules, and nothing reconciles the two"

/-- A drive container of the cluster. -/
def ListedContainer.isDriveOf (k : ListedContainer) (cluster : Cluster) : Bool :=
  k.namespaceName = cluster.namespaceName && k.clusterId = cluster.uid && k.mode = "drive"

/-- There is one. -/
def clusterHasDriveContainer (list : Except String (List ListedContainer)) (cluster : Cluster) : Except String Bool :=
  if cluster.uid = "" then .ok false
  else
    match list with
    | .error e => .error s!"listing the cluster's drive containers: {e}"
    | .ok containers => .ok ((containers.filter (·.isDriveOf cluster)).length > 0)

/-- The errors of an update. -/
def validateUpdate (list : Except String (List ListedContainer)) : Object → Object → List FieldError
  | .cluster oldCluster, .cluster newCluster =>
    let oldMode := derivedSizingMode oldCluster.dynamicTemplate
    let newMode := derivedSizingMode newCluster.dynamicTemplate
    if oldMode = newMode then []
    else if modeSwitchSupported oldMode newMode newCluster then []
    else
      match clusterHasDriveContainer list newCluster with
      | .error e =>
        [.internalError "spec.dynamicTemplate"
          (s!"this update changes the cluster's derived sizing mode from {oldMode.text} to {newMode.text}, which is " ++
            "not a supported switch once drive containers exist — but listing them failed, so " ++
            s!"the change could not be validated and is rejected rather than risked: {e}. Retry the " ++
            "edit; if it keeps failing, check the operator's access to WekaContainer resources in " ++
            s!"namespace \"{newCluster.namespaceName}\"")]
      | .ok false => []
      | .ok true =>
        [.forbidden "spec.dynamicTemplate"
          (s!"this update changes the cluster's derived sizing mode from {oldMode.text} to {newMode.text} while drive containers " ++
            s!"already exist. The mode is not a field — it follows from which sizing fields are set ({sizingModeFields}) — " ++
            "so the operator would start planning the running drive containers under different rules: " ++
            modeFlipConsequence oldMode newMode ++ ". Once drive containers exist the only supported switches are unsetting both " ++
            "spec.dynamicTemplate.computeContainers and spec.dynamicTemplate.driveContainers, which " ++
            "adopts the daemonset mode by growing the existing drive containers in place; setting " ++
            "explicit counts on a daemonset cluster, which keeps the running containers and only " ++
            "creates new ones while fewer than the counts exist; moving a " ++
            "drive-sharing cluster to spec.dynamicTemplate.clusterCapacity; and moving an explicit-counts " ++
            s!"cluster to drive-sharing with annotation {annotationSizingModeMigration}: {sizingModeMigrationDriveSharing} " ++
            "set on this update, for the migrate-to-drive-sharing operation.")]
  | _, _ => []

theorem validateUpdate_path (list : Except String (List ListedContainer)) (oldObj newObj : Object) :
    ∀ e ∈ validateUpdate list oldObj newObj, e.path = "spec.dynamicTemplate" := by
  unfold validateUpdate
  split
  · dsimp only
    split
    · exact nofun
    split
    · exact nofun
    split
    · rintro e he
      obtain rfl := mem_singleton.mp he
      rfl
    · exact nofun
    · rintro e he
      obtain rfl := mem_singleton.mp he
      rfl
  · exact nofun

theorem validateUpdate_eq_nil_iff {list : Except String (List ListedContainer)} {oldCluster newCluster : Cluster} :
    validateUpdate list (.cluster oldCluster) (.cluster newCluster) = [] ↔
      derivedSizingMode oldCluster.dynamicTemplate = derivedSizingMode newCluster.dynamicTemplate ∨
      modeSwitchSupported (derivedSizingMode oldCluster.dynamicTemplate) (derivedSizingMode newCluster.dynamicTemplate)
        newCluster = true ∨
      clusterHasDriveContainer list newCluster = .ok false := by
  unfold validateUpdate
  dsimp only
  split
  next same => exact ⟨fun _ => .inl same, fun _ => rfl⟩
  next other =>
    split
    next supported => exact ⟨fun _ => .inr (.inl supported), fun _ => rfl⟩
    next unsupported =>
      have rejected : ∀ {P : Prop}, (derivedSizingMode oldCluster.dynamicTemplate = derivedSizingMode newCluster.dynamicTemplate ∨
          modeSwitchSupported (derivedSizingMode oldCluster.dynamicTemplate)
            (derivedSizingMode newCluster.dynamicTemplate) newCluster = true ∨ P) → P := by
        rintro P (same | supported | p)
        · exact absurd same other
        · exact absurd supported unsupported
        · exact p
      split
      next failed =>
        refine ⟨fun h => (by cases h), fun h => ?_⟩
        have none := rejected h
        rw [failed] at none
        cases none
      next none => exact ⟨fun _ => .inr (.inr none), fun _ => rfl⟩
      next some =>
        refine ⟨fun h => (by cases h), fun h => ?_⟩
        have none := rejected h
        rw [some] at none
        cases none

/-! ### Sequences of updates -/

/-- An update with the containers at that time. -/
structure Update where
  list : Except String (List ListedContainer)
  cluster : Cluster

/-- It is admitted. -/
structure Update.Admitted (u : Update) (stored : Cluster) : Prop where
  admitted : validateUpdate u.list (.cluster stored) (.cluster u.cluster) = []
  uid : u.cluster.uid = stored.uid
  namespaceName : u.cluster.namespaceName = stored.namespaceName
  exclusive : ∀ containers, u.list = .ok containers → ∃ k ∈ containers, k.exclusive = true ∧ k.isDriveOf stored = true

/-- All updates are, one after the other. -/
def AllAdmitted (stored : Cluster) : List Update → Prop
  | [] => True
  | u :: updates => u.Admitted stored ∧ AllAdmitted u.cluster updates

/-- The mode of a cluster. -/
def mode (cluster : Cluster) : SizingMode := derivedSizingMode cluster.dynamicTemplate

/-- The modes over a history. -/
def modes (stored : Cluster) (updates : List Update) : List SizingMode := mode stored :: updates.map (mode ·.cluster)

/-- One of the updates goes from drive sharing to a cluster capacity. -/
def sharingToCapacity (stored : Cluster) : List Update → Prop
  | [] => False
  | u :: updates => (mode stored = .driveSharing ∧ mode u.cluster = .clusterCapacity) ∨ sharingToCapacity u.cluster updates

variable {stored : Cluster} {u : Update}

theorem Update.Admitted.switch (h : u.Admitted stored) (stored' : stored.uid ≠ "") :
    mode u.cluster = mode stored ∨ modeSwitchSupported (mode stored) (mode u.cluster) u.cluster = true := by
  rcases validateUpdate_eq_nil_iff.mp h.admitted with same | supported | none
  · exact .inl same.symm
  · exact .inr supported
  · unfold clusterHasDriveContainer at none
    rw [h.uid, if_neg stored'] at none
    split at none
    · cases none
    next containers listed =>
      obtain ⟨k, hk, -, drive⟩ := h.exclusive containers listed
      have mem : k ∈ containers.filter (·.isDriveOf u.cluster) := by
        refine mem_filter.mpr ⟨hk, ?_⟩
        rw [ListedContainer.isDriveOf, h.uid, h.namespaceName]
        exact drive
      have empty : ¬(containers.filter (·.isDriveOf u.cluster)).length > 0 := of_decide_eq_false (Except.ok.inj none)
      exact absurd (length_pos_of_mem mem) empty

theorem Update.Admitted.clusterCapacity (h : u.Admitted stored) (stored' : stored.uid ≠ "")
    (capacity : mode u.cluster = .clusterCapacity) : mode stored = .clusterCapacity ∨ mode stored = .driveSharing := by
  rcases h.switch stored' with same | supported
  · exact .inl (same.symm.trans capacity)
  · rw [capacity] at supported
    cases hm : mode stored with
    | clusterCapacity => exact .inl rfl
    | driveSharing => exact .inr rfl
    | counts =>
      rw [hm] at supported
      cases supported
    | autoFullDrives =>
      rw [hm] at supported
      cases supported

theorem clusterCapacity_mem_modes_iff {updates : List Update} (h : AllAdmitted stored updates)
    (stored' : stored.uid ≠ "") (start : mode stored ≠ .clusterCapacity) :
    .clusterCapacity ∈ modes stored updates ↔ sharingToCapacity stored updates := by
  induction updates generalizing stored with
  | nil => simpa [modes, sharingToCapacity] using start.symm
  | cons u updates ih =>
    have uid : u.cluster.uid ≠ "" := by rw [h.1.uid]; exact stored'
    have head : SizingMode.clusterCapacity ∈ modes stored (u :: updates) ↔ .clusterCapacity ∈ modes u.cluster updates := by
      simp only [modes, map_cons, mem_cons, start.symm, false_or]
    rw [head, sharingToCapacity]
    by_cases capacity : mode u.cluster = .clusterCapacity
    · have sharing := (h.1.clusterCapacity stored' capacity).resolve_left start
      exact ⟨fun _ => .inl ⟨sharing, capacity⟩, fun _ => mem_cons.mpr (.inl capacity.symm)⟩
    · rw [ih h.2 uid capacity]
      exact ⟨.inr, fun h => h.resolve_left fun both => capacity both.2⟩

/-- From explicit counts, with an exclusive drive container all along: no mode is that of a cluster capacity exactly when
    no update moves the cluster there from drive sharing. -/
theorem sizingMode_guarded_iff {stored : Cluster} {updates : List Update} (counts : mode stored = .counts)
    (stored' : stored.uid ≠ "") (h : AllAdmitted stored updates) :
    .clusterCapacity ∉ modes stored updates ↔ ¬sharingToCapacity stored updates := by
  have start : mode stored ≠ .clusterCapacity := by
    rw [counts]
    nofun
  exact not_congr (clusterCapacity_mem_modes_iff h stored' start)

/-! ### A cluster with an exclusive drive container -/

def exclusiveDrive : ListedContainer := ⟨"weka", "uid-0", "drive", true⟩

def countsCluster : Cluster :=
  { uid := "uid-0", namespaceName := "weka", dynamicTemplate := some { computeContainers := 6, driveContainers := 6, numDrives := 1 } }

def sharingCluster : Cluster :=
  { countsCluster with
    annotations := [(annotationSizingModeMigration, sizingModeMigrationDriveSharing)]
    dynamicTemplate := some { computeContainers := 6, driveContainers := 6, containerCapacity := 1000 } }

def capacityCluster : Cluster := { countsCluster with dynamicTemplate := some { usesClusterCapacity := true } }

theorem exclusiveDrive_listed (uid : stored.uid = "uid-0") (ns : stored.namespaceName = "weka") :
    ∀ containers, (Except.ok [exclusiveDrive] : Except String (List ListedContainer)) = .ok containers →
      ∃ k ∈ containers, k.exclusive = true ∧ k.isDriveOf stored = true := by
  rintro _ ⟨rfl⟩
  refine ⟨exclusiveDrive, mem_singleton_self _, rfl, ?_⟩
  simp [ListedContainer.isDriveOf, exclusiveDrive, uid, ns]

theorem sizingMode_guarded_sharing : AllAdmitted countsCluster [⟨.ok [exclusiveDrive], sharingCluster⟩] ∧
    (.clusterCapacity ∉ modes countsCluster [⟨.ok [exclusiveDrive], sharingCluster⟩] ↔
      ¬sharingToCapacity countsCluster [⟨.ok [exclusiveDrive], sharingCluster⟩]) := by
  have admitted : AllAdmitted countsCluster [⟨.ok [exclusiveDrive], sharingCluster⟩] :=
    ⟨⟨by decide, rfl, rfl, exclusiveDrive_listed rfl rfl⟩, trivial⟩
  exact ⟨admitted, sizingMode_guarded_iff rfl (by decide) admitted⟩

/-- Opting in to the migration and then asking for a cluster capacity gets there in two admitted updates. -/
theorem sizingMode_bypassed : ∃ updates, mode countsCluster = .counts ∧ countsCluster.uid ≠ "" ∧
    AllAdmitted countsCluster updates ∧ .clusterCapacity ∈ modes countsCluster updates :=
  ⟨[⟨.ok [exclusiveDrive], sharingCluster⟩, ⟨.ok [exclusiveDrive], capacityCluster⟩], rfl, by decide,
    ⟨⟨by decide, rfl, rfl, exclusiveDrive_listed rfl rfl⟩, ⟨by decide, rfl, rfl, exclusiveDrive_listed rfl rfl⟩, trivial⟩,
    by decide⟩

end WekaOperator.Validation
