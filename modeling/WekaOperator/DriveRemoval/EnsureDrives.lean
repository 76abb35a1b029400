import WekaOperator.Containers.Inventory
import WekaOperator.DriveRemoval.Steps

/-! How a drive container adds its allocated drives to the weka cluster (`EnsureDrives` of `funcs_drives.go`, behind
    `HasDrivesToAdd` of `funcs_getters.go`). -/

namespace WekaOperator.DriveRemoval
open List Lib Planner Containers

/-- What the pod requests. -/
structure PodRequests where
  hugepages2Mi : Option Int := none
  hugepages1Gi : Option Int := none
  memory : Int := 0
  drives : Int := 0
  deriving DecidableEq, Repr

/-- A drive container. -/
structure DriveContainer where
  mode : Containers.Mode
  clusterContainerID : Option Int
  usesDriveSharing : Bool
  numDrives : Int := 0
  dpdkBaseMemoryMb : Int := 0
  phase : ContainerStatus
  status : Status
  pod : Option PodRequests := none
  nodeSet : Bool := true
  blocked : Blocked := {}

/-- A drive in the kernel. -/
structure DriveInfo where
  serialId : String
  devicePath : String
  partition : String
  isSigned : Bool := false
  wekaGuid : String := ""
  deriving DecidableEq, Repr

/-- An attempt to add a drive. -/
structure Attempt where
  drive : String
  device : Option String := none
  pool : Option String := none
  error : Option String := none
  deriving DecidableEq, Repr

/-- The replies of a run. -/
structure Answers where
  newExecInPod : Except String Unit := .ok ()
  getCluster : Except String (Option DriveTypesRatio) := .ok none
  getKernelDrives : Except String (NameMap DriveInfo) := .ok ∅
  supportsPool : Bool := true
  addDrive : Nat → Except String Unit := fun _ => .ok ()
  updateStatus : Except String Unit := .ok ()

/-- What has been done so far. -/
structure Progress where
  attempts : List Attempt := []
  phase : ContainerStatus
  deriving DecidableEq, Repr

/-- Programs that add drives. -/
abbrev Adding := ExceptT String (StateM Progress)

variable {α : Type} {p : Progress} {e : String}

namespace Adding

/-- Runs one. -/
def runFrom {α : Type} (x : Adding α) (p : Progress) : Except String α × Progress := StateT.run (ExceptT.run x) p

@[simp] theorem runFrom_pure (x : α) (p : Progress) : runFrom (pure x) p = (.ok x, p) := rfl

@[simp] theorem runFrom_throw (e : String) (p : Progress) : runFrom (throw e : Adding α) p = (.error e, p) := rfl

variable {x : Adding α} {p' : Progress} {β : Type}

theorem runFrom_bind_ok {f : α → Adding β} {v : α} (h : x.runFrom p = (.ok v, p')) :
    (x >>= f).runFrom p = (f v).runFrom p' := by
  rw [runFrom] at h
  rw [runFrom, ExceptT.run_bind, StateT.run_bind, h]
  rfl

theorem runFrom_bind_error {f : α → Adding β} (h : x.runFrom p = (.error e, p')) : (x >>= f).runFrom p = (.error e, p') := by
  rw [runFrom] at h
  rw [runFrom, ExceptT.run_bind, StateT.run_bind, h]
  rfl

end Adding

/-! ### The checks before -/

/-- Fewer drives are added than allocated. -/
def hasDrivesToAdd (c : DriveContainer) : Bool :=
  if c.usesDriveSharing then c.status.addedDrives.length < c.status.virtualDrives.length
  else c.status.addedDrives.length < c.status.drives.length

/-- When the step runs. -/
def ensureDrivesPredicates (c : DriveContainer) : Bool := c.mode = .drive && hasDrivesToAdd c

/-- The hugepages of the pod. -/
def podHugepagesRequestMiB (pod : PodRequests) : Int :=
  match pod.hugepages2Mi, pod.hugepages1Gi with
  | some q, _ => q.tdiv (1024 * 1024)
  | none, some q => q.tdiv (1024 * 1024)
  | none, none => 0

/-- The pod has to ask for all drives. -/
def deferIfFullDrivesShortfall (c : DriveContainer) (pod : PodRequests) : Except String Unit :=
  let allocated := c.status.drives.length
  if pod.drives ≥ allocated then .ok ()
  else
    let requested := pod.drives
    .error s!"deferring drive add: pod requests {requested} drives, allocated {allocated}; recreate the pod"

/-- The capacity of some virtual drives. -/
def capacityOf (vds : List VirtualDrive) (p : VirtualDrive → Bool) : Int := ((vds.filter p).map (·.capacityGiB)).sum

/-- The pod has to have the resources. -/
def checkDriveResourceFeasibility (cfg : Config) (c : DriveContainer) : Except String Unit :=
  match c.pod with
  | none => .ok ()
  | some pod =>
    if !c.usesDriveSharing then deferIfFullDrivesShortfall c pod
    else
      let qlcGiB := capacityOf c.status.virtualDrives (·.type = some .qlc)
      let tlcGiB := capacityOf c.status.virtualDrives (·.type ≠ some .qlc)
      if tlcGiB = 0 ∧ qlcGiB = 0 then .ok ()
      else
        let cons := { capacityConstraintsFromConfig cfg with driveDpdkPerCoreMiB := c.dpdkBaseMemoryMb }
        let (reqHpMiB, reqMemMiB) := requiredDriveResources tlcGiB qlcGiB c.numDrives cons
        let availHpMiB := podHugepagesRequestMiB pod
        let availMemMiB := pod.memory.tdiv (1024 * 1024)
        let deferring (shortfall : String) :=
          s!"deferring drive add: pod under-resourced for target capacity ({shortfall})"
        if availHpMiB < reqHpMiB then
          .error (deferring s!"hugepages: pod requests {availHpMiB} MiB, need {reqHpMiB} MiB")
        else if availMemMiB < reqMemMiB then
          .error (deferring s!"memory: pod requests {availMemMiB} MiB, need {reqMemMiB} MiB")
        else .ok ()

/-! ### The drives one by one -/

/-- The error, if any. -/
def errorOf : Except String Unit → Option String
  | .ok () => none
  | .error e => some e

/-- Makes an attempt. -/
def setOut (attempt : Nat → Attempt) : Adding (Option String) := do
  let p ← get
  let made := attempt p.attempts.length
  set { p with attempts := p.attempts ++ [made] }
  return made.error

/-- Adds one drive after the other. -/
def addEach {α : Type} (skip : α → Bool) (add : α → Adding (Option String)) : List α → Adding (List String)
  | [] => return []
  | d :: ds =>
    if skip d then addEach skip add ds
    else do
      let err ← add d
      let errs ← addEach skip add ds
      return err.toList ++ errs

/-- All drives are of one type. -/
def allSameType (ratio : Option DriveTypesRatio) (vds : List VirtualDrive) : Bool :=
  match ratio with
  | some ratio => ratio.qlc = 0 || ratio.tlc = 0
  | none => vds.all fun vd => vd.type = vds.head?.bind (·.type)

/-- The pool of a drive. -/
def virtualDrivePool (sameType : Bool) (vd : VirtualDrive) : String :=
  if sameType then "legacy" else if vd.type = some .qlc then "iubig" else "iu4k"

/-- The attempt for a virtual drive. -/
def addVirtualDrive (a : Answers) (sameType : Bool) (vd : VirtualDrive) (n : Nat) : Attempt where
  drive := vd.virtualUUID
  device := some vd.virtualUUID
  pool := some (virtualDrivePool sameType vd)
  error := errorOf (a.addDrive n)

/-- The list, if it can be read. -/
def listed (value : Except String (List String)) : List String :=
  match value with
  | .ok blocked => blocked
  | .error _ => []

/-- Blocked virtual drives. -/
def blockedVirtualUuidSet (c : DriveContainer) : List String :=
  if c.nodeSet then listed c.blocked.virtualUuids else []

/-- Blocked physical drives. -/
def getNodeBlockedDriveUuids (c : DriveContainer) : Except String (List String) :=
  if c.nodeSet then
    c.blocked.physicalUuids.mapError fun e => s!"failed to unmarshal weka.io/blocked-drives-physical-uuids annotation: {e}"
  else .error "node is nil"

/-- The drive is skipped. -/
def skipsVirtual (c : DriveContainer) (blockedPhysical : List String) (vd : VirtualDrive) : Bool :=
  vd.virtualUUID = "" || vd.virtualUUID ∈ blockedVirtualUuidSet c || vd.physicalUUID ∈ blockedPhysical ||
    vd.virtualUUID ∈ getAddedDrivesUuids c.status

/-- Fails on an error. -/
def require {α : Type} (x : Except String α) : Adding α := ExceptT.mk (pure x)

/-- Adds the virtual drives. -/
def addVirtualDrives (c : DriveContainer) (a : Answers) : Adding (List String) := do
  let ratio ← require (a.getCluster.mapError fun e => s!"error getting cluster: {e}")
  let blockedPhysical ← require
    ((getNodeBlockedDriveUuids c).mapError fun e => s!"failed to get blocked drive UUIDs from node: {e}")
  addEach (skipsVirtual c blockedPhysical)
    (fun vd => setOut (addVirtualDrive a (allSameType ratio c.status.virtualDrives) vd)) c.status.virtualDrives

/-- As Go prints it. -/
def DriveInfo.text (d : DriveInfo) : String :=
  let ⟨serialId, devicePath, partition, isSigned, wekaGuid⟩ := d
  s!"\x7b{serialId} {devicePath} {partition} {isSigned} {wekaGuid}\x7d"

/-- The attempt for a whole drive. -/
def addExclusiveDrive (a : Answers) (kDrives : NameMap DriveInfo) (drive : String) (n : Nat) : Attempt :=
  match kDrives.lookup drive with
  | none => { drive, error := some s!"drive {drive} not found in kernel" }
  | some info =>
    if info.partition = "" then
      let text := info.text
      { drive, error := some s!"drive {text} is not partitioned" }
    else if info.isSigned then { drive, error := some s!"drive {drive} has Weka signature on it, forbidding usage" }
    else
      { drive
        device := some info.devicePath
        pool := if a.supportsPool then some "legacy" else none
        error := errorOf (a.addDrive n) }

/-- Adds the whole drives. -/
def addExclusiveDrives (c : DriveContainer) (a : Answers) : Adding (List String) :=
  addEach (· ∈ getAddedDrivesSerials c.status)
    (fun drive => do
      let kDrives ← require (a.getKernelDrives.mapError fun e => s!"error getting kernel drives: {e}")
      setOut (addExclusiveDrive a kDrives drive)) c.status.drives

/-- Adds the drives. -/
def addDrives (c : DriveContainer) (a : Answers) : Adding (List String) :=
  if c.usesDriveSharing then addVirtualDrives c a else addExclusiveDrives c a

/-! ### The step -/

/-- Stores a new status. -/
def updateContainerStatusIfNotEquals (a : Answers) (phase : ContainerStatus) : Adding Unit := do
  let p ← get
  if p.phase = phase then return ()
  else do
    set { p with phase }
    require (a.updateStatus.mapError fun e => s!"failed to update container status: {e}")

/-- How many drives are allocated. -/
def expectedDriveCount (c : DriveContainer) : Nat :=
  if c.usesDriveSharing then c.status.virtualDrives.length else c.status.drives.length

/-- The step that adds drives. -/
def ensureDrives (cfg : Config) (c : DriveContainer) (a : Answers) : Adding Unit :=
  if c.clusterContainerID = none then throw "container cluster ID is not set, cannot ensure drives"
  else if c.status.addedDrives.length = expectedDriveCount c then updateContainerStatusIfNotEquals a .running
  else do
    require (checkDriveResourceFeasibility cfg c)
    require a.newExecInPod
    let errs ← addDrives c a
    if errs.isEmpty then updateContainerStatusIfNotEquals a .running
    else
      let all := joined errs
      throw s!"errors while adding drives: [{all}]"

/-- What comes of it. -/
def ensured (cfg : Config) (c : DriveContainer) (a : Answers) : Except String Unit × Progress :=
  (ensureDrives cfg c a).runFrom { phase := c.phase }

/-! ### Which drives are set out for -/

/-- The drives that are not added. -/
def missing (c : DriveContainer) : List String :=
  if c.usesDriveSharing then
    (c.status.virtualDrives.filter fun vd =>
      vd.virtualUUID ≠ "" ∧ vd.virtualUUID ∉ listed c.blocked.virtualUuids ∧ vd.physicalUUID ∉ listed c.blocked.physicalUuids ∧
        vd.serial ∉ listed c.blocked.serials ∧ vd.virtualUUID ∉ getAddedDrivesUuids c.status).map (·.virtualUUID)
  else
    c.status.drives.filter fun drive =>
      drive ≠ "" ∧ drive ∉ listed c.blocked.serials ∧ drive ∉ getAddedDrivesSerials c.status

/-- The drives that are tried. -/
def tried (c : DriveContainer) : List String :=
  if c.usesDriveSharing then
    (c.status.virtualDrives.filter (!skipsVirtual c (listed c.blocked.physicalUuids) ·)).map (·.virtualUUID)
  else c.status.drives.filter (· ∉ getAddedDrivesSerials c.status)

/-- What the step reads can be read. -/
structure Readable (c : DriveContainer) (a : Answers) : Prop where
  sharing : c.usesDriveSharing = true → c.nodeSet = true ∧ (∃ ratio, a.getCluster = .ok ratio) ∧
    ∃ blocked, c.blocked.physicalUuids = .ok blocked
  exclusive : c.usesDriveSharing = false → (∃ kDrives, a.getKernelDrives = .ok kDrives) ∨ tried c = []

/-- The step gets to the drives. -/
structure Proceeds (cfg : Config) (c : DriveContainer) (a : Answers) : Prop extends Readable c a where
  clusterContainerID : c.clusterContainerID ≠ none
  feasible : checkDriveResourceFeasibility cfg c = .ok ()
  executor : a.newExecInPod = .ok ()

/-- The attempts it makes. -/
def attempts (c : DriveContainer) (a : Answers) : List Attempt :=
  if c.usesDriveSharing then
    let sameType := allSameType (okOr none a.getCluster) c.status.virtualDrives
    (c.status.virtualDrives.filter (!skipsVirtual c (listed c.blocked.physicalUuids) ·)).mapIdx fun n vd =>
      addVirtualDrive a sameType vd n
  else
    (c.status.drives.filter (· ∉ getAddedDrivesSerials c.status)).mapIdx fun n drive =>
      addExclusiveDrive a (okOr ∅ a.getKernelDrives) drive n
where okOr {α : Type} (default : α) : Except String α → α
  | .ok x => x
  | .error _ => default

@[simp] theorem addExclusiveDrive_drive : (addExclusiveDrive a kDrives drive n).drive = drive := by
  unfold addExclusiveDrive
  split
  · rfl
  · split_ifs <;> rfl

theorem attempts_drive : (attempts c a).map (·.drive) = tried c := by
  unfold attempts tried
  split
  · simp only [mapIdx_eq_zipIdx_map, map_map]
    exact (map_map (f := Prod.fst) (g := VirtualDrive.virtualUUID)).symm.trans (by rw [zipIdx_map_fst])
  · simp [Function.comp_def, mapIdx_eq_zipIdx_map]

theorem setOut_runFrom {attempt : Nat → Attempt} (p : Progress) : (setOut attempt).runFrom p =
    (.ok (attempt p.attempts.length).error, { p with attempts := p.attempts ++ [attempt p.attempts.length] }) := rfl

variable {add : α → Adding (Option String)} {skip : α → Bool} {l : List α}

theorem addEach_runFrom {attempt : α → Nat → Attempt} (adds : ∀ d ∈ l, skip d = false → add d = setOut (attempt d))
    (p : Progress) :
    (addEach skip add l).runFrom p =
      let made := (l.filter (!skip ·)).mapIdx fun n d => attempt d (p.attempts.length + n)
      (.ok (made.filterMap (·.error)), { p with attempts := p.attempts ++ made }) := by
  induction l generalizing p with
  | nil => simp [addEach]
  | cons d ds ih =>
    have ih := ih fun d mem => adds d (mem_cons_of_mem _ mem)
    cases skipped : skip d with
    | true => simp [addEach, skipped, ih]
    | false =>
      have made : ((d :: ds).filter (!skip ·)).mapIdx (fun n d => attempt d (p.attempts.length + n)) =
          attempt d p.attempts.length ::
            (ds.filter (!skip ·)).mapIdx fun n d => attempt d ((p.attempts ++ [attempt d p.attempts.length]).length + n) := by
        rw [filter_cons_of_pos (by simp [skipped]), mapIdx_cons]
        simp [Nat.add_assoc, Nat.add_comm 1]
      simp only [addEach, skipped, adds d mem_cons_self skipped, Bool.false_eq_true, if_false, made]
      rw [Adding.runFrom_bind_ok (setOut_runFrom p), Adding.runFrom_bind_ok (ih _)]
      cases err : (attempt d p.attempts.length).error <;> simp [err]

theorem addEach_fails (fails : ∀ d p, (add d).runFrom p = (.error e, p)) (some : l.filter (!skip ·) ≠ []) (p : Progress) :
    (addEach skip add l).runFrom p = (.error e, p) := by
  induction l with
  | nil => simp at some
  | cons d ds ih =>
    cases skipped : skip d with
    | true =>
      rw [filter_cons_of_neg (by simp [skipped])] at some
      simp [addEach, skipped, ih some]
    | false =>
      simp only [addEach, skipped, Bool.false_eq_true, if_false]
      exact Adding.runFrom_bind_error (fails d p)

/-! ### A run of the step -/

section Run
variable {cfg : Config} {c : DriveContainer} {a : Answers}

@[simp] theorem require_ok (x : α) : require (.ok x) = pure x := rfl

theorem require_error (p : Progress) : (require (.error e : Except String α)).runFrom p = (.error e, p) :=
  rfl

theorem addDrives_runFrom (readable : Readable c a) (phase : ContainerStatus) :
    (addDrives c a).runFrom { phase } =
      (.ok ((attempts c a).filterMap (·.error)), { attempts := attempts c a, phase }) := by
  unfold addDrives
  cases mode : c.usesDriveSharing with
  | true =>
    obtain ⟨node, ⟨ratio, cluster⟩, blocked, read⟩ := readable.sharing mode
    have adds : addVirtualDrives c a = addEach (skipsVirtual c blocked)
        (fun vd => setOut (addVirtualDrive a (allSameType ratio c.status.virtualDrives) vd)) c.status.virtualDrives := by
      simp [addVirtualDrives, cluster, getNodeBlockedDriveUuids, node, read, Except.mapError]
    rw [if_pos rfl, adds, addEach_runFrom (fun _ _ _ => rfl)]
    simp [attempts, mode, cluster, read, listed, attempts.okOr]
  | false =>
    have adds : ∀ d ∈ c.status.drives, decide (d ∈ getAddedDrivesSerials c.status) = false →
        (do let kDrives ← require (a.getKernelDrives.mapError fun e => s!"error getting kernel drives: {e}")
            setOut (addExclusiveDrive a kDrives d)) = setOut (addExclusiveDrive a (attempts.okOr ∅ a.getKernelDrives) d) := by
      intro d mem new
      rcases readable.exclusive mode with ⟨kDrives, read⟩ | none
      · simp [read, Except.mapError, attempts.okOr]
      · have tried : d ∈ tried c := by simpa [tried, mode, mem] using new
        simp [none] at tried
    rw [if_neg (by simp), addExclusiveDrives, addEach_runFrom adds]
    simp [attempts, mode]

theorem getNodeBlockedDriveUuids_ok {blocked : List String} (h : getNodeBlockedDriveUuids c = .ok blocked) :
    c.nodeSet = true ∧ c.blocked.physicalUuids = .ok blocked := by
  unfold getNodeBlockedDriveUuids at h
  split at h
  next node => exact ⟨node, mapError_eq_ok h⟩
  next => cases h

theorem addDrives_fails (unreadable : ¬Readable c a) (p : Progress) : ∃ e, (addDrives c a).runFrom p = (.error e, p) := by
  unfold addDrives
  cases mode : c.usesDriveSharing with
  | true =>
    rw [if_pos rfl, addVirtualDrives]
    cases cluster : a.getCluster with
    | error e => exact ⟨_, Adding.runFrom_bind_error rfl⟩
    | ok ratio =>
    rw [Except.mapError, require_ok, pure_bind]
    cases read : getNodeBlockedDriveUuids c with
    | error e => exact ⟨_, Adding.runFrom_bind_error rfl⟩
    | ok blocked =>
      obtain ⟨node, read⟩ := getNodeBlockedDriveUuids_ok read
      refine absurd ⟨fun _ => ⟨node, ⟨ratio, cluster⟩, blocked, read⟩, fun exclusive => ?_⟩ unreadable
      simp [mode] at exclusive
  | false =>
    cases read : a.getKernelDrives with
    | ok kDrives =>
      refine absurd ⟨fun sharing => ?_, fun _ => .inl ⟨kDrives, read⟩⟩ unreadable
      simp [mode] at sharing
    | error e =>
      by_cases none : tried c = []
      · refine absurd ⟨fun sharing => ?_, fun _ => .inr none⟩ unreadable
        simp [mode] at sharing
      · refine ⟨s!"error getting kernel drives: {e}", addEach_fails (fun d p => Adding.runFrom_bind_error ?_) ?_ p⟩
        · rw [read]
          rfl
        · simpa [tried, mode] using none

section
variable (differ : c.status.addedDrives.length ≠ expectedDriveCount c)
include differ

theorem ensured_fails (stopped : ¬Proceeds cfg c a) : ∃ e, ensured cfg c a = (.error e, { phase := c.phase }) := by
  unfold ensured ensureDrives
  by_cases id : c.clusterContainerID = none
  · exact ⟨_, by rw [if_pos id]; rfl⟩
  rw [if_neg id, if_neg differ]
  cases feasible : checkDriveResourceFeasibility cfg c with
  | error e => exact ⟨_, Adding.runFrom_bind_error (require_error _)⟩
  | ok _ =>
  rw [require_ok, pure_bind]
  cases executor : a.newExecInPod with
  | error e => exact ⟨_, Adding.runFrom_bind_error (require_error _)⟩
  | ok _ =>
  rw [require_ok, pure_bind]
  obtain ⟨e, fails⟩ := @addDrives_fails c a (fun readable => stopped ⟨readable, id, feasible, executor⟩) { phase := c.phase }
  exact ⟨e, Adding.runFrom_bind_error fails⟩

theorem ensured_runs (proceeds : Proceeds cfg c a) :
    ensured cfg c a =
      let errs := (attempts c a).filterMap (·.error)
      (if errs.isEmpty then updateContainerStatusIfNotEquals a .running
        else
          let all := joined errs
          throw s!"errors while adding drives: [{all}]").runFrom { attempts := attempts c a, phase := c.phase } := by
  rw [ensured, ensureDrives, if_neg proceeds.clusterContainerID, if_neg differ, proceeds.feasible, proceeds.executor]
  simp only [require_ok, pure_bind]
  exact Adding.runFrom_bind_ok (addDrives_runFrom proceeds.toReadable c.phase)

end

theorem updateContainerStatusIfNotEquals_runFrom {phase : ContainerStatus} :
    (updateContainerStatusIfNotEquals a phase).runFrom p =
      (if p.phase = phase then .ok () else a.updateStatus.mapError fun e => s!"failed to update container status: {e}",
        { p with phase }) := by
  rw [updateContainerStatusIfNotEquals, Adding.runFrom_bind_ok (rfl : Adding.runFrom get p = (.ok p, p))]
  by_cases same : p.phase = phase
  · subst same
    rw [if_pos rfl, if_pos rfl]
    rfl
  · rw [if_neg same, if_neg same]
    exact Adding.runFrom_bind_ok (rfl : Adding.runFrom (set { p with phase }) p = (.ok (), { p with phase }))

/-- It succeeds with status Running. -/
def SetsRunning (cfg : Config) (c : DriveContainer) (a : Answers) : Prop :=
  (ensured cfg c a).1 = .ok () ∧ (ensured cfg c a).2.phase = .running

/-- All goes well. -/
structure Succeeds (cfg : Config) (c : DriveContainer) (a : Answers) : Prop extends Proceeds cfg c a where
  added : ∀ made ∈ attempts c a, made.error = none
  written : c.phase = .running ∨ a.updateStatus = .ok ()

/-- No missing drive is skipped. -/
def Unblocked (c : DriveContainer) : Prop :=
  if c.usesDriveSharing then
    ∀ vd ∈ c.status.virtualDrives, skipsVirtual c (listed c.blocked.physicalUuids) vd = false →
      vd.serial ∉ listed c.blocked.serials
  else
    ∀ drive ∈ c.status.drives, drive ∉ getAddedDrivesSerials c.status → drive ≠ "" ∧ drive ∉ listed c.blocked.serials

section
variable (differ : c.status.addedDrives.length ≠ expectedDriveCount c)
include differ

theorem ensured_attempts (proceeds : Proceeds cfg c a) : (ensured cfg c a).2.attempts = attempts c a := by
  rw [ensured_runs differ proceeds]
  dsimp only
  split
  · rw [updateContainerStatusIfNotEquals_runFrom]
  · rfl

theorem setsRunning_iff : SetsRunning cfg c a ↔ Succeeds cfg c a := by
  by_cases proceeds : Proceeds cfg c a
  · have runs := ensured_runs differ proceeds
    by_cases added : ∀ made ∈ attempts c a, made.error = none
    · have empty : ((attempts c a).filterMap (·.error)).isEmpty = true := by
        simpa [filterMap_eq_nil_iff] using added
      simp only [empty, if_true, updateContainerStatusIfNotEquals_runFrom] at runs
      rw [SetsRunning, runs]
      constructor
      · rintro ⟨ok, -⟩
        refine ⟨proceeds, added, ?_⟩
        split at ok
        next running => exact .inl running
        next => exact .inr (mapError_eq_ok ok)
      · rintro succeeds
        refine ⟨?_, rfl⟩
        rcases succeeds.written with running | written
        · simp [running]
        · simp [written, Except.mapError]
    · have failed : ((attempts c a).filterMap (·.error)).isEmpty = false := by
        simpa [filterMap_eq_nil_iff] using added
      simp only [failed, Bool.false_eq_true, if_false, Adding.runFrom_throw] at runs
      exact iff_of_false (by simp [SetsRunning, runs]) fun succeeds => added succeeds.added
  · obtain ⟨e, fails⟩ := ensured_fails differ proceeds
    exact iff_of_false (by simp [SetsRunning, fails]) fun succeeds => proceeds succeeds.toProceeds

end

/-! ### Missing drives -/

theorem blockedVirtualUuidSet_subset : blockedVirtualUuidSet c ⊆ listed c.blocked.virtualUuids := by
  unfold blockedVirtualUuidSet
  split
  · exact List.Subset.refl _
  · exact nil_subset _

theorem missing_subset_tried : missing c ⊆ tried c := by
  unfold missing tried
  split
  · refine map_subset _ fun vd mem => ?_
    simp only [mem_filter, decide_eq_true_eq] at mem
    obtain ⟨mem, known, unblocked, physical, -, new⟩ := mem
    have unblocked : vd.virtualUUID ∉ blockedVirtualUuidSet c := fun h => unblocked (blockedVirtualUuidSet_subset h)
    simp [skipsVirtual, mem, known, unblocked, physical, new]
  · intro drive mem
    simp only [mem_filter, decide_eq_true_eq] at mem ⊢
    exact ⟨mem.1, mem.2.2.2⟩

theorem tried_eq_missing_iff (node : c.usesDriveSharing = true → c.nodeSet = true) : tried c = missing c ↔ Unblocked c := by
  unfold tried missing Unblocked
  split
  next sharing =>
    have lists : blockedVirtualUuidSet c = listed c.blocked.virtualUuids := if_pos (node sharing)
    refine (map_filter_eq_map_filter_iff ?_).trans (forall₂_congr fun vd mem => ?_)
    · intro vd _ h
      simp only [decide_eq_true_eq] at h
      simp [skipsVirtual, lists, h]
    · rw [Bool.not_eq_true']
      refine forall_congr' fun tried => ?_
      simp only [skipsVirtual, lists, Bool.or_eq_false_iff, decide_eq_false_iff_not] at tried
      simp [tried]
  next =>
    have := map_filter_eq_map_filter_iff (f := id) (p := fun drive => decide (drive ∉ getAddedDrivesSerials c.status))
      (q := fun drive => decide (drive ≠ "" ∧ drive ∉ listed c.blocked.serials ∧ drive ∉ getAddedDrivesSerials c.status))
      (l := c.status.drives) (by simp +contextual)
    simp only [map_id] at this
    refine this.trans (forall₂_congr fun drive mem => ?_)
    simp only [decide_eq_true_eq]
    exact forall_congr' fun new => by simp [new]

/-- The missing drives are tried. -/
def AddsMissing (cfg : Config) (c : DriveContainer) (a : Answers) : Prop :=
  missing c ≠ [] → ensureDrivesPredicates c = true ∧
    (Proceeds cfg c a → (ensured cfg c a).2.attempts.map (·.drive) = missing c)

/-- Running means that all were added. -/
def RunningWhenAdded (cfg : Config) (c : DriveContainer) (a : Answers) : Prop :=
  SetsRunning cfg c a → ∀ drive ∈ missing c, ∃ made ∈ (ensured cfg c a).2.attempts, made.drive = drive ∧ made.error = none

/-- Running means that all are on record. -/
def RunningWhenRecorded (cfg : Config) (c : DriveContainer) (a : Answers) : Prop := SetsRunning cfg c a → missing c = []

/-- Drives are missing, and none is skipped. -/
def Due (cfg : Config) (c : DriveContainer) (a : Answers) : Prop :=
  c.status.addedDrives.length < expectedDriveCount c ∧ (Proceeds cfg c a → Unblocked c)

theorem hasDrivesToAdd_iff : hasDrivesToAdd c = true ↔ c.status.addedDrives.length < expectedDriveCount c := by
  unfold hasDrivesToAdd expectedDriveCount
  split <;> simp

theorem addsMissing_iff (drive : c.mode = .drive) : AddsMissing cfg c a ↔ missing c = [] ∨ Due cfg c a := by
  have due : ensureDrivesPredicates c = true ↔ c.status.addedDrives.length < expectedDriveCount c := by
    simp [ensureDrivesPredicates, drive, hasDrivesToAdd_iff]
  by_cases none : missing c = []
  · simp [AddsMissing, none]
  · simp only [AddsMissing, Due, due, ne_eq, none, not_false_eq_true, true_implies, false_or]
    refine and_congr_right fun fewer => forall_congr' fun proceeds => ?_
    rw [ensured_attempts fewer.ne proceeds, attempts_drive]
    exact tried_eq_missing_iff fun sharing => (proceeds.sharing sharing).1

/-- For every drive container, whatever the calls of the run answer: missing drives are added, and only they, and the
    container is set running with them, exactly if none is missing, or fewer drives are added than allocated and none of
    those set out for is blocked. That no drive is missing from the status when the container is set running needs in
    addition that no run adds a missing drive: the status lists it only after a later look at the cluster. -/
theorem ensureDrives_exact_iff (drive : c.mode = .drive) :
    (AddsMissing cfg c a ∧ RunningWhenAdded cfg c a ↔ missing c = [] ∨ Due cfg c a) ∧
      (AddsMissing cfg c a ∧ RunningWhenRecorded cfg c a ↔ missing c = [] ∨ Due cfg c a ∧ ¬Succeeds cfg c a) := by
  rw [addsMissing_iff drive]
  by_cases none : missing c = []
  · simp [none, RunningWhenAdded, RunningWhenRecorded]
  · simp only [none, false_or]
    constructor
    · refine and_iff_left_of_imp fun due running d mem => ?_
      have succeeds := (setsRunning_iff due.1.ne).mp running
      have tried := missing_subset_tried mem
      rw [← attempts_drive (a := a), mem_map] at tried
      obtain ⟨made, made_mem, rfl⟩ := tried
      rw [ensured_attempts due.1.ne succeeds.toProceeds]
      exact ⟨made, made_mem, rfl, succeeds.added made made_mem⟩
    · refine and_congr_right fun due => ?_
      rw [RunningWhenRecorded, setsRunning_iff due.1.ne]
      simp [none]

end Run

namespace EnsureExample

def cfg : Config where
  tlcCapacityPerCoreGiB := 1000
  qlcCapacityPerCoreGiB := 1000

def container (allocated : List String) : DriveContainer where
  mode := .drive
  clusterContainerID := some 1
  usesDriveSharing := false
  phase := .drivesAdding
  status := { drives := allocated, addedDrives := [⟨"u1", "s1", 1000, "ACTIVE"⟩] }

end EnsureExample

open EnsureExample in
/-- A second drive is added. -/
theorem ensureDrives_exact_second :
    let a : Answers := { getKernelDrives := .ok (AList.insert "s2" ⟨"s2", "/dev/b", "1", false, ""⟩ ∅) }
    AddsMissing cfg (container ["s1", "s2"]) a ∧ RunningWhenAdded cfg (container ["s1", "s2"]) a := by
  intro a
  have unblocked : Unblocked (container ["s1", "s2"]) := by
    rw [Unblocked, if_neg (by decide)]
    decide
  exact (ensureDrives_exact_iff rfl).1.mpr (.inr ⟨by decide, fun _ => unblocked⟩)

open EnsureExample in
/-- The allocation of `s1` was replaced by that of `s2` before `s1` left the cluster. The counts agree, so the step is not
    due; run nevertheless, it adds nothing and sets the container running. -/
theorem ensureDrives_misses_replaced : missing (container ["s2"]) = ["s2"] ∧ ensureDrivesPredicates (container ["s2"]) = false ∧
    ensured cfg (container ["s2"]) {} = (.ok (), { phase := .running }) := by
  refine ⟨by decide, by decide, rfl⟩

end WekaOperator.DriveRemoval
