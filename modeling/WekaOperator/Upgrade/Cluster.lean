import WekaOperator.Operations.Common

/-! The image upgrade and the pod rotation of a cluster (`funcs_upgrade.go`, `funcs_pod_rotation.go` and `upgrade.go`)
    as a program over API calls. -/

namespace WekaOperator.Upgrade
open Lib Operations

/-! ### What a reconcile reads -/

/-- The modes that are told apart. -/
inductive Mode
  | drive | compute | dataServices | s3 | nfs | smbw | other
  deriving DecidableEq, Repr

/-- The order in which roles are rotated. -/
def rotationRoleOrder : List Mode := [.drive, .compute, .dataServices, .s3, .nfs, .smbw]

/-- The states that are told apart. -/
inductive ContainerState
  | active | paused | destroying | deleting
  deriving DecidableEq, Repr

/-- A container, as far as upgrades go. -/
structure Container where
  name : String
  mode : Mode
  image : String
  lastAppliedImage : String
  rotatePod : Bool := false
  podOutdated : Bool := false
  markedForDeletion : Bool := false
  state : ContainerState := .active
  nodeAffinity : String := ""
  clusterContainerID : Option Int := none
  deriving DecidableEq, Repr

/-- Containers that an upgrade is about. -/
def Container.isBackend (c : Container) : Bool := c.mode ∈ [Mode.drive, .compute, .s3, .nfs, .smbw, .dataServices]

/-- The overrides of a cluster. -/
structure Overrides where
  upgradePaused : Bool := false
  upgradeAllAtOnce : Bool := false
  upgradePausePreCompute : Bool := false
  podRotation : Option Bool := none
  deriving DecidableEq, Repr

/-- The cluster, as loaded. -/
structure Cluster where
  image : String
  lastAppliedImage : String
  version : Nat
  overrides : Overrides := {}
  drive : Nat := 0
  compute : Nat := 0
  deriving DecidableEq, Repr

/-- The status of the weka cluster. -/
structure WekaStatus where
  protection : List (Bool × Int)
  rebuild : String
  status : String
  activeDrives : Int
  activeComputes : Int
  deriving DecidableEq, Repr

/-- No data is less than fully protected. -/
def WekaStatus.isFullyProtected (s : WekaStatus) : Bool := s.protection.all fun p => !(p.1 && 0 < p.2)

/-- The configuration of the operator. -/
structure Config where
  imagePrePullEnabled : Bool
  driveThresholdPercent : Int
  computeThresholdPercent : Int
  maxDeactivatingContainersPercent : Int

/-- Statuses in which drives may be upgraded. -/
def healthyClusterStatuses : List String := ["OK", "REDISTRIBUTING"]

/-- Enough containers are active. -/
def meetsThreshold (active total thresholdPercent : Int) : Bool := total = 0 || total * thresholdPercent ≤ active * 100

/-! ### Calls -/

/-- The phases of an upgrade. -/
inductive Phase
  | drives | compute | dataServices | frontend
  deriving DecidableEq, Repr

/-- The calls of an upgrade. -/
inductive Op
  | load
  | containers
  | rotationContainers
  | owned (mode : Mode)
  | settings
  | clusterHealth
  | imagePrePull
  | getExecutor (container : String)
  | prepareForUpgrade (phase : Phase)
  | finalizeUpgrade
  | wekaStatus
  | patchRotatePod (name : String) (v : Bool)
  | patchImage (name image : String)
  | updateStatus (image : String) (version : Nat)
  | finish (outcome : Outcome)
  deriving DecidableEq

/-- Their replies. -/
@[reducible] def Op.Reply : Op → Type
  | .load => Except ApiError Cluster
  | .containers => Except ApiError (List Container)
  | .rotationContainers => Except ApiError (List Container)
  | .owned _ => Except ApiError (List Container)
  | .settings => Option Bool
  | .clusterHealth => ClusterVerdict
  | .wekaStatus => Except ApiError WekaStatus
  | .patchImage _ _ => Except ApiError Container
  | .finish _ => Unit
  | _ => Except ApiError Unit

/-- Programs of an upgrade. -/
abbrev P (α : Type) : Type := Prog Op Op.Reply α

/-- One call. -/
def call (op : Op) : P op.Reply := .call op .ret

/-- Goes on if the step says so. -/
def andThen (step rest : P Outcome) : P Outcome := do
  match ← step with
  | .next => rest
  | out => return out

/-! ### The rolling upgrade -/

section Target
variable (target : String)

/-- The image is set. -/
def isContainerAligned (c : Container) : Bool := c.image = target

/-- The image is applied. -/
def isContainerApplied (c : Container) : Bool := c.lastAppliedImage = target

/-- Why the upgrade waits, or nothing. -/
def upgradeWaits (limit : Int) : Int → List Container → Option String
  | _, [] => none
  | skipped, c :: cs =>
    if c.markedForDeletion then
      if skipped + 1 > limit then some "too many containers marked for deletion" else upgradeWaits limit (skipped + 1) cs
    else if isContainerAligned target c && !isContainerApplied target c then
      if c.nodeAffinity = "" then upgradeWaits limit skipped cs else some "container upgrade not finished yet"
    else upgradeWaits limit skipped cs

/-- Sets the image of the next container, or waits for the last one. -/
def rollingUpgrade (cfg : Config) (containers : List Container) : P Outcome := do
  match upgradeWaits target ((containers.length * cfg.maxDeactivatingContainersPercent).tdiv 100) 0 containers with
  | some why => return .wait why
  | none =>
    match containers.find? (!isContainerAligned target ·) with
    | none => return .next
    | some c =>
      match ← call (.patchImage c.name target) with
      | .error e => return .error s!"failed to patch container {c.name}: {e}"
      | .ok _ => return .wait s!"starting upgrade of container {c.name}"

/-- All containers are upgraded. -/
def areUpgraded (containers : List Container) : Bool :=
  containers.all fun c =>
    (!isContainerApplied target c && c.clusterContainerID.isNone && isContainerAligned target c) || isContainerApplied target c

/-- Sets the image of all containers. -/
def patchImages : List Container → P (List String × List Container)
  | [] => return ([], [])
  | c :: cs => do
    if isContainerAligned target c then
      let (errs, rest) ← patchImages cs
      return (errs, c :: rest)
    else
      match ← call (.patchImage c.name target) with
      | .error e =>
        let (errs, rest) ← patchImages cs
        return (s!"failed to update container spec {c.name}: {e}" :: errs, c :: rest)
      | .ok patched =>
        let (errs, rest) ← patchImages cs
        return (errs, patched :: rest)

/-- No container of the role has been upgraded. -/
def needsPrepare (containers : List Container) : Bool :=
  containers.all fun c => !(isContainerApplied target c && c.clusterContainerID.isSome)

end Target

/-! ### The image upgrade -/

/-- Prepares weka for a phase. -/
def prepareForUpgrade (phase : Phase) (containers : List Container) : P Outcome := do
  match containers with
  | [] =>
    if phase = .drives ∨ phase = .compute then return .error "runtime error: index out of range [0] with length 0"
    else return .next
  | c :: _ =>
    match ← call (.getExecutor c.name) with
    | .error e => return .error s!"failed to get executor for upgrade preparation: {e}"
    | .ok () =>
      match ← call (.prepareForUpgrade phase) with
      | .error e => return .error s!"Failed to prepare for upgrade: {e}"
      | .ok () => return .next

/-- Upgrades the containers of a role. -/
def upgradeRole (cfg : Config) (cluster : Cluster) (phase : Phase) (containers : List Container) : P Outcome :=
  andThen (if needsPrepare cluster.image containers then prepareForUpgrade phase containers else return .next)
    (rollingUpgrade cluster.image cfg containers)

/-- Why the cluster is not stable, or nothing. -/
def unstable (cfg : Config) (cluster : Cluster) (status : WekaStatus) : Option String :=
  if !status.isFullyProtected then some ("Weka is not fully protected, waiting to stabilize, " ++ status.rebuild)
  else if status.status ∉ healthyClusterStatuses then
    some ("Weka status is not OK/REDISTRIBUTING, waiting to stabilize. status:" ++ status.status)
  else if !meetsThreshold status.activeDrives cluster.drive cfg.driveThresholdPercent then
    some s!"Not enough drives containers are active, waiting to stabilize, {status.activeDrives}/{cluster.drive}"
  else if !meetsThreshold status.activeComputes cluster.compute cfg.computeThresholdPercent then
    some s!"Not enough computes containers are active, waiting to stabilize, {status.activeComputes}/{cluster.compute}"
  else none

/-- Waits until it is. -/
def awaitStable (cfg : Config) (cluster : Cluster) (containers : List Container) : P Outcome := do
  if containers.length = 0 then return .error "No active container found"
  match ← call .wekaStatus with
  | .error e => return .error e.text
  | .ok status =>
    match unstable cfg cluster status with
    | some why => return .wait why
    | none => return .next

/-- Goes on with the containers of a role. -/
def withOwned (mode : Mode) (rest : List Container → P Outcome) : P Outcome := do
  match ← call (.owned mode) with
  | .error e => return .error e.text
  | .ok containers => rest containers

/-- Finalizes the upgrade in weka. -/
def finalizeUpgrade (containers : List Container) : P Outcome := do
  match containers with
  | [] => return .error "runtime error: index out of range [0] with length 0"
  | c :: _ =>
    match ← call (.getExecutor c.name) with
    | .error _ => return .next
    | .ok () =>
      match ← call .finalizeUpgrade with
      | .error e => return .error s!"Failed to finalize upgrade: {e}"
      | .ok () => return .next

/-- Stores the image as applied. -/
def recordApplied (cluster : Cluster) : P Outcome := do
  match ← call (.updateStatus cluster.image cluster.version) with
  | .error e => return .error e.text
  | .ok () => return .next

/-- The last phase. -/
def upgradeFrontends (cfg : Config) (cluster : Cluster) (drives : List Container) : P Outcome :=
  withOwned .s3 fun s3 => withOwned .nfs fun nfs => withOwned .smbw fun smbw =>
    andThen (upgradeRole cfg cluster .frontend (s3 ++ nfs ++ smbw)) (andThen (finalizeUpgrade drives) (recordApplied cluster))

/-- The phase of data services. -/
def upgradeDataServices (cfg : Config) (cluster : Cluster) (drives : List Container) : P Outcome :=
  withOwned .dataServices fun dataServices =>
    andThen (if dataServices.length > 0 then upgradeRole cfg cluster .dataServices dataServices else return .next)
      (upgradeFrontends cfg cluster drives)

/-- The phase of compute containers. -/
def upgradeComputes (cfg : Config) (cluster : Cluster) (drives : List Container) : P Outcome :=
  withOwned .compute fun computes =>
    if cluster.overrides.upgradePausePreCompute then return .wait "Upgrade paused before compute phase"
    else andThen (upgradeRole cfg cluster .compute computes) (upgradeDataServices cfg cluster drives)

/-- All phases, from the drives on. -/
def upgradeRoles (cfg : Config) (cluster : Cluster) (containers : List Container) : P Outcome :=
  withOwned .drive fun drives =>
    andThen (if needsPrepare cluster.image drives then prepareForUpgrade .drives drives else return .next)
      (andThen (awaitStable cfg cluster containers)
        (andThen (rollingUpgrade cluster.image cfg drives) (upgradeComputes cfg cluster drives)))

/-- All containers at once. -/
def upgradeAllAtOnce (cluster : Cluster) (containers : List Container) : P Outcome := do
  let (errs, containers) ← patchImages cluster.image containers
  if errs.length > 0 then return .error ("; ".intercalate errs)
  if !areUpgraded cluster.image containers then return .wait "waiting for all containers to apply the new image"
  recordApplied cluster

/-- Pulls the image ahead. -/
def imagePrePull (cfg : Config) : P Outcome := do
  if !cfg.imagePrePullEnabled then return .next
  match ← call .imagePrePull with
  | .error e => return .error e.text
  | .ok () => return .next

/-- The upgrade of a cluster. -/
def handleImageUpgrade (cfg : Config) (cluster : Cluster) (containers : List Container) : P Outcome :=
  if cluster.overrides.upgradePaused then return .wait "Upgrade is paused"
  else andThen (imagePrePull cfg)
    (if cluster.overrides.upgradeAllAtOnce then upgradeAllAtOnce cluster containers else upgradeRoles cfg cluster containers)

/-! ### The pod rotation -/

/-- The containers that rotation is about. -/
def rotationContainers : P (Except ApiError (List Container)) := do
  match ← call .rotationContainers with
  | .error e => return .error e
  | .ok all => return .ok (all.filter (·.isBackend))

/-- Containers on their way out. -/
def rotationExempt (c : Container) : Bool := c.markedForDeletion || c.state = .deleting || c.state = .destroying

/-- A rotation is approved. -/
def anyApproved (containers : List Container) : Bool := containers.any (·.rotatePod)

/-- Approves a rotation or withdraws it. -/
def setRotatePod (c : Container) (v : Bool) : P (Except String Unit) := do
  match ← call (.patchRotatePod c.name v) with
  | .error (.other e) => return .error s!"failed to set rotatePod={v} on {c.name}: {e}"
  | _ => return .ok ()

/-- Withdraws finished rotations and counts the others. -/
def clearFinishedRotations : List Container → P (Except String Nat)
  | [] => return .ok 0
  | c :: cs => do
    if !c.rotatePod then clearFinishedRotations cs
    else if !c.podOutdated || rotationExempt c then
      match ← setRotatePod c false with
      | .error e => return .error e
      | .ok () => clearFinishedRotations cs
    else
      match ← clearFinishedRotations cs with
      | .error e => return .error e
      | .ok inFlight => return .ok (inFlight + 1)

/-- Containers to rotate. -/
def candidates (containers : List Container) : List Container :=
  containers.filter fun c => c.podOutdated && !rotationExempt c && c.nodeAffinity ≠ ""

/-- By role, then by name. -/
def rotationOrder (a b : Container) : Prop :=
  rotationRoleOrder.idxOf a.mode < rotationRoleOrder.idxOf b.mode ∨
    (rotationRoleOrder.idxOf a.mode = rotationRoleOrder.idxOf b.mode ∧ a.name ≤ b.name)

instance : DecidableRel rotationOrder := fun _ _ => inferInstanceAs (Decidable (_ ∨ _))

/-- Whether pods are rotated. -/
def podRotationEnabled (cluster : Cluster) : P Bool := do
  match cluster.overrides.podRotation with
  | some v => return v
  | none => return (← call .settings).getD false

/-- Approves all. -/
def approveAll : List Container → P (Except String Unit)
  | [] => return .ok ()
  | c :: cs => do
    match ← setRotatePod c true with
    | .error e => return .error e
    | .ok () => approveAll cs

/-- Approves the first, if the cluster is healthy. -/
def approveNext (candidates : List Container) : P Outcome := do
  let verdict ← call .clusterHealth
  if !verdict.allowed then return .wait ("pod rotation waiting for cluster health: " ++ verdict.reason)
  match candidates.insertionSort rotationOrder with
  | [] => return .next
  | c :: _ =>
    match ← setRotatePod c true with
    | .error e => return .error e
    | .ok () => return .wait s!"approved pod rotation of {c.name}"

/-- Approves rotations as the overrides have it. -/
def rotateCandidates (cluster : Cluster) (candidates : List Container) : P Outcome := do
  if candidates.length = 0 then return .next
  if !(← podRotationEnabled cluster) then return .next
  if cluster.overrides.upgradePaused then return .wait "pod rotation is paused"
  if cluster.overrides.upgradeAllAtOnce then
    match ← approveAll candidates with
    | .error e => return .error e
    | .ok () => return .wait s!"approved pod rotation of {candidates.length} containers at once"
  approveNext candidates

/-- The rotation of pods. -/
def handlePodRotation (cluster : Cluster) : P Outcome := do
  match ← rotationContainers with
  | .error e => return .error e.text
  | .ok containers =>
    match ← clearFinishedRotations containers with
    | .error e => return .error e
    | .ok inFlight =>
      if anyApproved containers then return .wait s!"pod rotation in progress ({inFlight} containers)"
      rotateCandidates cluster (candidates containers)

/-- An upgrade, or else a rotation. -/
def handleUpgrade (cfg : Config) (cluster : Cluster) (containers : List Container) : P Outcome := do
  if cluster.image ≠ cluster.lastAppliedImage then
    match ← rotationContainers with
    | .error e => return .error e.text
    | .ok approvals =>
      match ← clearFinishedRotations approvals with
      | .error e => return .error e
      | .ok _ =>
        if anyApproved approvals then return .wait "image upgrade waits for the in-flight pod rotation"
        handleImageUpgrade cfg cluster containers
  else handlePodRotation cluster

/-- One reconcile of the cluster. -/
def reconcile (cfg : Config) : P Unit := do
  match ← call .load with
  | .error _ => return ()
  | .ok cluster =>
    match ← call .containers with
    | .error _ => return ()
    | .ok containers =>
      let out ← handleUpgrade cfg cluster containers
      call (.finish out)

end WekaOperator.Upgrade
