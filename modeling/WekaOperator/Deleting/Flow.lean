import WekaOperator.Lib.Flow
import WekaOperator.Operations.Common

/-! The deleting flow of a drive or compute container (`flow_deleting_state.go`, with the functions of
    `funcs_common_deletion.go`, `funcs_cluster_joining.go` and `funcs_virtual_drives.go` that it runs). -/

namespace WekaOperator.Deleting
open Lib Operations
open Lib.Flow (orFail)

/-- The modes that differ here. -/
inductive Mode
  | drive | compute
  deriving DecidableEq, Repr

/-- The conditions of the flow's steps. -/
inductive Condition
  | containerDeactivated | containerDrivesRemoved | containerRemoved | containerDrivesResigned
  deriving DecidableEq, Repr

/-- Phases of a pod. -/
inductive PodPhase
  | pending | running | succeeded | failed | unknown
  deriving DecidableEq, Repr

/-- The pod has ended. -/
def PodPhase.terminal : PodPhase → Bool
  | .succeeded | .failed => true
  | .pending | .running | .unknown => false

/-- The container's pod. -/
structure Pod where
  phase : PodPhase
  deleting : Bool
  finalizer : Bool
  deriving DecidableEq, Repr

/-- The blocked-drives annotation of a node. -/
inductive BlockedDrives
  | absent
  | unparsable (msg : String)
  | listed (serials : List String)
  deriving DecidableEq, Repr

/-- The container's node. -/
structure Node where
  ready : Bool
  crio : Bool := false
  aws : Bool := false
  blockedDrives : BlockedDrives := .absent
  deriving DecidableEq, Repr

/-- The spec of the container. -/
structure Container where
  mode : Mode
  nodeAffinity : String
  skipDeactivate : Bool := false
  skipDrivesForceResign : Bool := false
  skipVirtualDrivesRemoval : Bool := false
  skipCleanupPersistentDir : Bool := false
  usesDriveSharing : Bool := false
  drives : List String := []
  virtualDrives : List String := []
  removalThrottlingEnabled : Bool := false
  cleansOnNodeRemoval : Bool := false
  metricsEnabled : Bool := false
  deriving DecidableEq, Repr

/-- Its status. -/
structure Status where
  status : String
  clusterContainerID : Option Int := none
  clusterID : String := ""
  conditions : List Condition := []
  deriving DecidableEq, Repr

/-- What the local weka says of the container's identity. -/
structure Identity where
  hasValue : Bool
  exception : Option String
  value : Option (String × Int)
  deriving DecidableEq, Repr

/-- The functions that take a container down. -/
inductive Teardown
  | stopForceAndEnsureNoPod | stopAndEnsureNoPod | removeDeactivatedContainers | removeVirtualDrives | resignDrives
  deriving DecidableEq, Repr

/-- What else the flow does. -/
inductive Task
  | reconcileAwsTerminationLifecycle | reconcileWekaLocalStatus
  | setStatusMetrics | registerContainerOnMetrics | reportOtelMetrics | deregisterContainerFromMetrics
  | ensureProxyContainer | eraseVirtualDrives | cleanupPersistentDir | deallocateNICs
  | forceResign (serials : List String)
  deriving DecidableEq, Repr

/-- The calls of the flow. -/
inductive Op
  | load
  | getNode (name : String)
  | getPod
  | ensurePod
  | patchPod
  | deletePod
  | deleteContainer
  | updateStatus (status : Status)
  | removeFinalizer
  | getCluster
  | clusterContainers
  | selectActiveContainer (containers : List String)
  | getWekaContainer (via : String) (id : Int)
  | deactivateContainer (via : String) (id : Int)
  | listContainerDrives (via : String) (id : Int)
  | removeDrive (via uuid : String)
  | removeContainer (via : String) (id : Int)
  | shouldRun
  | getIdentity
  | writeStopInstruction (force : Bool)
  | wekaLocalStop (force : Bool)
  | perform (task : Task)
  | deactivated
  | entered (f : Teardown)
  deriving DecidableEq, Repr

/-- Their replies. -/
def Op.Reply : Op → Type
  | .load => Except ApiError (Status × Bool)
  | .getNode _ => Except ApiError Node
  | .getPod => Except ApiError Pod
  | .ensurePod => Option Pod × Except ApiError Unit
  | .getCluster => Except ApiError String
  | .clusterContainers => Except ApiError (List String)
  | .selectActiveContainer _ => Option String
  | .getWekaContainer _ _ => Except ApiError String
  | .listContainerDrives _ _ => Except ApiError (List String)
  | .shouldRun => Bool
  | .getIdentity => Except ApiError Identity
  | .deactivated | .entered _ => Unit
  | .patchPod | .deletePod | .deleteContainer | .updateStatus _ | .removeFinalizer | .deactivateContainer _ _
  | .removeDrive _ _ | .removeContainer _ _ | .writeStopInstruction _ | .wekaLocalStop _ | .perform _ =>
    Except ApiError Unit

/-- The memory of a run. -/
structure Loop where
  status : Status
  marked : Bool
  node : Option Node := none
  pod : Option Pod := none
  clusterContainers : Option (List String) := none
  deriving DecidableEq, Repr

abbrev M := Flow.Action Op Op.Reply Loop

abbrev Step := Flow.Step Op Op.Reply Loop Condition

def call (op : Op) : M op.Reply := Flow.call op

/-- Changes the status and stores it. -/
def updateStatus (f : Status → Status) (text : ApiError → String) : M Unit := do
  modify fun m => { m with status := f m.status }
  let m ← get
  orFail text (← call (.updateStatus m.status))

/-! ### Predicates -/

def nodeIsReady (node : Option Node) : Bool := node.any (·.ready)

def nodeIsReadyOrUnset (m : Loop) : Bool := m.node.isNone || nodeIsReady m.node

/-- The container has an id and is to be deactivated. -/
def shouldDeactivate (c : Container) (m : Loop) : Bool := !c.skipDeactivate && m.status.clusterContainerID.isSome

def isDriveContainer (c : Container) (_ : Loop) : Bool := c.mode = .drive

def usesDriveSharing (c : Container) (_ : Loop) : Bool := c.usesDriveSharing

def podNotSet (m : Loop) : Bool := m.pod.isNone

def podIsSet (m : Loop) : Bool := m.pod.isSome

def nodeIsSet (m : Loop) : Bool := m.node.isSome

/-- The condition is not set yet. -/
def isNotTrueCondition (condition : Condition) (m : Loop) : Bool := condition ∉ m.status.conditions

/-! ### Until the deactivation -/

/-- Loads the node; a missing one is no error. -/
def getNode (c : Container) : M Unit :=
  if c.nodeAffinity = "" then return ()
  else do
    match ← call (.getNode c.nodeAffinity) with
    | .ok node => modify fun m => { m with node := some node }
    | .error .notFound => return ()
    | .error (.other e) => throw s!"failed to get node: {e}"

/-- Loads the pod. -/
def refreshPod : M Unit := do
  match ← call .getPod with
  | .ok pod => modify fun m => { m with pod := some pod }
  | .error .notFound => return ()
  | .error (.other e) => throw e

/-- Stores a new status. -/
def updateContainerStatusIfNotEquals (status : String) : M Unit := do
  let m ← get
  if m.status.status = status then return ()
  else updateStatus ({ · with status := status }) fun e => s!"failed to update container status: {e}"

/-- Shows the state and marks the object for deletion. -/
def handleStateDeleting : M Unit := do
  updateContainerStatusIfNotEquals "Deleting"
  let m ← get
  if m.marked then return ()
  else do
    orFail ApiError.text (← call .deleteContainer)
    throw "Container is being deleting, refetching"

/-- Removes the finalizer of the pod. -/
def removePodFinalizer (pod : Pod) : M Unit :=
  if pod.finalizer then do
    orFail (fun e => s!"Failed to remove weka finalizer from pod: {e}") (← call .patchPod)
  else return ()

/-- Deletes the pod. -/
def deletePod (pod : Pod) : M Unit := do
  removePodFinalizer pod
  if pod.deleting then return ()
  else orFail ApiError.text (← call .deletePod)

/-- Lets a pod go that has ended. -/
def releaseTerminalPodOnDeletion : M Unit := do
  let m ← get
  match m.pod with
  | none => throw "pod is nil"
  | some pod => do
    deletePod pod
    throw "terminal backend pod released during deletion, refetching"

/-- Makes sure that there is a pod. -/
def ensurePod : M Unit := do
  let (pod, result) ← call .ensurePod
  modify fun m => { m with pod := pod }
  orFail ApiError.text result

/-- Any other task. -/
def perform (task : Task) : M Unit := do
  orFail ApiError.text (← call (.perform task))

/-- The containers of the cluster, listed once. -/
def getClusterContainers : M (List String) := do
  let m ← get
  match m.clusterContainers with
  | some containers => return containers
  | none =>
    let cluster ← orFail (fun e => s!"error getting cluster: {e}") (← call .getCluster)
    match ← call .clusterContainers with
    | .error e => throw s!"error getting cluster containers: {e}"
    | .ok [] => throw s!"no containers found in cluster {cluster}"
    | .ok containers => do
      modify fun m => { m with clusterContainers := some containers }
      return containers

/-- A container through which weka is asked. -/
def activeContainer : M String := do
  let containers ← getClusterContainers
  match ← call (.selectActiveContainer containers) with
  | none => throw "No active container found"
  | some name => return name

/-- The container's id in the cluster. -/
def containerId : M Int := do
  let m ← get
  match m.status.clusterContainerID with
  | none => throw "Container ID is not set"
  | some id => return id

/-- Deactivates the container in weka and waits for it. -/
def deactivateWekaContainer : M Unit := do
  let id ← containerId
  let via ← activeContainer
  match ← call (.getWekaContainer via id) with
  | .error .notFound => return ()
  | .error (.other e) => throw e
  | .ok "INACTIVE" => return ()
  | .ok "DEACTIVATING" => throw "container is deactivating"
  | .ok _ => do
    orFail (fun e => s!"failed to deactivate container via {via}: {e}") (← call (.deactivateContainer via id))
    throw "container deactivation started"

/-- The step that deactivates. -/
def deactivate : M Unit := do
  deactivateWekaContainer
  call .deactivated

/-! ### From the deactivation on -/

/-- Removes drives and collects the errors. -/
def removeDrives (via : String) : List String → M (List String)
  | [] => return []
  | uuid :: drives => do
    let removed ← call (.removeDrive via uuid)
    let errs ← removeDrives via drives
    match removed with
    | .ok () => return errs
    | .error e => return e.text :: errs

/-- Removes the container's drives from weka. -/
def removeDeactivatedContainersDrives : M Unit := do
  let id ← containerId
  let via ← activeContainer
  let drives ← orFail ApiError.text (← call (.listContainerDrives via id))
  match ← removeDrives via drives with
  | [] => return ()
  | errs =>
    let all := " ".intercalate errs
    throw s!"failed to remove drives for container {id}: [{all}]"

/-- Learns the id of a container that has joined. -/
def reconcileClusterStatus : M Unit := do
  let m ← get
  match m.pod, m.status.clusterContainerID with
  | none, _ => throw "Pod is not found"
  | some _, some _ => return ()
  | some _, none =>
    match ← call .getIdentity with
    | .error e => throw e.text
    | .ok ⟨false, some exception, _⟩ => throw exception
    | .ok ⟨_, _, none⟩ => throw "no value in response from weka local container-get-identity"
    | .ok ⟨_, _, some (clusterId, id)⟩ =>
      if clusterId = "" ∨ clusterId = "00000000-0000-0000-0000-000000000000" then
        throw "container is not part of the cluster yet"
      else updateStatus ({ · with clusterContainerID := some id, clusterID := clusterId }) ApiError.text

/-- Notes that a running pod is stopped. -/
def markStop (f : Teardown) (pod : Pod) : M Unit :=
  match pod.phase.terminal with
  | true => return ()
  | false => call (.entered f)

/-- Stops weka in the pod. -/
def stopWeka (force : Bool) : M Unit := do
  let _ ← call (.writeStopInstruction force)
  let m ← get
  if nodeIsReady m.node && !m.node.any (·.crio) then do
    let _ ← call (.wekaLocalStop force)
    return ()
  else return ()

/-- Stops weka and deletes the pod. -/
def ensureNoPod (f : Teardown) (force : Bool) : M Unit := do
  match ← call .getPod with
  | .error .notFound => return ()
  | .error (.other e) => throw e
  | .ok pod => do
    markStop f pod
    deletePod pod
    stopWeka force
    throw "Pod deleted, reconciling for retry"

def stopForceAndEnsureNoPod : M Unit := ensureNoPod .stopForceAndEnsureNoPod true

def stopAndEnsureNoPod : M Unit := ensureNoPod .stopAndEnsureNoPod false

/-- Removes the container from weka. -/
def removeFromCluster (id : Int) : M Unit := do
  let via ← activeContainer
  orFail (fun e => s!"Failed to remove container: {e}") (← call (.removeContainer via id))
  match ← call (.getWekaContainer via id) with
  | .error .notFound => return ()
  | .error (.other e) => throw s!"Failed to verify container {id} removal: {e}"
  | .ok _ => throw s!"container {id} still exists in cluster"

/-- Removes a deactivated container. -/
def removeDeactivatedContainers (c : Container) : M Unit := do
  call (.entered .removeDeactivatedContainers)
  let id ← containerId
  if c.removalThrottlingEnabled then do
    match ← call .shouldRun with
    | true => removeFromCluster id
    | false => throw "throttling removal of containers from weka"
  else removeFromCluster id

/-- Erases the virtual drives of a drive-sharing container. -/
def removeVirtualDrives (c : Container) : M Unit := do
  call (.entered .removeVirtualDrives)
  if c.skipVirtualDrivesRemoval || !c.usesDriveSharing || c.virtualDrives.isEmpty || c.nodeAffinity = "" then return ()
  else perform .eraseVirtualDrives

/-- The drives to sign anew: those that are not blocked. -/
def resignedSerials (c : Container) (m : Loop) : Except String (List String) :=
  match m.node with
  | none => .ok c.drives
  | some node =>
    match node.blockedDrives with
    | .absent => .ok c.drives
    | .unparsable e => .error s!"failed to unmarshal blocked-drives annotation: {e}"
    | .listed blocked => .ok (c.drives.filter (· ∉ blocked))

/-- Signs them. -/
def resignOnReadyNode (c : Container) : M Unit := do
  let m ← get
  if c.drives.isEmpty then return ()
  else
    match resignedSerials c m with
    | .error e => throw e
    | .ok [] => return ()
    | .ok serials => perform (.forceResign serials)

/-- Signs the drives of a removed container anew. -/
def resignDrives (c : Container) : M Unit := do
  call (.entered .resignDrives)
  let m ← get
  if c.nodeAffinity ≠ "" ∧ nodeIsReady m.node = false then
    if c.cleansOnNodeRemoval then do
      match ← call (.getNode c.nodeAffinity) with
      | .error .notFound => return ()
      | _ => throw "container node is not ready, cannot perform resign drives operation"
    else throw "container node is not ready, cannot perform resign drives operation"
  else resignOnReadyNode c

/-- Cleans the directory on the node. -/
def cleanupPersistentDir (c : Container) : M Unit :=
  if c.skipCleanupPersistentDir || c.nodeAffinity = "" then return () else perform .cleanupPersistentDir

/-- The last steps before the finalizer goes. -/
def finalizeContainer (c : Container) : M Unit := do
  stopForceAndEnsureNoPod
  cleanupPersistentDir c
  let m ← get
  if m.node.isSome then perform .deallocateNICs else return ()

/-- Removes the finalizer. -/
def handleDeletion (c : Container) : M Unit := do
  finalizeContainer c
  orFail (fun e => s!"Failed to remove finalizer: {e}") (← call .removeFinalizer)

/-! ### The flow -/

/-- The steps up to the deactivation. -/
def beforeDeactivation (c : Container) : List Step := [
  { run := getNode c },
  { run := perform .reconcileAwsTerminationLifecycle
    predicates := [(·.node.any (·.aws))]
    continueOnError := true },
  { run := refreshPod },
  { run := handleStateDeleting },
  { run := releaseTerminalPodOnDeletion
    predicates := [podIsSet, (·.pod.any fun pod => pod.deleting && pod.phase.terminal)] },
  { run := ensurePod
    predicates := [podNotSet, nodeIsSet, shouldDeactivate c, isNotTrueCondition .containerDeactivated]
    continueOnError := true },
  { run := perform .reconcileWekaLocalStatus
    predicates := [shouldDeactivate c, podIsSet, nodeIsSet, isNotTrueCondition .containerDeactivated]
    continueOnError := true },
  { run := perform .setStatusMetrics
    predicates := [fun _ => c.metricsEnabled, podIsSet, nodeIsReadyOrUnset]
    continueOnError := true },
  { run := perform .registerContainerOnMetrics
    predicates := [fun _ => c.metricsEnabled, nodeIsReadyOrUnset]
    continueOnError := true },
  { run := perform .reportOtelMetrics
    predicates := [podIsSet]
    continueOnError := true },
  { run := perform .deregisterContainerFromMetrics
    predicates := [fun _ => c.metricsEnabled]
    continueOnError := true }]

/-- The deactivation. -/
def deactivation (c : Container) : Step where
  state := some .containerDeactivated
  run := deactivate
  predicates := [shouldDeactivate c]

/-- The steps after it. -/
def afterDeactivation (c : Container) : List Step := [
  { run := removeDeactivatedContainersDrives
    state := some .containerDrivesRemoved
    predicates := [shouldDeactivate c, isDriveContainer c] },
  { run := reconcileClusterStatus
    predicates := [(·.status.clusterContainerID.isNone)]
    continueOnError := true },
  { run := stopForceAndEnsureNoPod
    predicates := [fun m => shouldDeactivate c m || c.skipDeactivate, fun m => nodeIsReady m.node] },
  { run := stopAndEnsureNoPod
    predicates := [fun m => nodeIsReady m.node] },
  { run := removeDeactivatedContainers c
    state := some .containerRemoved
    predicates := [shouldDeactivate c] },
  { run := perform .ensureProxyContainer
    predicates := [isDriveContainer c, usesDriveSharing c, fun _ => c.nodeAffinity ≠ ""] },
  { run := removeVirtualDrives c
    predicates := [isDriveContainer c, usesDriveSharing c] },
  { run := resignDrives c
    state := some .containerDrivesResigned
    predicates := [fun _ => !c.skipDrivesForceResign, isDriveContainer c] },
  { run := handleDeletion c }]

/-- The flow of a container that is being deleted. -/
def deletingStateFlow (c : Container) : List Step := beforeDeactivation c ++ deactivation c :: afterDeactivation c

/-- Conditions are kept in the status. -/
def keeper : Flow.Keeper Op Op.Reply Loop Condition where
  isTrue condition m := condition ∈ m.status.conditions
  setTrue condition := updateStatus (fun s => { s with conditions := condition :: s.conditions }) ApiError.text

/-- One run of the flow. -/
def reconcile (c : Container) : Prog Op Op.Reply Unit :=
  .call .load fun
    | .error _ => .ret ()
    | .ok (status, marked) => do
      let _ ← Flow.runAll keeper (deletingStateFlow c) { status, marked }
      return ()

end WekaOperator.Deleting
