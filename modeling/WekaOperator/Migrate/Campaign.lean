import WekaOperator.Migrate.Types

/-! The reconcile of migrate-to-drive-sharing (`migrate_drive_sharing.go`) as a program over API calls. -/

namespace WekaOperator.Migrate
open Lib Operations

/-! ### Calls -/

/-- What the campaign reads without leaving a trace. -/
inductive Read
  | cluster (ns name : String)
  | operations
  | driveContainers
  | nodes (selector : Labels)
  | policies
  | nodeLabels (node : String)
  | container (name : String)
  | containerDrives (id : Int)
  | fullDrives (node : String)
  | sharedDrives (node : String)
  | podNamespace
  | ssdProxy (node : String)
  | proxyPod (proxy : SsdProxy)
  | proxyRecovered (node : String) (proxy : SsdProxy)
  | proxyGate (node : String) (proxy : SsdProxy)
  | proxyDrives (node : String) (proxy : SsdProxy)
  | recoveryGate (node : String)
  | now
  deriving DecidableEq

/-- What each read returns. -/
@[reducible] def Read.Reply : Read → Type
  | .cluster _ _ => Except ApiError Cluster
  | .operations => Except ApiError (List OperationView)
  | .driveContainers => Except ApiError (List DriveContainer)
  | .nodes _ => Except ApiError (List String)
  | .policies => Except ApiError (List PolicyView)
  | .nodeLabels _ => Except ApiError Labels
  | .container _ => Except ApiError WekaContainer
  | .containerDrives _ => Except ApiError (List WekaDrive)
  | .fullDrives _ => Except ApiError (Except String (List DriveEntry))
  | .sharedDrives _ => Except ApiError (Except String (List SharedDriveInfo))
  | .podNamespace => Except ApiError String
  | .ssdProxy _ => Except ApiError SsdProxy
  | .proxyPod _ => Except ApiError ProxyPod
  | .proxyRecovered _ _ => Except ApiError (List ClusterVerdict)
  | .proxyGate _ _ => Except ApiError (List ClusterVerdict)
  | .proxyDrives _ _ => Except ApiError (List String)
  | .recoveryGate _ => ClusterVerdict
  | .now => Int

/-- The calls of the campaign. -/
inductive Op
  | read (q : Read)
  | load
  | gate
  | wekaStatus
  | getChild (ns name : String)
  | suppressForceResign (container : String)
  | deleteContainer (container : String)
  | removeFullDrives (node : String) (serials : List String)
  | createChild (container : String) (child : ChildSignOp)
  | deleteChild (ns name : String)
  | deleteProxyPod (proxy : SsdProxy)
  | removeMigrationAnnotationKey
  | persist (r : Result)
  | fail (r : Result)
  | succeed (r : Result)
  deriving DecidableEq

/-- What each call returns. -/
@[reducible] def Op.Reply : Op → Type
  | .read q => q.Reply
  | .load => Except ApiError Owner
  | .gate => ClusterVerdict
  | .wekaStatus => Except ApiError WekaStatus
  | .getChild _ _ => Except ApiError ChildView
  | _ => Except ApiError Unit

/-- Programs of the campaign. -/
abbrev P (α : Type) : Type := Prog Op Op.Reply α

def call (op : Op) : P op.Reply := .call op .ret

/-- Makes a write unless it is known to be done. -/
def unlessDone (done : Bool) (write : P (Except ApiError Unit)) : P (Except ApiError Unit) :=
  if done then pure (.ok ()) else write

def read (q : Read) : P q.Reply := .call (.read q) .ret

/-! ### Parking and persistence -/

/-- Stores the progress and waits for the next reconcile. -/
def persistAndWait (res : Result) (why : String) : P Outcome := do
  match ← call (.persist res) with
  | .error e => return .error s!"failed to persist migration progress: {e}"
  | .ok () => return .wait why

/-- The time already on record, or now. -/
def stamp : Option Int → P Int
  | some t => pure t
  | none => read .now

/-- Stores an error of the whole campaign, with the time since which it is blocked. -/
def waitWithPersistedErr (res : Result) (err : String) : P Outcome := do
  let since ← stamp res.blockedSince
  persistAndWait { res with err := err, blockedSince := some since } err

/-- Stores the entry with its reason; a Pending one also with the time since which it is blocked. -/
def parkNode (res : Result) (idx : Nat) (s : ContainerState) : P Outcome := do
  if s.phase = .pending then
    let since ← stamp s.blockedSince
    persistAndWait (res.set idx { s with blockedSince := some since }) s.reason
  else persistAndWait (res.set idx s) s.reason

/-- Stores the entry with the failed action as its reason. -/
def parkOnErr (res : Result) (idx : Nat) (s : ContainerState) (action err : String) : P Outcome :=
  parkNode res idx { s with reason := s!"failed to {action}: {err}" }

/-- Stores the entry in its next sub-phase. -/
def enterSubPhase (res : Result) (idx : Nat) (s : ContainerState) (subPhase : SubPhase) (why : String) : P Outcome :=
  persistAndWait (res.set idx { s with subPhase := subPhase, reason := "" }) why

/-! ### Plan -/

/-- No other migration or proxy rotation may be running. -/
def refuseIfAnotherCampaignRunning (c : Campaign) : P (Except String Unit) := do
  match ← read .operations with
  | .error e => return .error s!"failed to list WekaManualOperations for cross-campaign exclusion: {e}"
  | .ok ops =>
    match contender c.ownerUID ops with
    | none => return .ok ()
    | some o =>
      return .error (s!"another migrate-to-drive-sharing operation ({o.namespaceName}/{o.name}) exists and has not finished; only one " ++
        "may run at a time — delete one of them to continue")

/-- The cluster has to be edited for drive sharing before its containers are migrated. -/
def requireMigrationSpec (res : Result) (cluster : Cluster) : Except String Unit :=
  if 0 < res.containers.length ∧ countMigrationDoneOrSkipped res.containers = res.containers.length then .ok ()
  else if !cluster.driveSharing || cluster.usesClusterCapacity then
    .error (s!"cluster {res.cluster} is not in drive-sharing mode: edit spec.dynamicTemplate to drop the full-drives " ++
      "sizing and set containerCapacity (or numDrives + driveCapacity), and set annotation " ++
      "weka.io/sizing-mode-migration: drive-sharing in the same apply. clusterCapacity is not a supported migration target — switch to " ++
      "it after the migration completes")
  else if cluster.migrationAnnotation ≠ "drive-sharing" then
    .error (s!"cluster {res.cluster} is missing annotation weka.io/sizing-mode-migration: drive-sharing; " ++
      "set it to confirm the sizing-mode migration")
  else .ok ()

/-- The drive containers of the cluster. -/
def listDriveContainers (payload : Payload) : P (Except String (List DriveContainer)) := do
  match ← read .driveContainers with
  | .error e => return .error s!"failed to list drive containers of cluster {payload.clusterName}: {e}"
  | .ok containers => return .ok containers

/-- The exclusive and the sharing drive containers on the selected nodes. -/
def discoverTargets (payload : Payload) : P (Except String (List Target × List Target)) := do
  match ← listDriveContainers payload with
  | .error e => return .error e
  | .ok containers =>
    if payload.nodeSelector.length > 0 then
      match ← read (.nodes payload.nodeSelector) with
      | .error e => return .error s!"failed to list nodes for nodeSelector: {e}"
      | .ok nodes => return .ok (splitTargets containers (some nodes))
    else return .ok (splitTargets containers none)

/-- The labels of the nodes. -/
def collectLabels : List String → P (Except String (List (String × Labels)))
  | [] => return .ok []
  | node :: nodes => do
    match ← read (.nodeLabels node) with
    | .error e => return .error s!"failed to get node {node} for the sign-drives guard: {e}"
    | .ok labels =>
      match ← collectLabels nodes with
      | .error e => return .error e
      | .ok rest => return .ok ((node, labels) :: rest)

/-- No policy may sign drives exclusively on a node that is being migrated. -/
def refuseIfSignPolicyMatches (nodes : List String) : P (Except String Unit) := do
  if nodes.length = 0 then return .ok ()
  match ← read .policies with
  | .error e => return .error s!"failed to list WekaPolicies for the sign-drives guard: {e}"
  | .ok policies =>
    match ← collectLabels nodes with
    | .error e => return .error e
    | .ok labelled =>
      let hits := policies.flatMap fun p => match p.exclusiveSign with
        | none => []
        | some selector => (labelled.filter fun n => selectorMatches selector n.2).map fun n => (p, n.1)
      match hits.head? with
      | none => return .ok ()
      | some (p, node) =>
        return .error (s!"sign-drives WekaPolicy {p.namespaceName}/{p.name} selects node {node}, which is still to be migrated; delete or " ++
          "narrow it before migrating, otherwise it re-signs the freed drives as exclusive")

/-- The new layout has to hold what is provisioned; checked once. -/
def checkCapacity (res : Result) (cluster : Cluster) : P (Result × Except String Unit) := do
  if res.capacityChecked then return (res, .ok ())
  match ← call .wekaStatus with
  | .error e => return (res, .error s!"failed to fetch weka status for the capacity sanity check: {e}")
  | .ok status =>
    if status.stripeWidth ≤ 0 then
      return (res, .error "weka status reports no stripe width; cannot convert provisioned capacity to raw")
    let newTotal := migrationNewTotalBytes cluster.template
    let provisioned := rawBytesFromUsable (status.totalBytes - status.unprovisionedBytes) status
    let oldTotal := rawBytesFromUsable status.totalBytes status
    let res := { res with oldTotalBytes := oldTotal, newTotalBytes := newTotal, provisionedBytes := provisioned }
    if newTotal < provisioned then
      return (res, .error (s!"the flipped sizing yields {newTotal} raw bytes of total capacity, less than the {provisioned} raw bytes already " ++
        "provisioned; raise spec.dynamicTemplate.containerCapacity (or numDrives x driveCapacity) before migrating"))
    return ({ res with capacityChecked := true }, .ok ())

/-- A plan that goes on, or the outcome that ends the reconcile. -/
abbrev Planned := Except Outcome (Cluster × Result)

/-- The checks before a container is touched. -/
def planGuards (cluster : Cluster) (res : Result) : P Planned := do
  match res.containers.find? fun s => s.phase = .pending ∧ s.node = "" with
  | some s =>
    return .error (← waitWithPersistedErr res
      (s!"drive container {s.container} has no resolvable node; it is probably unscheduled — wait for it to " ++
        "be placed, or exclude its node with the payload's nodeSelector"))
  | none =>
    match ← refuseIfSignPolicyMatches (pendingNodes res.containers) with
    | .error e => return .error (← waitWithPersistedErr res e)
    | .ok () =>
      match ← checkCapacity res cluster with
      | (res, .error e) => return .error (← waitWithPersistedErr res e)
      | (res, .ok ()) => return .ok (cluster, { res with err := "", blockedSince := none })

/-- Refreshes the entries from the containers found. -/
def planTargets (payload : Payload) (cluster : Cluster) (res : Result) : P Planned := do
  match ← discoverTargets payload with
  | .error e => return .error (← waitWithPersistedErr res e)
  | .ok (exclusive, sharing) =>
    let containers := planMigrationContainers res.containers exclusive sharing
    let res := { res with containers := containers, total := containers.length }
    if res.total = 0 then
      return .error (← waitWithPersistedErr res
        s!"no drive containers of {res.cluster} match the payload nodeSelector; fix the selector or delete this operation")
    planGuards cluster { res with done := countMigrationDoneOrSkipped containers }

/-- Loads the cluster and refuses a second campaign. -/
def planCluster (c : Campaign) (payload : Payload) (res : Result) : P Planned := do
  match ← read (.cluster payload.clusterNamespace payload.clusterName) with
  | .error e => return .error (← waitWithPersistedErr res s!"failed to get WekaCluster {res.cluster}: {e}")
  | .ok cluster =>
    match ← refuseIfAnotherCampaignRunning c with
    | .error e => return .error (← waitWithPersistedErr res e)
    | .ok () =>
      match requireMigrationSpec res cluster with
      | .error e => return .error (← waitWithPersistedErr res e)
      | .ok () => planTargets payload cluster res

/-- The first part of a reconcile. -/
def plan (c : Campaign) (owner : Owner) : P Planned := do
  let res := owner.result.getD {}
  let payload := owner.payload
  if payload.clusterName = "" then
    let err := "spec.payload.migrateToDriveSharingPayload.cluster.name is required"
    let _ ← call (.fail { res with err := err })
    return .error (.wait err)
  planCluster c payload { res with cluster := s!"{payload.clusterNamespace}/{payload.clusterName}" }

/-! ### Starting a container -/

/-- The capacity of the serials in the full-drives annotation. -/
def readAnnotatedCapacity (node : String) (serials : List String) : P (Except String Int) := do
  match ← read (.fullDrives node) with
  | .error e => return .error s!"failed to get node {node}: {e}"
  | .ok (.error e) => return .error s!"failed to read weka.io/weka-full-drives on node {node}: {e}"
  | .ok (.ok entries) => return annotatedCapacityBytes node entries serials

/-- The drives weka reports for a container that has joined. -/
def readContainerDrives (container : WekaContainer) : P (Except String (List WekaDrive)) := do
  match container.clusterContainerID with
  | none => return .ok []
  | some id =>
    match ← read (.containerDrives id) with
    | .error e => return .error s!"failed to list drives of weka container {id}: {e}"
    | .ok drives => return .ok drives

/-- Puts the serials and the capacity of a container's drives on record, once. -/
def recordDriveInventory (container : WekaContainer) (s : ContainerState) : P (Except String ContainerState) := do
  if s.serials.length > 0 then return .ok s
  if container.drives.length = 0 then
    return .error "drive container has no allocated drive serials in status.allocations.drives"
  match ← readContainerDrives container with
  | .error e => return .error e
  | .ok drives =>
    let recorded := { s with serials := container.drives, driveUuids := drives.map WekaDrive.uuid }
    let reported := (drives.map WekaDrive.sizeBytes).sum
    if reported > 0 then return .ok { recorded with capacityBytes := reported, capacitySource := .weka }
    match ← readAnnotatedCapacity s.node container.drives with
    | .error e => return .error e
    | .ok annotated =>
      if annotated = 0 then
        return .error (s!"could not determine drive capacity for {container.name} from weka or " ++
          s!"weka.io/weka-full-drives on node {s.node}")
      return .ok { recorded with capacityBytes := annotated, capacitySource := .annotations }

/-- An entry that goes into flight. -/
def ContainerState.start (s : ContainerState) (now : Int) : ContainerState :=
  { s with startedAt := some now, blockedSince := none, phase := .inFlight, subPhase := .draining, reason := "" }

/-- Starts a container if the gate is open and the headroom covers its capacity. -/
def gateAndStart (res : Result) (idx : Nat) (s : ContainerState) : P Outcome := do
  let verdict ← call .gate
  if !verdict.allowed then
    return ← parkNode { res with blocked := [verdict] } idx { s with reason := verdict.reason }
  match ← call .wekaStatus with
  | .error e => parkOnErr res idx s "fetch weka status for capacity headroom" e.text
  | .ok status =>
    let headroom := rawBytesFromUsable status.unprovisionedBytes status
    if headroom < s.capacityBytes then
      parkNode res idx { s with reason :=
        s!"not enough headroom to phase out {s.container}: {headroom} raw bytes unprovisioned, {s.capacityBytes} needed for its drives" }
    else
      let now ← read .now
      persistAndWait ({ res with blocked := [] }.set idx (s.start now)) "migration started, draining the drive container"

/-- Takes up the next Pending container. -/
def startPending (res : Result) (idx : Nat) (s : ContainerState) : P Outcome := do
  let res := { res with current := s.node }
  let s := { s with subPhase := .gate }
  match ← read (.container s.container) with
  | .error e => parkOnErr res idx s "get drive container" e.text
  | .ok container =>
    match ← recordDriveInventory container s with
    | .error e => parkOnErr res idx s "record drive inventory" e
    | .ok s => gateAndStart res idx s

/-! ### Advancing the container in flight -/

/-- Deletes the container and waits until it is gone. -/
def advanceDraining (res : Result) (idx : Nat) (s : ContainerState) : P Outcome := do
  match ← read (.container s.container) with
  | .error .notFound =>
    enterSubPhase res idx s .signing "drive container phased out, re-signing its drives for the proxy"
  | .error e => parkOnErr res idx s "get drive container" e.text
  | .ok container =>
    match ← unlessDone container.skipDrivesForceResign (call (.suppressForceResign s.container)) with
    | .error e => parkOnErr res idx s "suppress the exclusive force-resign on the drive container" e.text
    | .ok () =>
      match ← unlessDone container.deleting (call (.deleteContainer s.container)) with
      | .error (.other e) => parkOnErr res idx s "delete drive container" e
      | _ =>
        parkNode res idx { s with reason := s!"waiting for drive container {s.container} to phase out of the cluster" }

/-- Deletes a failed sign-drives operation after a backoff, to create it anew. -/
def retryFailedSignOp (res : Result) (idx : Nat) (s : ContainerState) (ns name : String) (child : ChildView) : P Outcome := do
  let s := { s with reason := s!"sign-drives operation {ns}/{name} failed: {child.result}" }
  let now ← read .now
  match s.signFailedAt with
  | none => parkNode res idx { s with signFailedAt := some now }
  | some failedAt =>
    if now - failedAt < signRetryBackoff then parkNode res idx s
    else
      match ← call (.deleteChild ns name) with
      | .error (.other e) => parkOnErr res idx s "delete the failed sign-drives operation" e
      | _ => parkNode res idx { s with signFailedAt := none }

/-- The shared drives in the node's annotation. -/
def readSharedDrives (node : String) : P (Except String (List SharedDriveInfo)) := do
  match ← read (.sharedDrives node) with
  | .error e => return .error s!"failed to get node {node}: {e}"
  | .ok (.error e) => return .error s!"failed to read weka.io/weka-shared-drives on node {node}: {e}"
  | .ok (.ok drives) => return .ok drives

/-- Creates the sign-drives operation, waits for it, or puts its end on record. -/
def advanceChild (c : Campaign) (payload : Payload) (res : Result) (idx : Nat) (s : ContainerState) (ns name : String)
    (missing : List String) : P Outcome := do
  let s := { s with signOp := name }
  match ← call (.getChild ns name) with
  | .error .notFound =>
    match ← call (.createChild s.container (buildChildSignOp c payload ns name s)) with
    | .error e => parkOnErr res idx s "create the shared sign-drives operation" e.text
    | .ok () =>
      let attempts := s.signAttempts + 1
      parkNode res idx { s with
        signAttempts := attempts
        signFailedAt := none
        reason := s!"created sign-drives operation {ns}/{name} (attempt {attempts})" }
  | .error e => parkOnErr res idx s "get the shared sign-drives operation" e.text
  | .ok child =>
    if child.phase = "Done" then
      parkNode res idx { s with
        signDone := true
        reason := signDoneWithSerialsMissingReason ns name missing s.node }
    else if child.phase = "Failed" then retryFailedSignOp res idx s ns name child
    else
      parkNode res idx { s with
        reason := s!"waiting for sign-drives operation {ns}/{name} (status \"{child.phase}\")" }

/-- Has the drives signed for the proxy, until all serials are in the annotation. -/
def advanceSigning (c : Campaign) (payload : Payload) (res : Result) (idx : Nat) (s : ContainerState) : P Outcome := do
  match ← call (.removeFullDrives s.node s.serials) with
  | .error e => parkOnErr res idx s "remove the migrated serials from the node's full-drives inventory" e.text
  | .ok () =>
    match ← readSharedDrives s.node with
    | .error e => parkOnErr res idx s "verify the shared-drives annotation" e
    | .ok shared =>
      let missing := missingSerials shared s.serials
      if missing.length = 0 then
        enterSubPhase res idx s .proxy "drives re-signed for the proxy, checking the ssdproxy"
      else
        match ← read .podNamespace with
        | .error e => parkOnErr res idx s "get operator namespace" e.text
        | .ok ns =>
          let name := childSignOpName c s.container
          if s.signDone then
            parkNode res idx { s with reason := signDoneWithSerialsMissingReason ns name missing s.node }
          else advanceChild c payload res idx s ns name missing

/-- Why the proxy cannot be said to run, if so. -/
def proxyPodRunning (proxy : SsdProxy) : P (Except String (Option String)) := do
  match ← read (.proxyPod proxy) with
  | .error .notFound => return .ok (some "waiting for the ssdproxy pod to be recreated")
  | .error e => return .error s!"failed to get ssdproxy pod {proxy.name}: {e}"
  | .ok pod =>
    if pod.phase ≠ "Running" then
      return .ok (some s!"ssdproxy pod phase is \"{pod.phase}\", want \"Running\"")
    if proxy.status ≠ "Running" then
      return .ok (some s!"ssdproxy container status is \"{proxy.status}\", want \"Running\"")
    return .ok none

/-- The pod reserves less than the container asks for. -/
def proxyHugepagesDrifted (proxy : SsdProxy) : P (Except String Bool) := do
  match ← read (.proxyPod proxy) with
  | .error .notFound => return .ok false
  | .error e => return .error s!"failed to get ssdproxy pod {proxy.name}: {e}"
  | .ok pod =>
    match pod.hugepages with
    | none => return .error "failed to find the weka container in the ssdproxy pod"
    | some quantity => return .ok (quantity < proxy.hugepagesRequest)

/-- Why the proxy has to be restarted, or nothing. -/
def proxyRestartReason (s : ContainerState) (proxy : SsdProxy) : P (Except String String) := do
  match ← readSharedDrives s.node with
  | .error e => return .error e
  | .ok shared =>
    match ← read (.proxyDrives s.node proxy) with
    | .error e => return .error s!"failed to list the ssdproxy's physical drives: {e}"
    | .ok physical =>
      let unseen := unseenDrives shared s.serials physical
      if unseen.length > 0 then
        return .ok s!"{unseen.length} newly signed physical drive(s) are not visible to the running proxy"
      match ← proxyHugepagesDrifted proxy with
      | .error e => return .error e
      | .ok drifted =>
        if drifted then
          return .ok s!"the pod runs on fewer hugepages than the container's spec.hugepages ({proxy.hugepages}MiB)"
        return .ok ""

/-- After a restart: waits for the pod and for the proxy's recovery. -/
def awaitProxy (res : Result) (idx : Nat) (s : ContainerState) (proxy : SsdProxy) : P Outcome := do
  match ← proxyPodRunning proxy with
  | .error e => parkOnErr res idx s "check the ssdproxy pod" e
  | .ok (some reason) => parkNode res idx { s with reason := reason }
  | .ok none =>
    match ← read (.proxyRecovered s.node proxy) with
    | .error e => parkOnErr res idx s "verify ssdproxy recovery" e.text
    | .ok verdicts =>
      match allAllowed verdicts with
      | (false, reason) => parkNode { res with blocked := verdicts } idx { s with reason := reason }
      | (true, _) => enterSubPhase { res with blocked := [] } idx s .rejoining "ssdproxy recovered"

/-- Stores the marker of the restart and then deletes the pod; the marker is withdrawn if that fails. -/
def restartProxy (res : Result) (idx : Nat) (s : ContainerState) (proxy : SsdProxy) (reason : String) : P Outcome := do
  match ← read (.proxyGate s.node proxy) with
  | .error e => parkOnErr res idx s "evaluate the ssdproxy disruption gate" e.text
  | .ok verdicts =>
    match allAllowed verdicts with
    | (false, blockReason) => parkNode { res with blocked := verdicts } idx { s with reason := blockReason }
    | (true, _) =>
      let s := { s with proxyRestarted := true, reason := "restarting the ssdproxy: " ++ reason }
      let res := { res with blocked := [] }.set idx s
      match ← call (.persist res) with
      | .error e => return .error s!"failed to persist migration progress: {e}"
      | .ok () =>
        match ← call (.deleteProxyPod proxy) with
        | .error (.other e) => parkOnErr res idx { s with proxyRestarted := false } "delete the ssdproxy pod" e
        | _ => return .wait "ssdproxy pod deleted, waiting for it to come back"

/-- Restarts the node's proxy if it does not serve the drives. -/
def advanceProxy (res : Result) (idx : Nat) (s : ContainerState) : P Outcome := do
  match ← read (.ssdProxy s.node) with
  | .error .notFound =>
    enterSubPhase res idx s .rejoining "no ssdproxy on the node yet, waiting for the replacement drive container"
  | .error e => parkOnErr res idx s "find the ssdproxy on the node" e.text
  | .ok proxy =>
    if s.proxyRestarted then awaitProxy res idx s proxy
    else
      match ← proxyRestartReason s proxy with
      | .error e => parkOnErr res idx s "check whether the ssdproxy needs a restart" e
      | .ok reason =>
        if reason = "" then enterSubPhase res idx s .rejoining "ssdproxy already sees the new drives"
        else restartProxy res idx s proxy reason

/-- The entry is Done. -/
def completeEntry (res : Result) (idx : Nat) (s : ContainerState) : Result :=
  let res := { res with blocked := [], current := "" }.set idx { s with phase := .done, subPhase := .unset, reason := "" }
  { res with done := countMigrationDoneOrSkipped res.containers }

/-- Waits for a drive-sharing container on the node to run. -/
def advanceRejoining (payload : Payload) (res : Result) (idx : Nat) (s : ContainerState) : P Outcome := do
  match ← listDriveContainers payload with
  | .error e => parkOnErr res idx s "find the replacement drive container" e
  | .ok containers =>
    match pickReplacement res.containers s containers with
    | none =>
      parkNode res idx { s with
        reason := s!"waiting for the cluster controller to place a sharing drive container on node {s.node}" }
    | some r =>
      let s := { s with replacement := r.name }
      if r.status ≠ "Running" then
        parkNode res idx { s with reason := s!"replacement {r.name} status is \"{r.status}\", want \"Running\"" }
      else if r.virtualDrives = 0 then
        parkNode res idx { s with reason := s!"replacement {r.name} has no virtual drives allocated yet" }
      else
        let verdict ← read (.recoveryGate r.node)
        if !verdict.allowed then
          parkNode { res with blocked := [verdict] } idx { s with reason := verdict.reason }
        else persistAndWait (completeEntry res idx s) "drive container migrated, advancing to the next one"

/-- Advances the container in flight by its sub-phase. -/
def advanceInFlight (c : Campaign) (payload : Payload) (res : Result) (idx : Nat) (s : ContainerState) : P Outcome :=
  let res := { res with current := s.node }
  match s.subPhase with
  | .draining => advanceDraining res idx s
  | .signing => advanceSigning c payload res idx s
  | .proxy => advanceProxy res idx s
  | .rejoining => advanceRejoining payload res idx s
  | .unset | .gate => parkNode res idx { s with reason := s!"unknown sub-phase \"{s.subPhase.text}\"" }

/-! ### The reconcile -/

/-- The first entry in a phase. -/
def firstOf (res : Result) (phase : Phase) : Option (Nat × ContainerState) :=
  (indexOfMigrationPhase res.containers phase).bind fun idx => (res.containers[idx]?).map (idx, ·)

/-- Advances the container in flight, or takes up the next one. -/
def advanceOne (c : Campaign) (payload : Payload) (res : Result) : P (Except Outcome Result) := do
  match firstOf res .inFlight with
  | some (idx, s) => return .error (← advanceInFlight c payload res idx s)
  | none =>
    if payload.paused then return .error (← persistAndWait { res with current := "" } "migration paused")
    match firstOf res .pending with
    | none => return .ok { res with current := "" }
    | some (idx, s) => return .error (← startPending res idx s)

/-- Removes the annotation of the migration and succeeds. -/
def finalize (cluster : Cluster) (res : Result) : P Outcome := do
  match ← unlessDone (cluster.migrationAnnotation = "") (call .removeMigrationAnnotationKey) with
  | .error e => return .error s!"failed to remove annotation weka.io/sizing-mode-migration from cluster {res.cluster}: {e}"
  | .ok () =>
    match ← call (.succeed res) with
    | .error e => return .error e.text
    | .ok () => return .next

/-- One reconcile of the campaign. -/
def reconcile (c : Campaign) : P Outcome := do
  match ← call .load with
  | .error .notFound => return .next
  | .error e => return .error e.text
  | .ok owner =>
    if owner.deleting || owner.status.terminal then return .next
    match ← plan c owner with
    | .error outcome => return outcome
    | .ok (cluster, res) =>
      match ← advanceOne c owner.payload res with
      | .error outcome => return outcome
      | .ok res => finalize cluster res

end WekaOperator.Migrate
