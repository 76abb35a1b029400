import WekaOperator.Lib.Collections
import WekaOperator.Operations.Common

/-! The reconcile of rotate-ssdproxy (`rotate_ssdproxy.go`, `rotate_ssdproxy_types.go`) as a program over API calls. -/

namespace WekaOperator.Rotate
open Lib Operations

/-! ### The record -/

/-- The phases of a node. -/
inductive Phase
  | pending | inFlight | done | skipped
  deriving DecidableEq, Repr

/-- The entry of a node in the record. -/
structure NodeState where
  node : String
  proxyName : String := ""
  phase : Phase
  previousImage : String := ""
  image : String := ""
  startedAt : Option Int := none
  blockedSince : Option Int := none
  reason : String := ""
  deriving DecidableEq, Repr

/-- The record of a campaign. -/
structure Result where
  targetImage : String := ""
  total : Nat := 0
  done : Nat := 0
  currentNode : String := ""
  nodes : List NodeState := []
  blocked : List ClusterVerdict := []
  err : String := ""
  blockedSince : Option Int := none
  deriving DecidableEq, Repr

/-- Replaces an entry. -/
def Result.set (r : Result) (idx : Nat) (n : NodeState) : Result := { r with nodes := r.nodes.set idx n }

/-! ### What the campaign reads -/

/-- What the campaign is asked to do. -/
structure Payload where
  targetImage : String
  nodeSelector : Labels := []
  paused : Bool := false
  deriving DecidableEq, Repr

/-- The operation as loaded. -/
structure Owner where
  deleting : Bool
  payload : Payload
  imageOverride : String := ""
  status : OwnerStatus
  result : Option Result
  deriving DecidableEq, Repr

/-- The proxy of a node. -/
structure Proxy where
  image : String
  status : String
  internalStatus : String
  deriving DecidableEq, Repr

/-- Its pod. -/
structure Pod where
  wekaImage : Option String
  deriving DecidableEq, Repr

/-! ### Planning -/

/-- The image of the payload, or the override. -/
def resolveTargetImage (payloadImage overrideImage : String) : String :=
  if payloadImage ≠ "" then payloadImage else overrideImage

/-- How many nodes are settled. -/
def countDoneOrSkipped (nodes : List NodeState) : Nat :=
  (nodes.filter fun n => n.phase = .done ∨ n.phase = .skipped).length

/-- The last entry of a node. -/
def priorByNode (previous : List NodeState) (node : String) : Option NodeState :=
  (previous.filter (·.node = node)).getLast?

/-- The entry of a proxy found, with what was on record for its node. -/
def mergeTarget (previous : List NodeState) (targetImage : String) (t : ListedProxy) : NodeState :=
  let prior := (priorByNode previous t.node).getD { node := t.node, phase := .pending }
  let state := { prior with proxyName := t.name, image := t.image }
  if t.image = targetImage ∧ state.previousImage = "" then
    { state with phase := .skipped, reason := "", blockedSince := none }
  else if state.phase = .skipped then { state with phase := .pending }
  else state

/-- The entries of the proxies found; others are dropped. -/
def mergeCampaignNodes (previous : List NodeState) (targets : List ListedProxy) (targetImage : String) : List NodeState :=
  targets.map (mergeTarget previous targetImage)

/-- By node. -/
def sortNodes (order : MapOrder NodeState) (nodes : List NodeState) : List NodeState :=
  (order.arrange nodes).insertionSort (·.node ≤ ·.node)

/-- The first entry in a phase. -/
def indexOfPhase (nodes : List NodeState) (phase : Phase) : Option Nat := nodes.findIdx? (·.phase = phase)

/-- The record to start from. -/
def rehydrateFrom : Option Result → Result
  | none => {}
  | some previous =>
    { targetImage := previous.targetImage
      nodes := previous.nodes
      total := previous.total
      done := countDoneOrSkipped previous.nodes
      blockedSince := previous.blockedSince }

/-! ### Calls -/

/-- The calls of the campaign. -/
inductive Op
  | load
  | operations
  | targets (selector : Labels)
  | podNamespace
  | getProxy (name : String)
  | getPod (name : String)
  | gate (node proxy : String)
  | verifyRecovered (node proxy : String)
  | patchImage (proxy image : String)
  | now
  | persist (r : Result)
  | fail (r : Result)
  | succeed (r : Result)
  deriving DecidableEq

/-- Their replies. -/
@[reducible] def Op.Reply : Op → Type
  | .load => Except ApiError Owner
  | .operations => Except ApiError (List OperationView)
  | .targets _ => Except TargetsError Observed
  | .podNamespace => Except ApiError String
  | .getProxy _ => Except ApiError Proxy
  | .getPod _ => Except ApiError Pod
  | .gate _ _ => Except ApiError (List ClusterVerdict)
  | .verifyRecovered _ _ => Except ApiError (List ClusterVerdict)
  | .now => Int
  | .patchImage _ _ => Except ApiError Unit
  | .persist _ => Except ApiError Unit
  | .fail _ => Except ApiError Unit
  | .succeed _ => Except ApiError Unit

/-- Programs of the campaign. -/
abbrev P (α : Type) : Type := Prog Op Op.Reply α

/-- One call. -/
def call (op : Op) : P op.Reply := .call op .ret

/-! ### Parking and persistence -/

/-- Stores the progress and waits. -/
def persistAndWait (res : Result) (why : String) : P Outcome := do
  match ← call (.persist res) with
  | .error e => return .error s!"failed to persist rotation progress: {e}"
  | .ok () => return .wait why

/-- The time on record, or now. -/
def stamp : Option Int → P Int
  | some t => pure t
  | none => call .now

/-- Stores an error of the whole campaign. -/
def waitWithPersistedErr (res : Result) (err : String) : P Outcome := do
  let since ← stamp res.blockedSince
  persistAndWait { res with err := err, blockedSince := some since } err

/-- Ends the campaign with an error. -/
def failTerminally (res : Result) (err : String) : P Outcome := do
  let _ ← call (.fail { res with err := err })
  return .wait err

/-- Stores the entry with its reason. -/
def parkNode (res : Result) (idx : Nat) (n : NodeState) : P Outcome := do
  if n.phase = .pending then
    let since ← stamp n.blockedSince
    persistAndWait (res.set idx { n with blockedSince := some since }) n.reason
  else persistAndWait (res.set idx n) n.reason

/-- The same with the failed action. -/
def parkOnErr (res : Result) (idx : Nat) (n : NodeState) (action err : String) : P Outcome :=
  parkNode res idx { n with reason := s!"failed to {action}: {err}" }

/-! ### Plan -/

/-- No other campaign may be running. -/
def refuseIfAnotherCampaignRunning (ownerUID : String) : P (Except String Unit) := do
  match ← call .operations with
  | .error e => return .error s!"failed to list WekaManualOperations for cross-campaign exclusion: {e}"
  | .ok ops =>
    match contender ownerUID ops with
    | none => return .ok ()
    | some o =>
      return .error (s!"another rotate-ssdproxy operation ({o.namespaceName}/{o.name}) exists and has not finished; only one may run " ++
        "at a time — delete one of them to continue")

/-- What stays the same over a campaign. -/
structure Campaign where
  ownerUID : String
  order : MapOrder NodeState

/-- Merges the proxies found into the record. -/
def planTargets (c : Campaign) (payload : Payload) (res : Result) : P (Except Outcome Result) := do
  match ← call (.targets payload.nodeSelector) with
  | .error e => return .error (← waitWithPersistedErr res e.text)
  | .ok observed =>
    let targets := resolveTargetProxies observed
    if payload.nodeSelector.length > 0 ∧ targets.length = 0 then
      return .error (← waitWithPersistedErr res
        s!"nodeSelector {payload.nodeSelector} matched no nodes with an ssdproxy; check the node labels")
    let nodes := sortNodes c.order (mergeCampaignNodes res.nodes targets res.targetImage)
    return .ok { res with
      nodes := nodes
      total := nodes.length
      done := countDoneOrSkipped nodes
      err := ""
      blockedSince := none }

/-- The first part of a reconcile. -/
def plan (c : Campaign) (owner : Owner) : P (Except Outcome Result) := do
  let res := rehydrateFrom owner.result
  let targetImage := resolveTargetImage owner.payload.targetImage owner.imageOverride
  if targetImage = "" then
    return .error (← failTerminally res
      ("no target image: set spec.payload.rotateSsdProxyPayload.targetImage on the WekaManualOperation, " ++
        "or the operator's driveSharing.ssdProxy.imageOverride Helm value (env SSD_PROXY_IMAGE_OVERRIDE)"))
  if res.targetImage ≠ "" ∧ res.targetImage ≠ targetImage then
    return .error (← failTerminally res
      (s!"targetImage is immutable once a campaign has planned (was \"{res.targetImage}\", now \"{targetImage}\"); delete this " ++
        "WekaManualOperation and create a new one to rotate to a different image"))
  let res := { res with targetImage := targetImage }
  match ← refuseIfAnotherCampaignRunning c.ownerUID with
  | .error e => return .error (← waitWithPersistedErr res e)
  | .ok () => planTargets c owner.payload res

/-! ### AdvanceOne -/

/-- The proxy as it is now. -/
def liveProxy (name : String) : P (Except String Proxy) := do
  match ← call .podNamespace with
  | .error e => return .error s!"failed to get operator namespace: {e}"
  | .ok _ =>
    match ← call (.getProxy name) with
    | .error e => return .error s!"failed to get proxy container: {e}"
    | .ok proxy => return .ok proxy

/-- The same with its pod. -/
def liveProxyAndPod (name : String) : P (Except String (Proxy × Option Pod)) := do
  match ← liveProxy name with
  | .error e => return .error e
  | .ok proxy =>
    match ← call (.getPod name) with
    | .error .notFound => return .ok (proxy, none)
    | .error e => return .error s!"failed to get proxy pod: {e}"
    | .ok pod => return .ok (proxy, some pod)

/-- Whether both have the image and run. -/
def podAndProxyReady (proxy : Proxy) (pod : Pod) (targetImage : String) : Except String (Option String) :=
  match pod.wekaImage with
  | none => .error "failed to find weka container in pod"
  | some image =>
    if image ≠ targetImage then
      .ok (some s!"pod not yet recreated on target image (running \"{image}\", want \"{targetImage}\")")
    else if proxy.status ≠ "Running" then .ok (some s!"proxy status is \"{proxy.status}\", want \"Running\"")
    else if proxy.internalStatus ≠ "READY" then
      .ok (some s!"proxy internal status is \"{proxy.internalStatus}\", want \"READY\"")
    else .ok none

/-- Whether the node is done. -/
def verifyNodeComplete (proxy : Proxy) (pod : Pod) (targetImage : String) (n : NodeState) :
    P (Except String (List ClusterVerdict × String)) := do
  match podAndProxyReady proxy pod targetImage with
  | .error e => return .error e
  | .ok (some reason) => return .ok ([], reason)
  | .ok none =>
    match ← call (.verifyRecovered n.node n.proxyName) with
    | .error e => return .error s!"failed to verify node recovery: {e}"
    | .ok verdicts =>
      match allAllowed verdicts with
      | (false, reason) => return .ok (verdicts, reason)
      | (true, _) => return .ok ([], "")

/-- Whether the clusters allow the rotation. -/
def evaluateGate (res : Result) (n : NodeState) : P (Except String (Bool × Result × NodeState)) := do
  match ← call (.gate n.node n.proxyName) with
  | .error e => return .error e.text
  | .ok verdicts =>
    match allAllowed verdicts with
    | (false, reason) => return .ok (true, { res with blocked := verdicts }, { n with reason := reason })
    | (true, _) => return .ok (false, { res with blocked := [] }, { n with reason := "" })

/-- Sets the proxy's image. -/
def patchProxyImage (n : NodeState) (targetImage : String) : P (Except String Unit) := do
  match ← call (.patchImage n.proxyName targetImage) with
  | .error e => return .error s!"failed to patch proxy {n.proxyName}: {e}"
  | .ok () => return .ok ()

/-- Sets the image anew if it was set back. -/
def reapplyTargetImage (res : Result) (idx : Nat) (n : NodeState) : P Outcome := do
  match ← evaluateGate res n with
  | .error e => parkOnErr res idx n "re-apply target image" e
  | .ok (true, res, n) => parkNode res idx n
  | .ok (false, res, n) =>
    match ← patchProxyImage n res.targetImage with
    | .error e => parkOnErr res idx n "re-apply target image" e
    | .ok () => persistAndWait (res.set idx n) "re-applied target image, waiting for pod restart"

/-- The node is done. -/
def completeNode (res : Result) (idx : Nat) (n : NodeState) : Result :=
  let res := { res with blocked := [], currentNode := "" }.set idx { n with phase := .done, reason := "" }
  { res with done := countDoneOrSkipped res.nodes }

/-- Advances the node in flight. -/
def advanceInFlight (res : Result) (idx : Nat) (n : NodeState) : P Outcome := do
  let res := { res with currentNode := n.node }
  match ← liveProxyAndPod n.proxyName with
  | .error e => parkOnErr res idx n "fetch live proxy/pod state" e
  | .ok (proxy, pod) =>
    if proxy.image ≠ res.targetImage then reapplyTargetImage res idx n
    else
      match pod with
      | none => parkNode res idx { n with reason := "pod deleted, waiting for recreation" }
      | some pod =>
        match ← verifyNodeComplete proxy pod res.targetImage n with
        | .error e => parkOnErr res idx n "verify rotation completion" e
        | .ok (verdicts, reason) =>
          if reason ≠ "" then parkNode { res with blocked := verdicts } idx { n with reason := reason }
          else persistAndWait (completeNode res idx n) "node completed, advancing to next node"

/-- An entry that goes into flight. -/
def NodeState.start (n : NodeState) (proxy : Proxy) (now : Int) : NodeState :=
  { n with
    previousImage := if n.previousImage = "" then proxy.image else n.previousImage
    startedAt := some now
    blockedSince := none
    phase := .inFlight
    reason := "" }

/-- Stores the entry in flight and sets the image. -/
def startNode (res : Result) (idx : Nat) (n : NodeState) : P Outcome := do
  match ← call (.persist (res.set idx n)) with
  | .error e => return .error s!"failed to persist rotation progress: {e}"
  | .ok () =>
    match ← patchProxyImage n res.targetImage with
    | .error e => parkOnErr (res.set idx n) idx n "patch proxy image" e
    | .ok () => return .wait "rotation started, waiting for pod restart and health verification"

/-- Takes up a Pending node. -/
def advancePending (res : Result) (idx : Nat) (n : NodeState) : P Outcome := do
  let res := { res with currentNode := n.node }
  match ← liveProxy n.proxyName with
  | .error e => parkOnErr res idx n "get proxy container" e
  | .ok proxy =>
    match ← evaluateGate res n with
    | .error e => parkOnErr res idx n "evaluate disruption gate" e
    | .ok (true, res, n) => parkNode res idx n
    | .ok (false, res, n) =>
      let now ← call .now
      startNode { res with blocked := [] } idx (n.start proxy now)

/-- The first entry in a phase. -/
def firstOf (res : Result) (phase : Phase) : Option (Nat × NodeState) :=
  (indexOfPhase res.nodes phase).bind fun idx => (res.nodes[idx]?).map (idx, ·)

/-- Advances the node in flight, or takes up the next one. -/
def advanceOne (payload : Payload) (res : Result) : P (Except Outcome Result) := do
  if res.err ≠ "" then return .error (.error res.err)
  match firstOf res .inFlight with
  | some (idx, n) => return .error (← advanceInFlight res idx n)
  | none =>
    if payload.paused then return .error (← persistAndWait { res with currentNode := "" } "rotation paused")
    match firstOf res .pending with
    | none => return .ok { res with currentNode := "" }
    | some (idx, n) => return .error (← advancePending res idx n)

/-- One reconcile of the campaign. -/
def reconcile (c : Campaign) : P Outcome := do
  match ← call .load with
  | .error .notFound => return .next
  | .error e => return .error e.text
  | .ok owner =>
    if owner.deleting || owner.status.terminal then return .next
    match ← plan c owner with
    | .error outcome => return outcome
    | .ok res =>
      match ← advanceOne owner.payload res with
      | .error outcome => return outcome
      | .ok res =>
        match ← call (.succeed res) with
        | .error e => return .error e.text
        | .ok () => return .next

end WekaOperator.Rotate
