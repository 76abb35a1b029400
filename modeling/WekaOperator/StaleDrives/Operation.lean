import WekaOperator.StaleDrives.Types

/-! One reconcile of the stale-drive cleanup (`stale_virtual_drives.go` and the two controllers that run it), as a
    program over API and proxy calls. -/

namespace WekaOperator.StaleDrives
open Lib Operations

/-! ### Scan -/

/-- What a scan found. -/
structure Scanned where
  vids : List ScannedVID := []
  proxyOf : List (String × String) := []
  nodes : List String := []
  errs : List String := []

/-- Scans the proxies. -/
def scanTargets : List ListedProxy → Scanned → P Scanned
  | [], acc => return acc
  | t :: targets, acc => do
    match ← read (.agentPod t.node) with
    | .error e => scanTargets targets { acc with errs := acc.errs ++ [s!"node {t.node}: {e}"] }
    | .ok () =>
      match ← call (.listVirtualDrives t.uid) with
      | .error e => scanTargets targets { acc with errs := acc.errs ++ [s!"node {t.node}: {e}"] }
      | .ok vids =>
        scanTargets targets { acc with
          vids := acc.vids ++ vids.map (⟨t.node, ·⟩)
          proxyOf := acc.proxyOf ++ vids.map fun v => (v.virtualUUID, t.uid)
          nodes := acc.nodes ++ [t.node] }

/-- The proxy on which a drive was found. -/
def Scanned.proxyUID (s : Scanned) (virtualUUID : String) : String :=
  ((s.proxyOf.filter (·.1 = virtualUUID)).getLast?.map (·.2)).getD ""

/-- A scan with its result. -/
structure ScanResult where
  scanned : Scanned
  result : Result

/-- The result of a scan. -/
def scanResult (sorting : Sorting) (digest : Digest) (payload : Payload) (scanned : Scanned) (claims : Claims) (liveGUIDs : List String) : Result :=
  let (stale, skippedPending) := computeStaleVids sorting scanned.vids claims liveGUIDs payload.onlyNonExistingClusters
  { scannedNodes := scanned.nodes.dedup.length
    staleCount := stale.length
    staleTiB := (((stale.map (·.sizeGB)).sum : Int) : ℚ) / 1024
    skippedPendingCount := skippedPending
    fingerprint := fingerprintStaleVids digest stale
    staleVids := stale
    err := if scanned.errs.length > 0 then "scan errors: " ++ "; ".intercalate scanned.errs else "" }

/-- One scan. -/
def scan (sorting : Sorting) (digest : Digest) (payload : Payload) : P (Except String ScanResult) := do
  match ← read (.targets payload.nodeSelector) with
  | .error e => return .error e.text
  | .ok observed =>
    match ← call .listAllocations with
    | .error e => return .error s!"failed to list WekaContainers (uncached): {e}"
    | .ok allocations =>
      match ← read .clusterGUIDs with
      | .error e => return .error s!"failed to list WekaClusters (uncached): {e}"
      | .ok guids =>
        match ← read .agentToken with
        | .error e => return .error s!"failed to get node agent token: {e}"
        | .ok () =>
          let scanned ← scanTargets (resolveTargetProxies observed) {}
          let result := scanResult sorting digest payload scanned (buildClaimedSet allocations) (guids.filter (· ≠ ""))
          call (.noteScan result.staleVids)
          return .ok ⟨scanned, result⟩

/-! ### EvaluateStability and MaybeDelete -/

/-- Deletion needs the same drives as in the last result. -/
def evaluateStability (owner : Owner) (r : Result) : Result :=
  if r.err ≠ "" then r
  else { r with deletionEligible := deletionEligible r.staleCount r.fingerprint ((owner.result.map (·.fingerprint)).getD "") }

/-- What has been removed so far. -/
structure Removed where
  pods : List String := []
  deleted : List String := []
  errs : List String := []

/-- Finds the agent of a node, once. -/
def resolveAgent (acc : Removed) (node : String) : P (Except ApiError Removed) := do
  if node ∈ acc.pods then return .ok acc
  match ← read (.agentPod node) with
  | .error e => return .error e
  | .ok () => return .ok { acc with pods := node :: acc.pods }

/-- Removes a drive. -/
def removeOne (scanned : Scanned) (s : StaleInfo) (acc : Removed) : P Removed := do
  let proxyUID := scanned.proxyUID s.virtualUUID
  if proxyUID = "" then return { acc with errs := acc.errs ++ [s!"{s.virtualUUID}: no scanned proxy UID"] }
  match ← resolveAgent acc s.node with
  | .error e => return { acc with errs := acc.errs ++ [s!"{s.virtualUUID}: node agent pod: {e}"] }
  | .ok acc =>
    match ← call (.removeVirtualDrive proxyUID s.virtualUUID) with
    | .error e => return { acc with errs := acc.errs ++ [s!"{s.virtualUUID}: {e}"] }
    | .ok () => return { acc with deleted := acc.deleted ++ [s.virtualUUID] }

/-- Removes all that are still unclaimed. -/
def removeAll (scanned : Scanned) (claims : Claims) : List StaleInfo → Removed → P Removed
  | [], acc => return acc
  | s :: stale, acc => do
    if claims.unclaimed s.virtualUUID s.physicalUUID then
      let acc ← removeOne scanned s acc
      removeAll scanned claims stale acc
    else removeAll scanned claims stale acc

/-- Removes the stale drives if asked to and eligible. -/
def maybeDelete (owner : Owner) (s : ScanResult) : P (Except Outcome Result) := do
  let r := s.result
  if !owner.payload.deleteStaleVids || r.staleCount = 0 || r.err ≠ "" then return .ok r
  if !r.deletionEligible then
    if owner.manual then
      match ← call (.progress r) with
      | .error e => return .error (.error s!"failed to persist intermediate stale-VID result: {e}")
      | .ok () => return .error (.wait "stale virtual drive set not yet stable; re-confirming next cycle")
    return .ok r
  match ← call .listAllocations with
  | .error e =>
    return .error (.error s!"failed to re-validate claimed set before removal: failed to list WekaContainers (uncached): {e}")
  | .ok allocations =>
    match ← read .agentToken with
    | .error e => return .error (.error s!"failed to get node agent token for removal: {e}")
    | .ok () =>
      let removed ← removeAll s.scanned (buildClaimedSet allocations) r.staleVids {}
      return .ok { r with
        deleted := removed.deleted
        err := if removed.errs.length > 0 then "removal errors: " ++ "; ".intercalate removed.errs else r.err }

/-- The operation on a loaded owner. -/
def operation (sorting : Sorting) (digest : Digest) (owner : Owner) : P Outcome := do
  if owner.status = .done then return .next
  match ← scan sorting digest owner.payload with
  | .error e => return .error e
  | .ok s =>
    match ← maybeDelete owner { s with result := evaluateStability owner s.result } with
    | .error outcome => return outcome
    | .ok r =>
      match ← call (.succeed r) with
      | .error e => return .error e.text
      | .ok () => return .next

/-- One reconcile. -/
def cycle (sorting : Sorting) (digest : Digest) : P Outcome := do
  match ← call .loadOwner with
  | .error e => return .error e.text
  | .ok owner =>
    if !owner.manual ∧ (owner.status = .done ∨ owner.status = .unset) then
      match ← call .markRunning with
      | .error e => return .wait e.text
      | .ok () => operation sorting digest { owner with status := .running }
    else operation sorting digest owner

end WekaOperator.StaleDrives
