import WekaOperator.Lib.Reconciler

/-! What the manual operations share (`operations.go`, `proxy_disruption_gate.go` and the manual operation
    controller): the owner's status, the verdicts of the disruption gate, and how a step of an operation ends. -/

namespace WekaOperator.Operations

/-- The status of an operation. -/
inductive OwnerStatus
  | unset | running | done | failed
  deriving DecidableEq, Repr

/-- It is over. -/
def OwnerStatus.terminal : OwnerStatus → Bool
  | .done | .failed => true
  | .unset | .running => false

/-- It is running, unless it is over. -/
def OwnerStatus.progressed : OwnerStatus → OwnerStatus
  | .unset => .running
  | s => s

/-- Errors of the API server. -/
inductive ApiError
  | notFound
  | other (msg : String)
  deriving DecidableEq, Repr

/-- Their text. -/
def ApiError.text : ApiError → String
  | .notFound => "not found"
  | .other msg => msg

instance : ToString ApiError := ⟨ApiError.text⟩

/-- The call took effect. -/
def took : Except ApiError Unit → Bool → Bool
  | .ok (), _ => true
  | .error _, applied => applied

/-- Labels and selectors. -/
abbrev Labels := List (String × String)

/-- The labels match. -/
def selectorMatches (selector labels : Labels) : Bool := selector.all fun kv => labels.lookup kv.1 = some kv.2

/-- Another operation, as listed. -/
structure OperationView where
  uid : String
  namespaceName : String
  name : String
  sameAction : Bool
  status : OwnerStatus
  deleting : Bool
  deriving DecidableEq, Repr

/-- An operation that excludes this one. -/
def contender (ownerUID : String) (ops : List OperationView) : Option OperationView :=
  ops.find? fun o => o.uid ≠ ownerUID ∧ o.sameAction ∧ ¬o.status.terminal ∧ ¬o.deleting

/-- What a cluster says to a disruption. -/
structure ClusterVerdict where
  namespaceName : String
  name : String
  clusterGUID : String
  allowed : Bool
  reason : String
  deriving DecidableEq, Repr

/-- All clusters allow it, or why not. -/
def allAllowed (verdicts : List ClusterVerdict) : Bool × String :=
  let blockers := (verdicts.filter (!·.allowed)).map (·.reason)
  if blockers.length = 0 then (true, "") else (false, "; ".intercalate blockers)

/-! ### The target proxies -/

/-- A proxy, as listed. -/
structure ListedProxy where
  name : String
  uid : String := ""
  node : String
  image : String := ""
  deriving DecidableEq, Repr

/-- The proxies, and the nodes that match if there is a selector. -/
structure Observed where
  proxies : List ListedProxy
  nodes : Option (List String)
  deriving DecidableEq, Repr

/-- Why they are not known. -/
inductive TargetsError
  | podNamespace (e : ApiError)
  | proxies (e : ApiError)
  | nodes (e : ApiError)
  deriving DecidableEq, Repr

/-- Its text. -/
def TargetsError.text : TargetsError → String
  | .podNamespace e => s!"failed to get operator namespace: {e}"
  | .proxies e => s!"failed to list ssdproxy containers: {e}"
  | .nodes e => s!"failed to list nodes for NodeSelector: {e}"

/-- The proxies on matching nodes. -/
def resolveTargetProxies (o : Observed) : List ListedProxy :=
  o.proxies.filter fun p => p.node ≠ "" ∧ o.nodes.all (p.node ∈ ·)

/-- How a reconcile ends. -/
inductive Outcome
  | next
  | wait (msg : String)
  | error (msg : String)
  deriving DecidableEq, Repr

end WekaOperator.Operations
