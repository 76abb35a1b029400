import WekaOperator.Lib.Flow
import WekaOperator.Operations.Common
import WekaOperator.Ports.Cluster

/-! The ports in the status of a cluster over its reconciles (`AllocateClusterRanges` of `steps_cluster_creation.go`
    among the other steps). -/

namespace WekaOperator.Ports
open Lib Lib.Flow Operations

/-! ### The reconcile -/

/-- The calls. -/
inductive Op
  | load
  | getFeatureFlags
  | listClusters
  | listNodes
  | report (text : String)
  | other
  | updateStatus (ports : ClusterPorts)
  deriving DecidableEq

/-- What other steps do. -/
structure Other where
  managementProxyPort : Option Int
  stores : Bool
  failure : Option String
  deriving DecidableEq

/-- Their replies. -/
def Op.Reply : Op → Type
  | .load => Except ApiError (ClusterPorts × ClusterPorts)
  | .getFeatureFlags => Except ApiError (Option FeatureFlags)
  | .listClusters => Except String Clusters
  | .listNodes => Except String Nodes
  | .report _ => Unit
  | .other => Other
  | .updateStatus _ => Except ApiError Unit

/-- Programs over the cluster in memory. -/
abbrev M := Action Op Op.Reply Cluster

/-- One call. -/
def call (op : Op) : M op.Reply := Flow.call op

/-- Sets that port, if there is one. -/
def Cluster.setManagementProxyPort (c : Cluster) : Option Int → Cluster
  | none => c
  | some port => { c with status := c.status.setPort port .managementProxy }

/-- Stores the status, if asked to. -/
def storeStatus : Bool → M Unit
  | false => return ()
  | true => do
    let c ← get
    orFail ApiError.text (← call (.updateStatus c.status))

/-- Any other step of the reconcile. -/
def otherStep : M Unit := do
  let did ← call .other
  modify (·.setManagementProxyPort did.managementProxyPort)
  storeStatus did.stores
  match did.failure with
  | none => return ()
  | some e => throw e

section Reconcile
variable (sorting : Sorting) (startingPort : Int)

/-- The step that gives the ports. -/
def allocateClusterRanges : M Unit := do
  let flags ← orFail ApiError.text (← call .getFeatureFlags)
  let clusters ← call .listClusters
  let nodes ← call .listNodes
  let c ← get
  let (err, status) := allocateClusterRange sorting startingPort clusters nodes flags c.spec c.status
  modify fun c => { c with status }
  match err with
  | some e => do
    call (.report e.message)
    throw e.message
  | none => orFail ApiError.text (← call (.updateStatus status))

/-- Another step, which may tolerate errors. -/
def anyStep (continueOnError : Bool) : Step Op Op.Reply Cluster Empty := { run := otherStep, continueOnError }

/-- All steps. -/
def steps (before after : List Bool) : List (Step Op Op.Reply Cluster Empty) :=
  before.map anyStep ++
    { run := allocateClusterRanges sorting startingPort, predicates := [(·.status.basePort = 0)] } :: after.map anyStep

/-- One reconcile. -/
def reconcile (before after : List Bool) : Prog Op Op.Reply Unit :=
  .call .load fun
    | .error _ => .ret ()
    | .ok (spec, status) => do
      let _ ← runAll ⟨nofun, nofun⟩ (steps sorting startingPort before after) ⟨spec, status⟩
      return ()

/-! ### What is stored -/

/-- The cluster as stored. -/
structure Stored where
  cluster : Cluster
  failedAt : Option ClusterPorts := none
  deriving DecidableEq

/-- What a call does. -/
def Stored.perform (w : Stored) : (op : Op) → op.Reply → Bool → Option Stored
  | .load, .ok (spec, status), _ => if w.cluster = ⟨spec, status⟩ then some w else none
  | .report _, _, _ => some { w with failedAt := some w.cluster.status }
  | .updateStatus ports, r, applied =>
    some (if took r applied then { w with cluster := { w.cluster with status := ports } } else w)
  | _, _, _ => some w

/-- The reconciles of the cluster. -/
def portsSystem (before after : List Bool) : System Stored Unit Op ClusterPorts Op.Reply where
  body _ := reconcile sorting startingPort before after
  start _ w := { w with failedAt := none }
  perform _ := Stored.perform
  env w spec := some { w with cluster := { w.cluster with spec } }

/-- A cluster with a range has all its ports. -/
def ClusterPorts.Whole (ports : ClusterPorts) : Prop :=
  ports.basePort ≠ 0 → ports.lbPort ≠ 0 ∧ ports.lbAdminPort ≠ 0 ∧ ports.s3Port ≠ 0

end Reconcile

/-! ### The allocation -/

section Allocation
variable {sorting : Sorting} {startingPort : Int} {spec status : ClusterPorts} {flags : Option FeatureFlags} {claims : List Range}

theorem getFreeRangeWithOffset_ge {boundaries : Range} {ranges : List Range} {size offset start : Int}
    (h : getFreeRangeWithOffset sorting boundaries ranges size offset = .ok start) : boundaries.base + offset ≤ start := by
  unfold getFreeRangeWithOffset at h
  dsimp only at h
  split at h
  · split at h <;> cases h
    exact le_rfl
  split at h
  · cases h
    exact le_rfl
  split at h
  next found =>
    cases h
    obtain ⟨-, r, -, -, rfl, -⟩ := gapFrom_some found
    exact le_max_left _ _
  · cases h

theorem ensureGlobalPort_ne_zero {p : GlobalPort} {range : Range} (base : 0 ≤ status.basePort)
    (h : ensureGlobalPort sorting spec status flags claims p = .ok range) : range.base ≠ 0 := by
  unfold ensureGlobalPort at h
  split at h
  next named =>
    unfold ensureSpecificGlobalRange at h
    dsimp only at h
    split at h
    next existing =>
      split at h
      · cases h
      split at h <;> cases h
      exact existing
    · split at h <;> cases h
      exact named
  · unfold ensureGlobalRangeWithOffset at h
    dsimp only at h
    split at h
    next existing =>
      cases h
      exact existing
    · split at h <;> cases h
      next found =>
        have offset : 0 < getSinglePortsOffsetFromFlags flags := by
          unfold getSinglePortsOffsetFromFlags
          split <;> decide
        have := getFreeRangeWithOffset_ge found
        unfold ClusterPorts.getClusterRange at this
        dsimp only at this ⊢
        omega

theorem allocateClusterRange_whole {clusters : Except String Clusters} {nodes : Except String Nodes} {status' : ClusterPorts}
    (whole : status.Whole) (h : allocateClusterRange sorting startingPort clusters nodes flags spec status = (none, status')) :
    status'.Whole := by
  unfold allocateClusterRange at h
  split at h
  · cases h
  split at h
  · cases h
  split at h
  · cases h
    exact whole
  split at h
  · cases h
  split at h
  · cases h
  next range chosen =>
    have base : 0 ≤ range.base := isRangeAvailable_low (chooseClusterRange_ok chosen).1
    dsimp only at h
    split at h
    · cases h
    unfold ensureGlobalPorts at h
    dsimp only at h
    split at h
    · cases h
    next lb hlb =>
      unfold ensureGlobalPorts at h
      dsimp only at h
      split at h
      · cases h
      next admin hadmin =>
        unfold ensureGlobalPorts at h
        split at h
        · cases h
        next s3 hs3 =>
          cases h
          exact fun _ => ⟨ensureGlobalPort_ne_zero base hlb, ensureGlobalPort_ne_zero base hadmin, ensureGlobalPort_ne_zero base hs3⟩

end Allocation

/-! ### Whole runs -/

/-- The protocol whose stage is whether the ports failed. -/
def storing : Protocol Op Op.Reply Bool where
  fresh := false
  next failed op _ :=
    match op with
    | .report _ => true
    | _ => failed
  allowed failed
    | .updateStatus ports => failed = false ∧ ports.Whole
    | _ => True
  admits
    | .load, .ok (_, status) => status.Whole
    | _, _ => True

/-- The ports in memory are whole. -/
def Intact (c : Cluster) (failed : Bool) : Prop := failed = false ∧ c.status.Whole

theorem Intact.setManagementProxyPort {c : Cluster} {failed : Bool} (h : Intact c failed) (port : Option Int) :
    Intact (c.setManagementProxyPort port) failed := by
  cases port with
  | none => exact h
  | some port => exact h

theorem storeStatus_keeps (stores : Bool) : Keeps storing Intact (storeStatus stores) := by
  cases stores with
  | false => exact Keeps.pure ()
  | true =>
    refine Leads.bind (Q := fun a c failed => a = c ∧ Intact c failed) (Leads.get fun _ _ h => ⟨rfl, h⟩) fun a => ?_
    refine Leads.bind (Q := fun _ => Intact) (Leads.call (fun c failed h => ?_) fun _ _ _ h => h.2) fun r => Keeps.orFail _ r
    obtain ⟨rfl, running, whole⟩ := h
    exact ⟨running, whole⟩

theorem otherStep_keeps : Keeps storing Intact otherStep := by
  refine .bind (.call (fun _ _ _ => trivial) fun _ _ _ h => h) fun did => ?_
  refine .bind (.modify fun _ _ h => h.setManagementProxyPort _) fun _ => (storeStatus_keeps _).bind fun _ => ?_
  cases did.failure with
  | none => exact .pure ()
  | some e => exact .throw e

section Runs
variable {sorting : Sorting} {startingPort : Int}

theorem allocateClusterRanges_leads :
    Leads storing Intact (allocateClusterRanges sorting startingPort) (fun _ => Intact) fun _ _ => True := by
  have read : ∀ op : Op, (∀ failed, storing.allowed failed op) → (∀ failed r, storing.next failed op r = failed) →
      Leads storing Intact (call op) (fun _ => Intact) fun _ _ => True := fun op allowed same =>
    Leads.call (fun _ failed _ => allowed failed) fun _ failed r h => (same failed r).symm ▸ h
  refine (read .getFeatureFlags (fun _ => trivial) fun _ _ => rfl).bind fun r => ?_
  refine Leads.bind (Leads.mono (Keeps.orFail _ r) (fun _ _ _ h => h) fun _ _ _ => trivial) fun flags => ?_
  refine (read .listClusters (fun _ => trivial) fun _ _ => rfl).bind fun clusters => ?_
  refine (read .listNodes (fun _ => trivial) fun _ _ => rfl).bind fun nodes => ?_
  refine Leads.bind (Q := fun a c failed => a = c ∧ Intact c failed) (Leads.get fun _ _ h => ⟨rfl, h⟩) fun a => ?_
  rintro c failed ⟨rfl, running, whole⟩
  generalize out : allocateClusterRange sorting startingPort clusters nodes flags a.spec a.status = result
  obtain ⟨err, status⟩ := result
  cases err with
  | some e => exact ⟨trivial, fun _ _ => trivial⟩
  | none =>
    have whole := allocateClusterRange_whole whole out
    refine ⟨⟨running, whole⟩, fun r _ => ?_⟩
    cases r with
    | error e => trivial
    | ok _ => exact ⟨running, whole⟩

theorem reconcile_conforms (before after : List Bool) :
    (reconcile sorting startingPort before after).Conforms storing (fun _ _ => True) false := by
  have others : ∀ l : List Bool, Keeps storing Intact (runAll (⟨nofun, nofun⟩ : Keeper Op Op.Reply Cluster Empty) (l.map anyStep)) := by
    intro l
    refine runAll_keeps fun s hs => ?_
    obtain ⟨_, -, rfl⟩ := List.mem_map.mp hs
    exact Step.exec_keeps otherStep_keeps nofun
  have weaken : ∀ {x : M Unit}, Keeps storing Intact x → Leads storing Intact x (fun _ => Intact) fun _ _ => True := fun h =>
    h.mono (fun _ _ _ h => h) fun _ _ _ => trivial
  have all : Leads storing Intact (runAll ⟨nofun, nofun⟩ (steps sorting startingPort before after)) (fun _ => Intact) fun _ _ => True := by
    rw [steps, runAll_append]
    refine (weaken (others before)).bind fun _ => .bind ?_ fun _ => weaken (others after)
    exact Step.exec_leads rfl (fun _ _ h _ => h) allocateClusterRanges_leads (fun _ _ _ h => h) nofun
  refine ⟨trivial, fun r whole => ?_⟩
  rcases r with e | ⟨spec, status⟩
  · trivial
  · exact .bind (all _ _ ⟨rfl, whole⟩) fun _ _ _ => trivial

end Runs

def namedOutside : Cluster := { spec := { lbPort := 80 } }

def storesAll (w : Stored) : (op : Op) → op.Reply
  | .load => .ok (w.cluster.spec, w.cluster.status)
  | .getFeatureFlags => .ok none
  | .listClusters => .ok ∅
  | .listNodes => .ok []
  | .report _ => ()
  | .other => ⟨none, true, none⟩
  | .updateStatus _ => .ok ()

end WekaOperator.Ports
