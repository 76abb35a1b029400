import WekaOperator.Lib.Collections
import WekaOperator.Planner.Types

/-! The results of the ensure-NICs operation. -/

namespace WekaOperator.Operations.EnsureNics
open List Lib Planner

/-- A network interface. -/
structure NIC where
  macAddress : String
  primaryIP : String
  subnetCIDRBlock : String

/-- A text that does not parse, or the fields of an object, with the JSON kind of an err that is not null. -/
inductive ExecutionResult where
  | unparsable (err : String)
  | object (err : Option String) (nics : List NIC) (ensured : Bool)

/-- The result is a failure. -/
def ExecutionResult.failed : ExecutionResult → Bool
  | .object none _ _ => false
  | _ => true

/-- What is reported of a node. -/
structure NodeResult where
  err : Option String := none
  nics : List NIC := []
  ensured : Bool := false

/-- No value other than null decodes into an error interface. -/
def unmarshal : ExecutionResult → Except String NodeResult
  | .unparsable err => .error err
  | .object (some kind) _ _ =>
    .error s!"json: cannot unmarshal {kind} into Go struct field ensureNICsResult.err of type error"
  | .object none nics ensured => .ok { nics, ensured }

/-- A container that ran on a node. -/
structure Container where
  nodeAffinity : String
  executionResult : Option ExecutionResult

/-- Its result is a failure. -/
def Container.failed (c : Container) : Bool := c.executionResult.any (·.failed)

/-- A node with its annotation. -/
structure Node where
  annotation : String := ""
  capacity : Option Int := none
  allocatable : Option Int := none

/-- The API calls that fail while a container is processed. -/
structure Faults where
  getNode : Option String := none
  patch : Option String := none
  updateStatus : Option String := none

/-- What the operation reports. -/
structure EnsureNICsResult where
  err : Option String
  results : NameMap NodeResult

/-- The results and the nodes so far. -/
structure Loop where
  results : NameMap NodeResult := ∅
  errorCount : Nat := 0
  allReady : Bool := true
  nodes : NameMap Node

section
variable (marshal : List NIC → String) (faults : Container → Faults)

/-- Writes the annotation of a node. -/
def patchNodeNICs (c : Container) (nics : List NIC) (nodes : NameMap Node) : Except String (NameMap Node) :=
  match (faults c).getNode, nodes.lookup c.nodeAffinity with
  | some e, _ => .error e
  | none, none => .error "node not found"
  | none, some node =>
    let desiredQty : Int := nics.length
    match if node.annotation = marshal nics then none else (faults c).patch,
      if node.capacity = some desiredQty ∧ node.allocatable = some desiredQty then none else (faults c).updateStatus with
    | some e, _ => .error e
    | none, some e => .error s!"error updating node status: {e}"
    | none, none => .ok (nodes.insert c.nodeAffinity ⟨marshal nics, some desiredQty, some desiredQty⟩)

/-- Handles the result of a container. -/
def processContainer (l : Loop) (c : Container) : Except String Loop :=
  match c.executionResult with
  | none => .ok { l with allReady := false }
  | some raw =>
    match unmarshal raw with
    | .error e =>
      .ok { l with results := l.results.insert c.nodeAffinity { err := some s!"failed to unmarshal execution result: {e}" } }
    | .ok opResult =>
      let l := { l with results := l.results.insert c.nodeAffinity opResult }
      if opResult.err.isSome then .ok { l with errorCount := l.errorCount + 1 }
      else (patchNodeNICs marshal faults c opResult.nics l.nodes).map fun nodes => { l with nodes }

/-- Handles all results. -/
def processResult (npnPendingNodes : List String) (containers : List Container) (nodes : NameMap Node) :
    Except String (EnsureNICsResult × NameMap Node) := do
  let l ← containers.foldlM (processContainer marshal faults) { nodes }
  if !l.allReady then throw "not all container execution results are ready"
  if npnPendingNodes ≠ [] then
    throw ("waiting for NativePodNetwork to reach SUCCESS on nodes [" ++ " ".intercalate npnPendingNodes ++ "]")
  return (⟨if 0 < l.errorCount then some s!"operation failed on {l.errorCount} nodes" else none, l.results⟩, l.nodes)

end

/-! ### What is reported -/

/-- A node's result is that of the last container on it. -/
def lastOn (containers : List Container) (n : String) : Option Container := containers.reverse.find? (·.nodeAffinity = n)

/-- The annotations are those of the results. -/
def Patched (marshal : List NIC → String) (containers : List Container) (nodes : NameMap Node) : Prop :=
  ∀ n c nics ensured, lastOn containers n = some c → c.executionResult = some (.object none nics ensured) →
    nodes.lookup n = some ⟨marshal nics, some nics.length, some nics.length⟩

variable {marshal : List NIC → String} {faults : Container → Faults} {l l' : Loop} {c : Container}
  {done containers : List Container} {nodes nodes' : NameMap Node}

theorem patchNodeNICs_ok {nics : List NIC} (h : patchNodeNICs marshal faults c nics nodes = .ok nodes') :
    nodes' = nodes.insert c.nodeAffinity ⟨marshal nics, some nics.length, some nics.length⟩ := by
  unfold patchNodeNICs at h
  split at h
  · cases h
  · cases h
  · dsimp only at h
    split at h <;> cases h
    rfl

theorem lastOn_snoc (n : String) :
    lastOn (done ++ [c]) n = if c.nodeAffinity = n then some c else lastOn done n := by
  simp only [lastOn, reverse_append, reverse_singleton, singleton_append, find?_cons]
  split <;> simp_all

/-- No failure gets past the decoding, so none is counted. -/
theorem processContainer_keeps (step : processContainer marshal faults l c = .ok l') (uncounted : l.errorCount = 0)
    (patched : Patched marshal done l.nodes) : l'.errorCount = 0 ∧ Patched marshal (done ++ [c]) l'.nodes := by
  have others : c.failed = true ∨ c.executionResult = none → Patched marshal (done ++ [c]) l.nodes := by
    intro bad n c' nics ensured last hc'
    rw [lastOn_snoc] at last
    split at last
    · cases last
      simp [Container.failed, hc', ExecutionResult.failed] at bad
    · exact patched n c' nics ensured last hc'
  unfold processContainer at step
  split at step
  · rename_i unready
    cases step
    exact ⟨uncounted, others (.inr unready)⟩
  rename_i raw hraw
  match raw with
  | .unparsable err =>
    cases step
    exact ⟨uncounted, others (.inl (by rw [Container.failed, hraw]; rfl))⟩
  | .object (some kind) nics ensured =>
    cases step
    exact ⟨uncounted, others (.inl (by rw [Container.failed, hraw]; rfl))⟩
  | .object none nics ensured =>
    obtain ⟨new, hnew, rfl⟩ : ∃ new, patchNodeNICs marshal faults c nics l.nodes = .ok new ∧ _ = l' := by
      cases hp : patchNodeNICs marshal faults c nics l.nodes with
      | error e => simp [unmarshal, hp, Except.map] at step
      | ok new => exact ⟨new, rfl, by simpa [unmarshal, hp, Except.map] using step⟩
    refine ⟨uncounted, fun n c' nics' ensured' last hc' => ?_⟩
    rw [lastOn_snoc] at last
    dsimp only
    rw [patchNodeNICs_ok hnew, lookup_insert_eq]
    split at last
    · cases last
      rw [hraw] at hc'
      cases hc'
      rw [if_pos (Eq.symm ‹_›)]
    · rw [if_neg (Ne.symm ‹_›)]
      exact patched n c' nics' ensured' last hc'

theorem foldlM_keeps (h : containers.foldlM (processContainer marshal faults) { nodes } = .ok l) :
    l.errorCount = 0 ∧ Patched marshal containers l.nodes := by
  induction containers using List.reverseRecOn generalizing l with
  | nil =>
    cases h
    exact ⟨rfl, fun n c nics ensured last => by cases last⟩
  | append_singleton done c ih =>
    rw [foldlM_append] at h
    obtain ⟨m, hm, step⟩ := bind_eq_ok h
    rw [foldlM_cons] at step
    obtain ⟨m', one, hl⟩ := bind_eq_ok step
    obtain rfl : m' = l := Except.ok.inj hl
    exact processContainer_keeps one (ih hm).1 (ih hm).2

theorem failures_reported_iff {npnPendingNodes : List String} {out : EnsureNICsResult}
    (h : processResult marshal faults npnPendingNodes containers nodes = .ok (out, nodes')) :
    ((out.err.isSome ↔ ∃ n c, lastOn containers n = some c ∧ c.failed) ∧ Patched marshal containers nodes') ↔
      ∀ n c, lastOn containers n = some c → c.failed = false := by
  obtain ⟨l, hl, h⟩ := bind_eq_ok h
  obtain ⟨uncounted, patched⟩ := foldlM_keeps hl
  have result : out.err = none ∧ nodes' = l.nodes := by
    dsimp only [bind, Except.bind, pure, Except.pure, throw, throwThe, MonadExceptOf.throw] at h
    repeat' split at h
    all_goals cases h
    all_goals simp_all
  rw [result.1, result.2]
  simp [patched]

def onNode : List Container := [⟨"n1", some (.object none [] true)⟩]

theorem failures_reported_single : ∃ out nodes',
    processResult (fun _ => "[]") (fun _ => {}) [] onNode (AList.insert "n1" {} ∅) = .ok (out, nodes') ∧
      (out.err.isSome ↔ ∃ n c, lastOn onNode n = some c ∧ c.failed) ∧ Patched (fun _ => "[]") onNode nodes' := by
  have run : processResult (fun _ => "[]") (fun _ => {}) [] onNode (AList.insert "n1" {} ∅) = .ok (_, _) := rfl
  refine ⟨_, _, run, (failures_reported_iff run).mpr fun n c last => ?_⟩
  rw [mem_singleton.mp (mem_reverse.mp (mem_of_find?_eq_some last))]
  rfl

theorem failure_unreported : ∃ out nodes', processResult (fun _ => "[]") (fun _ => {}) []
      [⟨"n1", some (.object none [] true)⟩, ⟨"n2", some (.object (some "string") [] false)⟩] (AList.insert "n1" {} ∅) =
        .ok (out, nodes') ∧ out.err = none :=
  ⟨_, _, rfl, rfl⟩

end WekaOperator.Operations.EnsureNics
