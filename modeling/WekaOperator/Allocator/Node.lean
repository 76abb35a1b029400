import WekaOperator.Allocator.Claims
import WekaOperator.Operations.Common

/-! The containers of one node, each allocating its drives in its own reconciles: the first allocation under the lease
    of the node (`funcs_allocate_resources.go`, `leader_election.go`), a later reallocation without it
    (`AllocateDrivesIfNeeded`). -/

namespace WekaOperator.Allocator
open Lib Planner Containers Operations

/-! ### Calls -/

/-- The calls of an allocation. -/
inductive Op
  | get
  | acquire
  | release
  | surroundings
  | list
  | ports
  | update (leased : Bool) (version : Nat) (allocations : Option Allocations)
  deriving DecidableEq, Repr

/-- Their replies. -/
def Op.Reply : Op → Type
  | .get => Except ApiError (WekaContainer × Nat)
  | .acquire => Except ApiError Unit
  | .release => Except ApiError Unit
  | .surroundings => Except ApiError AllocationEnv
  | .list => Except ApiError (List WekaContainer)
  | .ports => Except ApiError Unit
  | .update .. => Except ApiError Nat

/-- Programs of an allocation. -/
abbrev P := Prog Op Op.Reply

/-- One call. -/
def call (op : Op) : P op.Reply := .call op .ret

/-- A container as loaded, with its resource version. -/
structure Loaded where
  container : WekaContainer
  version : Nat
  deriving DecidableEq, Repr

/-! ### The first allocation -/

/-- Why a drive-sharing spec is refused, or nothing. -/
def validateDriveSharingConfig (s : Spec) : Option String :=
  let drives := s.numDrives
  let cores := s.numCores
  if drives > 0 ∧ s.containerCapacity > 0 then
    some "numDrives and containerCapacity are mutually exclusive; use numDrives with driveCapacity for TLC-only mode, or containerCapacity with driveTypesRatio for mixed drive types"
  else if s.driveCapacity > 0 ∧ drives > 0 ∧ drives < cores then
    some s!"numDrives ({drives}) must be >= numCores ({cores}) when using driveCapacity (TLC-only mode); each core requires at least one virtual drive"
  else none

/-- The text as passed on. -/
def AllocationError.passedOn : AllocationError → String
  | .other text => s!"failed to allocate resources: {text}"
  | e => e.text

section Passes
variable (node : AllocatorNodeInfo)

/-- The first allocation, with the lease held. -/
def doAllocateResourcesWithLease (m : Loaded) : P (Except String Loaded) := do
  match validateDriveSharingConfig m.container.spec with
  | some text => return .error text
  | none =>
    match ← call .surroundings with
    | .error e => return .error e.text
    | .ok env =>
      match ← call .list with
      | .error e =>
        let name := node.nodeName
        return .error s!"failed to allocate resources: failed to list containers on node {name}: {e}"
      | .ok containers =>
        match allocateResources env node m.container containers with
        | .error e => return .error e.passedOn
        | .ok new =>
          match ← call .ports with
          | .error e => return .error e.text
          | .ok () =>
            match ← call (.update true m.version (some new)) with
            | .error e => return .error s!"failed to update container status with allocations: {e}"
            | .ok version => return .ok ⟨{ m.container with allocations := some new }, version⟩

/-- Takes the lease, allocates and gives it back. -/
def runWithLease (m : Loaded) : P (Except String Loaded) := do
  if m.container.nodeAffinity = "" then return .error "container has no node affinity"
  match ← call .acquire with
  | .error e => return .error s!"allocation timed out waiting for lease: {e}"
  | .ok () =>
    let out ← doAllocateResourcesWithLease node m
    let _ ← call .release
    return out

/-- Stores the condition of the step. -/
def setCondition (m : Loaded) : P (Except String Loaded) := do
  match ← call (.update false m.version m.container.allocations) with
  | .error e => return .error e.text
  | .ok version => return .ok { m with version }

/-- The step of the first allocation. -/
def allocateResourcesStep (m : Loaded) : P (Except String Loaded) := do
  if m.container.spec.mode.isAllocatable = true ∧ m.container.allocations = none then
    match ← runWithLease node m with
    | .error e => return .error e
    | .ok m => setCondition m
  else return .ok m

/-! ### Reallocations -/

/-- The container asks for more than it has. -/
def needsDrivesToAllocate (scaling : Bool) (c : WekaContainer) : Bool :=
  match c.allocations with
  | none => false
  | some held =>
    if c.usesDriveSharing && !scaling then false
    else if c.hasContainerCapacity then held.allocatedVirtualDrivesCapacity < c.spec.containerCapacity
    else if c.usesDriveSharing then (held.virtualDrives.length : Int) < c.spec.numDrives
    else (held.drives.length : Int) < c.spec.numDrives

/-- The growth, which takes no lease. -/
def allocateDrivesIfNeeded (m : Loaded) : P (Loaded × Except String Unit) := do
  if m.container.nodeAffinity = "" then
    return (m, .error "failed to form drive reallocation request: container has no node affinity")
  match formReallocationRequest m.container with
  | none => return (m, .ok ())
  | some req =>
    match ← call .surroundings with
    | .error e => return (m, .error e.text)
    | .ok env =>
      match ← call .list with
      | .error e => return (m, .error s!"failed to list containers on node: {e}")
      | .ok containers =>
        match reallocateDrives env node m.container req containers with
        | .error e => return (m, .error e.text)
        | .ok new =>
          let grown := { m.container with allocations := some new }
          match ← call (.update false m.version (some new)) with
          | .error e => return (⟨grown, m.version⟩, .error s!"cannot update container status with new drive allocations: {e}")
          | .ok version => return (⟨grown, version⟩, .ok ())

/-- Later status writes of the reconcile, which store the allocations in memory. -/
def laterWrites : Nat → Loaded → P Unit
  | 0, _ => return ()
  | writes + 1, m => do
    match ← call (.update false m.version m.container.allocations) with
    | .error _ => laterWrites writes m
    | .ok version => laterWrites writes { m with version }

/-- The allocation steps of a reconcile. -/
def reconcile (scaling : Bool) (writes : Nat) : P Unit := do
  match ← call .get with
  | .error _ => return ()
  | .ok (container, version) =>
    match ← allocateResourcesStep node ⟨container, version⟩ with
    | .error _ => return ()
    | .ok m =>
      if m.container.spec.mode = .drive ∧ needsDrivesToAllocate scaling m.container = true then
        let (m, _) ← allocateDrivesIfNeeded node m
        laterWrites writes m
      else laterWrites writes m

end Passes

/-! ### The world -/

/-- The containers of a node, the lease, and the writes each missed since its last list. -/
structure World (n : Nat) where
  records : Fin n → Loaded
  lease : Option (Fin n) := none
  missed : Fin n → List Bool := fun _ => []

namespace World
variable {n : Nat} (w : World n)

/-- The stored allocations of a container. -/
def allocations (i : Fin n) : Option Allocations := (w.records i).container.allocations

/-- The same, empty where there are none. -/
def held (i : Fin n) : Allocations := (w.allocations i).getD {}

/-- Its resource version. -/
def version (i : Fin n) : Nat := (w.records i).version

/-- All containers, as listed. -/
def list : List WekaContainer := (List.finRange n).map fun i => (w.records i).container

/-- A status write; the others have missed it if it changes the allocations. -/
def write (i : Fin n) (leased : Bool) (a : Option Allocations) : World n where
  records := Function.update w.records i ⟨{ (w.records i).container with allocations := a }, w.version i + 1⟩
  lease := w.lease
  missed j := if j = i ∨ a = w.allocations i then w.missed j else leased :: w.missed j

/-- A write made under the lease while the container still holds it. -/
def covered (i : Fin n) (leased : Bool) : Bool := leased && w.lease = some i

/-- A change of the spec. -/
def setSpec (i : Fin n) (spec : Spec) : World n :=
  { w with records := Function.update w.records i ⟨{ (w.records i).container with spec }, w.version i + 1⟩ }

end World

/-- What a call does; the API server accepts a write of the latest version only. -/
def perform {n : Nat} (i : Fin n) (w : World n) : (op : Op) → op.Reply → Bool → Option (World n)
  | .get, .ok (container, version), _ =>
    if version < w.version i ∨ w.records i = ⟨container, version⟩ then some w else none
  | .get, .error _, _ => some w
  | .acquire, r, applied =>
    if took r applied then (if w.lease = none ∨ w.lease = some i then some { w with lease := some i } else none) else some w
  | .release, r, applied => some (if took r applied ∧ w.lease = some i then { w with lease := none } else w)
  | .surroundings, _, _ => some w
  | .list, .ok containers, _ => if containers = w.list then some { w with missed := Function.update w.missed i [] } else none
  | .list, .error _, _ => some w
  | .ports, _, _ => some w
  | .update leased version a, .ok version', _ =>
    if version = w.version i ∧ version' = version + 1 then some (w.write i (w.covered i leased) a) else none
  | .update leased version a, .error _, applied =>
    if applied then (if version = w.version i then some (w.write i (w.covered i leased) a) else none) else some w

/-- A spec changes, or the lease runs out. -/
inductive EnvEvent (n : Nat)
  | setSpec (i : Fin n) (spec : Spec)
  | expire
  deriving DecidableEq, Repr

/-- The reconciles of the node's containers. -/
def system (n : Nat) (node : AllocatorNodeInfo) (scaling : Bool) (writes : Nat) :
    System (World n) (Fin n) Op (EnvEvent n) Op.Reply where
  body _ := reconcile node scaling writes
  start _ w := w
  perform := perform
  env w
    | .setSpec i spec => some (w.setSpec i spec)
    | .expire => some { w with lease := none }

/-- No container has allocations. -/
def World.initial {n : Nat} (containers : Fin n → WekaContainer) : World n where
  records i := ⟨{ containers i with allocations := none }, 0⟩

/-- No drive is in two containers, and no shared drive is claimed beyond its capacity. -/
structure World.Exclusive {n : Nat} (node : AllocatorNodeInfo) (w : World n) : Prop where
  drives : ∀ i j, i ≠ j → ∀ serial ∈ (w.held i).drives, serial ∉ (w.held j).drives
  shared : ∀ d ∈ node.sharedDrives, ∑ i, claimedOn d.physicalUUID (w.held i).virtualDrives ≤ d.capacityGiB

/-- The write took effect. -/
def wrote (r : Except ApiError Nat) (applied : Bool) : Bool := r.isOk || applied

/-- New allocations are written only while the list they were made from is the latest, apart from writes that the
    lease excludes. -/
def listedLatest {n : Nat} (w : World n) : Event (Fin n) Op (EnvEvent n) Op.Reply → Bool
  | .reply i (.update leased _ a) r applied =>
    !wrote r applied || a = w.allocations i || (if w.covered i leased then false ∉ w.missed i else w.missed i = [])
  | _ => true

end WekaOperator.Allocator
