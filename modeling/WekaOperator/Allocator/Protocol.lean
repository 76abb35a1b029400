import WekaOperator.Allocator.Node
import WekaOperator.Lib.Protocol

/-! The stages of a container's reconcile: what it read of its own status, whether it acquired the lease, and what it
    listed. -/

namespace WekaOperator.Allocator
open Lib Planner Containers Operations

/-- What a reconcile was told: its own allocations and version, and the list. -/
structure Stage where
  base : Option Allocations := none
  version : Option Nat := none
  leased : Bool := false
  listed : Option (List WekaContainer) := none

namespace Stage

/-- The stage after a call. -/
def next (st : Stage) : (op : Op) → op.Reply → Stage
  | .get, .ok (container, version) => { base := container.allocations, version := some version }
  | .get, .error _ => {}
  | .acquire, .ok () => { st with leased := true, listed := none }
  | .acquire, .error _ => { st with leased := false, listed := none }
  | .release, _ => { st with leased := false }
  | .list, .ok containers => { st with listed := some containers }
  | .update _ _ a, .ok version => { st with base := a, version := some version, listed := none }
  | _, _ => st

/-- The allocations are the own ones, or add to them by the list. -/
def Offers (node : AllocatorNodeInfo) (st : Stage) (a : Option Allocations) : Prop :=
  a = st.base ∨ ∃ containers new, st.listed = some containers ∧ a = some new ∧ Adds node containers (st.base.getD {}) new

/-- Writes are of the version read, and offer allocations. -/
def allowed (node : AllocatorNodeInfo) (st : Stage) : Op → Prop
  | .update leased version a => st.version = some version ∧ (leased = true → st.leased = true) ∧ st.Offers node a
  | _ => True

/-- The object in memory is as last stored. -/
structure Synced (st : Stage) (m : Loaded) : Prop where
  version : st.version = some m.version
  base : st.base = m.container.allocations

/-- Its allocations may be stored. -/
structure Pending (node : AllocatorNodeInfo) (st : Stage) (m : Loaded) : Prop where
  version : st.version = some m.version
  offers : st.Offers node m.container.allocations

theorem Synced.pending {node : AllocatorNodeInfo} {st : Stage} {m : Loaded} (h : st.Synced m) : st.Pending node m :=
  ⟨h.version, .inl h.base.symm⟩

end Stage

/-- The protocol of these stages. -/
def protocol (node : AllocatorNodeInfo) : Protocol Op Op.Reply Stage where
  fresh := {}
  next := Stage.next
  allowed := Stage.allowed node
  admits _ _ := True

/-! ### The walk -/

section Walk
variable {node : AllocatorNodeInfo} {st : Stage} {m : Loaded}

/-- A part that ends with the object as stored, if it succeeds. -/
def Returns (node : AllocatorNodeInfo) (p : P (Except String Loaded)) (st : Stage) : Prop :=
  p.Conforms (protocol node) (fun out st' => ∀ m', out = .ok m' → st'.Synced m') st

theorem Returns.error {e : String} : Returns node (return .error e) st := by
  intro m' h
  cases h

theorem Returns.ok (h : st.Synced m) : Returns node (return .ok m) st := by
  rintro m' ⟨⟩
  exact h

theorem call_next {α : Type} {Q : α → Stage → Prop} {op : Op} {k : op.Reply → P α} (allowed : st.allowed node op)
    (h : ∀ r, (k r).Conforms (protocol node) Q (st.next op r)) : (call op >>= k).Conforms (protocol node) Q st :=
  ⟨allowed, fun r _ => h r⟩

theorem setCondition_returns (h : st.Synced m) : Returns node (setCondition m) st := by
  refine call_next ⟨h.version, nofun, .inl h.base.symm⟩ fun r => ?_
  cases r with
  | error e => exact Returns.error
  | ok version => exact Returns.ok ⟨rfl, rfl⟩

theorem laterWrites_conforms (writes : Nat) (h : st.Pending node m) :
    (laterWrites writes m).Conforms (protocol node) (fun _ _ => True) st := by
  induction writes generalizing st m with
  | zero => trivial
  | succ writes ih =>
    refine call_next ⟨h.version, nofun, h.offers⟩ fun r => ?_
    cases r with
    | error e => exact ih h
    | ok version => exact ih ⟨rfl, .inl rfl⟩

variable (uuids : (node.sharedDrives.map (·.physicalUUID)).Nodup)
include uuids

theorem doAllocateResourcesWithLease_returns (h : st.Synced m) (none : m.container.allocations = none)
    (leased : st.leased = true) : Returns node (doAllocateResourcesWithLease node m) st := by
  unfold doAllocateResourcesWithLease
  split
  · exact .error
  refine call_next trivial fun r => ?_
  cases r with
  | error e => exact Returns.error
  | ok env =>
    refine call_next trivial fun r => ?_
    cases r with
    | error e => exact Returns.error
    | ok containers =>
      dsimp only
      split
      · exact Returns.error
      rename_i new hnew
      have hadds : Adds node containers (st.base.getD {}) new := by
        rw [h.base, none]
        exact allocateResources_adds uuids hnew
      refine call_next trivial fun r => ?_
      cases r with
      | error e => exact Returns.error
      | ok _ =>
        refine call_next ⟨h.version, fun _ => leased, .inr ⟨containers, new, rfl, rfl, hadds⟩⟩ fun r => ?_
        cases r with
        | error e => exact Returns.error
        | ok version => exact Returns.ok ⟨rfl, rfl⟩

theorem runWithLease_returns (h : st.Synced m) (none : m.container.allocations = none) : Returns node (runWithLease node m) st := by
  unfold runWithLease
  split
  · exact .error
  refine call_next trivial fun r => ?_
  cases r with
  | error e => exact Returns.error
  | ok _ =>
    have held : (st.next .acquire (.ok ())).Synced m := ⟨h.version, h.base⟩
    refine .bind (doAllocateResourcesWithLease_returns uuids held none rfl) fun out st₁ hout => ?_
    refine call_next trivial fun r => ?_
    exact fun m' hm' => ⟨(hout m' hm').version, (hout m' hm').base⟩

theorem allocateResourcesStep_returns (h : st.Synced m) : Returns node (allocateResourcesStep node m) st := by
  unfold allocateResourcesStep
  split
  · rename_i hneeds
    refine .bind (runWithLease_returns uuids h hneeds.2) fun out st' hout => ?_
    cases out with
    | error e => exact Returns.error
    | ok m' => exact setCondition_returns (hout m' rfl)
  · exact .ok h

theorem allocateDrivesIfNeeded_conforms (h : st.Synced m) :
    (allocateDrivesIfNeeded node m).Conforms (protocol node) (fun out st' => st'.Pending node out.1) st := by
  unfold allocateDrivesIfNeeded
  split
  · exact h.pending
  split
  · exact h.pending
  rename_i req hreq
  refine call_next trivial fun r => ?_
  cases r with
  | error e => exact h.pending
  | ok env =>
    refine call_next trivial fun r => ?_
    cases r with
    | error e => exact h.pending
    | ok containers =>
      dsimp only
      split
      · exact ⟨h.version, .inl h.base.symm⟩
      rename_i new hnew
      have hadds : Adds node containers (st.base.getD {}) new := by
        rw [h.base]
        exact reallocateDrives_adds uuids hreq hnew
      refine call_next ⟨h.version, nofun, .inr ⟨containers, new, rfl, rfl, hadds⟩⟩ fun r => ?_
      cases r with
      | error e => exact ⟨h.version, .inr ⟨containers, new, rfl, rfl, hadds⟩⟩
      | ok version => exact ⟨rfl, .inl rfl⟩

theorem reconcile_conforms (scaling : Bool) (writes : Nat) :
    (reconcile node scaling writes).Conforms (protocol node) (fun _ _ => True) (protocol node).fresh := by
  refine call_next trivial fun r => ?_
  cases r with
  | error e => trivial
  | ok read =>
    obtain ⟨container, version⟩ := read
    have loaded : (Stage.next {} .get (.ok (container, version))).Synced ⟨container, version⟩ := ⟨rfl, rfl⟩
    refine .bind (allocateResourcesStep_returns uuids loaded) fun out st hout => ?_
    cases out with
    | error e => trivial
    | ok m =>
      dsimp only
      split
      · refine .bind (allocateDrivesIfNeeded_conforms uuids (hout m rfl)) fun out st' hout' => ?_
        exact laterWrites_conforms writes hout'
      · exact laterWrites_conforms writes (hout m rfl).pending

end Walk
end WekaOperator.Allocator
