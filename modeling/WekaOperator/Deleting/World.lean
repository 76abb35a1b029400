import WekaOperator.Deleting.Flow

/-! A container that is deleted, and its weka process, which may join the cluster while its pod runs. -/

namespace WekaOperator.Deleting
open Lib Operations

/-- A teardown that was entered, and how the container stood in the cluster then. -/
structure Entry where
  function : Teardown
  member : Bool
  deactivated : Bool
  deriving DecidableEq, Repr

/-- The container's object and pod, and how it stands in the cluster. -/
structure World where
  status : Status
  marked : Bool
  pod : Option Pod
  member : Bool
  loadedID : Option Int := none
  deactivated : Bool := false
  entries : List Entry := []
  deriving DecidableEq, Repr

/-- A world at the start. -/
def World.initial (status : Status) (marked : Bool) (pod : Option Pod) (member : Bool) : World :=
  { status, marked, pod, member }

/-- Logs a teardown. -/
def World.enter (w : World) (f : Teardown) : World :=
  { w with entries := w.entries ++ [⟨f, w.member, w.deactivated⟩] }

/-- The local weka says that the container has joined. -/
def Identity.inCluster (i : Identity) : Bool := i.value.any fun v => v.1 ≠ "" ∧ v.1 ≠ "00000000-0000-0000-0000-000000000000"

/-- What a call does. -/
def World.perform (w : World) : (op : Op) → op.Reply → Bool → Option World
  | .load, .ok (status, marked), _ =>
    if status = w.status ∧ marked = w.marked then some { w with loadedID := status.clusterContainerID } else none
  | .getPod, .ok pod, _ => if w.pod = some pod then some w else none
  | .getPod, .error .notFound, _ => if w.pod = none then some w else none
  | .ensurePod, (some pod, _), _ => some { w with pod := some pod }
  | .patchPod, r, applied =>
    some (if took r applied then { w with pod := w.pod.map ({ · with finalizer := false }) } else w)
  | .deletePod, r, applied =>
    some (if took r applied then { w with pod := w.pod.map ({ · with deleting := true }) } else w)
  | .deleteContainer, r, applied => some (if took r applied then { w with marked := true } else w)
  | .updateStatus status, r, applied => some (if took r applied then { w with status := status } else w)
  -- A process that is in no cluster does not name one.
  | .getIdentity, .ok i, _ => if i.inCluster → w.member then some w else none
  | .deactivated, _, _ => some { w with deactivated := true }
  | .entered f, _, _ => some (w.enter f)
  | _, _, _ => some w

/-- What others do. -/
inductive EnvEvent
  | podChanges (pod : Option Pod)
  | joins
  | marked
  | statusSet (status : String)
  deriving DecidableEq, Repr

/-- The effect of what others do. -/
def World.env (w : World) : EnvEvent → Option World
  | .podChanges pod => some { w with pod := pod }
  | .joins => if w.pod.any (·.phase = .running) then some { w with member := true } else none
  | .marked => some { w with marked := true }
  | .statusSet status => some { w with status := { w.status with status := status } }

/-- The runs of the flow. -/
def system (c : Container) : System World Unit Op EnvEvent Op.Reply where
  body _ := reconcile c
  start _ w := w
  perform _ := World.perform
  env := World.env

/-- No teardown is entered for a member whose loaded status has no id. -/
def identified (w : World) : Event Unit Op EnvEvent Op.Reply → Bool
  | .reply _ (.entered _) _ _ => !(w.member && w.loadedID.isNone)
  | _ => true

end WekaOperator.Deleting
