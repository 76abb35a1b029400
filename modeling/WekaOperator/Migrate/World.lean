import WekaOperator.Migrate.Campaign

/-! The world of a migration campaign: the persisted record, the child sign-drives operations, and a log of what the
    campaign did. -/

namespace WekaOperator.Migrate
open Lib Operations

/-- A sign-drives operation and the container it is for. -/
structure Child where
  namespaceName : String
  name : String
  container : String
  phase : String
  deriving DecidableEq, Repr

/-- What the campaign was told when it started a container. -/
structure Start where
  container : String
  capacityBytes : Int
  gate : Option Bool
  headroom : Option Int
  deriving DecidableEq, Repr

/-- The record and the starts at the moment a container is deleted. -/
structure Deletion where
  container : String
  result : Option Result
  starts : List Start
  deriving DecidableEq, Repr

/-- `gateSeen` and `headroomSeen` are what the running reconcile was last told. `finished` lists the containers
    a child of which has been Done, `created` the children created and whether the container was in it. -/
structure World where
  status : OwnerStatus := .unset
  result : Option Result := none
  children : List Child := []
  gateSeen : Option Bool := none
  headroomSeen : Option Int := none
  starts : List Start := []
  deletions : List Deletion := []
  finished : List String := []
  created : List (String × Bool) := []
  deriving DecidableEq, Repr

/-- The persisted entries. -/
def World.entries (w : World) : List ContainerState := (w.result.getD {}).containers

/-- Those in flight. -/
def World.inFlight (w : World) : List ContainerState := w.entries.filter (·.phase = .inFlight)

/-- Entries that a write puts into flight. -/
def World.newlyInFlight (w : World) (r : Result) : List ContainerState :=
  r.containers.filter fun s => s.phase = .inFlight ∧ s.container ∉ w.inFlight.map (·.container)

/-- A start, with what the reconcile was told. -/
def World.startOf (w : World) (s : ContainerState) : Start :=
  ⟨s.container, s.capacityBytes, w.gateSeen, w.headroomSeen⟩

/-- Stores a record and logs the starts. -/
def World.write (w : World) (status : OwnerStatus) (r : Result) : World :=
  { w with status := status, result := some r, starts := w.starts ++ (w.newlyInFlight r).map w.startOf }

/-- Logs the deletion of a container. -/
def World.deleteContainer (w : World) (container : String) : World :=
  { w with deletions := w.deletions ++ [⟨container, w.result, w.starts⟩] }

/-- The operation of that name. -/
def World.child? (w : World) (ns name : String) : Option Child :=
  w.children.find? fun k => k.namespaceName = ns ∧ k.name = name

/-- Creates an operation and logs whether one of its container has finished. -/
def World.createChild (w : World) (container : String) (child : ChildSignOp) : World :=
  { w with
    children := w.children ++ [⟨child.namespaceName, child.name, container, ""⟩]
    created := w.created ++ [(container, decide (container ∈ w.finished))] }

/-- Deletes an operation. -/
def World.deleteChild (w : World) (ns name : String) : World :=
  { w with children := w.children.filter fun k => ¬(k.namespaceName = ns ∧ k.name = name) }

/-- An operation that is not Done reports a phase. -/
def World.reportChild (w : World) (ns name phase : String) : World :=
  { w with
    children := w.children.map fun k =>
      if k.namespaceName = ns ∧ k.name = name ∧ k.phase ≠ "Done" then { k with phase := phase } else k
    finished := w.finished ++ if phase = "Done" then
      (w.children.filter fun k => k.namespaceName = ns ∧ k.name = name).map (·.container) else [] }

/-- The reconcile learns the gate's verdict. -/
def World.sawGate (w : World) (allowed : Bool) : World := { w with gateSeen := some allowed }

/-- The reconcile learns the headroom. -/
def World.sawHeadroom (w : World) (headroom : Int) : World := { w with headroomSeen := some headroom }

/-- A new reconcile has been told nothing. -/
def World.forget (w : World) : World := { w with gateSeen := none, headroomSeen := none }

/-! ### The system -/

/-- Names are distinct and the operator's namespace is fixed; other reads return anything. -/
def Read.admits (c : Campaign) : (q : Read) → q.Reply → Bool
  | .driveContainers, .ok containers => (containers.map (·.name)).Nodup
  | .podNamespace, .ok ns => ns = c.operatorNamespace
  | _, _ => true

/-- What a call with this reply does to the world. -/
def perform (c : Campaign) (w : World) : (op : Op) → op.Reply → Bool → Option World
  | .read q, r, _ => if q.admits c r then some w else none
  | .load, .ok owner, _ => if owner.status = w.status ∧ owner.result = w.result then some w else none
  | .load, .error _, _ => some w
  | .gate, verdict, _ => some (w.sawGate verdict.allowed)
  | .wekaStatus, .ok status, _ => some (w.sawHeadroom (rawBytesFromUsable status.unprovisionedBytes status))
  | .wekaStatus, .error _, _ => some w
  | .getChild ns name, .ok child, _ => if (w.child? ns name).any (·.phase = child.phase) then some w else none
  | .getChild ns name, .error .notFound, _ => if (w.child? ns name).isNone then some w else none
  | .getChild _ _, .error (.other _), _ => some w
  | .suppressForceResign _, _, _ => some w
  | .deleteContainer container, r, applied => some (if took r applied then w.deleteContainer container else w)
  | .removeFullDrives _ _, _, _ => some w
  -- An object of that name exists once: creating it again fails without effect.
  | .createChild container child, r, applied =>
    if took r applied then
      if (w.child? child.namespaceName child.name).isNone then some (w.createChild container child) else none
    else some w
  | .deleteChild ns name, r, applied => some (if took r applied then w.deleteChild ns name else w)
  | .deleteProxyPod _, _, _ => some w
  | .removeMigrationAnnotationKey, _, _ => some w
  | .persist res, r, applied => some (if took r applied then w.write w.status.progressed res else w)
  | .fail res, r, applied => some (if took r applied then w.write .failed res else w)
  | .succeed res, r, applied => some (if took r applied then w.write .done res else w)

/-- What others do. -/
inductive EnvEvent
  | childReports (ns name phase : String)
  | childDeleted (ns name : String)
  deriving DecidableEq, Repr

/-- The effect of what others do. -/
def World.env (w : World) : EnvEvent → Option World
  | .childReports ns name phase =>
    if (w.child? ns name).any (·.phase ≠ "Done") then some (w.reportChild ns name phase) else none
  | .childDeleted ns name => some (w.deleteChild ns name)

/-- The campaign's reconciles over this world. -/
def system (c : Campaign) : System World Unit Op EnvEvent Op.Reply where
  body _ := do
    let _ ← reconcile c
    return ()
  start _ := World.forget
  perform _ w := perform c w
  env := World.env

/-- Nothing is stored. -/
def World.initial : World := {}

end WekaOperator.Migrate
