import WekaOperator.Rotate.Campaign

/-! The world of a rotation campaign: the persisted record, the proxies that are patched, exist and have not been
    verified since, and a log of the patches. -/

namespace WekaOperator.Rotate
open Lib Operations

/-- An image that was set, and the proxies still unverified then. -/
structure Patch where
  proxy : String
  pendingOthers : List String
  deriving DecidableEq, Repr

/-- The record, and the proxies that are patched and not verified. -/
structure World where
  status : OwnerStatus := .unset
  result : Option Result := none
  unverified : List String := []
  patches : List Patch := []
  deriving DecidableEq, Repr

/-- The stored entries. -/
def World.entries (w : World) : List NodeState := (w.result.getD {}).nodes

/-- Those in flight. -/
def World.inFlight (w : World) : List NodeState := w.entries.filter (·.phase = .inFlight)

/-- Stores status and record. -/
def World.write (w : World) (status : OwnerStatus) (r : Result) : World := { w with status := status, result := some r }

/-- Sets a proxy's image. -/
def World.patch (w : World) (proxy : String) : World :=
  { w with
    unverified := proxy :: w.unverified.filter (· ≠ proxy)
    patches := w.patches ++ [⟨proxy, w.unverified.filter (· ≠ proxy)⟩] }

/-- A proxy is verified or gone. -/
def World.release (w : World) (proxy : String) : World := { w with unverified := w.unverified.filter (· ≠ proxy) }

/-- What a call does. -/
def perform (w : World) : (op : Op) → op.Reply → Bool → Option World
  | .load, .ok owner, _ => if owner.status = w.status ∧ owner.result = w.result then some w else none
  | .load, .error _, _ => some w
  | .operations, _, _ => some w
  | .targets _, _, _ => some w
  | .podNamespace, _, _ => some w
  | .getProxy _, _, _ => some w
  | .getPod _, _, _ => some w
  | .gate _ _, _, _ => some w
  | .verifyRecovered _ proxy, .ok verdicts, _ => some (if (allAllowed verdicts).2 = "" then w.release proxy else w)
  | .verifyRecovered _ _, .error _, _ => some w
  | .now, _, _ => some w
  | .patchImage proxy _, r, applied => some (if took r applied then w.patch proxy else w)
  | .persist res, r, applied => some (if took r applied then w.write w.status.progressed res else w)
  | .fail res, r, applied => some (if took r applied then w.write .failed res else w)
  | .succeed res, r, applied => some (if took r applied then w.write .done res else w)

/-- What others do. -/
inductive EnvEvent
  | proxyDeleted (proxy : String)
  deriving DecidableEq, Repr

/-- The reconciles of the campaign. -/
def system (c : Campaign) : System World Unit Op EnvEvent Op.Reply where
  body _ := do
    let _ ← reconcile c
    return ()
  start _ w := w
  perform _ w := perform w
  env w
    | .proxyDeleted proxy => some (w.release proxy)

/-- Nothing is stored. -/
def World.initial : World := {}

/-- The proxies found have the one in flight, on its node alone. -/
def keepsInFlight (w : World) (targets : List ListedProxy) : Bool :=
  w.inFlight.all fun n =>
    (targets.filter (·.node = n.node)).length ≤ 1 ∧
      w.unverified.all fun proxy =>
        priorByNode w.entries n.node = some n ∧
          targets.any fun t => t.node = n.node ∧ t.name = proxy ∧
            (t.image ≠ (w.result.getD {}).targetImage ∨ n.previousImage ≠ "")

/-- What is found keeps the node in flight. -/
def observationsKeep (w : World) : Event Unit Op EnvEvent Op.Reply → Bool
  | .reply _ (.targets _) (.ok observed) _ => keepsInFlight w (resolveTargetProxies observed)
  | _ => true

end WekaOperator.Rotate
