import WekaOperator.Migrate.Records

/-! Programs that only read: what they return is what their replies allow. -/

namespace WekaOperator.Migrate
open Lib Operations

/-- Reads that leave no trace. -/
def Op.Reads : Op → Prop
  | .read _ => True
  | _ => False

/-- Replies that the world can give. -/
def Op.Admits (c : Campaign) : (op : Op) → op.Reply → Prop
  | .read q, r => q.admits c r = true
  | _, _ => True

/-- A part of the reconcile that only reads. -/
def Yields (c : Campaign) {α : Type} (R : α → Prop) (p : P α) : Prop := p.Yields Op.Reads (Op.Admits c) R

section Yields
variable {c : Campaign} {α β : Type} {R : α → Prop} {R' : β → Prop}

theorem Yields.read (q : Read) : Yields c (fun r => q.admits c r = true) (read q) := ⟨trivial, fun _ h => h⟩

theorem Yields.pure {a : α} (h : R a) : Yields c R (Pure.pure a) := h

theorem Yields.error {ε : Type} {T : α → Prop} {e : ε} :
    Yields c (fun out : Except ε α => ∀ a, out = .ok a → T a) (Pure.pure (.error e)) := by
  refine .pure fun a h => ?_
  cases h

theorem Yields.bind {p : P α} {f : α → P β} (h : Yields c R p) (hf : ∀ a, R a → Yields c R' (f a)) :
    Yields c R' (p >>= f) := Prog.Yields.bind h hf

end Yields

section Reads
variable {c : Campaign}

theorem stamp_yields (since : Option Int) : Yields c (fun _ => True) (stamp since) := by
  cases since with
  | none => exact ⟨trivial, fun _ _ => trivial⟩
  | some t => exact trivial

theorem refuseIfAnotherCampaignRunning_yields : Yields c (fun _ => True) (refuseIfAnotherCampaignRunning c) := by
  refine (Yields.read _).bind fun r _ => ?_
  cases r with
  | error e => exact trivial
  | ok ops =>
    dsimp only
    split
    · exact trivial
    · exact trivial

theorem listDriveContainers_yields (payload : Payload) :
    Yields c (fun out => ∀ l, out = .ok l → (l.map (·.name)).Nodup) (listDriveContainers payload) := by
  refine (Yields.read _).bind fun r admitted => ?_
  cases r with
  | error e => exact Yields.error
  | ok containers =>
    refine Yields.pure ?_
    rintro _ ⟨rfl⟩
    simpa [Read.admits] using admitted

theorem collectLabels_yields (nodes : List String) : Yields c (fun _ => True) (collectLabels nodes) := by
  induction nodes with
  | nil => exact trivial
  | cons node nodes ih =>
    refine (Yields.read _).bind fun r _ => ?_
    cases r with
    | error e => exact trivial
    | ok labels =>
      refine ih.bind fun out _ => ?_
      cases out with
      | error e => exact trivial
      | ok rest => exact trivial

theorem refuseIfSignPolicyMatches_yields (nodes : List String) :
    Yields c (fun _ => True) (refuseIfSignPolicyMatches nodes) := by
  unfold refuseIfSignPolicyMatches
  split
  · exact trivial
  refine (Yields.read _).bind fun r _ => ?_
  cases r with
  | error e => exact trivial
  | ok policies =>
    refine (collectLabels_yields nodes).bind fun out _ => ?_
    cases out with
    | error e => exact trivial
    | ok labelled =>
      dsimp only
      split
      · exact trivial
      · exact trivial

theorem readContainerDrives_yields (container : WekaContainer) :
    Yields c (fun _ => True) (readContainerDrives container) := by
  unfold readContainerDrives
  split
  · exact trivial
  · refine (Yields.read _).bind fun r _ => ?_
    cases r with
    | error e => exact trivial
    | ok drives => exact trivial

theorem readAnnotatedCapacity_yields (node : String) (serials : List String) :
    Yields c (fun out => ∀ n, out = .ok n → 0 ≤ n) (readAnnotatedCapacity node serials) := by
  refine (Yields.read _).bind fun r _ => ?_
  cases r with
  | error e => exact Yields.error
  | ok read =>
    cases read with
    | error e => exact Yields.error
    | ok entries => exact Yields.pure fun _ h => annotatedCapacityBytes_nonneg h

theorem readSharedDrives_yields (node : String) : Yields c (fun _ => True) (readSharedDrives node) := by
  refine (Yields.read _).bind fun r _ => ?_
  match r with
  | .error e => exact trivial
  | .ok (.error e) => exact trivial
  | .ok (.ok drives) => exact trivial

end Reads

end WekaOperator.Migrate
