import WekaOperator.Upgrade.Cluster

/-! The world of the upgrade step: the cluster, its containers, the cluster as a running reconcile has loaded it, and a
    log of what the step did: the nil returns, the approved rotations and the patched images, each with the containers at
    that moment. Users edit the image and the overrides at any time, containers progress and are deleted on their own. -/

namespace WekaOperator.Upgrade
open Lib Operations

/-- The containers when an upgrade returned. -/
structure Return where
  image : String
  containers : List Container
  deriving DecidableEq, Repr

/-- The containers when a rotation was approved. -/
structure Approval where
  name : String
  containers : List Container
  deriving DecidableEq, Repr

/-- The containers when an image was set. -/
structure ImagePatch where
  name : String
  containers : List Container
  deriving DecidableEq, Repr

/-- `loaded` is the cluster of the running reconcile. -/
structure World where
  cluster : Cluster
  containers : List Container
  loaded : Option Cluster := none
  returns : List Return := []
  approvals : List Approval := []
  patches : List ImagePatch := []
  deriving DecidableEq, Repr

namespace World

/-- Changes a container. -/
def update (w : World) (name : String) (f : Container → Container) : World :=
  { w with containers := w.containers.map fun c => if c.name = name then f c else c }

/-- Approves a rotation or withdraws it. -/
def setRotatePod (w : World) (name : String) (v : Bool) : World :=
  let w' := w.update name fun c => { c with rotatePod := v }
  if v then { w' with approvals := w.approvals ++ [⟨name, w.containers⟩] } else w'

/-- Sets the image of a container. -/
def setImage (w : World) (name image : String) : World :=
  { w.update name fun c => { c with image := image } with patches := w.patches ++ [⟨name, w.containers⟩] }

/-- Stores the applied image. -/
def setLastApplied (w : World) (image : String) : World :=
  { w with cluster := { w.cluster with lastAppliedImage := image, version := w.cluster.version + 1 } }

/-- The step returns: a nil is logged with the image the reconcile held and the containers at that moment. -/
def finish (w : World) (out : Outcome) : World :=
  match out, w.loaded with
  | .next, some cluster => { w with returns := w.returns ++ [⟨cluster.image, w.containers⟩], loaded := none }
  | _, _ => { w with loaded := none }

end World

/-! ### The system -/

/-- Whether a patch took effect, if the reply is possible. -/
def patchTook (w : World) (name image : String) : Except ApiError Container → Bool → Option Bool
  | .ok patched, _ =>
    if (w.setImage name image).containers.any fun c => decide (c.name = name ∧ c = patched) then some true else none
  | .error _, applied => some applied

/-- What a call does to the world; `none` where the answer does not fit. A call that fails may still take effect. -/
def perform (w : World) : (op : Op) → op.Reply → Bool → Option World
  | .load, .ok cluster, _ => if cluster = w.cluster then some { w with loaded := some cluster } else none
  | .rotationContainers, .ok containers, _ => if containers = w.containers then some w else none
  | .patchRotatePod name v, r, applied => some (if took r applied then w.setRotatePod name v else w)
  | .patchImage name image, r, applied =>
    (patchTook w name image r applied).map fun b => if b then w.setImage name image else w
  | .updateStatus image version, r, applied =>
    if took r applied then if version = w.cluster.version then some (w.setLastApplied image) else none else some w
  | .finish out, _, _ => some (w.finish out)
  | _, _, _ => some w

/-- What others do. -/
inductive EnvEvent
  | editImage (image : String)
  | editOverrides (overrides : Overrides)
  | podOutdated (name : String) (outdated : Bool)
  | applied (name : String)
  | setState (name : String) (state : ContainerState)
  | deleted (name : String)
  | gone (name : String)
  deriving DecidableEq, Repr

/-- The effect of what others do. -/
def World.env (w : World) : EnvEvent → World
  | .editImage image => { w with cluster := { w.cluster with image := image, version := w.cluster.version + 1 } }
  | .editOverrides overrides =>
    { w with cluster := { w.cluster with overrides := overrides, version := w.cluster.version + 1 } }
  | .podOutdated name outdated => w.update name fun c => { c with podOutdated := outdated }
  | .applied name => w.update name fun c => { c with lastAppliedImage := c.image }
  -- a container that is torn down stays so
  | .setState name state => w.update name fun c =>
    if c.state = .deleting ∨ c.state = .destroying then c else { c with state := state }
  | .deleted name => w.update name fun c => { c with markedForDeletion := true }
  | .gone name => { w with containers := w.containers.filter (·.name ≠ name) }

def system (cfg : Config) : System World Unit Op EnvEvent Op.Reply where
  body _ := reconcile cfg
  start _ w := { w with loaded := none }
  perform _ := perform
  env w e := some (w.env e)

/-- Every container runs the cluster's image, which is the last applied one. -/
structure Settled (w : World) : Prop where
  applied : w.cluster.lastAppliedImage = w.cluster.image
  containers : ∀ c ∈ w.containers, c.image = w.cluster.image ∧ c.lastAppliedImage = w.cluster.image ∧ c.rotatePod = false
  names : (w.containers.map (·.name)).Nodup
  loaded : w.loaded = none
  returns : w.returns = []
  approvals : w.approvals = []
  patches : w.patches = []

/-! ### What becomes of the containers -/

/-- What a container keeps when another actor changes it. -/
structure Progress (c c' : Container) : Prop where
  name : c'.name = c.name
  mode : c'.mode = c.mode
  image : c'.image = c.image
  nodeAffinity : c'.nodeAffinity = c.nodeAffinity
  deletion : c.markedForDeletion = true → c'.markedForDeletion = true
  exempt : rotationExempt c = true → rotationExempt c' = true
  applied : c.lastAppliedImage = c.image → c'.lastAppliedImage = c'.image

structure Unapproved (c c' : Container) : Prop extends Progress c c' where
  rotatePod : c'.rotatePod = true → c.rotatePod = true

theorem Progress.refl (c : Container) : Progress c c := ⟨rfl, rfl, rfl, rfl, id, id, id⟩

theorem Unapproved.refl (c : Container) : Unapproved c c := ⟨Progress.refl c, id⟩

namespace World

theorem mem_update {w : World} {name : String} {f : Container → Container} {R : Container → Container → Prop}
    (refl : ∀ c, R c c) (hf : ∀ c, R c (f c)) : ∀ c' ∈ (w.update name f).containers, ∃ c ∈ w.containers, R c c' := by
  intro c' hc'
  obtain ⟨c, hc, rfl⟩ := List.mem_map.mp hc'
  refine ⟨c, hc, ?_⟩
  split
  · exact hf c
  · exact refl c

section
variable (w : World)
include w

theorem env_unapproved (e : EnvEvent) : ∀ c' ∈ (w.env e).containers, ∃ c ∈ w.containers, Unapproved c c' := by
  cases e with
  | editImage image => exact fun c hc => ⟨c, hc, .refl c⟩
  | editOverrides overrides => exact fun c hc => ⟨c, hc, .refl c⟩
  | podOutdated name outdated => exact mem_update .refl fun c => ⟨⟨rfl, rfl, rfl, rfl, id, id, id⟩, id⟩
  | applied name => exact mem_update .refl fun c => ⟨⟨rfl, rfl, rfl, rfl, id, id, fun _ => rfl⟩, id⟩
  | setState name state =>
    refine mem_update .refl fun c => ?_
    split
    · exact .refl c
    next alive =>
      refine ⟨⟨rfl, rfl, rfl, rfl, id, fun exempt => ?_, id⟩, id⟩
      simp only [rotationExempt, Bool.or_eq_true, decide_eq_true_iff, or_assoc] at exempt ⊢
      exact .inl (exempt.resolve_right alive)
  | deleted name =>
    refine mem_update .refl fun c => ⟨⟨rfl, rfl, rfl, rfl, fun _ => rfl, fun _ => ?_, id⟩, id⟩
    simp [rotationExempt]
  | gone name => exact fun c hc => ⟨c, List.mem_of_mem_filter hc, .refl c⟩

@[simp] theorem setRotatePod_containers (name : String) (v : Bool) :
    (w.setRotatePod name v).containers = (w.update name fun c => { c with rotatePod := v }).containers := by
  cases v with
  | false => rfl
  | true => rfl

@[simp] theorem setRotatePod_loaded (name : String) (v : Bool) : (w.setRotatePod name v).loaded = w.loaded := by
  cases v with
  | false => rfl
  | true => rfl

@[simp] theorem setRotatePod_cluster (name : String) (v : Bool) : (w.setRotatePod name v).cluster = w.cluster := by
  cases v with
  | false => rfl
  | true => rfl

@[simp] theorem setRotatePod_returns (name : String) (v : Bool) : (w.setRotatePod name v).returns = w.returns := by
  cases v with
  | false => rfl
  | true => rfl

theorem finish_eq (out : Outcome) : w.finish out = { w with returns := (w.finish out).returns, loaded := none } := by
  unfold finish
  split
  · rfl
  · rfl

theorem setRotatePod_progress (name : String) (v : Bool) :
    ∀ c' ∈ (w.setRotatePod name v).containers, ∃ c ∈ w.containers, Progress c c' := by
  rw [setRotatePod_containers]
  exact mem_update Progress.refl fun c => ⟨rfl, rfl, rfl, rfl, id, id, id⟩

end

end World

end WekaOperator.Upgrade
