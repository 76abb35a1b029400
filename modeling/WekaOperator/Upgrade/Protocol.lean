import WekaOperator.Lib.Protocol
import WekaOperator.Upgrade.World

/-! The protocol of the upgrade step: which call is made only after which answers. An image is patched only by a reconcile
    that loaded another image than the last applied one and saw no approved rotation; a rotation is approved only by one
    that loaded the last applied image; and the image is recorded as applied, and nil returned, only after every role was
    listed as done. -/

namespace WekaOperator.Upgrade
open List Lib Operations

/-! ### Stages -/

/-- Nothing is left to do for the container: it has the image, and it has applied it unless it is unplaced or on its way
    out. -/
def Container.isDone (target : String) (c : Container) : Bool :=
  isContainerAligned target c && (isContainerApplied target c || c.markedForDeletion || c.nodeAffinity = "")

/-- What a reconcile knows: the cluster it holds, that no rotation is approved, whether it has recorded the image as
    applied, the modes whose containers were all listed as done since the last patch, and the containers it listed with
    another image and has not patched. -/
structure Stage where
  cluster : Option Cluster := none
  unapproved : Bool := false
  recorded : Bool := false
  aligned : List Mode := []
  pending : Option (List String) := none

namespace Stage

/-- The stage after a call. -/
def next (s : Stage) : (op : Op) → op.Reply → Stage
  | .load, .ok cluster => { cluster := some cluster }
  | .containers, .ok listed =>
    match s.cluster with
    | some cluster => { s with pending := some ((listed.filter (!isContainerAligned cluster.image ·)).map (·.name)) }
    | none => s
  | .rotationContainers, .ok listed => { s with unapproved := !anyApproved (listed.filter (·.isBackend)) }
  | .owned mode, .ok listed =>
    match s.cluster with
    | some cluster => if listed.all (·.isDone cluster.image) then { s with aligned := mode :: s.aligned } else s
    | none => s
  | .patchImage name _, .ok _ => { s with aligned := [], pending := s.pending.map (·.filter (· ≠ name)) }
  | .patchImage _ _, .error _ => { s with aligned := [] }
  | .patchRotatePod _ true, _ => { s with unapproved := false }
  | .updateStatus _ _, _ => { s with recorded := true }
  | .finish _, _ => {}
  | _, _ => s

/-- The upgrade is finished, by what was told. -/
def Finished (s : Stage) : Prop :=
  ∃ cluster, s.cluster = some cluster ∧
    (cluster.image = cluster.lastAppliedImage ∨ s.pending = some [] ∨ ∀ mode ∈ rotationRoleOrder, mode ∈ s.aligned)

/-- The image is applied and nothing is approved. -/
structure Rotating (cluster : Cluster) (s : Stage) : Prop where
  loaded : s.cluster = some cluster
  image : cluster.image = cluster.lastAppliedImage
  unapproved : cluster.overrides.upgradeAllAtOnce = true ∨ s.unapproved = true

/-- The image is not applied and nothing is approved. -/
structure Upgrading (cluster : Cluster) (s : Stage) : Prop where
  loaded : s.cluster = some cluster
  image : cluster.image ≠ cluster.lastAppliedImage
  unapproved : s.unapproved = true
  unrecorded : s.recorded = false

/-- Every container was seen done, or all were patched at once. -/
def Complete (cluster : Cluster) (s : Stage) : Prop :=
  (cluster.overrides.upgradeAllAtOnce = true ∧ s.pending = some []) ∨ ∀ mode ∈ rotationRoleOrder, mode ∈ s.aligned

/-- The calls allowed at a stage. -/
def allowed (s : Stage) : Op → Prop
  | .patchRotatePod _ true => ∃ cluster, Rotating cluster s
  | .patchImage _ image => ∃ cluster, image = cluster.image ∧ Upgrading cluster s
  | .updateStatus image version => ∃ cluster, image = cluster.image ∧ version = cluster.version ∧ Upgrading cluster s ∧ Complete cluster s
  | .finish .next => s.Finished
  | _ => True

end Stage

/-- The protocol of an upgrade. -/
def protocol : Protocol Op Op.Reply Stage where
  fresh := {}
  next := Stage.next
  allowed := Stage.allowed
  admits _ _ := True

/-! ### Quiet calls -/

/-- Calls that do not matter here. -/
def Op.Quiet : Op → Prop
  | .settings | .clusterHealth | .imagePrePull | .getExecutor _ | .prepareForUpgrade _ | .finalizeUpgrade | .wekaStatus => True
  | _ => False

theorem prepareForUpgrade_quiet (phase : Phase) (containers : List Container) :
    (prepareForUpgrade phase containers).Only Op.Quiet := by
  unfold prepareForUpgrade
  split
  · split
    · trivial
    · trivial
  refine .bind ⟨trivial, fun _ => trivial⟩ fun r => ?_
  cases r with
  | error e => trivial
  | ok _ =>
    refine .bind ⟨trivial, fun _ => trivial⟩ fun r => ?_
    cases r with
    | error e => trivial
    | ok _ => trivial

theorem prepare_quiet (target : String) (phase : Phase) (containers : List Container) :
    (if needsPrepare target containers then prepareForUpgrade phase containers else return .next : P Outcome).Only
      Op.Quiet := by
  split
  · exact prepareForUpgrade_quiet phase containers
  · trivial

theorem awaitStable_quiet (cfg : Config) (cluster : Cluster) (containers : List Container) :
    (awaitStable cfg cluster containers).Only Op.Quiet := by
  unfold awaitStable
  split
  · trivial
  refine .bind ⟨trivial, fun _ => trivial⟩ fun r => ?_
  cases r with
  | error e => trivial
  | ok status =>
    dsimp only
    split
    · trivial
    · trivial

theorem finalizeUpgrade_quiet (containers : List Container) : (finalizeUpgrade containers).Only Op.Quiet := by
  unfold finalizeUpgrade
  split
  · trivial
  refine .bind ⟨trivial, fun _ => trivial⟩ fun r => ?_
  cases r with
  | error e => trivial
  | ok _ =>
    refine .bind ⟨trivial, fun _ => trivial⟩ fun r => ?_
    cases r with
    | error e => trivial
    | ok _ => trivial

theorem imagePrePull_quiet (cfg : Config) : (imagePrePull cfg).Only Op.Quiet := by
  unfold imagePrePull
  split
  · trivial
  refine .bind ⟨trivial, fun _ => trivial⟩ fun r => ?_
  cases r with
  | error e => trivial
  | ok _ => trivial

theorem podRotationEnabled_quiet (cluster : Cluster) : (podRotationEnabled cluster).Only Op.Quiet := by
  unfold podRotationEnabled
  split
  · trivial
  · exact ⟨trivial, fun _ => trivial⟩

/-! ### The rules -/

variable {R : Stage → Prop} {drives : List Container}

section Conforms
variable {cfg : Config} {cluster : Cluster} {s : Stage} {containers : List Container} {α : Type}

/-- A part that goes on only if `R` holds. -/
def Returns (R : Stage → Prop) (p : P Outcome) (s : Stage) : Prop :=
  p.Conforms protocol (fun out s' => out = .next → R s') s

theorem Returns.next (h : R s) : Returns R (return .next) s := fun _ => h

variable {why : String} {op : Op}

theorem Returns.wait : Returns R (return .wait why) s := nofun

theorem Returns.error : Returns R (return .error why) s := nofun

theorem Returns.andThen {R' : Stage → Prop} {step rest : P Outcome} (hstep : Returns R step s)
    (hrest : ∀ s', R s' → Returns R' rest s') : Returns R' (andThen step rest) s := by
  refine .bind hstep fun out s' hs => ?_
  cases out with
  | next => exact hrest s' (hs rfl)
  | wait why => exact Returns.wait
  | error why => exact Returns.error

theorem call_quiet (allowed : s.allowed op) (quiet : ∀ r, s.next op r = s) :
    (call op).Conforms protocol (fun _ s' => s' = s) s := ⟨allowed, fun r _ => quiet r⟩

theorem call_next (allowed : s.allowed op) :
    (call op).Conforms protocol (fun r s' => s' = s.next op r) s := ⟨allowed, fun _ _ => rfl⟩

theorem Stage.quiet (s : Stage) (op : Op) (h : op.Quiet) : s.allowed op ∧ ∀ r, s.next op r = s := by
  cases op with
  | settings | clusterHealth | imagePrePull | getExecutor _ | prepareForUpgrade _ | finalizeUpgrade | wekaStatus =>
    exact ⟨trivial, fun _ => rfl⟩
  | load | containers | rotationContainers | owned _ | patchRotatePod _ _ | patchImage _ _ | updateStatus _ _ | finish _ => cases h

theorem quiet_conforms {p : P α} (h : p.Only Op.Quiet) : p.Conforms protocol (fun _ s' => s' = s) s := h.conforms s.quiet

theorem Returns.quiet {p : P Outcome} (h : p.Only Op.Quiet) : Returns (· = s) p s := by
  refine .mono (fun _ _ same _ => ?_) (quiet_conforms h)
  exact same

theorem recordApplied_returns (h : s.Upgrading cluster) (complete : s.Complete cluster) :
    Returns (· = { s with recorded := true }) (recordApplied cluster) s := by
  refine .bind (call_next ⟨cluster, rfl, rfl, h, complete⟩) fun r s' hs => ?_
  subst hs
  cases r with
  | error e => exact Returns.error
  | ok _ => exact Returns.next rfl

/-- The container is waited for. -/
def Container.counts (c : Container) : Prop := c.nodeAffinity ≠ "" ∧ c.markedForDeletion = false

theorem upgradeWaits_none {target : String} {limit skipped : Int}
    (h : upgradeWaits target limit skipped containers = none) :
    ∀ c ∈ containers, c.counts → c.image = target → c.lastAppliedImage = target := by
  induction containers generalizing skipped with
  | nil => exact fun c hc => absurd hc not_mem_nil
  | cons c cs ih =>
    rw [upgradeWaits] at h
    rintro x mem counts image
    rcases mem_cons.mp mem with rfl | mem
    · by_contra behind
      simp [counts.1, counts.2, isContainerAligned, isContainerApplied, image, behind] at h
    · split_ifs at h
      · exact ih h x mem counts image
      · exact ih h x mem counts image
      · exact ih h x mem counts image

theorem rollingUpgrade_returns (h : s.Upgrading cluster) :
    Returns (fun s' => s' = s ∧ ∀ c ∈ containers, c.isDone cluster.image = true)
      (rollingUpgrade cluster.image cfg containers) s := by
  unfold rollingUpgrade
  split
  · exact .wait
  next waited =>
  split
  next none =>
    refine .next ⟨rfl, fun c hc => ?_⟩
    have aligned : isContainerAligned cluster.image c = true := by simpa using List.find?_eq_none.mp none c hc
    have applied := upgradeWaits_none waited c hc
    simp only [Container.isDone, aligned, Bool.true_and, Bool.or_eq_true, decide_eq_true_eq]
    by_cases counts : c.counts
    · exact .inl (.inl (decide_eq_true (applied counts (of_decide_eq_true aligned))))
    · simp only [Container.counts, not_and_or, not_not, Bool.not_eq_false] at counts
      exact counts.elim .inr fun marked => .inl (.inr marked)
  refine .bind (call_next ⟨cluster, rfl, h⟩) fun r s' _ => ?_
  cases r with
  | error e => exact Returns.error
  | ok _ => exact Returns.wait

theorem upgradeRole_returns (h : s.Upgrading cluster) (phase : Phase) :
    Returns (fun s' => s' = s ∧ ∀ c ∈ containers, c.isDone cluster.image = true)
      (upgradeRole cfg cluster phase containers) s := by
  refine (Returns.quiet (prepare_quiet _ phase containers)).andThen fun s' hs => ?_
  subst hs
  exact rollingUpgrade_returns h

/-! ### Role by role -/

/-- The stage after a role is listed. -/
structure Listed (cluster : Cluster) (s s' : Stage) (mode : Mode) (listed : List Container) : Prop where
  upgrading : s'.Upgrading cluster
  aligned : (∀ c ∈ listed, c.isDone cluster.image = true) → mode ∈ s'.aligned
  kept : ∀ m ∈ s.aligned, m ∈ s'.aligned

section
variable (h : s.Upgrading cluster)
include h

theorem withOwned_returns {mode : Mode} {rest : List Container → P Outcome}
    (hrest : ∀ listed s', Listed cluster s s' mode listed → Returns R (rest listed) s') :
    Returns R (withOwned mode rest) s := by
  refine .bind (call_next trivial) fun r s' hs => ?_
  cases r with
  | error e => exact Returns.error
  | ok listed =>
    refine hrest listed s' ?_
    rw [hs]
    simp only [Stage.next, h.loaded]
    split
    · exact ⟨⟨rfl, h.image, h.unapproved, h.unrecorded⟩, fun _ => mem_cons_self, fun _ => mem_cons_of_mem _⟩
    next other => exact ⟨h, fun all => absurd (all_eq_true.mpr all) other, fun _ => id⟩

theorem upgradeFrontends_returns (done : .drive ∈ s.aligned) (done' : .compute ∈ s.aligned)
    (done'' : .dataServices ∈ s.aligned) : Returns Stage.Finished (upgradeFrontends cfg cluster drives) s := by
  refine withOwned_returns h fun s3 s₁ h₁ => withOwned_returns h₁.upgrading fun nfs s₂ h₂ =>
    withOwned_returns h₂.upgrading fun smbw s₃ h₃ => ?_
  refine (upgradeRole_returns h₃.upgrading .frontend).andThen fun s' hs => ?_
  obtain ⟨rfl, all⟩ := hs
  have all₁ : .s3 ∈ s'.aligned := by
    refine h₃.kept _ (h₂.kept _ (h₁.aligned fun c hc => all c ?_))
    exact mem_append_left _ (mem_append_left _ hc)
  have all₂ : .nfs ∈ s'.aligned := by
    refine h₃.kept _ (h₂.aligned fun c hc => all c ?_)
    exact mem_append_left _ (mem_append_right _ hc)
  have all₃ : .smbw ∈ s'.aligned := h₃.aligned fun c hc => all c (mem_append_right _ hc)
  have kept : ∀ m ∈ s.aligned, m ∈ s'.aligned := fun m hm => h₃.kept m (h₂.kept m (h₁.kept m hm))
  refine (Returns.quiet (finalizeUpgrade_quiet drives)).andThen fun s'' hs => ?_
  subst hs
  have roles : ∀ mode ∈ rotationRoleOrder, mode ∈ s''.aligned := by
    intro mode hmode
    simp only [rotationRoleOrder, mem_cons, not_mem_nil, or_false] at hmode
    rcases hmode with rfl | rfl | rfl | rfl | rfl | rfl
    · exact kept _ done
    · exact kept _ done'
    · exact kept _ done''
    · exact all₁
    · exact all₂
    · exact all₃
  refine Prog.Conforms.mono (fun out s''' hs next => ?_) (recordApplied_returns h₃.upgrading (.inr roles))
  rw [hs next]
  exact ⟨cluster, h₃.upgrading.loaded, .inr (.inr roles)⟩

theorem upgradeDataServices_returns (done : .drive ∈ s.aligned) (done' : .compute ∈ s.aligned) :
    Returns Stage.Finished (upgradeDataServices cfg cluster drives) s := by
  refine withOwned_returns h fun listed s₁ h₁ => ?_
  have role : Returns (fun s' => s' = s₁ ∧ ∀ c ∈ listed, c.isDone cluster.image = true)
      (if listed.length > 0 then upgradeRole cfg cluster .dataServices listed else return .next) s₁ := by
    split
    · exact upgradeRole_returns h₁.upgrading .dataServices
    next none =>
      obtain rfl := length_eq_zero_iff.mp (Nat.eq_zero_of_not_pos none)
      exact .next ⟨rfl, forall_mem_nil _⟩
  refine role.andThen fun s' hs => ?_
  obtain ⟨rfl, all⟩ := hs
  exact upgradeFrontends_returns h₁.upgrading (h₁.kept _ done) (h₁.kept _ done') (h₁.aligned all)

theorem upgradeComputes_returns (done : .drive ∈ s.aligned) :
    Returns Stage.Finished (upgradeComputes cfg cluster drives) s := by
  refine withOwned_returns h fun listed s₁ h₁ => ?_
  split
  · exact .wait
  refine (upgradeRole_returns h₁.upgrading .compute).andThen fun s' hs => ?_
  obtain ⟨rfl, all⟩ := hs
  exact upgradeDataServices_returns h₁.upgrading (h₁.kept _ done) (h₁.aligned all)

theorem upgradeRoles_returns : Returns Stage.Finished (upgradeRoles cfg cluster containers) s := by
  refine withOwned_returns h fun drives s₁ h₁ => ?_
  refine (Returns.quiet (prepare_quiet _ .drives drives)).andThen fun s' hs => ?_
  subst hs
  refine (Returns.quiet (awaitStable_quiet cfg cluster containers)).andThen fun s'' hs => ?_
  subst hs
  refine (rollingUpgrade_returns h₁.upgrading).andThen fun s''' hs => ?_
  obtain ⟨rfl, all⟩ := hs
  exact upgradeComputes_returns h₁.upgrading (h₁.aligned all)

end

/-! ### All at once -/

/-- Those still pending are among the containers. -/
def Remaining (cluster : Cluster) (s : Stage) (containers : List Container) : Prop :=
  ∃ names, s.pending = some names ∧ ∀ n ∈ names, ∃ c ∈ containers, c.name = n ∧ isContainerAligned cluster.image c = false

variable {c : Container}

theorem Remaining.tail (h : Remaining cluster s (c :: containers)) (aligned : isContainerAligned cluster.image c = true) :
    Remaining cluster s containers := by
  obtain ⟨names, pending, among⟩ := h
  refine ⟨names, pending, fun n hn => ?_⟩
  obtain ⟨c', hc', name, other⟩ := among n hn
  rcases mem_cons.mp hc' with rfl | hc'
  · rw [aligned] at other
    cases other
  · exact ⟨c', hc', name, other⟩

theorem Remaining.patched (h : Remaining cluster s (c :: containers)) (patched : Container) :
    Remaining cluster (s.next (.patchImage c.name cluster.image) (.ok patched)) containers := by
  obtain ⟨names, pending, among⟩ := h
  refine ⟨names.filter (· ≠ c.name), ?_, fun n hn => ?_⟩
  · simp only [Stage.next, pending, Option.map_some]
  · obtain ⟨hn, other⟩ := mem_filter.mp hn
    obtain ⟨c', hc', name, misaligned⟩ := among n hn
    rcases mem_cons.mp hc' with rfl | hc'
    · exact absurd name.symm (of_decide_eq_true other)
    · exact ⟨c', hc', name, misaligned⟩

theorem patchImages_conforms (h : s.Upgrading cluster) :
    (patchImages cluster.image containers).Conforms protocol
      (fun out s' => s'.Upgrading cluster ∧ (Remaining cluster s containers → out.1 = [] → s'.pending = some [])) s := by
  induction containers generalizing s with
  | nil =>
    refine ⟨h, fun remaining _ => ?_⟩
    obtain ⟨names, pending, among⟩ := remaining
    cases names with
    | nil => exact pending
    | cons n names =>
      obtain ⟨c, hc, -⟩ := among n mem_cons_self
      cases hc
  | cons c cs ih =>
    unfold patchImages
    split
    next aligned =>
      refine (ih h).bind fun out s' hs => ?_
      exact ⟨hs.1, fun remaining => hs.2 (remaining.tail aligned)⟩
    refine .bind (call_next ⟨cluster, rfl, h⟩) fun r s' hs => ?_
    cases r with
    | error e =>
      have h' : s'.Upgrading cluster := by
        rw [hs]
        exact ⟨h.loaded, h.image, h.unapproved, h.unrecorded⟩
      refine (ih h').bind fun out s'' hs => ?_
      exact ⟨hs.1, fun _ => nofun⟩
    | ok patched =>
      have h' : s'.Upgrading cluster := by
        rw [hs]
        exact ⟨h.loaded, h.image, h.unapproved, h.unrecorded⟩
      refine (ih h').bind fun out s'' hs' => ?_
      refine ⟨hs'.1, fun remaining => hs'.2 ?_⟩
      rw [hs]
      exact remaining.patched patched

theorem upgradeAllAtOnce_returns (h : s.Upgrading cluster) (remaining : Remaining cluster s containers)
    (atOnce : cluster.overrides.upgradeAllAtOnce = true) : Returns Stage.Finished (upgradeAllAtOnce cluster containers) s := by
  refine (patchImages_conforms h).bind fun out s' hs => ?_
  obtain ⟨errs, patched⟩ := out
  dsimp only
  split
  · exact Returns.error
  next none =>
    split
    · exact Returns.wait
    have pending := hs.2 remaining (length_eq_zero_iff.mp (Nat.eq_zero_of_not_pos none))
    refine Prog.Conforms.mono (fun out s'' hs' next => ?_) (recordApplied_returns hs.1 (.inl ⟨atOnce, pending⟩))
    rw [hs' next]
    exact ⟨cluster, hs.1.loaded, .inr (.inl pending)⟩

theorem handleImageUpgrade_returns (h : s.Upgrading cluster) (remaining : Remaining cluster s containers) :
    Returns Stage.Finished (handleImageUpgrade cfg cluster containers) s := by
  unfold handleImageUpgrade
  split
  · exact Returns.wait
  refine (Returns.quiet (imagePrePull_quiet cfg)).andThen fun s' hs => ?_
  subst hs
  split
  next atOnce => exact upgradeAllAtOnce_returns h remaining atOnce
  · exact upgradeRoles_returns h

/-! ### The pod rotation -/

theorem rotationContainers_conforms :
    rotationContainers.Conforms protocol (fun out s' => ∀ listed, out = .ok listed →
      s' = { s with unapproved := !anyApproved listed }) s := by
  refine .bind (call_next trivial) fun r s' hs => ?_
  cases r with
  | error e => exact nofun
  | ok all =>
    rintro _ ⟨rfl⟩
    exact hs

theorem setRotatePod_conforms (c : Container) (v : Bool) (allowed : s.allowed (.patchRotatePod c.name v)) :
    (setRotatePod c v).Conforms protocol (fun _ s' => s' = if v then { s with unapproved := false } else s) s := by
  refine .bind (call_next allowed) fun r s' hs => ?_
  have after : s' = if v then { s with unapproved := false } else s := by
    rw [hs]
    cases v with
    | false => rfl
    | true => rfl
  match r with
  | .error (.other e) => exact after
  | .error .notFound => exact after
  | .ok _ => exact after

theorem clearFinishedRotations_conforms :
    (clearFinishedRotations containers).Conforms protocol (fun _ s' => s' = s) s := by
  induction containers with
  | nil => exact rfl
  | cons c cs ih =>
    unfold clearFinishedRotations
    split
    · exact ih
    split
    · refine (setRotatePod_conforms c false trivial).bind fun r s' hs => ?_
      subst hs
      cases r with
      | error e => exact rfl
      | ok _ => exact ih
    · refine ih.bind fun out s' hs => ?_
      subst hs
      cases out with
      | error e => exact rfl
      | ok _ => exact rfl

section
variable (h : s.Rotating cluster)
include h

theorem approveAll_conforms (atOnce : cluster.overrides.upgradeAllAtOnce = true) :
    (approveAll containers).Conforms protocol (fun _ _ => True) s := by
  induction containers generalizing s with
  | nil => exact trivial
  | cons c cs ih =>
    refine (setRotatePod_conforms c true ⟨cluster, h⟩).bind fun r s' hs => ?_
    subst hs
    cases r with
    | error e => exact trivial
    | ok _ => exact ih ⟨h.loaded, h.image, .inl atOnce⟩

theorem Stage.Rotating.finished : s.Finished := ⟨cluster, h.loaded, .inl h.image⟩

theorem approveNext_returns : Returns Stage.Finished (approveNext containers) s := by
  refine .bind (call_quiet trivial fun _ => rfl) fun verdict s' hs => ?_
  subst hs
  split
  · exact Returns.wait
  split
  · exact Returns.next h.finished
  next c _ _ =>
    refine (setRotatePod_conforms c true ⟨cluster, h⟩).bind fun r s'' _ => ?_
    cases r with
    | error e => exact Returns.error
    | ok _ => exact Returns.wait

theorem rotateCandidates_returns : Returns Stage.Finished (rotateCandidates cluster containers) s := by
  unfold rotateCandidates
  split
  · exact .next h.finished
  refine (quiet_conforms (podRotationEnabled_quiet cluster)).bind fun on s' hs => ?_
  subst hs
  split
  · exact Returns.next h.finished
  split
  · exact Returns.wait
  split
  next atOnce =>
    refine (approveAll_conforms h atOnce).bind fun r s'' _ => ?_
    cases r with
    | error e => exact Returns.error
    | ok _ => exact Returns.wait
  · exact approveNext_returns h

end

theorem handlePodRotation_returns (loaded : s.cluster = some cluster) (image : cluster.image = cluster.lastAppliedImage) :
    Returns Stage.Finished (handlePodRotation cluster) s := by
  refine rotationContainers_conforms.bind fun out s' hs => ?_
  cases out with
  | error e => exact Returns.error
  | ok listed =>
    obtain rfl := hs listed rfl
    refine clearFinishedRotations_conforms.bind fun out s'' hs => ?_
    subst hs
    cases out with
    | error e => exact Returns.error
    | ok inFlight =>
      dsimp only
      split
      · exact Returns.wait
      next none =>
        rw [Bool.not_eq_true] at none
        refine rotateCandidates_returns ⟨loaded, image, .inr ?_⟩
        rw [none]
        rfl

theorem handleUpgrade_returns (loaded : s.cluster = some cluster) (remaining : Remaining cluster s containers)
    (unrecorded : s.recorded = false) : Returns Stage.Finished (handleUpgrade cfg cluster containers) s := by
  unfold handleUpgrade
  split
  next image =>
    refine rotationContainers_conforms.bind fun out s' hs => ?_
    cases out with
    | error e => exact Returns.error
    | ok listed =>
      obtain rfl := hs listed rfl
      refine clearFinishedRotations_conforms.bind fun out s'' hs => ?_
      subst hs
      cases out with
      | error e => exact Returns.error
      | ok inFlight =>
        dsimp only
        split
        · exact Returns.wait
        next none =>
          rw [Bool.not_eq_true] at none
          refine handleImageUpgrade_returns ⟨loaded, image, ?_, unrecorded⟩ remaining
          rw [none]
          rfl
  next image => exact handlePodRotation_returns loaded (not_not.mp image)

theorem reconcile_conforms : (reconcile cfg).Conforms protocol (fun _ _ => True) {} := by
  refine .bind (call_next trivial) fun r s' hs => ?_
  cases r with
  | error e => exact trivial
  | ok cluster =>
    subst hs
    refine .bind (call_next trivial) fun r s' hs => ?_
    cases r with
    | error e => exact trivial
    | ok containers =>
      have loaded : s'.cluster = some cluster := by rw [hs]; rfl
      have remaining : Remaining cluster s' containers := by
        refine ⟨_, by rw [hs]; rfl, fun n hn => ?_⟩
        obtain ⟨c, hc, rfl⟩ := mem_map.mp hn
        obtain ⟨hc, other⟩ := mem_filter.mp hc
        exact ⟨c, hc, rfl, by simpa using other⟩
      refine (handleUpgrade_returns loaded remaining (by rw [hs]; rfl)).bind fun out s'' finished => ?_
      cases out with
      | next => exact ⟨finished rfl, fun _ _ => trivial⟩
      | wait why => exact ⟨trivial, fun _ _ => trivial⟩
      | error why => exact ⟨trivial, fun _ _ => trivial⟩

end Conforms

end WekaOperator.Upgrade
