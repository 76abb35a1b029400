import WekaOperator.Upgrade.Protocol

/-! When the upgrade step returns nil, the containers have the cluster's image. The step decides by comparing the image
    with the last applied one, which it records only when every container has been seen with the image; so equality of
    the two means that the containers have it, unless a user sets the image back to the recorded one half-way. -/

namespace WekaOperator.Upgrade
open List Option Bool Lib Operations

/-! ### The condition -/

/-- Containers that an upgrade waits for. -/
def Container.isUpgraded (c : Container) : Bool := c.mode ∈ rotationRoleOrder && !c.markedForDeletion

/-- A list shows no image that is not there. -/
def listsImages (w : World) (listed : List Container) (modes : List Mode) : Bool :=
  w.loaded.all fun cluster => w.containers.all fun c => !(c.isUpgraded && c.mode ∈ modes) ||
    listed.any fun l => decide (l.name = c.name ∧ (l.image = cluster.image → c.image = cluster.image))

/-- No reconcile is under way with another image than this one. -/
def noneRunningOn (w : World) (image : String) : Bool := w.loaded.all (·.image = image)

/-- The image is set to the last applied one only while all containers have that and no reconcile is under way with
    another; and a cached list shows each container, with the loaded image only if it has that. -/
def imagesKept (w : World) : Event Unit Op EnvEvent Op.Reply → Bool
  | .env (.editImage image) =>
    image ≠ w.cluster.lastAppliedImage ||
      (noneRunningOn w image && w.containers.all fun c => !c.isUpgraded || c.image = image)
  | .reply _ .containers (.ok listed) _ => listsImages w listed rotationRoleOrder
  | .reply _ (.owned mode) (.ok listed) _ => listsImages w listed [mode]
  | _ => true

/-! ### The cluster a reconcile holds -/

/-- What a running reconcile holds against the stored cluster: an unchanged version means an unchanged cluster, and while
    it may still patch, the stored image is not the last applied one, which only it can record. -/
structure Current (w : World) (s : Stage) : Prop where
  loaded : w.loaded = s.cluster
  version : ∀ cluster, s.cluster = some cluster →
    cluster.version ≤ w.cluster.version ∧ (cluster.version = w.cluster.version → cluster = w.cluster)
  upgrading : ∀ cluster, s.cluster = some cluster → cluster.image ≠ cluster.lastAppliedImage → s.recorded = false →
    cluster.lastAppliedImage = w.cluster.lastAppliedImage ∧ w.cluster.image ≠ w.cluster.lastAppliedImage

namespace Current
variable {w w' : World} {s s' : Stage}

theorem fresh (loaded : w.loaded = none) : Current w {} := ⟨loaded, nofun, nofun⟩

section
variable (h : Current w s)
include h

theorem unchanged (loaded : w'.loaded = w.loaded) (cluster : w'.cluster = w.cluster) (same : s'.cluster = s.cluster)
    (recorded : s'.recorded = s.recorded) : Current w' s' := by
  refine ⟨loaded.trans (h.loaded.trans same.symm), ?_, ?_⟩
  · rw [same, cluster]
    exact h.version
  · rw [same, cluster, recorded]
    exact h.upgrading

theorem edited (loaded : w'.loaded = w.loaded) (version : w'.cluster.version = w.cluster.version + 1)
    (last : w'.cluster.lastAppliedImage = w.cluster.lastAppliedImage)
    (image : ∀ cluster, s.cluster = some cluster → cluster.image ≠ cluster.lastAppliedImage → s.recorded = false →
      w'.cluster.image ≠ w.cluster.lastAppliedImage) : Current w' s := by
  refine ⟨loaded.trans h.loaded, fun cluster hs => ?_, fun cluster hs other unrecorded => ?_⟩
  · have := (h.version cluster hs).1
    omega
  · rw [last]
    exact ⟨(h.upgrading cluster hs other unrecorded).1, image cluster hs other unrecorded⟩

theorem env {e : EnvEvent} (ok : ∀ image, e = .editImage image → image = w.cluster.lastAppliedImage → noneRunningOn w image = true) :
    Current (w.env e) s := by
  cases e with
  | editImage image =>
    refine h.edited rfl rfl rfl fun cluster hs other unrecorded same => ?_
    have same : image = w.cluster.lastAppliedImage := same
    have running := ok image rfl same
    rw [noneRunningOn, h.loaded, hs, Option.all_some, decide_eq_true_eq] at running
    exact other (running.trans (same.trans (h.upgrading cluster hs other unrecorded).1.symm))
  | editOverrides overrides =>
    exact h.edited rfl rfl rfl fun cluster hs other unrecorded => (h.upgrading cluster hs other unrecorded).2
  | _ => exact h.unchanged rfl rfl rfl rfl

/-- The record is written to the cluster the reconcile holds. -/
theorem recordedOn {cluster : Cluster} (hs : s.cluster = some cluster) (version : cluster.version = w.cluster.version) :
    cluster = w.cluster := (h.version cluster hs).2 version

theorem recorded (loaded : w'.loaded = w.loaded) (later : w.cluster.version ≤ w'.cluster.version)
    (same : w.cluster.version = w'.cluster.version → w.cluster = w'.cluster) : Current w' { s with recorded := true } := by
  refine ⟨loaded.trans h.loaded, fun cluster hs => ?_, fun _ _ _ => nofun⟩
  obtain ⟨le, eq⟩ := h.version cluster hs
  refine ⟨le.trans later, fun hv => ?_⟩
  have heq : cluster.version = w.cluster.version := by omega
  exact (eq heq).trans (same (heq.symm.trans hv))

theorem call {op : Op} {r : op.Reply} {applied : Bool} (hp : perform w op r applied = some w') : Current w' (s.next op r) := by
  cases op with
  | load =>
    cases r with
    | error e =>
      cases hp
      exact h
    | ok cluster =>
      obtain ⟨same, rfl⟩ := ite_some_none_eq_some.mp hp
      subst same
      refine ⟨rfl, ?_, ?_⟩
      · rintro _ ⟨rfl⟩
        exact ⟨le_rfl, fun _ => rfl⟩
      · rintro _ ⟨rfl⟩ other -
        exact ⟨rfl, other⟩
  | containers =>
    cases hp
    cases r with
    | error e => exact h
    | ok listed =>
      simp only [Stage.next]
      split
      · exact h.unchanged rfl rfl rfl rfl
      · exact h
  | rotationContainers =>
    cases r with
    | error e =>
      cases hp
      exact h
    | ok listed =>
      obtain ⟨-, rfl⟩ := ite_some_none_eq_some.mp hp
      exact h.unchanged rfl rfl rfl rfl
  | owned mode =>
    cases hp
    cases r with
    | error e => exact h
    | ok listed =>
      simp only [Stage.next]
      split
      · split
        · exact h.unchanged rfl rfl rfl rfl
        · exact h
      · exact h
  | patchRotatePod name v =>
    cases hp
    have same : (if took r applied then w.setRotatePod name v else w).loaded = w.loaded ∧
        (if took r applied then w.setRotatePod name v else w).cluster = w.cluster := by
      split
      · cases v with
        | false => exact ⟨rfl, rfl⟩
        | true => exact ⟨rfl, rfl⟩
      · exact ⟨rfl, rfl⟩
    cases v with
    | false => exact h.unchanged same.1 same.2 rfl rfl
    | true => exact h.unchanged same.1 same.2 rfl rfl
  | patchImage name image =>
    obtain ⟨b, -, rfl⟩ := map_eq_some_iff.mp hp
    have same : (if b = true then w.setImage name image else w).loaded = w.loaded ∧
        (if b = true then w.setImage name image else w).cluster = w.cluster := by
      split
      · exact ⟨rfl, rfl⟩
      · exact ⟨rfl, rfl⟩
    cases r with
    | error e => exact h.unchanged same.1 same.2 rfl rfl
    | ok c => exact h.unchanged same.1 same.2 rfl rfl
  | updateStatus image version =>
    simp only [perform] at hp
    split at hp
    · split at hp
      · cases hp
        refine h.recorded rfl (Nat.le_succ _) fun hv => ?_
        simp only [World.setLastApplied] at hv
        omega
      · cases hp
    · cases hp
      exact h.recorded rfl le_rfl fun _ => rfl
  | finish out =>
    cases hp
    rw [w.finish_eq]
    exact fresh rfl
  | _ =>
    cases hp
    exact h

end

end Current

/-! ### The invariant -/

/-- Every container has the image when the upgrade returns. -/
def Return.Aligned (r : Return) : Prop := ∀ c ∈ r.containers, c.isUpgraded = true → c.image = r.image

/-- What a reconcile was told about a container. -/
structure Told (cluster : Cluster) (s : Stage) (c : Container) : Prop where
  applied : cluster.image = cluster.lastAppliedImage → c.image = cluster.image
  aligned : c.mode ∈ s.aligned → c.image = cluster.image
  pending : ∀ names, s.pending = some names → c.image = cluster.image ∨ c.name ∈ names

/-- The invariant of images. -/
structure Imaged (w : World) (s : Stage) : Prop extends Current w s where
  returns : ∀ r ∈ w.returns, r.Aligned
  applied : w.cluster.image = w.cluster.lastAppliedImage → ∀ c ∈ w.containers, c.isUpgraded = true → c.image = w.cluster.image
  told : ∀ cluster, s.cluster = some cluster → ∀ c ∈ w.containers, c.isUpgraded = true → Told cluster s c

section Invariant
variable {w w' : World} {s : Stage}

theorem Progress.isUpgraded {c c' : Container} (h : Progress c c') (upgraded : c'.isUpgraded = true) : c.isUpgraded = true := by
  simp only [Container.isUpgraded, and_eq_true, not_eq_true', decide_eq_true_iff, h.mode] at upgraded ⊢
  refine ⟨upgraded.1, ?_⟩
  rcases hm : c.markedForDeletion with _ | _
  · rfl
  · rw [h.deletion hm] at upgraded
    cases upgraded.2

theorem Imaged.progress (h : Imaged w s) (current : Current w' s) (returns : w'.returns = w.returns)
    (applied : w'.cluster.image = w'.cluster.lastAppliedImage →
      ∀ c ∈ w.containers, c.isUpgraded = true → c.image = w'.cluster.image)
    (progress : ∀ c' ∈ w'.containers, ∃ c ∈ w.containers, Progress c c') : Imaged w' s where
  toCurrent := current
  returns := by rw [returns]; exact h.returns
  applied := by
    intro same c' hc' upgraded
    obtain ⟨c, hc, hold⟩ := progress c' hc'
    rw [hold.image]
    exact applied same c hc (hold.isUpgraded upgraded)
  told := by
    intro cluster hs c' hc' upgraded
    obtain ⟨c, hc, same⟩ := progress c' hc'
    have told := h.told cluster hs c hc (same.isUpgraded upgraded)
    refine ⟨?_, ?_, ?_⟩
    · rw [same.image]
      exact told.applied
    · rw [same.image, same.mode]
      exact told.aligned
    · rw [same.image, same.name]
      exact told.pending

theorem Imaged.stage (h : Imaged w s) {s' : Stage} (cluster : s'.cluster = s.cluster) (aligned : s'.aligned = s.aligned)
    (pending : s'.pending = s.pending) (recorded : s'.recorded = s.recorded) : Imaged w s' := by
  refine ⟨h.unchanged rfl rfl cluster recorded, h.returns, h.applied, fun cl hs c hc upgraded => ?_⟩
  rw [cluster] at hs
  have told := h.told cl hs c hc upgraded
  refine ⟨told.applied, ?_, ?_⟩
  · rw [aligned]
    exact told.aligned
  · rw [pending]
    exact told.pending

variable {cluster : Cluster} {applied : Bool} {c : Container}

theorem Imaged.load (h : Imaged w s) (current : Current { w with loaded := some w.cluster } (s.next .load (.ok w.cluster))) :
    Imaged { w with loaded := some w.cluster } (s.next .load (.ok w.cluster)) := by
  refine ⟨current, h.returns, h.applied, ?_⟩
  rintro _ ⟨rfl⟩ c hc upgraded
  exact ⟨fun same => h.applied same c hc upgraded, nofun, nofun⟩

theorem listsImages_spec {listed : List Container} {modes : List Mode} (ok : listsImages w listed modes = true)
    (loaded : w.loaded = some cluster) (hc : c ∈ w.containers) (upgraded : c.isUpgraded = true) (mode : c.mode ∈ modes) :
    ∃ l ∈ listed, l.name = c.name ∧ (l.image = cluster.image → c.image = cluster.image) := by
  simp only [listsImages, loaded, Option.all_some, List.all_eq_true, Bool.or_eq_true, Bool.not_eq_true',
    Bool.and_eq_false_iff, decide_eq_false_iff_not, List.any_eq_true, decide_eq_true_iff] at ok
  rcases ok c hc with (not | not) | shown
  · rw [upgraded] at not
    cases not
  · exact absurd mode not
  · exact shown

theorem Container.isUpgraded.mode (h : c.isUpgraded = true) : c.mode ∈ rotationRoleOrder := by
  simp only [Container.isUpgraded, and_eq_true, decide_eq_true_iff] at h
  exact h.1

section
variable (h : Imaged w s)
include h

theorem Imaged.listed {listed : List Container} (ok : listsImages w listed rotationRoleOrder = true)
    (current : Current w (s.next .containers (.ok listed))) : Imaged w (s.next .containers (.ok listed)) := by
  cases hs : s.cluster with
  | none =>
    simp only [Stage.next, hs]
    exact h
  | some cluster =>
    simp only [Stage.next, hs] at current ⊢
    refine ⟨current, h.returns, h.applied, ?_⟩
    rintro _ ⟨rfl⟩ c hc upgraded
    have told := h.told cluster hs c hc upgraded
    refine ⟨told.applied, told.aligned, ?_⟩
    rintro _ ⟨rfl⟩
    obtain ⟨l, hl, name, shown⟩ := listsImages_spec ok (h.loaded.trans hs) hc upgraded (Container.isUpgraded.mode upgraded)
    by_cases image : l.image = cluster.image
    · exact .inl (shown image)
    · refine .inr ?_
      rw [← name]
      exact mem_map_of_mem (mem_filter.mpr ⟨hl, by simp [isContainerAligned, image]⟩)

theorem Imaged.owned {mode : Mode} {listed : List Container} (ok : listsImages w listed [mode] = true)
    (current : Current w (s.next (.owned mode) (.ok listed))) : Imaged w (s.next (.owned mode) (.ok listed)) := by
  cases hs : s.cluster with
  | none =>
    simp only [Stage.next, hs]
    exact h
  | some cluster =>
    simp only [Stage.next, hs] at current ⊢
    split
    next all =>
      rw [if_pos all] at current
      refine ⟨current, h.returns, h.applied, ?_⟩
      rintro _ ⟨rfl⟩ c hc upgraded
      have told := h.told cluster hs c hc upgraded
      refine ⟨told.applied, fun among => ?_, told.pending⟩
      rcases mem_cons.mp among with same | among
      · obtain ⟨l, hl, -, shown⟩ := listsImages_spec ok (h.loaded.trans hs) hc upgraded (mem_singleton.mpr same)
        exact shown (of_decide_eq_true (and_eq_true_iff.mp (all_eq_true.mp all l hl)).1)
      · exact told.aligned among
    · exact h

theorem Imaged.patch (upgrading : s.Upgrading cluster) (name : String) {names : Option (List String)}
    (fewer : ∀ l, names = some l → ∃ l₀, s.pending = some l₀ ∧ ∀ n ∈ l₀, n ∈ l ∨ n = name) :
    Imaged (w.setImage name cluster.image) { s with aligned := [], pending := names } := by
  have hs := upgrading.loaded
  have other := (h.upgrading cluster hs upgrading.image upgrading.unrecorded).2
  refine ⟨h.unchanged rfl rfl rfl rfl, h.returns, fun same => absurd same other, ?_⟩
  intro cl hcl c hc upgraded
  obtain rfl : cluster = cl := some.inj (hs.symm.trans hcl)
  obtain ⟨c₀, hc₀, rfl⟩ := mem_map.mp hc
  by_cases same : c₀.name = name
  · rw [if_pos same]
    exact ⟨fun _ => rfl, nofun, fun _ _ => .inl rfl⟩
  · rw [if_neg same] at upgraded ⊢
    have told := h.told cluster hs c₀ hc₀ upgraded
    refine ⟨told.applied, nofun, fun l hl => ?_⟩
    obtain ⟨l₀, hl₀, among⟩ := fewer l hl
    rcases told.pending l₀ hl₀ with image | mem
    · exact .inl image
    · exact .inr ((among _ mem).resolve_right same)

theorem Imaged.finish (finished : s.Finished) : ∀ r ∈ (w.finish .next).returns, r.Aligned := by
  obtain ⟨cluster, hs, why⟩ := finished
  have loaded := h.loaded.trans hs
  simp only [World.finish, loaded, mem_append, mem_singleton]
  rintro r (hr | rfl)
  · exact h.returns r hr
  intro c hc upgraded
  have told := h.told cluster hs c hc upgraded
  rcases why with same | none | all
  · exact told.applied same
  · exact (told.pending [] none).resolve_right not_mem_nil
  · exact told.aligned (all _ (Container.isUpgraded.mode upgraded))

theorem Imaged.recorded (current : Current w { s with recorded := true }) : Imaged w { s with recorded := true } := by
  refine ⟨current, h.returns, h.applied, fun cl hs c hc upgraded => ?_⟩
  have told := h.told cl hs c hc upgraded
  exact ⟨told.applied, told.aligned, told.pending⟩

/-- The image is recorded as applied when every container has it. -/
theorem Imaged.record (upgrading : s.Upgrading cluster) (complete : s.Complete cluster) (version : cluster.version = w.cluster.version)
    (current : Current (w.setLastApplied cluster.image) { s with recorded := true }) :
    Imaged (w.setLastApplied cluster.image) { s with recorded := true } := by
  have after := h.recorded (h.toCurrent.recorded rfl le_rfl fun _ => rfl)
  refine ⟨current, h.returns, fun _ c hc upgraded => ?_, after.told⟩
  have told := h.told cluster upgrading.loaded c hc upgraded
  have image : c.image = cluster.image := by
    rcases complete with ⟨-, none⟩ | all
    · exact (told.pending [] none).resolve_right not_mem_nil
    · exact told.aligned (all _ (Container.isUpgraded.mode upgraded))
  rw [image, h.recordedOn upgrading.loaded version]
  rfl

theorem Imaged.call {op : Op} {r : op.Reply} (allowed : s.allowed op)
    (ok : imagesKept w (.reply () op r applied) = true) (hp : perform w op r applied = some w') : Imaged w' (s.next op r) := by
  have current : Current w' (s.next op r) := h.toCurrent.call hp
  cases op with
  | load =>
    cases r with
    | error e =>
      cases hp
      exact h
    | ok cluster =>
      obtain ⟨same, rfl⟩ := ite_some_none_eq_some.mp hp
      subst same
      exact h.load current
  | containers =>
    cases hp
    cases r with
    | error e => exact h
    | ok listed => exact h.listed ok current
  | rotationContainers =>
    cases r with
    | error e =>
      cases hp
      exact h
    | ok listed =>
      obtain ⟨-, rfl⟩ := ite_some_none_eq_some.mp hp
      exact h.stage rfl rfl rfl rfl
  | owned mode =>
    cases hp
    cases r with
    | error e => exact h
    | ok listed => exact h.owned ok current
  | patchRotatePod name v =>
    cases hp
    have progress : Imaged (if took r applied then w.setRotatePod name v else w) s := by
      split
      · refine h.progress (h.unchanged (w.setRotatePod_loaded name v) (w.setRotatePod_cluster name v) rfl rfl)
          (w.setRotatePod_returns name v) ?_ (w.setRotatePod_progress name v)
        rw [w.setRotatePod_cluster]
        exact h.applied
      · exact h
    cases v with
    | false => exact progress
    | true => exact progress.stage rfl rfl rfl rfl
  | patchImage name image =>
    obtain ⟨cluster, rfl, upgrading⟩ := allowed
    obtain ⟨b, took, rfl⟩ := map_eq_some_iff.mp hp
    cases r with
    | error e =>
      split
      · exact h.patch upgrading name fun l hl => ⟨l, hl, fun n hn => .inl hn⟩
      · refine ⟨h.unchanged rfl rfl rfl rfl, h.returns, h.applied, fun cl hs c hc upgraded => ?_⟩
        have told := h.told cl hs c hc upgraded
        exact ⟨told.applied, nofun, told.pending⟩
    | ok patched =>
      simp only [patchTook] at took
      split at took
      · cases took
        refine h.patch upgrading name fun l hl => ?_
        obtain ⟨l₀, hl₀, rfl⟩ := map_eq_some_iff.mp hl
        refine ⟨l₀, hl₀, fun n hn => ?_⟩
        by_cases same : n = name
        · exact .inr same
        · exact .inl (mem_filter.mpr ⟨hn, decide_eq_true same⟩)
      · cases took
  | updateStatus image version =>
    obtain ⟨cluster, rfl, rfl, upgrading, complete⟩ := allowed
    simp only [perform] at hp
    split at hp
    · split at hp
      next same =>
        cases hp
        exact h.record upgrading complete same current
      next => cases hp
    · cases hp
      exact h.recorded current
  | finish out =>
    cases hp
    have returns : ∀ r ∈ (w.finish out).returns, r.Aligned := by
      cases out with
      | next => exact h.finish allowed
      | wait why => exact h.returns
      | error why => exact h.returns
    rw [w.finish_eq] at current ⊢
    exact ⟨current, returns, h.applied, nofun⟩
  | _ =>
    cases hp
    exact h

end

end Invariant

/-! ### Whole runs -/

/-- From a cluster whose containers all run its image, through any edits but the one back to the last applied image in the
    middle of an upgrade: the step returns nil only when every container has the image it was to apply. -/
theorem handleUpgrade_nil_aligned {cfg : Config} {init : World} {s : SysState World Unit Op Op.Reply} (settled : Settled init)
    (h : (system cfg).Reachable imagesKept init s) : ∀ r ∈ s.world.returns, r.Aligned := by
  suffices imaged : ∃ st : Unit → Stage, Imaged s.world (st ()) from imaged.elim fun _ h => h.returns
  refine invariant_of_conforms (fun _ => protocol) (fun w st => Imaged w (st ())) ?_ ?_ ?_ ?_ ?_ h
  · exact fun _ => reconcile_conforms
  · refine ⟨.fresh settled.loaded, ?_, fun _ c hc _ => (settled.containers c hc).1, nofun⟩
    rw [settled.returns]
    exact fun r hr => absurd hr not_mem_nil
  · intro _ w st imaged _
    exact ⟨.fresh rfl, imaged.returns, imaged.applied, nofun⟩
  · intro _ w st op r applied w' imaged allowed ok hp
    exact ⟨trivial, imaged.call allowed ok hp⟩
  · intro w st e w' imaged ok he
    cases he
    have edit : ∀ image, e = .editImage image → image = w.cluster.lastAppliedImage → noneRunningOn w image = true ∧
        ∀ c ∈ w.containers, c.isUpgraded = true → c.image = image := by
      rintro image rfl same
      simp only [imagesKept, same, ne_eq, not_true_eq_false, decide_false, Bool.false_or, Bool.and_eq_true, List.all_eq_true,
        Bool.or_eq_true, Bool.not_eq_true', decide_eq_true_eq] at ok
      subst same
      exact ⟨ok.1, fun c hc upgraded => (ok.2 c hc).resolve_left (by rw [upgraded]; exact nofun)⟩
    refine imaged.progress (imaged.toCurrent.env fun image he same => (edit image he same).1) ?_ ?_ fun c hc => ?_
    · cases e with
      | _ => rfl
    · cases e with
      | editImage image => exact fun same => (edit image rfl same).2
      | _ => exact imaged.applied
    · obtain ⟨c₀, hc₀, same⟩ := w.env_unapproved e c hc
      exact ⟨c₀, hc₀, same.toProgress⟩

/-! ### A drive and a compute container -/

def defaultConfig : Config := ⟨true, 90, 90, 10⟩

def upgradable : World where
  cluster := { image := "weka:1", lastAppliedImage := "weka:1", version := 1, overrides := { podRotation := some true } }
  containers :=
    [{ name := "drive-0", mode := .drive, image := "weka:1", lastAppliedImage := "weka:1", nodeAffinity := "node-0",
       clusterContainerID := some 0 },
     { name := "compute-0", mode := .compute, image := "weka:1", lastAppliedImage := "weka:1", nodeAffinity := "node-1",
       clusterContainerID := some 1 }]

theorem upgradable_settled : Settled upgradable := by
  refine ⟨rfl, ?_, by decide, rfl, rfl, rfl, rfl⟩
  simp [upgradable]

def currentReplies (w : World) : (op : Op) → op.Reply
  | .load => .ok w.cluster
  | .containers => .ok w.containers
  | .rotationContainers => .ok w.containers
  | .owned mode => .ok (w.containers.filter (·.mode = mode))
  | .settings => some true
  | .clusterHealth => ⟨"weka", "cluster", "guid", true, ""⟩
  | .imagePrePull => .ok ()
  | .getExecutor _ => .ok ()
  | .prepareForUpgrade _ => .ok ()
  | .finalizeUpgrade => .ok ()
  | .wekaStatus => .ok ⟨[], "", "OK", 1, 1⟩
  | .patchRotatePod _ _ => .ok ()
  | .patchImage name image =>
    match (w.setImage name image).containers.find? (·.name = name) with
    | some c => .ok c
    | none => .error .notFound
  | .updateStatus _ _ => .ok ()
  | .finish _ => ()

def upgraded : List (System.Scene World Unit Op EnvEvent Op.Reply) :=
  [.event (.env (.editImage "weka:3")), .event (.env (.editImage "weka:1")), .event (.env (.editImage "weka:2")), .pass () currentReplies 40, .event (.env (.applied "drive-0")),
    .pass () currentReplies 40, .event (.env (.applied "compute-0")), .pass () currentReplies 40]

/-- The image is set forth and back before any reconcile, then to a second one, which both containers apply. -/
theorem handleUpgrade_nil_aligned_upgraded : ∃ s : SysState World Unit Op Op.Reply,
    (system defaultConfig).Reachable imagesKept upgradable s ∧ s.world.returns.length = 1 ∧ ∀ r ∈ s.world.returns, r.Aligned :=
  System.Reachable.of_play_and upgraded (by decide +kernel) (handleUpgrade_nil_aligned upgradable_settled)

def setBack : List (System.Scene World Unit Op EnvEvent Op.Reply) :=
  [.event (.env (.editImage "weka:2")), .pass () currentReplies 40, .event (.env (.editImage "weka:1")),
    .pass () currentReplies 40]

/-- The step then returns nil with the drive container on the second image. -/
theorem handleUpgrade_nil_misaligned : Settled upgradable ∧ ∃ s : SysState World Unit Op Op.Reply,
    (system defaultConfig).Reachable (fun _ _ => true) upgradable s ∧ ∃ r ∈ s.world.returns, ¬r.Aligned := by
  obtain ⟨s, reachable, r, hr, image, c, hc, upgraded, moved⟩ : ∃ s : SysState World Unit Op Op.Reply,
      (system defaultConfig).Reachable (fun _ _ => true) upgradable s ∧ ∃ r ∈ s.world.returns,
        r.image = "weka:1" ∧ ∃ c ∈ r.containers, c.isUpgraded = true ∧ c.image = "weka:2" :=
    System.Reachable.of_play setBack (by decide +kernel)
  refine ⟨upgradable_settled, s, reachable, r, hr, fun aligned => ?_⟩
  have same := aligned c hc upgraded
  rw [image, moved] at same
  exact absurd same (by decide)

end WekaOperator.Upgrade
