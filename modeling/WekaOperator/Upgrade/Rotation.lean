import WekaOperator.Upgrade.Images

/-! Pod rotations and image upgrades exclude each other: one rotation at a time, no image patched while one is
    approved, none approved while an image is being applied. The first two hold in every run; the last one as long as the
    image is not set back to the last applied one while a container is still applying another. -/

namespace WekaOperator.Upgrade
open List Bool Lib Operations

/-! ### The condition -/

/-- A backend container that stays on its node. -/
def Container.isPlaced (c : Container) : Bool := c.isBackend && c.nodeAffinity ≠ "" && !rotationExempt c

/-- No cluster is loaded that upgrades all at once. -/
def oneAtATime (_ : World) : Event Unit Op EnvEvent Op.Reply → Bool
  | .reply _ .load (.ok cluster) _ => !cluster.overrides.upgradeAllAtOnce
  | _ => true

/-- A cached list of a role shows its placed containers, and shows the image applied only by one that runs its image. -/
def listsApplied (w : World) (listed : List Container) (mode : Mode) : Bool :=
  w.loaded.all fun cluster => w.containers.all fun c => !(c.isPlaced && c.mode = mode) ||
    listed.any fun l => decide (l.name = c.name ∧ l.nodeAffinity ≠ "" ∧ l.markedForDeletion = false ∧
      (l.image = cluster.image → l.lastAppliedImage = cluster.image → c.lastAppliedImage = c.image))

/-- The upgrade goes role by role; the image is set to the last applied one only while every placed container runs its
    image and no reconcile is under way with another; and cached lists show what has been applied. -/
def rotationsApart (w : World) : Event Unit Op EnvEvent Op.Reply → Bool
  | .reply _ .load (.ok cluster) _ => !cluster.overrides.upgradeAllAtOnce
  | .reply _ (.owned mode) (.ok listed) _ => listsApplied w listed mode
  | .env (.editImage image) =>
    image ≠ w.cluster.lastAppliedImage ||
      (noneRunningOn w image && w.containers.all fun c => !c.isPlaced || c.lastAppliedImage = c.image)
  | _ => true

/-! ### The invariant -/

/-- No rotation is approved. -/
def NoneApproved (containers : List Container) : Prop := ∀ c ∈ containers, c.isBackend = true → c.rotatePod = false

/-- One rotation at most is approved. -/
def OneApproved (containers : List Container) : Prop :=
  ∀ c ∈ containers, ∀ c' ∈ containers, c.isBackend = true → c.rotatePod = true → c'.isBackend = true → c'.rotatePod = true →
    c.name = c'.name

/-- No upgrade was under way at the approval. -/
def Approval.Alone (a : Approval) : Prop :=
  ∀ c ∈ a.containers, c.name ≠ a.name → c.isPlaced = true → c.lastAppliedImage = c.image

/-- No rotation was approved when the image was set. -/
def ImagePatch.Alone (p : ImagePatch) : Prop := NoneApproved p.containers

/-- The invariant of rotations and upgrades. -/
structure Apart (w : World) (s : Stage) : Prop extends Current w s where
  single : OneApproved w.containers
  approvals : ∀ a ∈ w.approvals, a.Alone
  patches : ∀ p ∈ w.patches, p.Alone
  oneAtATime : ∀ cluster, s.cluster = some cluster → cluster.overrides.upgradeAllAtOnce = false
  applied : ∀ cluster, s.cluster = some cluster → cluster.image = cluster.lastAppliedImage →
    ∀ c ∈ w.containers, c.isPlaced = true → c.lastAppliedImage = c.image
  unapproved : s.unapproved = true → NoneApproved w.containers
  settled : w.cluster.image = w.cluster.lastAppliedImage → ∀ c ∈ w.containers, c.isPlaced = true → c.lastAppliedImage = c.image
  told : s.cluster.isSome → ∀ c ∈ w.containers, c.isPlaced = true → c.mode ∈ s.aligned → c.lastAppliedImage = c.image

section Invariant
variable {w w' : World} {s : Stage}

theorem Progress.isBackend {c c' : Container} (h : Progress c c') : c'.isBackend = c.isBackend := by
  rw [Container.isBackend, Container.isBackend, h.mode]

theorem Progress.isPlaced {c c' : Container} (h : Progress c c') (placed : c'.isPlaced = true) : c.isPlaced = true := by
  simp only [Container.isPlaced, and_eq_true, not_eq_true', h.isBackend, h.nodeAffinity] at placed ⊢
  refine ⟨placed.1, ?_⟩
  rcases hm : rotationExempt c with _ | _
  · rfl
  · rw [h.exempt hm] at placed
    cases placed.2

/-- Before a cluster is loaded nothing is known of it. -/
theorem Apart.closed (current : Current w {}) (single : OneApproved w.containers) (approvals : ∀ a ∈ w.approvals, a.Alone)
    (patches : ∀ p ∈ w.patches, p.Alone) (settled : w.cluster.image = w.cluster.lastAppliedImage →
      ∀ c ∈ w.containers, c.isPlaced = true → c.lastAppliedImage = c.image) : Apart w {} := by
  refine ⟨current, single, approvals, patches, fun _ hs => ?_, fun _ hs => ?_, fun hu => ?_, settled, fun hs => ?_⟩
  · cases hs
  · cases hs
  · cases hu
  · cases hs

section
variable (h : Apart w s)
include h

theorem Apart.progress (current : Current w' s) (approvals : w'.approvals = w.approvals) (patches : w'.patches = w.patches)
    (settled : w'.cluster.image = w'.cluster.lastAppliedImage →
      ∀ c ∈ w.containers, c.isPlaced = true → c.lastAppliedImage = c.image)
    (progress : ∀ c' ∈ w'.containers, ∃ c ∈ w.containers, Unapproved c c') : Apart w' s where
  toCurrent := current
  single := by
    intro a ha b hb backend approved backend' approved'
    obtain ⟨a₀, ha₀, hold⟩ := progress a ha
    obtain ⟨b₀, hb₀, hold'⟩ := progress b hb
    rw [hold.isBackend] at backend
    rw [hold'.isBackend] at backend'
    rw [hold.name, hold'.name]
    exact h.single a₀ ha₀ b₀ hb₀ backend (hold.rotatePod approved) backend' (hold'.rotatePod approved')
  approvals := by rw [approvals]; exact h.approvals
  patches := by rw [patches]; exact h.patches
  oneAtATime := h.oneAtATime
  applied := by
    intro cluster hs same c' hc' placed
    obtain ⟨c, hc, hold⟩ := progress c' hc'
    exact hold.applied (h.applied cluster hs same c hc (hold.isPlaced placed))
  unapproved := by
    intro hs c' hc' backend
    obtain ⟨c, hc, hold⟩ := progress c' hc'
    rw [hold.isBackend] at backend
    have off := h.unapproved hs c hc backend
    rcases approved : c'.rotatePod with _ | _
    · rfl
    · rw [hold.rotatePod approved] at off
      cases off
  settled := by
    intro same c' hc' placed
    obtain ⟨c, hc, hold⟩ := progress c' hc'
    exact hold.applied (settled same c hc (hold.isPlaced placed))
  told := by
    intro loaded c' hc' placed mode
    obtain ⟨c, hc, hold⟩ := progress c' hc'
    exact hold.applied (h.told loaded c hc (hold.isPlaced placed) (hold.mode ▸ mode))

theorem Apart.stage {s' : Stage} (current : Current w s') (cluster : s'.cluster = s.cluster)
    (unapproved : s'.unapproved = true → NoneApproved w.containers) (aligned : ∀ mode ∈ s'.aligned, mode ∈ s.aligned) : Apart w s' := by
  refine ⟨current, h.single, h.approvals, h.patches, by rw [cluster]; exact h.oneAtATime, by rw [cluster]; exact h.applied,
    unapproved, h.settled, fun loaded c hc placed mode => ?_⟩
  rw [cluster] at loaded
  exact h.told loaded c hc placed (aligned _ mode)

variable {cluster : Cluster} {applied : Bool}

theorem Apart.load (ok : rotationsApart w (.reply () .load (.ok w.cluster) applied) = true)
    (current : Current { w with loaded := some w.cluster } (s.next .load (.ok w.cluster))) :
    Apart { w with loaded := some w.cluster } (s.next .load (.ok w.cluster)) := by
  simp only [rotationsApart, not_eq_true'] at ok
  refine ⟨current, h.single, h.approvals, h.patches, ?_, ?_, nofun, h.settled, fun _ _ _ _ => nofun⟩
  · rintro _ ⟨rfl⟩
    exact ok
  · rintro _ ⟨rfl⟩ same c hc placed
    exact h.settled same c hc placed

theorem Apart.owned {mode : Mode} {listed : List Container} (ok : listsApplied w listed mode = true)
    (current : Current w (s.next (.owned mode) (.ok listed))) : Apart w (s.next (.owned mode) (.ok listed)) := by
  cases hs : s.cluster with
  | none =>
    simp only [Stage.next, hs]
    exact h
  | some cluster =>
    simp only [Stage.next, hs] at current ⊢
    split
    next all =>
      rw [if_pos all] at current
      refine ⟨current, h.single, h.approvals, h.patches, by rw [← hs]; exact h.oneAtATime, by rw [← hs]; exact h.applied,
        h.unapproved, h.settled, fun _ c hc placed among => ?_⟩
      rcases mem_cons.mp among with same | among
      · simp only [listsApplied, h.loaded, hs, Option.all_some, all_eq_true, or_eq_true, not_eq_true', and_eq_false_iff,
          decide_eq_false_iff_not, any_eq_true, decide_eq_true_eq] at ok
        rcases ok c hc with (not | not) | ⟨l, hl, -, onNode, stays, shown⟩
        · rw [placed] at not
          cases not
        · exact absurd same not
        -- the listed container is done, hence it has applied the image
        · have done := all_eq_true.mp all l hl
          simp only [Container.isDone, isContainerAligned, isContainerApplied, stays, onNode, Bool.or_false, and_eq_true,
            decide_eq_true_eq, decide_false] at done
          exact shown done.1 done.2
      · exact h.told (by rw [hs]; rfl) c hc placed among
    · exact h

theorem Apart.listed (current : Current w (s.next .rotationContainers (.ok w.containers))) :
    Apart w (s.next .rotationContainers (.ok w.containers)) := by
  refine h.stage current rfl (fun none c hc backend => ?_) fun _ hm => hm
  rw [Stage.next, not_eq_true', anyApproved, any_eq_false] at none
  have off := none c (mem_filter.mpr ⟨hc, backend⟩)
  rw [not_eq_true] at off
  exact off

theorem Apart.approve (rotating : s.Rotating cluster) (name : String)
    (current : Current (w.setRotatePod name true) { s with unapproved := false }) :
    Apart (w.setRotatePod name true) { s with unapproved := false } := by
  have none : NoneApproved w.containers := by
    rcases rotating.unapproved with atOnce | unapproved
    · rw [h.oneAtATime cluster rotating.loaded] at atOnce
      cases atOnce
    · exact h.unapproved unapproved
  have only : ∀ c ∈ (w.setRotatePod name true).containers, c.isBackend = true → c.rotatePod = true → c.name = name := by
    intro c hc backend on
    obtain ⟨c₀, hc₀, rfl⟩ := mem_map.mp hc
    by_cases hit : c₀.name = name
    · rw [if_pos hit]
      exact hit
    · rw [if_neg hit] at backend on
      rw [none c₀ hc₀ backend] at on
      cases on
  have runs : ∀ c' ∈ (w.setRotatePod name true).containers, c'.isPlaced = true → c'.lastAppliedImage = c'.image := by
    intro c' hc' placed
    obtain ⟨c, hc, progress⟩ := w.setRotatePod_progress name true c' hc'
    exact progress.applied (h.applied cluster rotating.loaded rotating.image c hc (progress.isPlaced placed))
  refine ⟨current, ?_, ?_, h.patches, h.oneAtATime, fun _ _ _ => runs, nofun, fun _ => runs, fun _ c hc placed _ => runs c hc placed⟩
  · intro c hc c' hc' backend on backend' on'
    rw [only c hc backend on, only c' hc' backend' on']
  · intro a ha
    rcases mem_append.mp ha with ha | ha
    · exact h.approvals a ha
    · obtain rfl := mem_singleton.mp ha
      exact fun c hc _ placed => h.applied cluster rotating.loaded rotating.image c hc placed

theorem Apart.patch (upgrading : s.Upgrading cluster) (name : String) :
    Apart (w.setImage name cluster.image) { s with aligned := [] } := by
  have none := h.unapproved upgrading.unapproved
  have none' : NoneApproved (w.setImage name cluster.image).containers := by
    intro c hc backend
    obtain ⟨c₀, hc₀, rfl⟩ := mem_map.mp hc
    by_cases hit : c₀.name = name
    · rw [if_pos hit] at backend ⊢
      exact none c₀ hc₀ backend
    · rw [if_neg hit] at backend ⊢
      exact none c₀ hc₀ backend
  have other := (h.upgrading cluster upgrading.loaded upgrading.image upgrading.unrecorded).2
  refine ⟨h.toCurrent.unchanged rfl rfl rfl rfl, ?_, h.approvals, ?_, h.oneAtATime, ?_, fun _ => none',
    fun same => absurd same other, fun _ _ _ _ => nofun⟩
  · intro c hc c' _ backend on
    rw [none' c hc backend] at on
    cases on
  · intro p hp
    rcases mem_append.mp hp with hp | hp
    · exact h.patches p hp
    · obtain rfl := mem_singleton.mp hp
      exact none
  · intro cl hs image
    obtain rfl := Option.some.inj (upgrading.loaded.symm.trans hs)
    exact absurd image upgrading.image

/-- The image is recorded as applied when every placed container runs it. -/
theorem Apart.record (upgrading : s.Upgrading cluster) (complete : s.Complete cluster)
    (current : Current (w.setLastApplied cluster.image) { s with recorded := true }) :
    Apart (w.setLastApplied cluster.image) { s with recorded := true } := by
  refine ⟨current, h.single, h.approvals, h.patches, h.oneAtATime, h.applied, h.unapproved, fun _ c hc placed => ?_, h.told⟩
  rcases complete with ⟨atOnce, -⟩ | all
  · rw [h.oneAtATime cluster upgrading.loaded] at atOnce
    cases atOnce
  · refine h.told (by rw [upgrading.loaded]; rfl) c hc placed (all _ ?_)
    simp only [Container.isPlaced, and_eq_true] at placed
    have backend := of_decide_eq_true placed.1.1
    generalize c.mode = mode at backend ⊢
    revert backend
    cases mode <;> decide

theorem Apart.call {op : Op} {r : op.Reply} (allowed : s.allowed op)
    (ok : rotationsApart w (.reply () op r applied) = true) (hp : perform w op r applied = some w') :
    Apart w' (s.next op r) := by
  have current : Current w' (s.next op r) := h.toCurrent.call hp
  cases op with
  | load =>
    cases r with
    | error e =>
      cases hp
      exact h
    | ok cluster =>
      obtain ⟨same, rfl⟩ := Option.ite_some_none_eq_some.mp hp
      subst same
      exact h.load ok current
  | containers =>
    cases hp
    cases r with
    | error e => exact h
    | ok listed =>
      cases hs : s.cluster with
      | none =>
        simp only [Stage.next, hs]
        exact h
      | some cluster =>
        simp only [Stage.next, hs] at current ⊢
        exact h.stage current hs.symm h.unapproved fun _ hm => hm
  | rotationContainers =>
    cases r with
    | error e =>
      cases hp
      exact h
    | ok listed =>
      obtain ⟨same, rfl⟩ := Option.ite_some_none_eq_some.mp hp
      subst same
      exact h.listed current
  | owned mode =>
    cases hp
    cases r with
    | error e => exact h
    | ok listed => exact h.owned ok current
  | patchRotatePod name v =>
    cases hp
    cases v with
    | false =>
      simp only [Stage.next] at current ⊢
      by_cases ht : took r applied = true
      · rw [if_pos ht] at current ⊢
        exact h.progress current rfl rfl h.settled
          (World.mem_update Unapproved.refl fun c => ⟨⟨rfl, rfl, rfl, rfl, id, id, id⟩, fun h => (by cases h)⟩)
      · rw [if_neg ht]
        exact h
    | true =>
      obtain ⟨cluster, rotating⟩ := allowed
      simp only [Stage.next] at current ⊢
      by_cases ht : took r applied = true
      · rw [if_pos ht] at current ⊢
        exact h.approve rotating name current
      · rw [if_neg ht] at current ⊢
        exact h.stage current rfl (fun h => (by cases h)) fun _ hm => hm
  | patchImage name image =>
    obtain ⟨cluster, rfl, upgrading⟩ := allowed
    obtain ⟨b, -, rfl⟩ := Option.map_eq_some_iff.mp hp
    have patched : Apart (if b = true then w.setImage name cluster.image else w) { s with aligned := [] } := by
      split
      · exact h.patch upgrading name
      · exact h.stage (h.toCurrent.unchanged rfl rfl rfl rfl) rfl h.unapproved fun _ hm => absurd hm not_mem_nil
    cases r with
    | error e => exact patched
    | ok c => exact patched.stage current rfl patched.unapproved fun _ hm => hm
  | updateStatus image version =>
    obtain ⟨cluster, rfl, rfl, upgrading, complete⟩ := allowed
    simp only [perform] at hp
    split at hp
    · split at hp
      · cases hp
        exact h.record upgrading complete current
      · cases hp
    · cases hp
      exact h.stage current rfl h.unapproved fun _ hm => hm
  | finish out =>
    cases hp
    rw [w.finish_eq] at current ⊢
    exact .closed current h.single h.approvals h.patches h.settled
  | _ =>
    cases hp
    exact h

end

end Invariant

/-! ### Whole runs -/

/-- From a cluster whose containers all run its image: at most one rotation is approved at a time, none while another
    placed container does not run its image, and no image is patched while one is, as long as the image is not set back to
    the last applied one while a container is applying another. -/
theorem rotations_apart {cfg : Config} {init : World} {s : SysState World Unit Op Op.Reply} (settled : Settled init)
    (h : (system cfg).Reachable rotationsApart init s) :
    OneApproved s.world.containers ∧ (∀ a ∈ s.world.approvals, a.Alone) ∧ ∀ p ∈ s.world.patches, p.Alone := by
  suffices apart : ∃ st : Unit → Stage, Apart s.world (st ()) from
    apart.elim fun _ h => ⟨h.single, h.approvals, h.patches⟩
  refine invariant_of_conforms (fun _ => protocol) (fun w st => Apart w (st ())) ?_ ?_ ?_ ?_ ?_ h
  · exact fun _ => reconcile_conforms
  · refine .closed (.fresh settled.loaded) (fun c hc _ _ _ on => ?_) ?_ ?_ fun _ c hc _ => ?_
    · rw [(settled.containers c hc).2.2] at on
      cases on
    · rw [settled.approvals]
      exact fun a ha => absurd ha not_mem_nil
    · rw [settled.patches]
      exact fun p hp => absurd hp not_mem_nil
    · obtain ⟨image, applied, -⟩ := settled.containers c hc
      rw [image, applied]
  · intro _ w st apart _
    exact .closed (.fresh rfl) apart.single apart.approvals apart.patches apart.settled
  · intro _ w st op r applied w' apart allowed ok hp
    exact ⟨trivial, apart.call allowed ok hp⟩
  · intro w st e w' apart ok he
    cases he
    have edit : ∀ image, e = .editImage image → image = w.cluster.lastAppliedImage → noneRunningOn w image = true ∧
        ∀ c ∈ w.containers, c.isPlaced = true → c.lastAppliedImage = c.image := by
      rintro image rfl same
      simp only [rotationsApart, same, ne_eq, not_true_eq_false, decide_false, Bool.false_or, and_eq_true, all_eq_true,
        or_eq_true, not_eq_true', decide_eq_true_eq] at ok
      subst same
      exact ⟨ok.1, fun c hc placed => (ok.2 c hc).resolve_left (by rw [placed]; exact nofun)⟩
    refine apart.progress (apart.toCurrent.env fun image he same => (edit image he same).1) ?_ ?_ ?_ (w.env_unapproved e)
    · cases e with
      | _ => rfl
    · cases e with
      | _ => rfl
    · cases e with
      | editImage image => exact fun same => (edit image rfl same).2
      | _ => exact apart.settled

def rotatedThenEdited : List (System.Scene World Unit Op EnvEvent Op.Reply) :=
  [.event (.env (.podOutdated "compute-0" true)), .pass () currentReplies 40, .event (.env (.editImage "weka:2")),
    .pass () currentReplies 40, .event (.env (.podOutdated "compute-0" false)), .pass () currentReplies 40,
    .pass () currentReplies 40]

theorem rotations_apart_edited : ∃ s : SysState World Unit Op Op.Reply,
    (system defaultConfig).Reachable rotationsApart upgradable s ∧ s.world.approvals.length = 1 ∧ s.world.patches.length = 1 ∧
    OneApproved s.world.containers ∧ (∀ a ∈ s.world.approvals, a.Alone) ∧ ∀ p ∈ s.world.patches, p.Alone := by
  obtain ⟨s, reachable, approved, patched⟩ : ∃ s : SysState World Unit Op Op.Reply,
      (system defaultConfig).Reachable rotationsApart upgradable s ∧ s.world.approvals.length = 1 ∧
        s.world.patches.length = 1 := System.Reachable.of_play rotatedThenEdited (by decide +kernel)
  exact ⟨s, reachable, approved, patched, rotations_apart upgradable_settled reachable⟩

def setBackAndOutdated : List (System.Scene World Unit Op EnvEvent Op.Reply) :=
  [.event (.env (.editImage "weka:2")), .pass () currentReplies 40, .event (.env (.podOutdated "compute-0" true)),
    .event (.env (.editImage "weka:1")), .pass () currentReplies 40]

/-- The rotation is then approved while the drive container does not run its image. -/
theorem rotation_approved_midUpgrade : Settled upgradable ∧ ∃ s : SysState World Unit Op Op.Reply,
    (system defaultConfig).Reachable oneAtATime upgradable s ∧ ∃ a ∈ s.world.approvals, ¬a.Alone := by
  obtain ⟨s, reachable, a, ha, c, hc, other, placed, moving⟩ : ∃ s : SysState World Unit Op Op.Reply,
      (system defaultConfig).Reachable oneAtATime upgradable s ∧ ∃ a ∈ s.world.approvals,
        ∃ c ∈ a.containers, c.name ≠ a.name ∧ c.isPlaced = true ∧ c.lastAppliedImage ≠ c.image :=
    System.Reachable.of_play setBackAndOutdated (by decide +kernel)
  exact ⟨upgradable_settled, s, reachable, a, ha, fun alone => moving (alone c hc other placed)⟩

end WekaOperator.Upgrade
