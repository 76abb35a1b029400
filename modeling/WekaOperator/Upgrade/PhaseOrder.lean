import WekaOperator.Upgrade.Images

/-! The order of a rolling image upgrade. -/

namespace WekaOperator.Upgrade
open List Lib Operations

/-- The number of a role's phase. -/
def Mode.upgradePhase : Mode → Nat
  | .drive => 0
  | .compute => 1
  | .dataServices => 2
  | .s3 | .nfs | .smbw => 3
  | .other => 4

/-- What was read since the cluster was loaded. -/
structure Reads where
  cluster : Option Cluster := none
  roles : List Mode := []
  containers : List Container := []

namespace Reads

/-- The reads after a call. -/
def next (s : Reads) : (op : Op) → op.Reply → Reads
  | .load, .ok cluster => { cluster := some cluster }
  | .owned mode, .ok listed => { s with roles := mode :: s.roles, containers := s.containers ++ listed }
  | _, _ => s

/-- Earlier phases are applied, and the others of the phase before it. -/
def InOrder (s : Reads) (target name : String) : Prop :=
  ∃ c ∈ s.containers, c.name = name ∧
    (∀ mode ∈ rotationRoleOrder, mode.upgradePhase ≤ c.mode.upgradePhase → mode ∈ s.roles) ∧
    ∀ x ∈ s.containers, x.counts →
      (x.mode.upgradePhase < c.mode.upgradePhase → x.lastAppliedImage = target) ∧
      (x.mode.upgradePhase = c.mode.upgradePhase → x.image = target → x.lastAppliedImage = target)

/-- Images are set in the order of the phases. -/
def allowed (s : Reads) : Op → Prop
  | .patchImage name image => ∃ cluster, s.cluster = some cluster ∧ image = cluster.image ∧
      (cluster.overrides.upgradeAllAtOnce = false → s.InOrder image name)
  | _ => True

end Reads

/-- A list is of the role asked for. -/
def listsRole : (op : Op) → op.Reply → Bool
  | .owned mode, .ok listed => listed.all (·.mode = mode)
  | _, _ => true

/-- The protocol of the phases. -/
def phases : Protocol Op Op.Reply Reads where
  fresh := {}
  next := Reads.next
  allowed := Reads.allowed
  admits op r := listsRole op r = true

/-! ### The rolling upgrade of a role -/

variable {containers : List Container}

/-- The containers of a phase are read, those of earlier ones done. -/
structure Reading (cluster : Cluster) (k : Nat) (roles : List Mode) (listed : List Container) (s : Reads) : Prop where
  loaded : s.cluster = some cluster
  earlier : ∀ mode ∈ rotationRoleOrder, mode.upgradePhase < k → mode ∈ s.roles
  current : ∀ mode ∈ roles, mode ∈ s.roles
  done : ∀ x ∈ s.containers, x ∈ listed ∨ x.mode.upgradePhase < k ∧ (x.counts → x.lastAppliedImage = cluster.image)
  own : ∀ x ∈ listed, x ∈ s.containers ∧ x.mode.upgradePhase = k

/-- These are all roles of the phase. -/
def Covers (k : Nat) (roles : List Mode) : Prop := ∀ mode ∈ rotationRoleOrder, mode.upgradePhase = k → mode ∈ roles

variable {R : Reads → Prop} {drives : List Container}

section Conforms
variable {cfg : Config} {cluster : Cluster} {k : Nat} {roles : List Mode} {listed : List Container} {s : Reads} {α : Type}

theorem Reading.inOrder (h : Reading cluster k roles listed s) (covers : Covers k roles)
    (applied : ∀ x ∈ listed, x.counts → x.image = cluster.image → x.lastAppliedImage = cluster.image) {c : Container}
    (mem : c ∈ listed) : s.InOrder cluster.image c.name := by
  obtain ⟨mem, phase⟩ := h.own c mem
  refine ⟨c, mem, rfl, fun mode role le => ?_, fun x mem counts => ?_⟩
  · rw [phase] at le
    rcases le.lt_or_eq with before | same
    · exact h.earlier mode role before
    · exact h.current mode (covers mode role same)
  · rw [phase]
    rcases h.done x mem with mem | ⟨before, run⟩
    · exact ⟨fun lt => absurd (h.own x mem).2 lt.ne, fun _ => applied x mem counts⟩
    · exact ⟨fun _ => run counts, fun same => absurd same before.ne⟩

theorem Reading.through (h : Reading cluster k roles listed s) (covers : Covers k roles)
    (run : ∀ x ∈ listed, x.counts → x.lastAppliedImage = cluster.image) : Reading cluster (k + 1) [] [] s where
  loaded := h.loaded
  earlier mode role before := by
    rcases (Nat.lt_succ_iff.mp before).lt_or_eq with before | same
    · exact h.earlier mode role before
    · exact h.current mode (covers mode role same)
  current := forall_mem_nil _
  done x mem := by
    rcases h.done x mem with mem | ⟨before, done⟩
    · exact .inr ⟨(h.own x mem).2 ▸ Nat.lt_succ_self k, run x mem⟩
    · exact .inr ⟨before.trans (Nat.lt_succ_self k), done⟩
  own := forall_mem_nil _

/-- A part that goes on only if `R` holds. -/
def Leaves (R : Reads → Prop) (p : P Outcome) (s : Reads) : Prop := p.Conforms phases (fun out s' => out = .next → R s') s

theorem Leaves.next (h : R s) : Leaves R (return .next) s := fun _ => h

variable {why : String}

theorem Leaves.wait : Leaves R (return .wait why) s := nofun

theorem Leaves.error : Leaves R (return .error why) s := nofun

theorem Leaves.andThen {R' : Reads → Prop} {step rest : P Outcome} (hstep : Leaves R step s)
    (hrest : ∀ s', R s' → Leaves R' rest s') : Leaves R' (andThen step rest) s := by
  refine .bind hstep fun out s' hs => ?_
  cases out with
  | next => exact hrest s' (hs rfl)
  | wait why => exact Leaves.wait
  | error why => exact Leaves.error

variable {p : P Outcome}

theorem Leaves.anywhere {Q : Outcome → Reads → Prop} (h : p.Conforms phases Q s) : Leaves (fun _ => True) p s := by
  refine .mono (fun _ _ _ _ => ?_) h
  trivial

/-- Calls that the order is not about. -/
def Op.Unlisting : Op → Prop
  | .load | .owned _ | .patchImage _ _ => False
  | _ => True

theorem Reads.unlisting (s : Reads) (op : Op) (h : op.Unlisting) : s.allowed op ∧ ∀ r, s.next op r = s := by
  cases op with
  | load | owned _ | patchImage _ _ => cases h
  | _ => exact ⟨trivial, fun _ => rfl⟩

theorem unlisting_conforms {p : P α} (h : p.Only Op.Unlisting) : p.Conforms phases (fun _ s' => s' = s) s :=
  h.conforms s.unlisting

theorem Op.Quiet.unlisting (op : Op) (h : op.Quiet) : op.Unlisting := by
  cases op with
  | load | owned _ | patchImage _ _ => cases h
  | _ => trivial

theorem recordApplied_unlisting (cluster : Cluster) : (recordApplied cluster).Only Op.Unlisting := by
  refine .bind ⟨trivial, fun _ => trivial⟩ fun r => ?_
  cases r with
  | error e => trivial
  | ok _ => trivial

theorem Leaves.quiet (h : p.Only Op.Quiet) : Leaves (· = s) p s := by
  refine .mono (fun _ _ same _ => ?_) (unlisting_conforms (h.mono Op.Quiet.unlisting))
  exact same

section
variable (h : Reading cluster k roles listed s)
include h

theorem rollingUpgrade_leaves (covers : Covers k roles) :
    Leaves (Reading cluster (k + 1) [] []) (rollingUpgrade cluster.image cfg listed) s := by
  rw [rollingUpgrade]
  split
  · exact .wait
  next none =>
    have applied := upgradeWaits_none none
    split
    next aligned =>
      refine .next (h.through covers fun x mem counts => applied x mem counts ?_)
      simpa [isContainerAligned] using List.find?_eq_none.mp aligned x mem
    next c found =>
      have mem : c ∈ listed := mem_of_find?_eq_some found
      refine ⟨⟨cluster, h.loaded, rfl, fun _ => h.inOrder covers applied mem⟩, fun r _ => ?_⟩
      cases r with
      | error e => exact Leaves.error
      | ok _ => exact Leaves.wait

theorem upgradeRole_leaves (covers : Covers k roles) (phase : Phase) :
    Leaves (Reading cluster (k + 1) [] []) (upgradeRole cfg cluster phase listed) s := by
  refine (Leaves.quiet (prepare_quiet _ phase listed)).andThen fun s' same => ?_
  subst same
  exact rollingUpgrade_leaves h covers

theorem withOwned_leaves {mode : Mode} {rest : List Container → P Outcome} (phase : mode.upgradePhase = k)
    (hrest : ∀ more s', Reading cluster k (mode :: roles) (listed ++ more) s' → Leaves R (rest more) s') :
    Leaves R (withOwned mode rest) s := by
  refine ⟨trivial, fun r admitted => ?_⟩
  cases r with
  | error e => exact Leaves.error
  | ok more =>
    have ofRole : ∀ x ∈ more, x.mode = mode := by
      simpa [phases, listsRole] using admitted
    refine hrest more _ ⟨h.loaded, fun m role before => ?_, fun m mem => ?_, fun x mem => ?_, fun x mem => ?_⟩
    · exact mem_cons_of_mem _ (h.earlier m role before)
    · rcases mem_cons.mp mem with rfl | mem
      · exact mem_cons_self
      · exact mem_cons_of_mem _ (h.current m mem)
    · rcases mem_append.mp mem with mem | mem
      · rcases h.done x mem with mem | done
        · exact .inl (mem_append_left _ mem)
        · exact .inr done
      · exact .inl (mem_append_right _ mem)
    · rcases mem_append.mp mem with mem | mem
      · exact ⟨mem_append_left _ (h.own x mem).1, (h.own x mem).2⟩
      · refine ⟨mem_append_right _ mem, ?_⟩
        rw [ofRole x mem, phase]

end

/-! ### Role by role -/

theorem upgradeFrontends_leaves (h : Reading cluster 3 [] [] s) :
    Leaves (fun _ => True) (upgradeFrontends cfg cluster drives) s := by
  refine withOwned_leaves h rfl fun s3 s₁ h₁ => withOwned_leaves h₁ rfl fun nfs s₂ h₂ =>
    withOwned_leaves h₂ rfl fun smbw s₃ h₃ => ?_
  refine (upgradeRole_leaves h₃ (by unfold Covers; decide) .frontend).andThen fun s' _ => ?_
  refine (Leaves.quiet (finalizeUpgrade_quiet drives)).andThen fun s'' _ => ?_
  exact Leaves.anywhere (unlisting_conforms (recordApplied_unlisting cluster))

theorem upgradeDataServices_leaves (h : Reading cluster 2 [] [] s) :
    Leaves (fun _ => True) (upgradeDataServices cfg cluster drives) s := by
  refine withOwned_leaves h rfl fun dataServices s₁ h₁ => ?_
  have covers : Covers 2 [.dataServices] := by unfold Covers; decide
  have role : Leaves (Reading cluster 3 [] [])
      (if dataServices.length > 0 then upgradeRole cfg cluster .dataServices dataServices else return .next) s₁ := by
    split
    · exact upgradeRole_leaves h₁ covers .dataServices
    next none =>
      obtain rfl := length_eq_zero_iff.mp (Nat.eq_zero_of_not_pos none)
      exact .next (h₁.through covers fun x mem => absurd mem not_mem_nil)
  exact role.andThen fun s' h' => upgradeFrontends_leaves h'

theorem upgradeComputes_leaves (h : Reading cluster 1 [] [] s) :
    Leaves (fun _ => True) (upgradeComputes cfg cluster drives) s := by
  refine withOwned_leaves h rfl fun computes s₁ h₁ => ?_
  split
  · exact .wait
  · have covers : Covers 1 [.compute] := by unfold Covers; decide
    exact (upgradeRole_leaves h₁ covers .compute).andThen fun s' h' => upgradeDataServices_leaves h'

theorem upgradeRoles_leaves (h : Reading cluster 0 [] [] s) :
    Leaves (fun _ => True) (upgradeRoles cfg cluster containers) s := by
  refine withOwned_leaves h rfl fun drives s₁ h₁ => ?_
  refine (Leaves.quiet (prepare_quiet _ .drives drives)).andThen fun s₂ same => ?_
  subst same
  refine (Leaves.quiet (awaitStable_quiet cfg cluster containers)).andThen fun s₃ same => ?_
  subst same
  have covers : Covers 0 [.drive] := by unfold Covers; decide
  exact (rollingUpgrade_leaves h₁ covers).andThen fun s' h' => upgradeComputes_leaves h'

theorem patchImages_conforms_atOnce (loaded : s.cluster = some cluster)
    (atOnce : cluster.overrides.upgradeAllAtOnce = true) :
    (patchImages cluster.image containers).Conforms phases (fun _ s' => s' = s) s := by
  induction containers with
  | nil => rfl
  | cons c cs ih =>
    rw [patchImages]
    split
    · exact ih.bind fun _ s' same => same
    · refine ⟨⟨cluster, loaded, rfl, ?_⟩, fun r _ => ?_⟩
      · simp [atOnce]
      · cases r with
        | error e => exact ih.bind fun _ s' same => same
        | ok _ => exact ih.bind fun _ s' same => same

theorem handleImageUpgrade_leaves (h : Reading cluster 0 [] [] s) :
    Leaves (fun _ => True) (handleImageUpgrade cfg cluster containers) s := by
  rw [handleImageUpgrade]
  split
  · exact Leaves.wait
  refine (Leaves.quiet (imagePrePull_quiet cfg)).andThen fun s' same => ?_
  subst same
  split
  next atOnce =>
    refine (patchImages_conforms_atOnce h.loaded atOnce).bind fun out s'' _ => ?_
    obtain ⟨errs, patched⟩ := out
    dsimp only
    split
    · exact Leaves.error
    split
    · exact Leaves.wait
    · exact Leaves.anywhere (unlisting_conforms (recordApplied_unlisting cluster))
  · exact upgradeRoles_leaves h

/-! ### The pod rotation -/

theorem rotationContainers_unlisting : rotationContainers.Only Op.Unlisting := by
  refine ⟨trivial, fun r => ?_⟩
  cases r with
  | error e => trivial
  | ok all => trivial

theorem setRotatePod_unlisting (c : Container) (v : Bool) : (setRotatePod c v).Only Op.Unlisting := by
  refine ⟨trivial, fun r => ?_⟩
  match r with
  | .error (.other e) => trivial
  | .error .notFound => trivial
  | .ok _ => trivial

theorem clearFinishedRotations_unlisting (containers : List Container) :
    (clearFinishedRotations containers).Only Op.Unlisting := by
  induction containers with
  | nil => trivial
  | cons c cs ih =>
    rw [clearFinishedRotations]
    split
    · exact ih
    split
    · refine (setRotatePod_unlisting c false).bind fun r => ?_
      cases r with
      | error e => trivial
      | ok _ => exact ih
    · refine ih.bind fun out => ?_
      cases out with
      | error e => trivial
      | ok _ => trivial

theorem approveAll_unlisting (containers : List Container) : (approveAll containers).Only Op.Unlisting := by
  induction containers with
  | nil => trivial
  | cons c cs ih =>
    refine (setRotatePod_unlisting c true).bind fun r => ?_
    cases r with
    | error e => trivial
    | ok _ => exact ih

theorem approveNext_unlisting (containers : List Container) : (approveNext containers).Only Op.Unlisting := by
  refine .bind ⟨trivial, fun _ => trivial⟩ fun verdict => ?_
  split
  · trivial
  split
  · trivial
  · refine (setRotatePod_unlisting _ true).bind fun r => ?_
    cases r with
    | error e => trivial
    | ok _ => trivial

theorem rotateCandidates_unlisting (cluster : Cluster) (containers : List Container) :
    (rotateCandidates cluster containers).Only Op.Unlisting := by
  rw [rotateCandidates]
  split
  · trivial
  refine ((podRotationEnabled_quiet cluster).mono Op.Quiet.unlisting).bind fun on => ?_
  split
  · trivial
  split
  · trivial
  split
  · refine (approveAll_unlisting containers).bind fun r => ?_
    cases r with
    | error e => trivial
    | ok _ => trivial
  · exact approveNext_unlisting containers

theorem handlePodRotation_unlisting (cluster : Cluster) : (handlePodRotation cluster).Only Op.Unlisting := by
  refine rotationContainers_unlisting.bind fun out => ?_
  cases out with
  | error e => trivial
  | ok listed =>
    refine (clearFinishedRotations_unlisting listed).bind fun out => ?_
    cases out with
    | error e => trivial
    | ok inFlight =>
      dsimp only
      split
      · trivial
      · exact rotateCandidates_unlisting cluster _

/-! ### The step -/

theorem handleUpgrade_leaves (h : Reading cluster 0 [] [] s) :
    Leaves (fun _ => True) (handleUpgrade cfg cluster containers) s := by
  rw [handleUpgrade]
  split
  · refine (unlisting_conforms rotationContainers_unlisting).bind fun out s' same => ?_
    subst same
    cases out with
    | error e => exact Leaves.error
    | ok approvals =>
      refine (unlisting_conforms (clearFinishedRotations_unlisting approvals)).bind fun out s' same => ?_
      subst same
      cases out with
      | error e => exact Leaves.error
      | ok inFlight =>
        dsimp only
        split
        · exact Leaves.wait
        · exact handleImageUpgrade_leaves h
  · exact .anywhere (unlisting_conforms (handlePodRotation_unlisting cluster))

theorem call_reads {op : Op} (allowed : s.allowed op) : (call op).Conforms phases (fun r s' => s' = s.next op r) s :=
  .call allowed

theorem reconcile_inOrder : (reconcile cfg).Conforms phases (fun _ _ => True) {} := by
  refine .bind (call_reads trivial) fun r s' hs => ?_
  cases r with
  | error e => trivial
  | ok cluster =>
    subst hs
    refine .bind (call_reads trivial) fun r s' hs => ?_
    cases r with
    | error e => trivial
    | ok containers =>
      subst hs
      have start : Reading cluster 0 [] [] { cluster := some cluster } :=
        ⟨rfl, fun _ _ lt => absurd lt (Nat.not_lt_zero _), forall_mem_nil _, forall_mem_nil _, forall_mem_nil _⟩
      exact .bind (handleUpgrade_leaves start) fun out s' _ => ⟨trivial, fun _ _ => trivial⟩

end Conforms

/-! ### The system -/

/-- An image that was set, and the reads behind it. -/
structure PhasePatch where
  name : String
  image : String
  reads : Reads

/-- The world with the reads of the running reconcile. -/
structure Watched where
  world : World
  reads : Reads := {}
  patched : List PhasePatch := []

/-- Logs an image that is set. -/
def Watched.record (w : Watched) : Op → List PhasePatch
  | .patchImage name image => w.patched ++ [⟨name, image, w.reads⟩]
  | _ => w.patched

/-- The reconciles with that log. -/
def watched (cfg : Config) : System Watched Unit Op EnvEvent Op.Reply where
  body _ := reconcile cfg
  start i w := { w with world := (system cfg).start i w.world, reads := {} }
  perform i w op r applied :=
    if listsRole op r then
      ((system cfg).perform i w.world op r applied).map fun world =>
        { world, reads := w.reads.next op r, patched := w.record op }
    else none
  env w e := ((system cfg).env w.world e).map fun world => { w with world }

/-- It was not an upgrade all at once. -/
def PhasePatch.Rolling (p : PhasePatch) : Prop := ∀ cluster, p.reads.cluster = some cluster → cluster.overrides.upgradeAllAtOnce = false

/-- Every logged image was set in order. -/
def Watched.Ordered (w : Watched) : Prop := ∀ p ∈ w.patched, p.Rolling → p.reads.InOrder p.image p.name

theorem Watched.Ordered.record {w : Watched} (h : w.Ordered) {op : Op} (allowed : w.reads.allowed op) :
    ∀ p ∈ w.record op, p.Rolling → p.reads.InOrder p.image p.name := by
  cases op with
  | patchImage name image =>
    intro p mem rolling
    rcases mem_append.mp mem with mem | mem
    · exact h p mem rolling
    · obtain rfl := mem_singleton.mp mem
      obtain ⟨cluster, loaded, -, inOrder⟩ := allowed
      exact inOrder (rolling cluster loaded)
  | _ => exact h

/-- Whatever edits, failures and crashes there are, each image patch of a rolling upgrade keeps the order of the phases. -/
theorem patches_inOrder {cfg : Config} {ok : Watched → Event Unit Op EnvEvent Op.Reply → Bool} {init : World}
    {s : SysState Watched Unit Op Op.Reply} (h : (watched cfg).Reachable ok { world := init } s) : s.world.Ordered := by
  have inv := invariant_of_conforms (fun _ => phases) (fun (w : Watched) st => w.reads = st () ∧ w.Ordered)
    (fun _ => reconcile_inOrder) ?start ?begin ?reply ?env h
  case start => exact ⟨rfl, forall_mem_nil _⟩
  case begin =>
    rintro ⟨⟩ w st ⟨-, ordered⟩ -
    exact ⟨by rw [Function.update_self]; rfl, ordered⟩
  case reply =>
    rintro ⟨⟩ w st op r applied w' ⟨reads, ordered⟩ allowed - performed
    obtain ⟨lists, performed⟩ := Option.ite_none_right_eq_some.mp performed
    obtain ⟨world, -, rfl⟩ := Option.map_eq_some_iff.mp performed
    rw [← reads] at allowed
    refine ⟨lists, ?_, ordered.record allowed⟩
    rw [Function.update_self, ← reads]
    rfl
  case env =>
    rintro w st e w' ⟨reads, ordered⟩ - acted
    obtain rfl := Option.some.inj acted
    exact ⟨reads, ordered⟩
  obtain ⟨_, -, ordered⟩ := inv
  exact ordered

def watchedUpgrade : List (System.Scene Watched Unit Op EnvEvent Op.Reply) :=
  [.event (.env (.editImage "weka:2")), .pass () (currentReplies ·.world) 40, .event (.env (.applied "drive-0")),
    .pass () (currentReplies ·.world) 40]

theorem patches_inOrder_upgraded : ∃ s : SysState Watched Unit Op Op.Reply,
    (watched defaultConfig).Reachable (fun _ _ => true) { world := upgradable } s ∧
      s.world.patched.map (·.name) = ["drive-0", "compute-0"] ∧ s.world.Ordered :=
  System.Reachable.of_play_and watchedUpgrade (by decide +kernel) patches_inOrder

end WekaOperator.Upgrade
