import WekaOperator.Migrate.Discipline

/-! The end of a campaign.

When a reconcile finds nothing left to migrate it removes the annotation and succeeds. If the success is not stored, the
next one gets to the same point exactly if the record it loads is complete; else it parks on the annotation. -/

namespace WekaOperator.Migrate
open List Lib Operations

/-! ### Up to finalize -/

/-- A reconcile up to the point where it finalizes. -/
def toFinalize (c : Campaign) : P (Except Outcome (Cluster × Result)) := do
  match ← call .load with
  | .error .notFound => return .error .next
  | .error e => return .error (.error e.text)
  | .ok owner =>
    if owner.deleting || owner.status.terminal then return .error .next
    match ← plan c owner with
    | .error outcome => return .error outcome
    | .ok (cluster, res) =>
      match ← advanceOne c owner.payload res with
      | .error outcome => return .error outcome
      | .ok res => return .ok (cluster, res)

/-- The rest of it. -/
def finish : Except Outcome (Cluster × Result) → P Outcome
  | .error outcome => return outcome
  | .ok (cluster, res) => finalize cluster res

theorem reconcile_eq (c : Campaign) : reconcile c = toFinalize c >>= finish := by
  unfold reconcile toFinalize
  rw [Prog.bind_assoc]
  congr 1
  funext r
  match r with
  | .error .notFound => rfl
  | .error (.other e) => rfl
  | .ok owner =>
    dsimp only
    split
    · rfl
    rw [Prog.bind_assoc]
    congr 1
    funext out
    match out with
    | .error outcome => rfl
    | .ok (cluster, res) =>
      dsimp only
      rw [Prog.bind_assoc]
      congr 1
      funext out
      cases out with
      | error outcome => rfl
      | ok res => rfl

/-- The record has entries, and all of them are settled. -/
def Complete (containers : List ContainerState) : Prop :=
  0 < containers.length ∧ countMigrationDoneOrSkipped containers = containers.length

instance (containers : List ContainerState) : Decidable (Complete containers) := inferInstanceAs (Decidable (_ ∧ _))

/-- Calls that store the record. -/
def Op.writesRecord : Op → Bool
  | .persist _ => true
  | .fail _ => true
  | .succeed _ => true
  | _ => false

/-- The same replies after the annotation is removed. -/
def annotationRemoved (reply : (op : Op) → op.Reply) : (op : Op) → op.Reply
  | .read (.cluster ns name) => (reply (.read (.cluster ns name))).map fun cluster => { cluster with migrationAnnotation := "" }
  | op => reply op

/-! ### The path to finalize -/

variable {res' : Result} {owner : Owner}

section Path
variable {c : Campaign} {reply : (op : Op) → op.Reply} {payload : Payload} {cluster : Cluster} {res : Result}

@[simp] theorem value_call (op : Op) : (call op).value reply = reply op := rfl

@[simp] theorem value_read (q : Read) : (read q).value reply = reply (.read q) := rfl

/-- Calls whose replies do not depend on the annotation. -/
def Op.Quiet : Op → Prop
  | .read (.cluster _ _) => False
  | .read _ => True
  | .wekaStatus => True
  | _ => False

variable {op : Op}

theorem Op.Quiet.writesRecord (h : op.Quiet) : op.writesRecord = false := by
  cases op with
  | persist r => exact h.elim
  | fail r => exact h.elim
  | succeed r => exact h.elim
  | _ => rfl

theorem Op.Quiet.annotationRemoved (h : op.Quiet) : annotationRemoved reply op = reply op := by
  cases op with
  | read q =>
    cases q with
    | cluster ns name => exact h.elim
    | _ => rfl
  | _ => rfl

/-- A part that makes only such calls. -/
abbrev Quietly {α : Type} (p : P α) : Prop := p.Yields Op.Quiet (fun _ _ => True) fun _ => True

theorem quietly_call (h : op.Quiet) : Quietly (call op) := ⟨h, fun _ _ => trivial⟩

theorem quietly_read {q : Read} (h : (Op.read q).Quiet) : Quietly (read q) := ⟨h, fun _ _ => trivial⟩

theorem refuseIfAnotherCampaignRunning_quietly : Quietly (refuseIfAnotherCampaignRunning c) := by
  refine .bind (quietly_read trivial) fun r _ => ?_
  cases r with
  | error e => trivial
  | ok ops =>
    dsimp only
    split
    · trivial
    · trivial

theorem listDriveContainers_quietly : Quietly (listDriveContainers payload) := by
  refine .bind (quietly_read trivial) fun r _ => ?_
  cases r with
  | error e => trivial
  | ok containers => trivial

theorem discoverTargets_quietly : Quietly (discoverTargets payload) := by
  refine .bind listDriveContainers_quietly fun r _ => ?_
  cases r with
  | error e => trivial
  | ok containers =>
    dsimp only
    split
    · refine .bind (quietly_read trivial) fun r _ => ?_
      cases r with
      | error e => trivial
      | ok nodes => trivial
    · trivial

theorem checkCapacity_quietly : Quietly (checkCapacity res cluster) := by
  unfold checkCapacity
  split
  · trivial
  · refine .bind (quietly_call trivial) fun r _ => ?_
    cases r with
    | error e => trivial
    | ok status =>
      dsimp only
      split
      · trivial
      split
      · trivial
      · trivial

theorem checkCapacity_containers : ((checkCapacity res cluster).value reply).1.containers = res.containers := by
  unfold checkCapacity
  split
  · rfl
  rw [Prog.value_bind, value_call]
  cases reply .wekaStatus with
  | error e => rfl
  | ok status =>
    dsimp only
    split
    · rfl
    split
    · rfl
    · rfl

theorem value_ended {α : Type} {p : P Outcome} {a : α} : (do return .error (← p) : P (Except Outcome α)).value reply ≠ .ok a := by
  rw [Prog.value_bind]
  nofun

theorem advanceOne_ok (h : (advanceOne c payload res).value reply = .ok res') :
    Settled res.containers ∧ advanceOne c payload res = pure (.ok res') := by
  unfold advanceOne at h ⊢
  split at h
  · exact absurd h value_ended
  next grounded =>
    split at h
    · exact absurd h value_ended
    next running =>
      split at h
      next idle =>
        refine ⟨fun s hs => ?_, ?_⟩
        · have flying := firstOf_none grounded s hs
          have pending := firstOf_none idle s hs
          cases hp : s.phase with
          | pending => exact absurd hp pending
          | inFlight => exact absurd hp flying
          | done => exact .inl rfl
          | skipped => exact .inr rfl
        · rw [if_neg running]
          exact congrArg Prog.ret h
      next => exact absurd h value_ended

theorem planGuards_settled (h : Settled res.containers) : planGuards cluster res = do
    match ← checkCapacity res cluster with
    | (res, .error e) => return .error (← waitWithPersistedErr res e)
    | (res, .ok ()) => return .ok (cluster, { res with err := "", blockedSince := none }) := by
  have none_pending : (res.containers.find? fun s => decide (s.phase = .pending ∧ s.node = "")) = none := by
    rw [List.find?_eq_none]
    intro s hs
    rcases h s hs with hp | hp
    · simp [hp]
    · simp [hp]
  have none_left : pendingNodes res.containers = [] := by
    unfold pendingNodes
    rw [filter_eq_nil_iff.mpr, map_nil, dedup_nil]
    intro s hs
    rcases h s hs with hp | hp
    · simp [hp]
    · simp [hp]
  unfold planGuards
  rw [none_pending, none_left]
  rfl

variable {cluster' : Cluster}

theorem planGuards_ok (h : (planGuards cluster res).value reply = .ok (cluster', res')) :
    res'.containers = res.containers := by
  unfold planGuards at h
  split at h
  · exact absurd h value_ended
  rw [Prog.value_bind] at h
  split at h
  · exact absurd h value_ended
  rw [Prog.value_bind] at h
  have kept : ((checkCapacity res cluster).value reply).1.containers = res.containers := checkCapacity_containers
  split at h
  · exact absurd h value_ended
  next checked =>
    rw [checked] at kept
    cases h
    exact kept

theorem planTargets_cluster (h : (planTargets payload cluster res).value reply = .ok (cluster', res')) :
    cluster = cluster' := by
  unfold planTargets planGuards at h
  rw [Prog.value_bind] at h
  split at h
  · exact absurd h value_ended
  dsimp only at h
  split at h
  · exact absurd h value_ended
  split at h
  · exact absurd h value_ended
  rw [Prog.value_bind] at h
  split at h
  · exact absurd h value_ended
  rw [Prog.value_bind] at h
  split at h
  · exact absurd h value_ended
  · cases h
    rfl

theorem planGuards_again (h : (planGuards cluster res).value reply = .ok (cluster, res'))
    (settled : Settled res.containers) :
    (∀ op ∈ (planGuards cluster res).calls reply, op.Quiet) ∧
      (planGuards { cluster with migrationAnnotation := "" } res).value (annotationRemoved reply) =
        .ok ({ cluster with migrationAnnotation := "" }, res') := by
  have checks : checkCapacity res { cluster with migrationAnnotation := "" } = checkCapacity res cluster := rfl
  obtain ⟨quiet, same⟩ := (checkCapacity_quietly : Quietly (checkCapacity res cluster)).answered reply
  have same := same (annotationRemoved reply) fun _ hop => hop.annotationRemoved
  rw [planGuards_settled settled] at h ⊢
  rw [planGuards_settled settled, Prog.value_bind, checks, same]
  rw [Prog.value_bind] at h
  rw [Prog.calls_bind]
  split at h
  · exact absurd h value_ended
  next =>
    cases h
    refine ⟨fun op hop => quiet op ?_, rfl⟩
    simpa using hop

theorem planTargets_again (h : (planTargets payload cluster res).value reply = .ok (cluster, res'))
    (settled : Settled res'.containers) :
    (∀ op ∈ (planTargets payload cluster res).calls reply, op.Quiet) ∧
      (planTargets payload { cluster with migrationAnnotation := "" } res).value (annotationRemoved reply) =
        .ok ({ cluster with migrationAnnotation := "" }, res') := by
  obtain ⟨quiet, same⟩ := (discoverTargets_quietly : Quietly (discoverTargets payload)).answered reply
  have same := same (annotationRemoved reply) fun _ hop => hop.annotationRemoved
  unfold planTargets at h ⊢
  rw [Prog.value_bind] at h
  rw [Prog.value_bind, Prog.calls_bind, same]
  split at h
  · exact absurd h value_ended
  next exclusive sharing _ =>
    dsimp only at h ⊢
    split at h
    · exact absurd h value_ended
    next some =>
      rw [if_neg some, if_neg some]
      obtain ⟨quiet', again⟩ := planGuards_again h (planGuards_ok h ▸ settled)
      refine ⟨fun op hop => ?_, again⟩
      rcases mem_append.mp hop with hop | hop
      · exact quiet op hop
      · exact quiet' op hop

theorem toFinalize_ok (hload : reply .load = .ok owner) (h : (toFinalize c).value reply = .ok (cluster, res)) :
    (owner.deleting || owner.status.terminal) = false ∧ ∃ planned, (plan c owner).value reply = .ok (cluster, planned) ∧
      Settled planned.containers ∧ advanceOne c owner.payload planned = pure (.ok res) := by
  unfold toFinalize at h
  rw [Prog.value_bind, value_call, hload] at h
  dsimp only at h
  split at h
  · cases h
  next live =>
    rw [Prog.value_bind] at h
    split at h
    · cases h
    next cluster' planned hplan =>
      rw [Prog.value_bind] at h
      split at h
      · cases h
      next res' hadvance =>
        cases h
        obtain ⟨settled, advance⟩ := advanceOne_ok hadvance
        exact ⟨by simpa using live, planned, hplan, settled, advance⟩

/-- The record that planning starts from. -/
def started (owner : Owner) : Result :=
  { owner.result.getD {} with cluster := s!"{owner.payload.clusterNamespace}/{owner.payload.clusterName}" }

theorem plan_ok (h : (plan c owner).value reply = .ok (cluster, res)) :
    owner.payload.clusterName ≠ "" ∧
      reply (.read (.cluster owner.payload.clusterNamespace owner.payload.clusterName)) = .ok cluster ∧
      (refuseIfAnotherCampaignRunning c).value reply = .ok () ∧ requireMigrationSpec (started owner) cluster = .ok () ∧
      (planTargets owner.payload cluster (started owner)).value reply = .ok (cluster, res) := by
  unfold plan at h
  dsimp only at h
  split at h
  · rw [Prog.value_bind] at h
    cases h
  next named =>
    have h : (planCluster c owner.payload (started owner)).value reply = .ok (cluster, res) := h
    unfold planCluster at h
    rw [Prog.value_bind, value_read] at h
    split at h
    · exact absurd h value_ended
    next cluster' read =>
      rw [Prog.value_bind] at h
      split at h
      · exact absurd h value_ended
      next alone =>
        split at h
        · exact absurd h value_ended
        next spec =>
          obtain rfl : cluster' = cluster := planTargets_cluster h
          exact ⟨named, read, alone, spec, h⟩

theorem requireMigrationSpec_removed (res : Result) (cluster : Cluster) :
    requireMigrationSpec res { cluster with migrationAnnotation := "" } = .ok () ↔ Complete res.containers := by
  unfold requireMigrationSpec Complete
  constructor
  · intro h
    by_contra incomplete
    rw [if_neg incomplete] at h
    split at h
    · cases h
    · rw [if_pos (by simp)] at h
      cases h
  · intro complete
    exact if_pos complete

theorem plan_past (named : owner.payload.clusterName ≠ "")
    (read : reply (.read (.cluster owner.payload.clusterNamespace owner.payload.clusterName)) = .ok cluster)
    (alone : (refuseIfAnotherCampaignRunning c).value reply = .ok ()) (spec : requireMigrationSpec (started owner) cluster = .ok ()) :
    (plan c owner).value reply = (planTargets owner.payload cluster (started owner)).value reply ∧
      (plan c owner).calls reply = .read (.cluster owner.payload.clusterNamespace owner.payload.clusterName) ::
        ((refuseIfAnotherCampaignRunning c).calls reply ++ (planTargets owner.payload cluster (started owner)).calls reply) := by
  have run : plan c owner = planCluster c owner.payload (started owner) := if_neg named
  rw [run]
  unfold planCluster
  rw [Prog.value_bind, Prog.calls_bind, value_read, read]
  rw [Prog.value_bind, Prog.calls_bind, alone]
  rw [spec]
  exact ⟨rfl, rfl⟩

theorem toFinalize_past {planned : Result} (hload : reply .load = .ok owner)
    (live : (owner.deleting || owner.status.terminal) = false) (hplan : (plan c owner).value reply = .ok (cluster, planned))
    (advance : advanceOne c owner.payload planned = pure (.ok res)) :
    (toFinalize c).value reply = .ok (cluster, res) ∧ (toFinalize c).calls reply = .load :: (plan c owner).calls reply := by
  unfold toFinalize
  rw [Prog.value_bind, Prog.calls_bind, value_call, hload]
  dsimp only
  rw [live, if_neg Bool.false_ne_true, Prog.value_bind, Prog.calls_bind, hplan]
  dsimp only
  rw [advance]
  exact ⟨rfl, congrArg (Op.load :: ·) (append_nil _)⟩

end Path

/-- Finalize has removed the annotation, and the owner was not marked Done. Nothing was persisted since it was loaded,
    and the next reconcile, answered in the same way, reaches finalize again exactly when the persisted record was
    complete. -/
theorem finalize_again_iff {c : Campaign} {reply : (op : Op) → op.Reply} {owner : Owner} {cluster : Cluster} {res : Result}
    (hload : reply .load = .ok owner) (h : (toFinalize c).value reply = .ok (cluster, res))
    (annotated : cluster.migrationAnnotation ≠ "") :
    Op.removeMigrationAnnotationKey ∈ (reconcile c).calls reply ∧
      (∀ op ∈ (toFinalize c).calls reply, op.writesRecord = false) ∧
      ((∃ out, (toFinalize c).value (annotationRemoved reply) = .ok out) ↔ Complete (owner.result.getD {}).containers) := by
  obtain ⟨live, planned, hplan, settled, advance⟩ := toFinalize_ok hload h
  obtain ⟨named, read, alone, spec, targets⟩ := plan_ok hplan
  obtain ⟨quiet, again⟩ := planTargets_again targets settled
  obtain ⟨quiet', same⟩ := (refuseIfAnotherCampaignRunning_quietly : Quietly (refuseIfAnotherCampaignRunning c)).answered reply
  have same := same (annotationRemoved reply) fun _ hop => hop.annotationRemoved
  have hload' : annotationRemoved reply .load = .ok owner := hload
  refine ⟨?_, ?_, ?_, ?_⟩
  · rw [reconcile_eq, Prog.calls_bind, h]
    refine mem_append_right _ ?_
    have first : (finalize cluster res).calls reply = .removeMigrationAnnotationKey :: ((finalize cluster res).calls reply).tail := by
      unfold finalize unlessDone
      rw [if_neg (by simpa using annotated)]
      rfl
    exact first ▸ mem_cons_self
  · intro op hop
    rw [(toFinalize_past hload live hplan advance).2, (plan_past named read alone spec).2] at hop
    rcases mem_cons.mp hop with rfl | hop
    · rfl
    rcases mem_cons.mp hop with rfl | hop
    · rfl
    rcases mem_append.mp hop with hop | hop
    · exact (quiet' op hop).writesRecord
    · exact (quiet op hop).writesRecord
  · rintro ⟨⟨cluster', res'⟩, h'⟩
    obtain ⟨-, planned', hplan', -, -⟩ := toFinalize_ok hload' h'
    obtain ⟨-, read', -, spec', -⟩ := plan_ok hplan'
    have read' : (reply (.read (.cluster owner.payload.clusterNamespace owner.payload.clusterName))).map
      (fun cluster => { cluster with migrationAnnotation := "" }) = .ok cluster' := read'
    rw [read] at read'
    cases read'
    exact (requireMigrationSpec_removed (started owner) cluster).mp spec'
  · intro complete
    have read' : annotationRemoved reply (.read (.cluster owner.payload.clusterNamespace owner.payload.clusterName)) =
        .ok { cluster with migrationAnnotation := "" } := by
      simp only [annotationRemoved, read]
      rfl
    have hplan' := (plan_past named read' (same.trans alone) ((requireMigrationSpec_removed _ _).mpr complete)).1.trans again
    exact ⟨_, (toFinalize_past hload' live hplan' advance).1⟩

def sharingReplies (result : Option Result) : (op : Op) → op.Reply
  | .read .driveContainers => .ok [{ name := "drive-0", node := "node-0", usesDriveSharing := true }]
  | op => healthyReplies false true { result := result } op

def migratedRecord : Result :=
  { cluster := "weka/cluster"
    total := 1
    done := 1
    containers := [{ node := "node-0", container := "drive-0", phase := .done }]
    capacityChecked := true }

theorem finalize_again_migrated : ∃ cluster res,
    (toFinalize oneContainer).value (sharingReplies (some migratedRecord)) = .ok (cluster, res) ∧
    cluster.migrationAnnotation ≠ "" ∧ Complete migratedRecord.containers ∧
    ∃ out, (toFinalize oneContainer).value (annotationRemoved (sharingReplies (some migratedRecord))) = .ok out := by
  have reached : (toFinalize oneContainer).value (sharingReplies (some migratedRecord)) =
      .ok (oneContainerCluster, migratedRecord) := by decide +kernel
  have loaded : sharingReplies (some migratedRecord) .load = .ok ⟨false, ⟨"weka", "cluster", false, [], none⟩, .unset, some migratedRecord⟩ := rfl
  have complete : Complete migratedRecord.containers := by decide
  exact ⟨_, _, reached, by decide, complete, (finalize_again_iff loaded reached (by decide)).2.2.mpr complete⟩

/-- Everything is skipped in the first reconcile, which finalizes with nothing on record. When Done is not written,
    the next one parks on the annotation that is gone. -/
theorem finalize_parks_on_annotation :
    ((toFinalize oneContainer).value (sharingReplies none)).isOk = true ∧
    Op.removeMigrationAnnotationKey ∈ (reconcile oneContainer).calls (sharingReplies none) ∧
    (reconcile oneContainer).value (annotationRemoved (sharingReplies none)) =
      .wait ("cluster weka/cluster is missing annotation weka.io/sizing-mode-migration: drive-sharing; " ++
        "set it to confirm the sizing-mode migration") := by
  refine ⟨?_, ?_, ?_⟩
  · decide +kernel
  · decide +kernel
  · decide +kernel

end WekaOperator.Migrate
