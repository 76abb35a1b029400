import WekaOperator.Deleting.World

/-! What a pass of the deleting flow does before it tears the container down. -/

namespace WekaOperator.Deleting
open List Option Lib Lib.Flow Operations

/-! ### Stages -/

/-- What a run knows: the id it loaded, and whether the container is deactivated. -/
structure Stage where
  loadedID : Option (Option Int) := none
  deactivated : Bool := false

namespace Stage

/-- The stage after a call. -/
def next (st : Stage) : (op : Op) → op.Reply → Stage
  | .load, .ok (status, _) =>
    { loadedID := some status.clusterContainerID, deactivated := Condition.containerDeactivated ∈ status.conditions }
  | .deactivated, _ => { st with deactivated := true }
  | _, _ => st

/-- The container has no id, or is deactivated. -/
def Cleared (st : Stage) : Prop := st.loadedID = some none ∨ st.deactivated = true

/-- A teardown is entered, and the condition stored, only when that is known. -/
def allowed (st : Stage) : Op → Prop
  | .updateStatus status => Condition.containerDeactivated ∈ status.conditions → st.deactivated = true
  | .entered _ => st.Cleared
  | _ => True

end Stage

/-- The protocol of these stages. -/
def protocol : Protocol Op Op.Reply Stage where
  fresh := {}
  next := Stage.next
  allowed := Stage.allowed
  admits _ _ := True

/-- The condition in memory is right. -/
def Recorded (m : Loop) (st : Stage) : Prop :=
  Condition.containerDeactivated ∈ m.status.conditions → st.deactivated = true

/-- Before and after the step that deactivates. -/
inductive Phase
  | before | after

/-- What is known in each. -/
def Phase.At : Phase → Loop → Stage → Prop
  | .before, m, st => Recorded m st ∧ st.loadedID = some m.status.clusterContainerID
  | .after, m, st => Recorded m st ∧ st.Cleared

variable {st : Stage} {op : Op} {applied : Bool} {w : World} {m : Loop}

theorem Phase.At.recorded {ph : Phase} (h : ph.At m st) : Recorded m st := by
  cases ph with
  | before => exact h.1
  | after => exact h.1

theorem Phase.At.congr {ph : Phase} {m' : Loop} (h : ph.At m st) (hm : m'.status = m.status) : ph.At m' st := by
  cases ph with
  | before => exact ⟨by simpa only [Recorded, hm] using h.1, by simpa only [hm] using h.2⟩
  | after => exact ⟨by simpa only [Recorded, hm] using h.1, h.2⟩

/-! ### The actions -/

section Actions
variable {ph : Phase} {α : Type}

/-- Calls that do not matter here. -/
def Op.quiet : Op → Bool
  | .load | .updateStatus _ | .deactivated | .entered _ => false
  | _ => true

theorem call_keeps (quiet : op.quiet = true) : Keeps protocol ph.At (call op) := by
  refine .call ?_ ?_
  · intro _ st _
    cases op <;> first | cases quiet; trivial | cases quiet
  · intro m st r h
    have same : protocol.next st op r = st := by cases op <;> first | rfl | cases quiet
    rw [same]
    exact h

theorem modify_keeps {f : Loop → Loop} (hf : ∀ m, (f m).status = m.status) : Keeps protocol ph.At (modify f) :=
  .modify fun m _ h => h.congr (hf m)

theorem updateStatus_keeps {f : Status → Status} (text : ApiError → String)
    (hid : ph = .after ∨ ∀ s, (f s).clusterContainerID = s.clusterContainerID)
    (hcond : ∀ s, Condition.containerDeactivated ∈ (f s).conditions → Condition.containerDeactivated ∈ s.conditions) :
    Keeps protocol ph.At (updateStatus f text) := by
  intro m st h
  have recorded : Recorded { m with status := f m.status } st := fun hc => h.recorded (hcond m.status hc)
  have changed : ph.At { m with status := f m.status } st := by
    cases ph with
    | before =>
      refine ⟨recorded, ?_⟩
      rcases hid with h' | hid
      · cases h'
      · exact h.2.trans (congrArg some (hid m.status).symm)
    | after => exact ⟨recorded, h.2⟩
  refine ⟨recorded, fun r _ => ?_⟩
  cases r with
  | ok _ => exact changed
  | error e => exact changed

theorem entered_keeps (f : Teardown) : Keeps protocol Phase.after.At (call (.entered f)) :=
  .call (fun _ _ h => h.2) fun _ _ _ h => h

/-! ### Until the deactivation -/

theorem getNode_keeps (c : Container) : Keeps protocol ph.At (getNode c) := by
  unfold getNode
  split
  · exact .pure ()
  · refine (call_keeps rfl).bind fun r => ?_
    rcases r with ⟨_ | e⟩ | node
    · exact .pure ()
    · exact .throw _
    · exact modify_keeps fun _ => rfl

theorem refreshPod_keeps : Keeps protocol ph.At refreshPod := by
  refine (call_keeps rfl).bind fun r => ?_
  rcases r with ⟨_ | e⟩ | pod
  · exact .pure ()
  · exact .throw _
  · exact modify_keeps fun _ => rfl

theorem handleStateDeleting_keeps : Keeps protocol ph.At handleStateDeleting := by
  have status : Keeps protocol ph.At (updateContainerStatusIfNotEquals "Deleting") := by
    refine Keeps.get.bind fun m => ?_
    split
    · exact Keeps.pure ()
    · exact updateStatus_keeps _ (Or.inr fun _ => rfl) fun _ h => h
  refine status.bind fun _ => Keeps.get.bind fun m => ?_
  split
  · exact Keeps.pure ()
  · exact ((call_keeps rfl).bind fun r => (Keeps.orFail _ r).bind fun _ => Keeps.throw _)

theorem deletePod_keeps (pod : Pod) : Keeps protocol ph.At (deletePod pod) := by
  have finalizer : Keeps protocol ph.At (removePodFinalizer pod) := by
    unfold removePodFinalizer
    split
    · exact (call_keeps rfl).bind fun r => .orFail _ r
    · exact .pure ()
  refine finalizer.bind fun _ => ?_
  split
  · exact .pure ()
  · exact (call_keeps rfl).bind fun r => .orFail _ r

theorem releaseTerminalPodOnDeletion_keeps : Keeps protocol ph.At releaseTerminalPodOnDeletion := by
  refine Keeps.get.bind fun m => ?_
  split
  · exact Keeps.throw _
  · exact (deletePod_keeps _).bind fun _ => Keeps.throw _

theorem ensurePod_keeps : Keeps protocol ph.At ensurePod := by
  refine (call_keeps rfl).bind fun r => ?_
  rcases r with ⟨pod, result⟩
  exact .bind (modify_keeps fun _ => rfl) fun _ => .orFail _ result

theorem perform_keeps (task : Task) : Keeps protocol ph.At (perform task) :=
  (call_keeps rfl).bind fun r => .orFail _ r

theorem getClusterContainers_keeps : Keeps protocol ph.At getClusterContainers := by
  refine Keeps.get.bind fun m => ?_
  split
  · exact Keeps.pure _
  · refine (call_keeps rfl).bind fun r => (Keeps.orFail _ r).bind fun _ => (call_keeps rfl).bind fun r => ?_
    rcases r with e | _ | ⟨container, containers⟩
    · exact Keeps.throw _
    · exact Keeps.throw _
    · exact Keeps.bind (modify_keeps fun _ => rfl) fun _ => Keeps.pure _

theorem activeContainer_keeps : Keeps protocol ph.At activeContainer := by
  refine getClusterContainers_keeps.bind fun containers => (call_keeps rfl).bind fun r => ?_
  cases r with
  | none => exact .throw _
  | some name => exact .pure name

theorem containerId_keeps : Keeps protocol ph.At containerId := by
  refine Keeps.get.bind fun m => ?_
  split
  · exact Keeps.throw _
  · exact Keeps.pure _

theorem deactivateWekaContainer_keeps : Keeps protocol ph.At deactivateWekaContainer := by
  refine containerId_keeps.bind fun id => activeContainer_keeps.bind fun via => (call_keeps rfl).bind fun r => ?_
  split
  · exact .pure ()
  · exact .throw _
  · exact .pure ()
  · exact .throw _
  · exact (call_keeps rfl).bind fun r => (Keeps.orFail _ r).bind fun _ => Keeps.throw _

/-! ### From the deactivation on -/

theorem removeDrives_keeps (via : String) (drives : List String) : Keeps protocol ph.At (removeDrives via drives) := by
  induction drives with
  | nil => exact .pure []
  | cons uuid drives ih =>
    refine (call_keeps rfl).bind fun r => ih.bind fun errs => ?_
    cases r with
    | ok _ => exact .pure _
    | error e => exact .pure _

theorem removeDeactivatedContainersDrives_keeps : Keeps protocol ph.At removeDeactivatedContainersDrives := by
  refine containerId_keeps.bind fun id => activeContainer_keeps.bind fun via => (call_keeps rfl).bind fun r =>
    (Keeps.orFail _ r).bind fun drives => (removeDrives_keeps via drives).bind fun errs => ?_
  cases errs with
  | nil => exact Keeps.pure ()
  | cons _ _ => exact Keeps.throw _

theorem reconcileClusterStatus_keeps : Keeps protocol Phase.after.At reconcileClusterStatus := by
  refine Keeps.get.bind fun m => ?_
  split
  · exact Keeps.throw _
  · exact Keeps.pure ()
  · refine (call_keeps rfl).bind fun r => ?_
    split
    · exact Keeps.throw _
    · exact Keeps.throw _
    · exact Keeps.throw _
    · split
      · exact Keeps.throw _
      · exact updateStatus_keeps _ (Or.inl rfl) fun _ h => h

theorem ensureNoPod_keeps (f : Teardown) (force : Bool) : Keeps protocol Phase.after.At (ensureNoPod f force) := by
  have mark : ∀ pod, Keeps protocol Phase.after.At (markStop f pod) := by
    intro pod
    unfold markStop
    cases pod.phase.terminal with
    | true => exact Keeps.pure ()
    | false => exact entered_keeps f
  have stop : Keeps protocol Phase.after.At (stopWeka force) := by
    refine (call_keeps rfl).bind fun _ => Keeps.get.bind fun m => ?_
    split
    · exact (call_keeps rfl).bind fun _ => .pure ()
    · exact .pure ()
  refine (call_keeps rfl).bind fun r => ?_
  rcases r with ⟨_ | e⟩ | pod
  · exact .pure ()
  · exact .throw _
  · exact (mark pod).bind fun _ => (deletePod_keeps pod).bind fun _ => stop.bind fun _ => .throw _

theorem removeDeactivatedContainers_keeps (c : Container) : Keeps protocol Phase.after.At (removeDeactivatedContainers c) := by
  have remove : ∀ id, Keeps protocol Phase.after.At (removeFromCluster id) := by
    intro id
    refine activeContainer_keeps.bind fun via => (call_keeps rfl).bind fun r => (Keeps.orFail _ r).bind fun _ =>
      (call_keeps rfl).bind fun r => ?_
    rcases r with ⟨_ | e⟩ | status
    · exact Keeps.pure ()
    · exact Keeps.throw _
    · exact Keeps.throw _
  refine (entered_keeps _).bind fun _ => containerId_keeps.bind fun id => ?_
  split
  · refine (call_keeps rfl).bind fun r => ?_
    cases r with
    | true => exact remove id
    | false => exact Keeps.throw _
  · exact remove id

theorem removeVirtualDrives_keeps (c : Container) : Keeps protocol Phase.after.At (removeVirtualDrives c) := by
  refine (entered_keeps _).bind fun _ => ?_
  split
  · exact .pure ()
  · exact perform_keeps _

theorem resignDrives_keeps (c : Container) : Keeps protocol Phase.after.At (resignDrives c) := by
  have ready : Keeps protocol Phase.after.At (resignOnReadyNode c) := by
    refine Keeps.get.bind fun m => ?_
    split
    · exact Keeps.pure ()
    · split
      · exact Keeps.throw _
      · exact Keeps.pure ()
      · exact perform_keeps _
  refine (entered_keeps _).bind fun _ => Keeps.get.bind fun m => ?_
  split
  · split
    · refine (call_keeps rfl).bind fun r => ?_
      split
      · exact Keeps.pure ()
      · exact Keeps.throw _
    · exact Keeps.throw _
  · exact ready

theorem handleDeletion_keeps (c : Container) : Keeps protocol Phase.after.At (handleDeletion c) := by
  have cleanup : Keeps protocol Phase.after.At (cleanupPersistentDir c) := by
    unfold cleanupPersistentDir
    split
    · exact Keeps.pure ()
    · exact perform_keeps _
  have finalized : Keeps protocol Phase.after.At (finalizeContainer c) := by
    refine (ensureNoPod_keeps _ _).bind fun _ => cleanup.bind fun _ => Keeps.get.bind fun m => ?_
    split
    · exact perform_keeps _
    · exact .pure ()
  exact finalized.bind fun _ => (call_keeps rfl).bind fun r => .orFail _ r

end Actions

/-! ### The flow -/

section Pass
variable {c : Container}

theorem beforeDeactivation_keeps : ∀ s ∈ beforeDeactivation c, Keeps protocol Phase.before.At (s.exec keeper) := by
  intro s hs
  suffices run : Keeps protocol Phase.before.At s.run ∧ s.state = none from
    Step.exec_keeps run.1 fun _ h => by rw [run.2] at h; cases h
  simp only [beforeDeactivation, mem_cons, not_mem_nil, or_false] at hs
  rcases hs with rfl | rfl | rfl | rfl | rfl | rfl | rfl | rfl | rfl | rfl | rfl
  · exact ⟨getNode_keeps c, rfl⟩
  · exact ⟨perform_keeps _, rfl⟩
  · exact ⟨refreshPod_keeps, rfl⟩
  · exact ⟨handleStateDeleting_keeps, rfl⟩
  · exact ⟨releaseTerminalPodOnDeletion_keeps, rfl⟩
  · exact ⟨ensurePod_keeps, rfl⟩
  all_goals exact ⟨perform_keeps _, rfl⟩

theorem deactivation_leads (deactivates : c.skipDeactivate = false) :
    Leads protocol Phase.before.At ((deactivation c).exec keeper) (fun _ => Phase.after.At) fun _ _ => True := by
  refine Step.exec_leads (Q := fun _ st => st.deactivated = true) rfl ?_ ?_ nofun ?_
  · rintro m st ⟨recorded, loaded⟩ skipped
    refine ⟨recorded, ?_⟩
    by_cases hc : Condition.containerDeactivated ∈ m.status.conditions
    · exact .inr (recorded hc)
    · left
      rw [loaded]
      simpa [Step.skipped, deactivation, keeper, hc, shouldDeactivate, deactivates] using skipped
  · have run : Leads protocol Phase.before.At deactivateWekaContainer (fun _ => Phase.before.At) fun _ _ => True :=
      .mono deactivateWekaContainer_keeps (fun _ _ _ h => h) fun _ _ _ => trivial
    exact run.bind fun _ _ _ _ => ⟨trivial, fun _ _ => rfl⟩
  · rintro condition - m st h
    refine ⟨fun _ => h, fun r _ => ?_⟩
    cases r with
    | ok _ => exact ⟨fun _ => h, .inr h⟩
    | error e => trivial

theorem setTrue_keeps {condition : Condition} (other : condition ≠ .containerDeactivated) :
    Keeps protocol Phase.after.At (keeper.setTrue condition) := by
  refine updateStatus_keeps (f := fun s => { s with conditions := condition :: s.conditions }) _ (.inl rfl) fun s h => ?_
  rcases mem_cons.mp h with h | h
  · exact absurd h.symm other
  · exact h

theorem afterDeactivation_keeps : ∀ s ∈ afterDeactivation c, Keeps protocol Phase.after.At (s.exec keeper) := by
  intro s hs
  suffices run : Keeps protocol Phase.after.At s.run ∧ s.state ≠ some .containerDeactivated from
    Step.exec_keeps run.1 fun condition h => setTrue_keeps fun hc => run.2 (h.trans (congrArg some hc))
  simp only [afterDeactivation, mem_cons, not_mem_nil, or_false] at hs
  rcases hs with rfl | rfl | rfl | rfl | rfl | rfl | rfl | rfl | rfl
  · exact ⟨removeDeactivatedContainersDrives_keeps, nofun⟩
  · exact ⟨reconcileClusterStatus_keeps, nofun⟩
  · exact ⟨ensureNoPod_keeps _ _, nofun⟩
  · exact ⟨ensureNoPod_keeps _ _, nofun⟩
  · exact ⟨removeDeactivatedContainers_keeps c, nofun⟩
  · exact ⟨perform_keeps _, nofun⟩
  · exact ⟨removeVirtualDrives_keeps c, nofun⟩
  · exact ⟨resignDrives_keeps c, nofun⟩
  · exact ⟨handleDeletion_keeps c, nofun⟩

theorem deletingStateFlow_leads (deactivates : c.skipDeactivate = false) :
    Leads protocol Phase.before.At (runAll keeper (deletingStateFlow c)) (fun _ => Phase.after.At) fun _ _ => True := by
  have weaken : ∀ {R : Loop → Stage → Prop} {x : M Unit}, Keeps protocol R x →
      Leads protocol R x (fun _ => R) fun _ _ => True := fun h => h.mono (fun _ _ _ h => h) fun _ _ _ => trivial
  rw [deletingStateFlow, runAll_append]
  exact (weaken (runAll_keeps beforeDeactivation_keeps)).bind fun _ =>
    (deactivation_leads deactivates).bind fun _ => weaken (runAll_keeps afterDeactivation_keeps)

theorem reconcile_conforms (deactivates : c.skipDeactivate = false) :
    (reconcile c).Conforms protocol (fun _ _ => True) protocol.fresh := by
  refine ⟨trivial, fun r _ => ?_⟩
  rcases r with e | ⟨status, marked⟩
  · trivial
  · refine (deletingStateFlow_leads deactivates _ _ ⟨?_, rfl⟩).bind fun _ _ _ => trivial
    intro h
    exact decide_eq_true h

end Pass

/-! ### Runs -/

/-- What the stage knows holds in the world. -/
structure Inv (w : World) (st : Stage) : Prop where
  loaded : ∀ id, st.loadedID = some id → w.loadedID = id
  known : st.deactivated = true → w.deactivated = true
  stored : Condition.containerDeactivated ∈ w.status.conditions → w.deactivated = true
  entries : ∀ e ∈ w.entries, e.member = true → e.deactivated = true

theorem Inv.enter (h : Inv w st) (cleared : st.Cleared) (ok : w.member = true → w.loadedID ≠ none) (f : Teardown) :
    Inv (w.enter f) st := by
  refine ⟨h.loaded, h.known, h.stored, fun e he hm => ?_⟩
  rcases mem_append.mp he with he | he
  · exact h.entries e he hm
  · rw [mem_singleton] at he
    subst he
    rcases cleared with unloaded | deactivated
    · exact absurd (h.loaded none unloaded) (ok hm)
    · exact h.known deactivated

variable {r : op.Reply} {w' : World}

theorem perform_quiet (quiet : op.quiet = true) (hp : w.perform op r applied = some w') :
    w'.status = w.status ∧ w'.loadedID = w.loadedID ∧ w'.deactivated = w.deactivated ∧ w'.entries = w.entries := by
  unfold World.perform at hp
  split at hp <;> try split at hp
  all_goals try cases quiet
  all_goals cases hp
  all_goals exact ⟨rfl, rfl, rfl, rfl⟩

theorem perform_inv (h : Inv w st) (hallowed : st.allowed op) (hok : identified w (.reply () op r applied) = true)
    (hp : w.perform op r applied = some w') : Inv w' (st.next op r) := by
  by_cases quiet : op.quiet = true
  · obtain ⟨hs, hl, hd, he⟩ := perform_quiet quiet hp
    have same : st.next op r = st := by cases op <;> first | rfl | cases quiet
    rw [same]
    exact ⟨hl ▸ h.loaded, hd ▸ h.known, by rw [hs, hd]; exact h.stored, he ▸ h.entries⟩
  · cases op with
    | load =>
      rcases r with e | ⟨status, marked⟩
      · cases hp
        exact h
      · simp only [World.perform] at hp
        split at hp
        · rename_i same
          cases hp
          obtain ⟨rfl, rfl⟩ := same
          exact ⟨fun _ hid => some.inj hid, fun hd => h.stored (of_decide_eq_true hd), h.stored, h.entries⟩
        · cases hp
    | updateStatus status =>
      simp only [World.perform, some.injEq] at hp
      subst hp
      split
      · exact ⟨h.loaded, h.known, fun hc => h.known (hallowed hc), h.entries⟩
      · exact h
    | deactivated =>
      cases hp
      exact ⟨h.loaded, fun _ => rfl, fun _ => rfl, h.entries⟩
    | entered f =>
      cases hp
      refine h.enter hallowed (fun hm hn => ?_) f
      simp [identified, hm, hn] at hok
    | _ => exact absurd rfl quiet

/-- In every run in which no teardown function runs for a process in the cluster in a pass that loaded the container
    without an ID, none runs for a process in the cluster before DeactivateWekaContainer has returned success. -/
theorem teardown_after_deactivation (c : Container) (deactivates : c.skipDeactivate = false) (status : Status)
    (fresh : Condition.containerDeactivated ∉ status.conditions) (marked : Bool) (pod : Option Pod) (member : Bool)
    {s : SysState World Unit Op Op.Reply}
    (h : (system c).Reachable identified (World.initial status marked pod member) s) :
    ∀ e ∈ s.world.entries, e.member = true → e.deactivated = true := by
  have inv : ∃ st : Unit → Stage, Inv s.world (st ()) := by
    refine invariant_of_conforms (fun _ => protocol) (fun w st => Inv w (st ())) (fun _ => reconcile_conforms deactivates) ?_ ?_ ?_ ?_ h
    · exact ⟨nofun, nofun, fun hc => absurd hc fresh, nofun⟩
    · intro i w st hinv _
      rw [Function.update_self]
      exact ⟨nofun, nofun, hinv.stored, hinv.entries⟩
    · intro i w st op r applied w' hinv hallowed hok hp
      rw [Function.update_self]
      exact ⟨trivial, perform_inv hinv hallowed hok hp⟩
    · intro w st e w' hinv _ he
      cases e with
      | joins =>
        obtain ⟨-, rfl⟩ := ite_some_none_eq_some.mp he
        exact ⟨hinv.loaded, hinv.known, hinv.stored, hinv.entries⟩
      | podChanges pod =>
        cases he
        exact ⟨hinv.loaded, hinv.known, hinv.stored, hinv.entries⟩
      | marked =>
        cases he
        exact ⟨hinv.loaded, hinv.known, hinv.stored, hinv.entries⟩
      | statusSet status =>
        cases he
        exact ⟨hinv.loaded, hinv.known, hinv.stored, hinv.entries⟩
  obtain ⟨st, inv⟩ := inv
  exact inv.entries

/-! ### Two runs -/

def container : Container where
  mode := .drive
  nodeAffinity := "node-1"
  drives := ["S1"]

def runningPod : Pod := ⟨.running, false, true⟩

def answers (wekaStatus : String) (w : World) : (op : Op) → op.Reply
  | .load => .ok (w.status, w.marked)
  | .getNode _ => .ok { ready := true }
  | .getPod =>
    match w.pod with
    | some pod => .ok pod
    | none => .error .notFound
  | .ensurePod => (some runningPod, .ok ())
  | .getCluster => .ok "cluster-1"
  | .clusterContainers => .ok ["compute-1"]
  | .selectActiveContainer _ => some "compute-1"
  | .getWekaContainer _ _ => .ok wekaStatus
  | .listContainerDrives _ _ => .ok ["drive-uuid-1"]
  | .shouldRun => true
  | .getIdentity => .ok ⟨true, none, some ("5d3f0a1e-9c0b-4c52-8a7f-2f1f5d0e6b11", 7)⟩
  | .deactivated | .entered _ => ()
  | .patchPod | .deletePod | .deleteContainer | .updateStatus _ | .removeFinalizer | .deactivateContainer _ _
  | .removeDrive _ _ | .removeContainer _ _ | .writeStopInstruction _ | .wekaLocalStop _ | .perform _ => .ok ()

def stoppedDeactivated (w : World) : Bool := w.entries = [⟨.stopForceAndEnsureNoPod, true, true⟩]

/-- A container with its ID is deactivated by one pass and stopped by the next. -/
theorem teardown_after_deactivation_run :
    ∃ s, (system container).Reachable identified
        (World.initial { status := "Deleting", clusterContainerID := some 7 } true (some runningPod) true) s ∧
      stoppedDeactivated s.world = true ∧ ∀ e ∈ s.world.entries, e.member = true → e.deactivated = true :=
  System.Reachable.of_play_and [.pass () (answers "UP") 30, .pass () (answers "INACTIVE") 30] (by decide +kernel)
    (teardown_after_deactivation container rfl _ (by decide) true (some runningPod) true)

/-- The process has joined, but the container has no ID yet when the pass loads it: the deactivation is skipped, the ID
    is found, and the pass goes on with the force stop. -/
theorem teardown_before_deactivation :
    ∃ s, (system container).Reachable (fun _ _ => true)
        (World.initial { status := "Deleting" } true (some runningPod) false) s ∧
      ∃ e ∈ s.world.entries, e.member = true ∧ e.deactivated = false :=
  System.Reachable.of_play [.event (.env .joins), .pass () (answers "UP") 30] (by decide +kernel)

end WekaOperator.Deleting
