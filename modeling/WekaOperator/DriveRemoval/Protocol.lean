import WekaOperator.DriveRemoval.World

/-! What a reconcile knows of the VIDs that it drops. -/

namespace WekaOperator.DriveRemoval
open List Lib Lib.Flow Operations Containers

/-! ### Stages -/

/-- What a run was told: the drives at the start, and the proxy's drives that are gone. -/
structure Stage where
  base : Option (List VirtualDrive) := none
  added : Option (List Drive) := none
  dropping : List Deallocation := []
  gone : ProxyDrive → Prop := fun _ => False
  pending : Option String := none

namespace Stage

/-- More of them are gone. -/
def learn (st : Stage) (more : ProxyDrive → Prop) : Stage := { st with gone := fun e => st.gone e ∨ more e }

/-- The stage after a call. -/
def next (st : Stage) : (op : Op) → op.Reply → Stage
  | .load, .ok (status, _) => { base := some status.virtualDrives, added := some status.addedDrives }
  | .updateStatus status, .ok () => { st with added := some status.addedDrives }
  | .updateStatus status, .error _ => { st with added := if st.added = some status.addedDrives then st.added else none }
  | .removeDrive uuid, .ok () => { st with pending := some uuid }
  | .listVirtualDrives, .ok vds => st.learn fun e => e.virtualUUID ∉ vds.map (·.virtualUUID)
  | .listPhysicalDrives, .ok physical => st.learn fun e => e.physicalUUID ∉ physical
  | .removeVirtualDrive vid, .ok () => st.learn fun e => e.virtualUUID = vid
  | .removeVirtualDriveByLabel label physical, .ok () => st.learn fun e => e.label = label ∧ e.physicalUUID = physical
  -- a VID that nothing would retry is not on the proxy then
  | .getHandle _, .error _ => { st with pending := none }
  | .listVirtualDrives, .error _ => { st with pending := none }
  | .removeVirtualDrive _, .error _ => { st with pending := none }
  | .deallocating which, _ => { st with dropping := which :: st.dropping }
  | _, _ => st

/-- These are gone. -/
def Knows (st : Stage) (X : ProxyDrive → Prop) : Prop := ∀ e, X e → st.gone e

/-- A drive that left the cluster is gone from the proxy. -/
def Settled (st : Stage) : Prop := ∀ vid, st.pending = some vid → st.Knows (·.virtualUUID = vid)

/-- A drive that may be dropped from the status. -/
def Dropped (c : Container) (st : Stage) (vd : VirtualDrive) : Prop :=
  (∃ which ∈ st.dropping, which.unerased c (st.added.getD []) vd = true) ∨ st.Knows (·.isOf vd = true)

/-- The calls allowed at a stage. -/
def allowed (c : Container) (st : Stage) : Op → Prop
  | .load => st.pending = none
  | .updateStatus status =>
    ∃ base added, st.base = some base ∧ st.added = some added ∧ (∀ vd ∈ status.virtualDrives, vd ∈ base) ∧
      ∀ vd ∈ base, vd ∈ status.virtualDrives ∨ st.Dropped c vd
  | .removeDrive _ => st.Settled
  | .removeVirtualDrive vid => st.Settled ∨ st.pending = some vid
  | .deallocating _ => c.nodeAffinity ≠ ""
  | _ => True

end Stage

/-- The protocol of the removal. -/
def protocol (c : Container) : Protocol Op Op.Reply Stage where
  fresh := {}
  next := Stage.next
  allowed := Stage.allowed c
  admits _ _ := True

/-! ### What holds between the calls -/

/-- The status in memory is that of the start without dropped drives. -/
structure Based (c : Container) (m : Loop) (st : Stage) : Prop where
  base : ∃ base, st.base = some base ∧ (∀ vd ∈ m.status.virtualDrives, vd ∈ base) ∧
    ∀ vd ∈ base, vd ∈ m.status.virtualDrives ∨ st.Dropped c vd
  added : st.added = some m.status.addedDrives
  node : m.nodeSet = true → c.nodeAffinity ≠ ""

/-- Between two removals. -/
structure At (c : Container) (m₀ : Loop) (X : ProxyDrive → Prop) (m : Loop) (st : Stage) : Prop extends Based c m st where
  settled : st.Settled
  knows : st.Knows X
  memory : m = m₀

/-- A drive left the cluster and is to be erased. -/
structure Erasing (c : Container) (m₀ : Loop) (X : ProxyDrive → Prop) (vid : String) (m : Loop) (st : Stage) : Prop
    extends Based c m st where
  pending : st.Settled ∨ st.pending = some vid
  knows : st.Knows X
  memory : m = m₀

variable {vd : VirtualDrive}

section Between
variable {c : Container} {X Y : ProxyDrive → Prop} {m m₀ : Loop} {st : Stage} {vid : String}

theorem Stage.Dropped.learn (h : st.Dropped c vd) : (st.learn Y).Dropped c vd :=
  h.imp_right fun h e he => .inl (h e he)

theorem Based.learn (h : Based c m st) : Based c m (st.learn Y) := by
  obtain ⟨base, hbase, hsub, hall⟩ := h.base
  exact ⟨⟨base, hbase, hsub, fun vd hvd => (hall vd hvd).imp_right Stage.Dropped.learn⟩, h.added, h.node⟩

theorem Based.unpend (h : Based c m st) : Based c m { st with pending := none } := ⟨h.base, h.added, h.node⟩

theorem Stage.Settled.learn (h : st.Settled) : (st.learn Y).Settled := fun vid hp e he => Or.inl (h vid hp e he)

section
variable (h : At c m₀ X m st)
include h

theorem At.learn : At c m₀ (fun e => X e ∨ Y e) m (st.learn Y) :=
  ⟨h.toBased.learn, h.settled.learn, fun e he => he.imp (h.knows e) id, h.memory⟩

theorem At.mono (sub : ∀ e, Y e → X e) : At c m₀ Y m st :=
  ⟨h.toBased, h.settled, fun e he => h.knows e (sub e he), h.memory⟩

theorem At.unpend : At c m₀ X m { st with pending := none } := ⟨h.toBased.unpend, nofun, h.knows, h.memory⟩

theorem At.erasing : Erasing c m₀ X vid m st := ⟨h.toBased, Or.inl h.settled, h.knows, h.memory⟩

end

section
variable (h : Erasing c m₀ X vid m st)
include h

theorem Erasing.unpend : At c m₀ X m { st with pending := none } :=
  ⟨h.toBased.unpend, nofun, h.knows, h.memory⟩

theorem Erasing.learn (sub : ∀ e, e.virtualUUID = vid → Y e) :
    At c m₀ (fun e => X e ∨ e.virtualUUID = vid) m (st.learn Y) := by
  refine ⟨h.toBased.learn, ?_, ?_, h.memory⟩
  · rcases h.pending with settled | pending
    · exact settled.learn
    · intro vid' hp e he
      have same : vid = vid' := Option.some.inj (pending.symm.trans hp)
      subst same
      exact .inr (sub e he)
  · rintro e (he | he)
    · exact .inl (h.knows e he)
    · exact .inr (sub e he)

theorem Erasing.more : Erasing c m₀ X vid m (st.learn Y) :=
  ⟨h.toBased.learn, h.pending.imp_left Stage.Settled.learn, fun e he => .inl (h.knows e he), h.memory⟩

end

end Between

/-! ### Removals -/

variable {R : Loop → Stage → Prop}

section Removals
variable {c : Container} {m₀ : Loop} {X : ProxyDrive → Prop} {uuid : String}

/-- Calls that do not matter here. -/
def Op.quiet : Op → Bool
  | .getNode | .shouldRun _ | .listContainerDrives | .getClusterDrive _ | .deactivateDrive _ | .mapOrder _ => true
  | _ => false

theorem call_keeps {op : Op} (quiet : op.quiet = true) : Keeps (protocol c) R (call op) := by
  refine .call ?_ ?_
  · intro _ _ _
    cases op <;> first | cases quiet; trivial | cases quiet
  · intro m st r h
    have same : (protocol c).next st op r = st := by cases op <;> first | rfl | cases quiet
    rw [same]
    exact h

/-- What a removal leaves behind. -/
def After (c : Container) (m₀ : Loop) (X : ProxyDrive → Prop) (uuid : String) : Removal → Loop → Stage → Prop
  | .removed => Erasing c m₀ X uuid
  | .notFound => At c m₀ X

theorem removeDriveFromCluster_leads (driveRef noun : String) :
    Leads (protocol c) (At c m₀ X) (removeDriveFromCluster uuid driveRef noun) (After c m₀ X uuid) (At c m₀ X) := by
  have remove : Leads (protocol c) (At c m₀ X) (call (.removeDrive uuid))
      (fun | .ok _ => Erasing c m₀ X uuid | .error _ => At c m₀ X) (At c m₀ X) := by
    refine .call (fun _ _ h => h.settled) fun m st r h => ?_
    cases r with
    | ok _ => exact ⟨⟨h.base, h.added, h.node⟩, .inr rfl, h.knows, h.memory⟩
    | error _ => exact h
  refine .bind (call_keeps (R := At c m₀ X) rfl) fun r => ?_
  rcases r with ⟨_ | e⟩ | status
  · exact .pure fun _ _ h => h
  · exact .throw fun _ _ h => h
  dsimp only
  split
  · refine Leads.bind (call_keeps (R := At c m₀ X) rfl) fun r => Leads.bind (Keeps.orFail _ r) fun _ => remove.bind fun r => ?_
    cases r with
    | ok _ => exact .pure fun _ _ h => h
    | error _ => exact .throw fun _ _ h => h
  · exact .throw fun _ _ h => h

theorem proxyHolds_leads (text : ApiError → String) :
    Leads (protocol c) (Erasing c m₀ X uuid) (proxyHolds uuid text)
      (fun | true => Erasing c m₀ X uuid | false => At c m₀ fun e => X e ∨ e.virtualUUID = uuid) (At c m₀ X) := by
  have list : Leads (protocol c) (Erasing c m₀ X uuid) (call .listVirtualDrives)
      (fun
        | .ok vds => if vds.any (·.virtualUUID = uuid) then Erasing c m₀ X uuid else At c m₀ fun e => X e ∨ e.virtualUUID = uuid
        | .error _ => At c m₀ X) (At c m₀ X) := by
    refine .call (fun _ _ _ => trivial) fun m st r h => ?_
    cases r with
    | error _ => exact h.unpend
    | ok vds =>
      dsimp only
      split
      · exact h.more
      · rename_i absent
        refine h.learn fun e he hmem => absent ?_
        obtain ⟨vd, hvd, hid⟩ := mem_map.mp hmem
        exact any_eq_true.mpr ⟨vd, hvd, decide_eq_true (hid.trans he)⟩
  refine list.bind fun r => ?_
  cases r with
  | error _ => exact .throw fun _ _ h => h
  | ok vds =>
    refine .pure (a := vds.any (·.virtualUUID = uuid)) fun m st h => ?_
    dsimp only at h
    split at h
    · rename_i held
      rw [held]
      exact h
    · rename_i absent
      rw [Bool.eq_false_iff.mpr absent]
      exact h

theorem listVirtualDrives_keeps : Keeps (protocol c) (At c m₀ X) (call .listVirtualDrives) := by
  refine .call (fun _ _ _ => trivial) fun m st r h => ?_
  cases r with
  | error _ => exact h.unpend
  | ok vds => exact At.mono h.learn fun _ => .inl

theorem proxyHolds_keeps (text : ApiError → String) : Keeps (protocol c) (At c m₀ X) (proxyHolds uuid text) :=
  listVirtualDrives_keeps.bind fun r => (Keeps.orFail _ r).bind fun _ => Keeps.pure _

theorem removeVirtualDriveViaProxy_leads :
    Leads (protocol c) (Erasing c m₀ X uuid) (removeVirtualDriveViaProxy uuid)
      (fun _ => At c m₀ fun e => X e ∨ e.virtualUUID = uuid) (At c m₀ X) := by
  have remove : Leads (protocol c) (Erasing c m₀ X uuid) (call (.removeVirtualDrive uuid))
      (fun | .ok _ => At c m₀ fun e => X e ∨ e.virtualUUID = uuid | .error _ => At c m₀ X) (At c m₀ X) := by
    refine .call (fun _ _ h => h.pending) fun m st r h => ?_
    cases r with
    | ok _ => exact h.learn fun _ he => he
    | error _ => exact h.unpend
  have fewer : ∀ m st, At c m₀ (fun e => X e ∨ e.virtualUUID = uuid) m st → At c m₀ X m st := fun _ _ h => h.mono fun _ => .inl
  refine (proxyHolds_leads _).bind fun held => ?_
  cases held with
  | false => exact .pure fun _ _ h => h
  | true =>
    refine remove.bind fun r => .bind (Q := fun _ => At c m₀ fun e => X e ∨ e.virtualUUID = uuid) ?_ fun _ => ?_
    · cases r with
      | ok _ => exact .pure fun _ _ h => h
      | error _ => exact .throw fun _ _ h => h
    · -- what the second query finds does not matter any more
      refine .bind (.mono (proxyHolds_keeps _) (fun _ _ _ h => h) fewer) fun still => ?_
      cases still with
      | true => exact .throw fewer
      | false => exact .pure fun _ _ h => h

section
variable (unpend : ∀ m st, R m st → At c m₀ X m { st with pending := none })
include unpend

theorem getHandle_leads (handle : Handle) (text : ApiError → String) :
    Leads (protocol c) R (do orFail text (← call (.getHandle handle))) (fun _ => R) (At c m₀ X) := by
  have get : Leads (protocol c) R (call (.getHandle handle)) (fun | .ok _ => R | .error _ => At c m₀ X) (At c m₀ X) := by
    refine .call (fun _ _ _ => trivial) fun m st r h => ?_
    cases r with
    | ok _ => exact h
    | error _ => exact unpend m st h
  refine get.bind fun r => ?_
  cases r with
  | ok _ => exact .pure fun _ _ h => h
  | error _ => exact .throw fun _ _ h => h

theorem proxyHandles_leads (node : c.nodeAffinity ≠ "") (proxy purpose : String) :
    Leads (protocol c) R (proxyHandles c proxy purpose) (fun _ => R) (At c m₀ X) := by
  refine .bind (Q := fun _ => R) ?_ fun _ => (getHandle_leads unpend _ _).bind fun _ => getHandle_leads unpend _ _
  rw [findSSDProxyOnNode, if_neg node]
  exact getHandle_leads unpend _ _

end

section
variable (sharing : c.usesDriveSharing = true) (erases : c.skipVirtualDrivesRemoval = false) (node : c.nodeAffinity ≠ "")
include erases

theorem removeVirtualDriveFromWekaAndProxy_leads :
    Leads (protocol c) (At c m₀ X) (removeVirtualDriveFromWekaAndProxy c uuid)
      (fun _ => At c m₀ fun e => X e ∨ e.virtualUUID = uuid) (At c m₀ X) := by
  refine (removeDriveFromCluster_leads _ _).bind fun r => ?_
  rw [if_neg (by simp [erases])]
  refine .wrapError _ (.pre removeVirtualDriveViaProxy_leads fun m st h => ?_)
  cases r with
  | removed => exact h
  | notFound => exact At.erasing h

include sharing node

theorem removeDriveFromWeka_keeps (drive : Drive) : Keeps (protocol c) (At c m₀ X) (removeDriveFromWeka c drive) := by
  refine (removeDriveFromCluster_leads _ _).bind fun r => ?_
  cases r with
  | notFound => exact Keeps.pure ()
  | removed =>
    simp only [sharing, erases, removeVirtualDrive, if_neg node, Bool.not_false, Bool.and_self, if_true]
    refine (proxyHandles_leads (fun _ _ h => Erasing.unpend h) node _ _).bind fun _ => ?_
    exact .mono removeVirtualDriveViaProxy_leads (fun _ _ _ h => h.mono fun _ => .inl) fun _ _ h => h

theorem removeDrivesFromWeka_keeps (drives : List Drive) :
    Keeps (protocol c) (At c m₀ X) (removeDrivesFromWeka c drives) := by
  have each : ∀ drives, Keeps (protocol c) (At c m₀ X) (removeEach c drives) := by
    intro drives
    induction drives with
    | nil => exact .pure []
    | cons drive drives ih =>
      exact .bind (.attempt (removeDriveFromWeka_keeps sharing erases node drive)) fun _ =>
        ih.bind fun _ => .pure _
  exact (call_keeps rfl).bind fun ordered => each ordered

end

end Removals

/-! ### Deallocations -/

variable {st : Stage} {which : Deallocation} {m : Loop} {α : Type}

section Deallocations
variable {c : Container} {m₀ : Loop} {X : ProxyDrive → Prop}

/-- At the start of a step. -/
structure Ready (c : Container) (m : Loop) (st : Stage) : Prop extends Based c m st where
  settled : st.Settled

theorem At.ready (h : At c m₀ X m st) : Ready c m st := ⟨h.toBased, h.settled⟩

theorem Ready.at (h : Ready c m st) : At c m (fun _ => False) m st :=
  ⟨h.toBased, h.settled, nofun, rfl⟩

variable {x : M α}

theorem keeps_ready (h : ∀ m₀, Leads (protocol c) (At c m₀ fun _ => False) x (fun _ => Ready c) (Ready c)) :
    Keeps (protocol c) (Ready c) x := fun m st hm => h m m st hm.at

theorem weaken {Q : α → Loop → Stage → Prop} (h : Leads (protocol c) (At c m₀ X) x Q (At c m₀ X)) :
    Leads (protocol c) (At c m₀ X) x Q (Ready c) := h.mono (fun _ _ _ h => h) fun _ _ h => h.ready

theorem get_leads {E : Loop → Stage → Prop} :
    Leads (protocol c) (At c m₀ X) (get : M Loop) (fun m m' st => m = m₀ ∧ At c m₀ X m' st) E :=
  .get fun _ _ h => ⟨h.memory, h⟩

section
variable (node : c.nodeAffinity ≠ "")
include node

theorem drop_leads {status : Status} (text : ApiError → String) (same : status.addedDrives = m₀.status.addedDrives)
    (fewer : ∀ vd ∈ status.virtualDrives, vd ∈ m₀.status.virtualDrives)
    (drops : ∀ vd ∈ m₀.status.virtualDrives, vd ∈ status.virtualDrives ∨
      which.unerased c m₀.status.addedDrives vd = true ∨ ∀ e, e.isOf vd = true → X e) :
    Leads (protocol c) (At c m₀ X) (do mark which; updateStatus status text) (fun _ => Ready c) (Ready c) := by
  refine .bind (Q := fun _ m st => At c m₀ X m st ∧ which ∈ st.dropping) (.call (fun _ _ _ => node) ?_) fun _ => ?_
  · rintro m st r ⟨⟨⟨base, hbase, hsub, hall⟩, added, hnode⟩, settled, knows, rfl⟩
    refine ⟨⟨⟨⟨base, hbase, hsub, fun vd hvd => (hall vd hvd).imp_right ?_⟩, added, hnode⟩, settled, knows, rfl⟩,
      mem_cons_self⟩
    exact .imp_left fun ⟨which', hwhich', h⟩ => ⟨which', mem_cons_of_mem _ hwhich', h⟩
  · rintro m st ⟨⟨⟨⟨base, hbase, hsub, hall⟩, added, hnode⟩, settled, knows, rfl⟩, marked⟩
    have dropped : ∀ vd ∈ base, vd ∈ status.virtualDrives ∨ st.Dropped c vd := by
      intro vd hvd
      rcases hall vd hvd with hmem | hdropped
      · rcases drops vd hmem with hin | hun | hX
        · exact .inl hin
        · exact .inr (.inl ⟨which, marked, by simpa only [added, Option.getD_some] using hun⟩)
        · exact .inr (.inr fun e he => knows e (hX e he))
      · exact .inr hdropped
    have written : Ready c { m with status := status } st :=
      ⟨⟨⟨base, hbase, fun vd hvd => hsub vd (fewer vd hvd), dropped⟩, by rw [added, same], hnode⟩, settled⟩
    have unchanged : ∀ r, (protocol c).next st (.updateStatus status) r = st := by
      intro r
      cases r with
      | ok _ => simp only [protocol, Stage.next, same, ← added]
      | error _ => simp only [protocol, Stage.next, same, ← added, if_true]
    refine ⟨⟨base, _, hbase, added, fun vd hvd => hsub vd (fewer vd hvd), dropped⟩, fun r _ => ?_⟩
    rw [unchanged]
    cases r with
    | ok _ => exact written
    | error _ => exact written

theorem deallocateVirtualDrives_leads {matching : VirtualDrive → Bool}
    (drops : ∀ vd ∈ m₀.status.virtualDrives, matching vd = true →
      which.unerased c m₀.status.addedDrives vd = true ∨ ∀ e, e.isOf vd = true → X e) :
    Leads (protocol c) (At c m₀ X) (deallocateVirtualDrives which matching) (fun _ => Ready c) (Ready c) := by
  refine get_leads.bind fun a => .fact fun ha => ?_
  subst ha
  refine .ite (fun _ => drop_leads node _ rfl (fun _ => mem_of_mem_filter) fun vd hvd => ?_) fun _ => .pure fun _ _ h => h.ready
  cases hm : matching vd with
  | true => exact .inr (drops vd hvd hm)
  | false => exact .inl (mem_filter.mpr ⟨hvd, by rw [hm]; rfl⟩)

theorem deallocateDrivesBySerials_leads :
    Leads (protocol c) (At c m₀ X) (deallocateDrivesBySerials c.blockedSerials) (fun _ => Ready c) (Ready c) := by
  refine get_leads.bind fun a => .fact fun ha => ?_
  subst ha
  refine .ite (fun _ => drop_leads node _ rfl (fun _ => mem_of_mem_filter) fun vd hvd => ?_) fun _ => .pure fun _ _ h => h.ready
  by_cases hs : vd.serial ∈ c.blockedSerials
  · exact .inr (.inl (decide_eq_true hs))
  · exact .inl (mem_filter.mpr ⟨hvd, by simpa using hs⟩)

end

/-! ### The three functions -/

/-- Drives that are erased before they are dropped. -/
def ErasedFirst (blocked added : List String) (vd : VirtualDrive) : Prop :=
  vd.physicalUUID ∈ blocked ∧ (vidPending vd = true ∨ vd.virtualUUID ≠ "" ∧ vd.virtualUUID ∉ added)

theorem proxyPhysicalUuids_leads {onProxy : Option (List String)}
    (cached : ∀ l, onProxy = some l → ∀ e : ProxyDrive, e.physicalUUID ∉ l → X e) :
    Leads (protocol c) (At c m₀ X) (proxyPhysicalUuids onProxy) (fun l => At c m₀ fun e => X e ∨ e.physicalUUID ∉ l)
      (At c m₀ X) := by
  cases onProxy with
  | some l => exact .pure fun _ _ h => h.mono fun e he => he.elim id (cached l rfl e)
  | none =>
    have list : Leads (protocol c) (At c m₀ X) (call .listPhysicalDrives)
        (fun | .ok l => At c m₀ fun e => X e ∨ e.physicalUUID ∉ l | .error _ => At c m₀ X) (At c m₀ X) := by
      refine .call (fun _ _ _ => trivial) fun m st r h => ?_
      cases r with
      | ok l => exact h.learn
      | error _ => exact h
    refine list.bind fun r => ?_
    cases r with
    | ok _ => exact .pure fun _ _ h => h
    | error _ => exact .throw fun _ _ h => h

theorem removeVidByLabel_leads {onProxy : List String} (pending : vidPending vd = true)
    (known : ∀ e : ProxyDrive, e.physicalUUID ∉ onProxy → X e) :
    Leads (protocol c) (At c m₀ X) (removeVidByLabel onProxy vd) (fun _ => At c m₀ fun e => X e ∨ e.isOf vd = true)
      (At c m₀ X) := by
  have isOf_iff : ∀ e : ProxyDrive, e.isOf vd = true ↔ e.label = vd.label ∧ e.physicalUUID = vd.physicalUUID := by
    intro e
    simp [ProxyDrive.isOf, pending]
  unfold removeVidByLabel
  split
  · rename_i absent
    refine .pure fun _ _ h => h.mono fun e he => he.elim id fun hof => known e ?_
    rw [((isOf_iff e).mp hof).2]
    exact absent
  · have remove : Leads (protocol c) (At c m₀ X) (call (.removeVirtualDriveByLabel vd.label vd.physicalUUID))
        (fun | .ok _ => At c m₀ fun e => X e ∨ e.isOf vd = true | .error _ => At c m₀ X) (At c m₀ X) := by
      refine .call (fun _ _ _ => trivial) fun m st r h => ?_
      cases r with
      | ok _ => exact At.mono h.learn fun e he => he.imp_right (isOf_iff e).mp
      | error _ => exact h
    refine remove.bind fun r => ?_
    cases r with
    | ok _ => exact .pure fun _ _ h => h
    | error _ => exact .throw fun _ _ h => h

theorem eraseUnadded_leads (erases : c.skipVirtualDrivesRemoval = false) (blocked added : List String)
    (vds : List VirtualDrive) (onProxy : Option (List String))
    (cached : ∀ l, onProxy = some l → ∀ e : ProxyDrive, e.physicalUUID ∉ l → X e) :
    Leads (protocol c) (At c m₀ X) (eraseUnadded c blocked added vds onProxy)
      (fun _ => At c m₀ fun e => X e ∨ ∃ vd ∈ vds, ErasedFirst blocked added vd ∧ e.isOf vd = true) (At c m₀ X) := by
  induction vds generalizing X onProxy with
  | nil => exact .pure fun _ _ h => h.mono fun e he => he.elim id nofun
  | cons vd vds ih =>
    -- once the first drive is dealt with, the others are, and what is known of it stays
    have rest : ∀ {Y : ProxyDrive → Prop} {a : Option (List String)} (b : Bool),
        (∀ l, a = some l → ∀ e : ProxyDrive, e.physicalUUID ∉ l → Y e) → (∀ e, X e → Y e) →
        (∀ e : ProxyDrive, ErasedFirst blocked added vd → e.isOf vd = true → Y e) →
        Leads (protocol c) (At c m₀ Y) (do let _ ← eraseUnadded c blocked added vds a; return b)
          (fun _ => At c m₀ fun e => X e ∨ ∃ vd' ∈ vd :: vds, ErasedFirst blocked added vd' ∧ e.isOf vd' = true)
          (At c m₀ X) := by
      intro Y a b hcached hX hfirst
      refine .bind (.mono (ih a hcached) (fun _ _ _ h => h) fun _ _ h => h.mono hX) fun _ => ?_
      refine .pure fun _ _ h => h.mono ?_
      rintro e (he | ⟨vd', hvd', hfirst', hof⟩)
      · exact .inl (hX e he)
      · rcases mem_cons.mp hvd' with rfl | hvd'
        · exact .inl (hfirst e hfirst' hof)
        · exact .inr ⟨vd', hvd', hfirst', hof⟩
    have skip : ¬ErasedFirst blocked added vd → Leads (protocol c) (At c m₀ X) (eraseUnadded c blocked added vds onProxy)
        (fun _ => At c m₀ fun e => X e ∨ ∃ vd' ∈ vd :: vds, ErasedFirst blocked added vd' ∧ e.isOf vd' = true)
        (At c m₀ X) := by
      intro unhandled
      refine .mono (ih onProxy cached) (fun _ _ _ h => h.mono ?_) fun _ _ h => h
      rintro e (he | ⟨vd', hvd', hfirst', hof⟩)
      · exact .inl he
      · rcases mem_cons.mp hvd' with rfl | hvd'
        · exact absurd hfirst' unhandled
        · exact .inr ⟨vd', hvd', hfirst', hof⟩
    unfold eraseUnadded
    split
    · rename_i other
      exact skip fun h => other h.1
    split
    · rename_i pending
      rw [if_neg (by simp [erases])]
      refine (proxyPhysicalUuids_leads cached).bind fun physical => ?_
      refine .bind (.wrapError _ (.mono (removeVidByLabel_leads pending fun e he => .inr he)
        (fun _ _ _ h => h) fun _ _ h => h.mono fun _ => .inl)) fun _ => ?_
      exact rest true (fun l hl e he => .inl (.inr (Option.some.inj hl ▸ he))) (fun e he => .inl (.inl he))
        fun e _ hof => .inr hof
    split
    · rename_i unpending unadded
      refine .bind (.wrapError _ (removeVirtualDriveFromWekaAndProxy_leads erases)) fun _ => ?_
      refine rest true (fun l hl e he => .inl (cached l hl e he)) (fun e he => .inl he) fun e _ hof => .inr ?_
      simpa [ProxyDrive.isOf, unpending] using hof
    · rename_i unpending added
      exact skip fun h => h.2.elim unpending added

theorem readNodeBlockedList_leads (text : String → String) (annotationName : String) (value : Except String (List String)) :
    Leads (protocol c) (At c m₀ X) (wrapError text (readNodeBlockedList annotationName value))
      (fun blocked m st => (value = .ok blocked ∧ c.nodeAffinity ≠ "") ∧ At c m₀ X m st) (At c m₀ X) := by
  refine .wrapError _ (get_leads.bind fun m => .fact fun hm => .ite (fun set => ?_) fun _ => ?_)
  · refine .orFail (fun blocked hb m' st h => ⟨⟨hb, h.node ?_⟩, h⟩) fun _ _ _ _ h => h
    rw [h.memory, ← hm]
    exact set
  · exact .throw fun _ _ h => h

theorem removeVids_leads (erases : c.skipVirtualDrivesRemoval = false) (vids : List String) :
    Leads (protocol c) (At c m₀ X) (removeVids c vids)
      (fun out m st => (∀ vid ∈ out.1, vid ∈ vids) ∧ At c m₀ (fun e => X e ∨ e.virtualUUID ∈ out.1) m st) (At c m₀ X) := by
  induction vids generalizing X with
  | nil => exact .pure fun _ _ h => ⟨nofun, h.mono fun e he => he.elim id nofun⟩
  | cons vid vids ih =>
    refine .bind (.attempt (removeVirtualDriveFromWekaAndProxy_leads erases)) fun err => ?_
    cases err with
    | none =>
      refine .bind (.mono ih (fun _ _ _ h => h) fun _ _ h => h.mono fun _ => .inl) fun out => ?_
      refine .pure fun _ _ h => ⟨fun v hv => ?_, h.2.mono fun e he => ?_⟩
      · rcases mem_cons.mp hv with rfl | hv
        · exact mem_cons_self
        · exact mem_cons_of_mem _ (h.1 v hv)
      · rcases he with he | he
        · exact .inl (.inl he)
        · rcases mem_cons.mp he with he | he
          · exact .inl (.inr he)
          · exact .inr he
    | some e =>
      refine ih.bind fun out => .pure fun _ _ h => ⟨fun v hv => mem_cons_of_mem _ (h.1 v hv), h.2⟩

theorem deallocateRemoved_leads (node : c.nodeAffinity ≠ "") {removed : List String}
    (blocked : ∀ vid ∈ removed, vid ∈ c.blockedVirtualUuids) (gone : ∀ e : ProxyDrive, e.virtualUUID ∈ removed → X e) :
    Leads (protocol c) (At c m₀ X) (deallocateRemoved removed) (fun _ => Ready c) (Ready c) := by
  have dealloc : Leads (protocol c) (At c m₀ X) (deallocateDrivesByVirtualUuids removed) (fun _ => Ready c) (Ready c) := by
    refine deallocateVirtualDrives_leads node fun vd _ hm => ?_
    have hmem : vd.virtualUUID ∈ removed := of_decide_eq_true hm
    cases pending : vidPending vd with
    | true =>
      -- an empty VID names every drive whose VID is pending
      left
      have empty : vd.virtualUUID = "" := (of_decide_eq_true pending).2
      exact decide_eq_true ⟨empty, empty ▸ blocked _ hmem⟩
    | false =>
      right
      intro e he
      simp only [ProxyDrive.isOf, pending, Bool.false_eq_true, if_false, decide_eq_true_eq] at he
      exact gone e (he ▸ hmem)
  refine .ite (fun _ => .pure fun _ _ h => h.ready) fun _ => ?_
  refine .bind (Q := fun _ => Ready c) (.mono (.attempt dealloc) ?_ fun _ _ h => h) fun _ =>
    .pure fun _ _ h => h
  rintro (_ | e) m st h
  · exact h
  · exact h

section
variable (sharing : c.usesDriveSharing = true) (erases : c.skipVirtualDrivesRemoval = false)
include sharing erases

theorem removeAll_keeps (node : c.nodeAffinity ≠ "") (drives : List Drive) (text : List String → String) :
    Keeps (protocol c) (Ready c) (do
      match ← removeDrivesFromWeka c drives with
      | [] => return ()
      | errs => throw (text errs)) := by
  refine .bind (keeps_ready fun m₀ => .mono (removeDrivesFromWeka_keeps sharing erases node drives)
    (fun _ _ _ h => h.ready) fun _ _ h => h.ready) fun errs => ?_
  cases errs with
  | nil => exact .pure ()
  | cons _ _ => exact .throw _

theorem removeDrives_keeps : Keeps (protocol c) (Ready c) (removeDrives c) := by
  refine keeps_ready fun m₀ => .bind (weaken (readNodeBlockedList_leads _ _ _)) fun blocked => .fact fun ⟨hb, node⟩ => get_leads.bind fun m => .fact fun hm => ?_
  have same : blocked = c.blockedSerials := by simp [Container.blockedSerials, hb, Except.toOption]
  subst same
  refine .ite (fun _ => .pure fun _ _ h => h.ready) fun _ => ?_
  exact (deallocateDrivesBySerials_leads node).bind fun _ => removeAll_keeps sharing erases node _ _

theorem removeDrivesByPhysicalUuids_keeps : Keeps (protocol c) (Ready c) (removeDrivesByPhysicalUuids c) := by
  refine keeps_ready fun m₀ => (weaken (readNodeBlockedList_leads _ _ _)).bind fun blocked =>
    Leads.fact fun ⟨hb, node⟩ => ?_
  have same : blocked = c.blockedPhysicalUuids := by simp [Container.blockedPhysicalUuids, hb, Except.toOption]
  subst same
  refine Leads.ite (fun _ => Leads.pure fun _ _ h => h.ready) fun _ => ?_
  refine (weaken (proxyHandles_leads (fun _ _ h => h.unpend) node _ _)).bind fun _ =>
    (weaken listVirtualDrives_keeps).bind fun r => (weaken (Keeps.orFail _ r)).bind fun listed =>
    get_leads.bind fun m => Leads.fact fun hm => ?_
  subst hm
  refine (weaken (eraseUnadded_leads erases _ _ _ _ nofun)).bind fun drops => ?_
  refine Leads.ite (fun _ => Leads.pure fun _ _ h => h.ready) fun _ => ?_
  refine Leads.bind (deallocateVirtualDrives_leads node fun vd hvd hm => ?_) fun _ => removeAll_keeps sharing erases node _ _
  have hblocked : vd.physicalUUID ∈ c.blockedPhysicalUuids := of_decide_eq_true hm
  by_cases first : vidPending vd = true ∨ vd.virtualUUID ≠ "" ∧ vd.virtualUUID ∉ m.status.addedDrives.map (·.uuid)
  · exact .inr fun e he => .inr ⟨vd, hvd, ⟨hblocked, first⟩, he⟩
  · left
    simp only [not_or, not_and, not_not] at first
    refine decide_eq_true ⟨hblocked, by simpa using first.1, ?_⟩
    by_cases empty : vd.virtualUUID = ""
    · exact .inl empty
    · exact .inr (first.2 empty)

omit sharing in
theorem removeDrivesByVirtualUuids_keeps : Keeps (protocol c) (Ready c) (removeDrivesByVirtualUuids c) := by
  refine keeps_ready fun m₀ => (weaken (readNodeBlockedList_leads _ _ _)).bind fun blocked =>
    Leads.fact fun ⟨hb, node⟩ => get_leads.bind fun m => Leads.fact fun _ => ?_
  have same : blocked = c.blockedVirtualUuids := by simp [Container.blockedVirtualUuids, hb, Except.toOption]
  subst same
  refine Leads.ite (fun _ => Leads.pure fun _ _ h => h.ready) fun _ => ?_
  refine Leads.bind (Q := fun _ => At c m₀ fun _ => False) ?_ fun _ =>
    (weaken (removeVids_leads erases _)).bind fun out => Leads.fact fun removed => ?_
  · rw [ensureProxyReachable, if_neg (by simp [erases])]
    exact weaken (Leads.wrapError _ ((proxyHandles_leads (fun _ _ h => h.unpend) node _ _).bind fun _ =>
      listVirtualDrives_keeps.bind fun r => (Keeps.orFail _ r).bind fun _ => Keeps.pure ()))
  refine Leads.bind (deallocateRemoved_leads node (fun vid hvid => ?_) fun e he => .inr he) fun errs => ?_
  · exact of_decide_eq_true (List.mem_filter.mp (removed vid hvid)).2
  cases out.2 ++ errs with
  | nil => exact Leads.pure fun _ _ h => h
  | cons _ _ => exact Leads.throw fun _ _ h => h

end

end Deallocations

/-! ### A pass -/

section Pass
variable {c : Container}

/-- The memory is as loaded. -/
structure Loaded (c : Container) (m : Loop) (st : Stage) : Prop where
  base : st.base = some m.status.virtualDrives
  added : st.added = some m.status.addedDrives
  node : m.nodeSet = true → c.nodeAffinity ≠ ""
  settled : st.Settled

theorem Loaded.ready (h : Loaded c m st) : Ready c m st :=
  ⟨⟨⟨_, h.base, fun _ => id, fun _ => .inl⟩, h.added, h.node⟩, h.settled⟩

theorem getNode_keeps : Keeps (protocol c) (Loaded c) (getNode c) := by
  refine Leads.ite (fun _ => Keeps.pure ()) fun node => (call_keeps rfl).bind fun r => ?_
  rcases r with ⟨_ | e⟩ | _
  · exact .pure ()
  · exact .throw _
  · exact .modify fun m st h => ⟨h.base, h.added, fun _ => node, h.settled⟩

theorem updateWekaAddedDrives_leads :
    Leads (protocol c) (Loaded c) updateWekaAddedDrives (fun _ => Ready c) fun _ st => st.Settled := by
  have weaken : ∀ {α : Type} {x : M α}, Keeps (protocol c) (Loaded c) x →
      Leads (protocol c) (Loaded c) x (fun _ => Loaded c) fun _ st => st.Settled :=
    fun h => h.mono (fun _ _ _ h => h) fun _ _ h => h.settled
  refine (weaken (call_keeps rfl)).bind fun r => (weaken (.orFail _ r)).bind fun drivesAdded => ?_
  refine .bind (.get (Q := fun a m st => a = m ∧ Loaded c m st) fun m st h => ⟨rfl, h⟩) fun a => ?_
  refine .ite (fun _ => .pure fun _ _ h => h.2.ready) fun _ => ?_
  rintro m st ⟨rfl, h⟩
  refine ⟨⟨_, _, h.base, h.added, fun _ => id, fun _ => .inl⟩, fun r _ => ?_⟩
  cases r with
  | ok _ => exact ⟨⟨⟨_, h.base, fun _ => id, fun _ => .inl⟩, rfl, h.node⟩, h.settled⟩
  | error _ => exact h.settled

theorem throttled_keeps {run : M Unit} (h : Keeps (protocol c) R run) (step : Throttled) :
    Keeps (protocol c) R (throttled step run) := by
  refine (call_keeps rfl).bind fun r => ?_
  cases r with
  | true => exact h
  | false => exact .pure ()

theorem steps_lead (sharing : c.usesDriveSharing = true) (erases : c.skipVirtualDrivesRemoval = false) :
    Leads (protocol c) (Loaded c) (runAll keeper (steps c)) (fun _ => Ready c) fun _ st => st.Settled := by
  have last : ∀ s ∈ (steps c).drop 2, Keeps (protocol c) (Ready c) (s.exec keeper) := by
    intro s hs
    suffices run : Keeps (protocol c) (Ready c) s.run from Step.exec_keeps run nofun
    simp only [steps, drop_succ_cons, drop_zero, mem_cons, not_mem_nil, or_false] at hs
    rcases hs with rfl | rfl | rfl
    · exact throttled_keeps (removeDrives_keeps sharing erases) _
    · exact throttled_keeps (removeDrivesByPhysicalUuids_keeps sharing erases) _
    · exact throttled_keeps (removeDrivesByVirtualUuids_keeps erases) _
  refine .bind (Q := fun _ => Loaded c) ?_ fun _ => .bind (Q := fun _ => Ready c) ?_ fun _ => ?_
  · exact .mono (Step.exec_keeps getNode_keeps nofun) (fun _ _ _ h => h) fun _ _ h => h.settled
  · exact Step.exec_leads rfl (fun _ _ h _ => h.ready) updateWekaAddedDrives_leads (fun _ _ _ h => h) nofun
  · exact .mono (runAll_keeps last) (fun _ _ _ h => h) fun _ _ h => h.settled

theorem reconcile_conforms (sharing : c.usesDriveSharing = true) (erases : c.skipVirtualDrivesRemoval = false) :
    (reconcile c).Conforms (protocol c) (fun _ st => st.Settled) (protocol c).fresh := by
  refine ⟨rfl, fun r _ => ?_⟩
  rcases r with e | ⟨status, health⟩
  · exact nofun
  · refine .bind (steps_lead sharing erases { status, health } _ ⟨rfl, rfl, nofun, fun _ h => ?_⟩) ?_
    · cases h
    rintro ⟨out, m⟩ st h
    cases out with
    | ok _ => exact h.settled
    | error _ => exact h

end Pass

end WekaOperator.DriveRemoval
