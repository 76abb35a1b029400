import WekaOperator.DriveRemoval.World

/-! Several containers, of one cluster or of several, whose virtual drives lie on the same physical drives, each
    removing what the block list of virtual UUIDs names (`RemoveDrivesByVirtualUuids`). -/

namespace WekaOperator.DriveRemoval
open Function List Lib Lib.Flow Operations Containers

/-! ### The protocol of a reconcile -/

/-- What a run knows of its drives. -/
structure Ledger where
  record : Option Status := none
  gone : String → Prop := fun _ => False
  unheld : String → Prop := fun _ => False

namespace Ledger

/-- The ledger after a call. -/
def next (l : Ledger) : (op : Op) → op.Reply → Ledger
  | .load, .ok (status, _) => { record := some status }
  | .getClusterDrive uuid, .error .notFound => { l with gone := fun vid => l.gone vid ∨ vid = uuid }
  | .removeDrive uuid, .ok () => { l with gone := fun vid => l.gone vid ∨ vid = uuid }
  | .listVirtualDrives, .ok vds => { l with unheld := fun vid => l.unheld vid ∨ vid ∉ vds.map (·.virtualUUID) }
  | .updateStatus _, _ => { l with record := none }
  | _, _ => l

/-- The drive is one of the container's blocked ones. -/
def Owns (c : Container) (l : Ledger) (vid : String) : Prop :=
  ∃ status, l.record = some status ∧ vid ∈ status.virtualDrives.map (·.virtualUUID) ∧ vid ∈ c.blockedVirtualUuids

/-- The drive is gone from the cluster and from the proxy. -/
def Cleared (c : Container) (l : Ledger) (vid : String) : Prop :=
  l.gone vid ∧ (c.skipVirtualDrivesRemoval = true ∨ l.unheld vid)

/-- Only own drives are touched, and dropped when cleared. -/
def allowed (c : Container) (l : Ledger) : Op → Prop
  | .deactivateDrive uuid => l.Owns c uuid
  | .removeDrive uuid => l.Owns c uuid
  | .removeVirtualDrive vid => l.Owns c vid
  | .updateStatus status' => ∃ status, l.record = some status ∧ ∀ vd ∈ status.virtualDrives, vd ∈ status'.virtualDrives ∨
      vd.virtualUUID ∈ c.blockedVirtualUuids ∧ l.Cleared c vd.virtualUUID
  | .removeVirtualDriveByLabel _ _ => False
  | _ => True

end Ledger

/-- The protocol of the ledger. -/
def ledgerOf (c : Container) : Protocol Op Op.Reply Ledger where
  fresh := {}
  next := Ledger.next
  allowed := Ledger.allowed c
  admits _ _ := True

/-- What holds between two removals. -/
structure Removing (c : Container) (status : Status) (done : List String) (m : Loop) (l : Ledger) : Prop where
  memory : m.status = status
  record : l.record = some status
  done : ∀ vid ∈ done, l.Cleared c vid

section Removing
variable {c : Container} {status : Status} {done : List String} {m : Loop} {l l' : Ledger} {vid : String}
  {E : Loop → Ledger → Prop}

theorem Removing.see (h : Removing c status done m l) (record : l'.record = l.record) (gone : ∀ v, l.gone v → l'.gone v)
    (unheld : ∀ v, l.unheld v → l'.unheld v) : Removing c status done m l' :=
  ⟨h.memory, record.trans h.record, fun v hv => ⟨gone v (h.done v hv).1, (h.done v hv).2.imp_right (unheld v)⟩⟩

/-- The container's blocked drives. -/
def blockedVids (c : Container) (status : Status) : List String :=
  (status.virtualDrives.map (·.virtualUUID)).filter (· ∈ c.blockedVirtualUuids)

theorem Removing.owns (h : Removing c status done m l) (own : vid ∈ blockedVids c status) : l.Owns c vid := by
  obtain ⟨mem, blocked⟩ := mem_filter.mp own
  exact ⟨status, h.record, mem, of_decide_eq_true blocked⟩

theorem removeDriveFromCluster_gone (own : vid ∈ blockedVids c status) (noun : String) :
    Leads (ledgerOf c) (Removing c status done) (removeDriveFromCluster vid vid noun)
      (fun _ m l => Removing c status done m l ∧ l.gone vid) (Removing c status done) := by
  have get : Leads (ledgerOf c) (Removing c status done) (call (.getClusterDrive vid))
      (fun r m l => Removing c status done m l ∧ (r = .error .notFound → l.gone vid)) (Removing c status done) := by
    refine Leads.call (fun _ _ _ => trivial) fun m l r h => ?_
    rcases r with ⟨_ | e⟩ | s
    · exact ⟨h.see rfl (fun _ => .inl) fun _ => id, fun _ => .inr rfl⟩
    · exact ⟨h, nofun⟩
    · exact ⟨h, nofun⟩
  have deactivate : Keeps (ledgerOf c) (Removing c status done) (call (.deactivateDrive vid)) :=
    Keeps.call (fun _ _ h => h.owns own) fun _ _ _ h => h
  have remove : Leads (ledgerOf c) (Removing c status done) (call (.removeDrive vid))
      (fun r m l => Removing c status done m l ∧ (r = .ok () → l.gone vid)) (Removing c status done) := by
    refine Leads.call (fun _ _ h => h.owns own) fun m l r h => ?_
    cases r with
    | ok _ => exact ⟨h.see rfl (fun _ => .inl) fun _ => id, fun _ => .inr rfl⟩
    | error e => exact ⟨h, nofun⟩
  refine get.bind fun r => ?_
  rcases r with ⟨_ | e⟩ | s
  · exact Leads.pure fun _ _ h => ⟨h.1, h.2 rfl⟩
  · exact Leads.throw fun _ _ h => h.1
  refine Leads.ite (fun _ => ?_) fun _ => Leads.throw fun _ _ h => h.1
  refine Leads.bind (Leads.pre deactivate fun _ _ h => h.1) fun r => Leads.bind (Keeps.orFail _ r) fun _ => remove.bind fun r => ?_
  cases r with
  | ok _ => exact Leads.pure fun _ _ h => ⟨h.1, h.2 rfl⟩
  | error e => exact Leads.throw fun _ _ h => h.1

theorem proxyHolds_unheld (text : ApiError → String) :
    Leads (ledgerOf c) (fun m l => Removing c status done m l ∧ l.gone vid) (proxyHolds vid text)
      (fun held m l => (Removing c status done m l ∧ l.gone vid) ∧ (held = false → l.unheld vid)) (Removing c status done) := by
  have list : Leads (ledgerOf c) (fun m l => Removing c status done m l ∧ l.gone vid) (call .listVirtualDrives)
      (fun r m l => (Removing c status done m l ∧ l.gone vid) ∧
        ∀ vds, r = .ok vds → vid ∉ vds.map (·.virtualUUID) → l.unheld vid) (Removing c status done) := by
    refine .call (fun _ _ _ => trivial) fun m l r h => ?_
    cases r with
    | error e => exact ⟨h, nofun⟩
    | ok vds =>
      refine ⟨⟨h.1.see rfl (fun _ => id) fun _ => .inl, h.2⟩, ?_⟩
      rintro _ ⟨⟩ out
      exact .inr out
  refine list.bind fun r => ?_
  cases r with
  | error e => exact .throw fun _ _ h => h.1.1
  | ok vds =>
    refine .pure fun m l h => ⟨h.1, fun absent => h.2 vds rfl fun mem => ?_⟩
    obtain ⟨vd, hvd, same⟩ := mem_map.mp mem
    exact any_eq_false.mp absent vd hvd (decide_eq_true same)

theorem removeVirtualDriveFromWekaAndProxy_cleared (own : vid ∈ blockedVids c status) :
    Leads (ledgerOf c) (Removing c status done) (removeVirtualDriveFromWekaAndProxy c vid)
      (fun _ => Removing c status (vid :: done)) (Removing c status done) := by
  have cleared : ∀ {m l}, Removing c status done m l → l.Cleared c vid → Removing c status (vid :: done) m l := fun h hv =>
    ⟨h.memory, h.record, forall_mem_cons.mpr ⟨hv, h.done⟩⟩
  refine (removeDriveFromCluster_gone own _).bind fun _ => .ite (fun skip => ?_) fun _ => .wrapError _ ?_
  · exact .pure fun _ _ h => cleared h.1 ⟨h.2, .inl skip⟩
  refine (proxyHolds_unheld _).bind fun held => .ite (fun _ => ?_) fun out => ?_
  · have remove : Keeps (ledgerOf c) (fun m l => Removing c status done m l ∧ l.gone vid) (call (.removeVirtualDrive vid)) :=
      .call (fun _ _ h => h.1.owns own) fun _ _ _ h => h
    refine .bind (.pre (.mono remove (fun _ _ _ h => h) fun _ _ h => h.1) fun _ _ h => h.1) fun r => ?_
    refine Leads.bind (Leads.mono (Keeps.orFail _ r) (fun _ _ _ h => h) fun _ _ h => h.1) fun _ => ?_
    refine (proxyHolds_unheld _).bind fun still => .ite (fun _ => ?_) fun out => ?_
    · exact .throw fun _ _ h => h.1.1
    · exact .pure fun _ _ h => cleared h.1.1 ⟨h.1.2, .inr (h.2 (Bool.eq_false_iff.mpr out))⟩
  · exact .pure fun _ _ h => cleared h.1.1 ⟨h.1.2, .inr (h.2 (Bool.eq_false_iff.mpr out))⟩

theorem removeVids_cleared {vids : List String} (own : ∀ vid ∈ vids, vid ∈ blockedVids c status) :
    Leads (ledgerOf c) (Removing c status done) (removeVids c vids)
      (fun out m l => (∀ vid ∈ out.1, vid ∈ vids) ∧ Removing c status (out.1 ++ done) m l) E := by
  induction vids generalizing done with
  | nil => exact Leads.pure fun _ _ h => ⟨nofun, h⟩
  | cons vid vids ih =>
    obtain ⟨here, rest⟩ := forall_mem_cons.mp own
    refine (Leads.attempt (removeVirtualDriveFromWekaAndProxy_cleared here)).bind fun err => ?_
    cases err with
    | none =>
      refine (ih rest).bind fun out => .pure fun m l h => ⟨fun v hv => ?_, ?_⟩
      · rcases mem_cons.mp hv with rfl | hv
        · exact mem_cons_self
        · exact mem_cons_of_mem _ (h.1 v hv)
      · refine ⟨h.2.memory, h.2.record, fun v hv => h.2.done v ?_⟩
        simp only [cons_append, mem_cons, mem_append] at hv ⊢
        tauto
    | some e =>
      exact (ih rest).bind fun out => .pure fun m l h => ⟨fun v hv => mem_cons_of_mem _ (h.1 v hv), h.2⟩

theorem deallocateDrivesByVirtualUuids_leads {removed : List String} (own : ∀ vid ∈ removed, vid ∈ blockedVids c status)
    (sub : ∀ vid ∈ removed, vid ∈ done) :
    Leads (ledgerOf c) (Removing c status done) (deallocateDrivesByVirtualUuids removed) (fun _ _ _ => True) fun _ _ => True := by
  refine Leads.bind (Q := fun m₀ m l => m₀.status = status ∧ Removing c status done m l) (Leads.get fun _ _ h => ⟨h.memory, h⟩)
    fun m₀ => Leads.fact fun same => Leads.ite (fun _ => ?_) fun _ => Leads.pure fun _ _ _ => trivial
  have mark : Keeps (ledgerOf c) (fun _ l => ∃ m, Removing c status done m l) (mark .byVirtualUuids) :=
    Keeps.call (fun _ _ _ => trivial) fun _ _ _ h => h
  have modified : ∀ f, Keeps (ledgerOf c) (fun _ l => ∃ m, Removing c status done m l) (modify f : M PUnit) := fun f =>
    Keeps.modify fun _ _ h => h
  refine Leads.bind (Leads.pre (Leads.mono mark (fun _ _ _ h => h) fun _ _ _ => trivial) fun m _ h => ⟨m, h⟩) fun _ => ?_
  refine Leads.bind (Leads.mono (modified _) (fun _ _ _ h => h) fun _ _ _ => trivial) fun _ => ?_
  refine Leads.bind (Q := fun _ _ _ => True) (Leads.call (fun _ l h => ?_) fun _ _ _ _ => trivial) fun r => Keeps.orFail _ r
  obtain ⟨m, h⟩ := h
  refine ⟨status, h.record, fun vd hvd => ?_⟩
  by_cases mem : vd.virtualUUID ∈ removed
  · have blocked := (mem_filter.mp (own _ mem)).2
    exact .inr ⟨of_decide_eq_true blocked, h.done _ (sub _ mem)⟩
  · refine .inl (mem_filter.mpr ⟨same ▸ hvd, ?_⟩)
    simpa using mem

theorem quiet_keeps (op : Op) (allowed : ∀ l : Ledger, l.allowed c op) (same : ∀ (l : Ledger) r, l.next op r = l) :
    Keeps (ledgerOf c) (Removing c status done) (call op) := by
  refine .call (fun _ l _ => allowed l) fun m l r h => ?_
  have same : (ledgerOf c).next l op r = l := same l r
  rwa [same]

theorem getHandle_keeps (handle : Handle) (text : ApiError → String) :
    Keeps (ledgerOf c) (Removing c status done) (do orFail text (← call (.getHandle handle))) :=
  (quiet_keeps (.getHandle handle) (fun _ => trivial) fun _ _ => rfl).bind fun r => .orFail _ r

theorem ensureProxyReachable_keeps : Keeps (ledgerOf c) (Removing c status done) (ensureProxyReachable c) := by
  refine Leads.ite (fun _ => Keeps.pure ()) fun _ => Leads.wrapError _ (Keeps.bind (Keeps.bind ?_ fun _ => ?_) fun _ => ?_)
  · exact Leads.ite (fun _ => Keeps.throw _) fun _ => getHandle_keeps _ _
  · exact (getHandle_keeps _ _).bind fun _ => getHandle_keeps _ _
  · refine Keeps.bind (Keeps.call (fun _ _ _ => trivial) fun m l r h => ?_) fun r => (Keeps.orFail _ r).bind fun _ => Keeps.pure ()
    cases r with
    | error e => exact h
    | ok vds => exact h.see rfl (fun _ => id) fun _ => .inl

theorem removeDrivesByVirtualUuids_leads :
    Leads (ledgerOf c) (Removing c status []) (removeDrivesByVirtualUuids c) (fun _ _ _ => True) fun _ _ => True := by
  have weaken : ∀ {α : Type} {x : M α}, Keeps (ledgerOf c) (Removing c status []) x →
      Leads (ledgerOf c) (Removing c status []) x (fun _ => Removing c status []) fun _ _ => True := fun h =>
    h.mono (fun _ _ _ h => h) fun _ _ _ => trivial
  refine .bind (Q := fun blocked m l => c.blockedVirtualUuids = blocked ∧ Removing c status [] m l)
    (.wrapError _ (.bind (weaken .get) fun m₀ => .ite (fun _ => ?_) fun _ => .throw fun _ _ _ => trivial))
    fun blocked => .fact fun list => ?_
  · refine .orFail (fun blocked read _ _ h => ⟨?_, h⟩) fun _ _ _ _ _ => trivial
    rw [Container.blockedVirtualUuids, read]
    rfl
  refine .bind (Q := fun m₀ m l => m₀.status = status ∧ Removing c status [] m l) (.get fun _ _ h => ⟨h.memory, h⟩)
    fun m₀ => .fact fun same => .ite (fun _ => .pure fun _ _ _ => trivial) fun _ => ?_
  refine .bind (weaken ensureProxyReachable_keeps) fun _ => ?_
  have own : ∀ vid ∈ (m₀.status.virtualDrives.map (·.virtualUUID)).filter (· ∈ blocked), vid ∈ blockedVids c status := by
    rw [same, ← list]
    exact fun _ => id
  refine .bind (removeVids_cleared own) fun out => .fact fun sub => ?_
  have dealloc : Leads (ledgerOf c) (Removing c status (out.1 ++ [])) (deallocateRemoved out.1) (fun _ _ _ => True)
      fun _ _ => True := by
    refine .ite (fun _ => .pure fun _ _ _ => trivial) fun _ => ?_
    refine .bind (.attempt (deallocateDrivesByVirtualUuids_leads (fun vid hv => own vid (sub vid hv)) ?_)) fun err => ?_
    · simp
    · exact .pure fun _ _ _ => trivial
  refine dealloc.bind fun errs' => ?_
  cases out.2 ++ errs' with
  | nil => exact .pure fun _ _ _ => trivial
  | cons e all => exact .throw fun _ _ _ => trivial

end Removing

/-- The removal by virtual UUID as a run. -/
def virtualPass (c : Container) : Prog Op Op.Reply Unit :=
  .call .load fun
    | .error _ => .ret ()
    | .ok (status, health) => do
      let pass : M Unit := do
        getNode c
        throttled .removeDrivesByVirtualUuids (removeDrivesByVirtualUuids c)
      let _ ← pass { status, health }
      return ()

theorem virtualPass_conforms (c : Container) : (virtualPass c).Conforms (ledgerOf c) (fun _ _ => True) {} := by
  refine ⟨trivial, fun r _ => ?_⟩
  rcases r with e | ⟨status, health⟩
  · trivial
  have node : Keeps (ledgerOf c) (Removing c status []) (getNode c) := by
    refine Leads.ite (fun _ => Keeps.pure ()) fun _ => (quiet_keeps .getNode (fun _ => trivial) fun _ _ => rfl).bind fun r => ?_
    rcases r with ⟨_ | e⟩ | _
    · exact .pure ()
    · exact .throw _
    · exact .modify fun _ _ h => ⟨h.memory, h.record, h.done⟩
  have pass : Leads (ledgerOf c) (Removing c status []) (do
      getNode c
      throttled .removeDrivesByVirtualUuids (removeDrivesByVirtualUuids c)) (fun _ _ _ => True) fun _ _ => True := by
    refine .bind (node.mono (fun _ _ _ h => h) fun _ _ _ => trivial) fun _ => ?_
    have due : Keeps (ledgerOf c) (Removing c status []) (call (.shouldRun .removeDrivesByVirtualUuids)) :=
      quiet_keeps _ (fun _ => trivial) fun _ _ => rfl
    refine .bind (due.mono (fun _ _ _ h => h) fun _ _ _ => trivial) fun r => ?_
    cases r with
    | true => exact removeDrivesByVirtualUuids_leads
    | false => exact .pure fun _ _ _ => trivial
  refine .bind (pass _ _ ⟨rfl, rfl, nofun⟩) fun _ _ _ => ?_
  trivial

/-! ### The tenants -/

/-- A drive that was touched, and whether it was the container's. -/
structure Touch (ι : Type) where
  container : ι
  vid : String
  recorded : Bool
  deriving DecidableEq, Repr

/-- A drive that was dropped, and where it still was. -/
structure Departure (ι : Type) where
  container : ι
  vid : String
  inCluster : Bool
  onProxy : Bool
  deriving DecidableEq, Repr

/-- Containers of several clusters over one proxy. -/
structure Tenants (ι κ : Type) where
  status : ι → Status
  drives : List (κ × String)
  proxy : List String
  touched : List (Touch ι) := []
  departed : List (Departure ι) := []

section Tenants
variable {ι κ : Type} [DecidableEq ι] [DecidableEq κ] (clusterOf : ι → κ)

namespace Tenants

/-- Logs a touched drive. -/
def touch (w : Tenants ι κ) (i : ι) (vid : String) : Tenants ι κ :=
  { w with touched := w.touched ++ [⟨i, vid, vid ∈ (w.status i).virtualDrives.map (·.virtualUUID)⟩] }

/-- Removes a drive from a cluster. -/
def removeDrive (w : Tenants ι κ) (k : κ) (vid : String) : Tenants ι κ := { w with drives := w.drives.filter (· ≠ (k, vid)) }

/-- Erases a drive. -/
def erase (w : Tenants ι κ) (vid : String) : Tenants ι κ := { w with proxy := w.proxy.filter (· ≠ vid) }

/-- Stores the status and logs what is dropped. -/
def write (w : Tenants ι κ) (i : ι) (status : Status) : Tenants ι κ :=
  { w with
    status := Function.update w.status i status
    departed := w.departed ++ ((w.status i).virtualDrives.filter (· ∉ status.virtualDrives)).map fun vd =>
      ⟨i, vd.virtualUUID, (clusterOf i, vd.virtualUUID) ∈ w.drives, vd.virtualUUID ∈ w.proxy⟩ }

/-- What a call does. -/
def perform (i : ι) (w : Tenants ι κ) : (op : Op) → op.Reply → Bool → Option (Tenants ι κ)
  | .load, .ok (status, _), _ => if status = w.status i then some w else none
  | .updateStatus status, r, applied => some (if took r applied then w.write clusterOf i status else w)
  | .getClusterDrive uuid, .ok _, _ => if (clusterOf i, uuid) ∈ w.drives then some w else none
  | .getClusterDrive uuid, .error .notFound, _ => if (clusterOf i, uuid) ∈ w.drives then none else some w
  | .deactivateDrive uuid, _, _ => some (w.touch i uuid)
  | .removeDrive uuid, r, applied =>
    some (if took r applied then (w.touch i uuid).removeDrive (clusterOf i) uuid else w.touch i uuid)
  | .listVirtualDrives, .ok vds, _ => if vds.map (·.virtualUUID) = w.proxy then some w else none
  | .removeVirtualDrive vid, r, applied => some (if took r applied then (w.touch i vid).erase vid else w.touch i vid)
  | _, _, _ => some w

/-- Only blocked VIDs of the own record are touched, what else the clusters, the proxy and the records had they still
    have, and a VID left its record when neither its cluster nor, unless the override is set, the proxy had it any more. -/
structure Framed (c : ι → Container) (w₀ w : Tenants ι κ) : Prop where
  touched : ∀ t ∈ w.touched, t.vid ∈ (c t.container).blockedVirtualUuids ∧ t.recorded = true
  drives : ∀ d ∈ w₀.drives, d ∈ w.drives ∨ ∃ t ∈ w.touched, (clusterOf t.container, t.vid) = d
  proxy : ∀ vid ∈ w₀.proxy, vid ∈ w.proxy ∨ ∃ t ∈ w.touched, t.vid = vid
  record : ∀ i, ∀ vd ∈ (w₀.status i).virtualDrives, vd ∈ (w.status i).virtualDrives ∨
    ∃ d ∈ w.departed, d.container = i ∧ d.vid = vd.virtualUUID
  departed : ∀ d ∈ w.departed, d.vid ∈ (c d.container).blockedVirtualUuids ∧ d.inCluster = false ∧
    ((c d.container).skipVirtualDrivesRemoval = false → d.onProxy = false)

end Tenants

/-- The runs of all containers. -/
def tenantSystem (c : ι → Container) : System (Tenants ι κ) ι Op Empty Op.Reply where
  body i := virtualPass (c i)
  start _ w := w
  perform := Tenants.perform clusterOf
  env _ := nofun

/-- What the ledger says holds. -/
structure Ledger.Tells (w : Tenants ι κ) (i : ι) (l : Ledger) : Prop where
  record : ∀ status, l.record = some status → w.status i = status
  gone : ∀ vid, l.gone vid → (clusterOf i, vid) ∉ w.drives
  unheld : ∀ vid, l.unheld vid → vid ∉ w.proxy

variable {clusterOf} {c : ι → Container} {w₀ w w' : Tenants ι κ} {i j : ι} {l l' : Ledger} {vid : String}

omit [DecidableEq ι] [DecidableEq κ] in
theorem Ledger.Tells.shrink (h : l.Tells clusterOf w j) (status : w'.status j = w.status j) (drives : w'.drives ⊆ w.drives)
    (proxy : w'.proxy ⊆ w.proxy) : l.Tells clusterOf w' j :=
  ⟨fun s hs => status.trans (h.record s hs), fun v hv hin => h.gone v hv (drives hin), fun v hv hin => h.unheld v hv (proxy hin)⟩

omit [DecidableEq ι] [DecidableEq κ] in
theorem Tenants.Framed.touch (h : Framed clusterOf c w₀ w) (owns : l.Owns (c i) vid) (tells : l.Tells clusterOf w i)
    (touched : w'.touched = (w.touch i vid).touched) (status : w'.status = w.status) (departed : w'.departed = w.departed)
    (drives : ∀ d ∈ w.drives, d ∈ w'.drives ∨ d = (clusterOf i, vid)) (proxy : ∀ v ∈ w.proxy, v ∈ w'.proxy ∨ v = vid) :
    Framed clusterOf c w₀ w' := by
  obtain ⟨s, record, mem, blocked⟩ := owns
  have more : ∀ t ∈ w.touched, t ∈ w'.touched := fun t ht => touched ▸ mem_append_left _ ht
  obtain ⟨n, hn, here, same⟩ : ∃ t ∈ w'.touched, t.container = i ∧ t.vid = vid := by
    rw [touched]
    exact ⟨_, mem_append_right _ (mem_singleton.mpr rfl), rfl, rfl⟩
  refine ⟨fun t ht => ?_, fun d hd => ?_, fun v hv => ?_, ?_, ?_⟩
  · rcases mem_append.mp (touched ▸ ht) with ht | ht
    · exact h.touched t ht
    · obtain rfl := mem_singleton.mp ht
      refine ⟨blocked, decide_eq_true ?_⟩
      rwa [tells.record s record]
  · rcases h.drives d hd with hin | ⟨t, ht, rest⟩
    · refine (drives d hin).imp_right fun out => ⟨n, hn, ?_⟩
      rw [here, same, out]
    · exact .inr ⟨t, more t ht, rest⟩
  · rcases h.proxy v hv with hin | ⟨t, ht, rest⟩
    · exact (proxy v hin).imp_right fun out => ⟨n, hn, same.trans out.symm⟩
    · exact .inr ⟨t, more t ht, rest⟩
  · rw [status, departed]
    exact h.record
  · rw [departed]
    exact h.departed

theorem Tenants.Framed.write (h : Framed clusterOf c w₀ w) (tells : l.Tells clusterOf w i) {status' : Status}
    (allowed : l.allowed (c i) (.updateStatus status')) : Framed clusterOf c w₀ (w.write clusterOf i status') := by
  obtain ⟨status, record, all⟩ := allowed
  obtain rfl := tells.record status record
  refine ⟨h.touched, h.drives, h.proxy, fun j vd hvd => ?_, fun d hd => ?_⟩
  · rcases h.record j vd hvd with here | ⟨d, hd, rest⟩
    · by_cases hj : j = i
      · subst hj
        by_cases mem : vd ∈ status'.virtualDrives
        · exact .inl (by simpa [Tenants.write] using mem)
        · have left : vd ∈ (w.status j).virtualDrives.filter (· ∉ status'.virtualDrives) :=
            mem_filter.mpr ⟨here, decide_eq_true mem⟩
          exact .inr ⟨_, mem_append_right _ (mem_map_of_mem left), rfl, rfl⟩
      · exact .inl (by simpa [Tenants.write, hj] using here)
    · exact .inr ⟨d, mem_append_left _ hd, rest⟩
  · rcases mem_append.mp hd with hd | hd
    · exact h.departed d hd
    · obtain ⟨vd, hvd, rfl⟩ := mem_map.mp hd
      obtain ⟨hvd, out⟩ := mem_filter.mp hvd
      obtain ⟨blocked, gone, unheld⟩ := (all vd hvd).resolve_left (of_decide_eq_true out)
      refine ⟨blocked, decide_eq_false (tells.gone _ gone), fun erases => decide_eq_false (tells.unheld _ ?_)⟩
      exact unheld.resolve_left (by simp [erases])

/-- A step that touches nothing of others. -/
structure Tenants.Step (clusterOf : ι → κ) (c : ι → Container) (w₀ : Tenants ι κ) (i : ι) (w w' : Tenants ι κ) (l' : Ledger) : Prop where
  framed : Framed clusterOf c w₀ w'
  tells : l'.Tells clusterOf w' i
  status : ∀ j, j ≠ i → w'.status j = w.status j
  drives : w'.drives ⊆ w.drives
  proxy : w'.proxy ⊆ w.proxy

omit [DecidableEq ι] [DecidableEq κ] in
theorem Tenants.Step.still (h : Framed clusterOf c w₀ w) (tells : l.Tells clusterOf w i) : Step clusterOf c w₀ i w w l :=
  ⟨h, tells, fun _ _ => rfl, fun _ => id, fun _ => id⟩

theorem Tenants.Framed.call (h : Framed clusterOf c w₀ w) (tells : l.Tells clusterOf w i) {op : Op} {r : op.Reply}
    {applied : Bool} (allowed : l.allowed (c i) op) (hp : w.perform clusterOf i op r applied = some w') :
    Step clusterOf c w₀ i w w' (l.next op r) := by
  -- the call that does not take the drive away
  have untaken : ∀ {vid : String}, l.Owns (c i) vid → Step clusterOf c w₀ i w (w.touch i vid) l := fun owns =>
    ⟨h.touch owns tells rfl rfl rfl (fun _ => .inl) fun _ => .inl, tells.shrink rfl (fun _ => id) fun _ => id, fun _ _ => rfl,
      fun _ => id, fun _ => id⟩
  cases op with
  | load =>
    rcases r with e | ⟨status, health⟩
    · cases hp
      exact .still h tells
    · simp only [Tenants.perform] at hp
      split at hp
      next same =>
        cases hp
        refine .still h ⟨?_, nofun, nofun⟩
        rintro _ ⟨⟩
        exact same.symm
      next => cases hp
  | updateStatus status =>
    cases hp
    have written : ∀ w' : Tenants ι κ, w'.drives = w.drives → w'.proxy = w.proxy →
        (l.next (.updateStatus status) r).Tells clusterOf w' i := by
      intro w' drives proxy
      refine ⟨nofun, ?_, ?_⟩
      · rw [drives]
        exact tells.gone
      · rw [proxy]
        exact tells.unheld
    cases took r applied with
    | true => exact ⟨h.write tells allowed, written _ rfl rfl, fun j hne => update_of_ne hne _ _, fun _ => id, fun _ => id⟩
    | false => exact .still h (written w rfl rfl)
  | getClusterDrive uuid =>
    rcases r with ⟨_ | e⟩ | s
    · simp only [Tenants.perform] at hp
      split at hp
      next => cases hp
      next out =>
        cases hp
        refine .still h ⟨tells.record, fun v hv => ?_, tells.unheld⟩
        rcases hv with hv | rfl
        · exact tells.gone v hv
        · exact out
    · cases hp
      exact .still h tells
    · simp only [Tenants.perform] at hp
      split at hp
      next =>
        cases hp
        exact .still h tells
      next => cases hp
  | deactivateDrive uuid =>
    cases hp
    exact untaken allowed
  | removeDrive uuid =>
    cases hp
    have taken : Step clusterOf c w₀ i w ((w.touch i uuid).removeDrive (clusterOf i) uuid) l := by
      have fewer : ((w.touch i uuid).removeDrive (clusterOf i) uuid).drives ⊆ w.drives := filter_subset_self _
      refine ⟨h.touch allowed tells rfl rfl rfl (fun d hd => ?_) fun _ => .inl, tells.shrink rfl fewer fun _ => id, fun _ _ => rfl,
        fewer, fun _ => id⟩
      by_cases out : d = (clusterOf i, uuid)
      · exact .inr out
      · exact .inl (mem_filter.mpr ⟨hd, decide_eq_true out⟩)
    cases r with
    | ok _ =>
      refine ⟨taken.framed, ⟨tells.record, fun v hv => ?_, taken.tells.unheld⟩, taken.status, taken.drives, taken.proxy⟩
      rcases hv with hv | rfl
      · exact taken.tells.gone v hv
      · exact fun hin => of_decide_eq_true (mem_filter.mp hin).2 rfl
    | error e =>
      cases applied with
      | true => exact taken
      | false => exact untaken allowed
  | listVirtualDrives =>
    cases r with
    | error e =>
      cases hp
      exact .still h tells
    | ok vds =>
      obtain ⟨same, rfl⟩ := Option.ite_some_none_eq_some.mp hp
      refine .still h ⟨tells.record, tells.gone, fun v hv => ?_⟩
      rcases hv with hv | out
      · exact tells.unheld v hv
      · exact same ▸ out
  | removeVirtualDrive uuid =>
    cases hp
    cases took r applied with
    | true =>
      have fewer : ((w.touch i uuid).erase uuid).proxy ⊆ w.proxy := filter_subset_self _
      refine ⟨h.touch allowed tells rfl rfl rfl (fun _ => .inl) fun v hv => ?_, tells.shrink rfl (fun _ => id) fewer, fun _ _ => rfl,
        fun _ => id, fewer⟩
      by_cases out : v = uuid
      · exact .inr out
      · exact .inl (mem_filter.mpr ⟨hv, decide_eq_true out⟩)
    | false => exact untaken allowed
  | removeVirtualDriveByLabel label physical => exact allowed.elim
  | _ =>
    cases hp
    exact .still h tells

/-! ### Whole runs -/

/-- However the reconciles of the containers interleave and whatever fails, only blocked VIDs of the own record are
    touched, and one leaves the record when the cluster and the proxy are rid of it. -/
theorem tenants_framed {status : ι → Status} {drives : List (κ × String)} {proxy : List String}
    {s : SysState (Tenants ι κ) ι Op Op.Reply} (h : (tenantSystem clusterOf c).Reachable (fun _ _ => true) { status, drives, proxy } s) :
    Tenants.Framed clusterOf c { status, drives, proxy } s.world := by
  suffices inv : ∃ st : ι → Ledger, Tenants.Framed clusterOf c { status, drives, proxy } s.world ∧
      ∀ i, (st i).Tells clusterOf s.world i from inv.elim fun _ h => h.1
  refine invariant_of_conforms (fun i => ledgerOf (c i))
    (fun w st => Tenants.Framed clusterOf c _ w ∧ ∀ i, (st i).Tells clusterOf w i) (fun i => virtualPass_conforms (c i)) ?_ ?_ ?_ nofun h
  · exact ⟨⟨nofun, fun _ => .inl, fun _ => .inl, fun _ _ => .inl, nofun⟩, fun _ => ⟨nofun, nofun, nofun⟩⟩
  · rintro i w st ⟨framed, tells⟩ -
    refine ⟨framed, fun j => ?_⟩
    by_cases hj : j = i
    · subst hj
      rw [update_self]
      exact ⟨nofun, nofun, nofun⟩
    · rw [update_of_ne hj]
      exact tells j
  · rintro i w st op r applied w' ⟨framed, tells⟩ allowed - hp
    have step := framed.call (tells i) allowed hp
    refine ⟨trivial, step.framed, fun j => ?_⟩
    by_cases hj : j = i
    · subst hj
      rw [update_self]
      exact step.tells
    · rw [update_of_ne hj]
      exact (tells j).shrink (step.status j hj) step.drives step.proxy

end Tenants

def succeedFor {ι κ : Type} [DecidableEq κ] (clusterOf : ι → κ) (i : ι) (w : Tenants ι κ) : (op : Op) → op.Reply
  | .load => .ok (w.status i, ⟨"READY", none⟩)
  | .getClusterDrive uuid => if (clusterOf i, uuid) ∈ w.drives then .ok "ACTIVE" else .error .notFound
  | .listVirtualDrives => .ok (w.proxy.map fun vid => ⟨vid, "p1"⟩)
  | op => succeed { status := {}, cluster := [], proxy := [] } op

def tenantOf (skip : Bool) (_ : Bool) : Container where
  nodeAffinity := "node-1"
  usesDriveSharing := true
  skipVirtualDrivesRemoval := skip
  blocked := { virtualUuids := .ok ["v0"] }

def twoTenants : Tenants Bool Bool where
  status i := { virtualDrives := [⟨if i then "v1" else "v0", "", "p1", 100, "S1", some .tlc⟩] }
  drives := [(false, "v0"), (true, "v1")]
  proxy := ["v0", "v1"]

def bothReconcile : List (System.Scene (Tenants Bool Bool) Bool Op Empty Op.Reply) :=
  [.pass false (succeedFor id false) 40, .pass true (succeedFor id true) 40]

def firstRemoved (w : Tenants Bool Bool) : Bool :=
  w.departed = [⟨false, "v0", false, false⟩] ∧ w.drives = [(true, "v1")] ∧ w.proxy = ["v1"]

theorem tenants_framed_bothReconcile : ∃ s : SysState (Tenants Bool Bool) Bool Op Op.Reply,
    (tenantSystem id (tenantOf false)).Reachable (fun _ _ => true) twoTenants s ∧ firstRemoved s.world = true ∧
    Tenants.Framed id (tenantOf false) twoTenants s.world :=
  System.Reachable.of_play_and bothReconcile (by decide +kernel) tenants_framed

/-- With the override, the VID leaves the record while the proxy still holds it. -/
theorem departed_unerased_override : ∃ s : SysState (Tenants Bool Bool) Bool Op Op.Reply,
    (tenantSystem id (tenantOf true)).Reachable (fun _ _ => true) twoTenants s ∧ ⟨false, "v0", false, true⟩ ∈ s.world.departed :=
  System.Reachable.of_play bothReconcile (by decide +kernel)

end WekaOperator.DriveRemoval
