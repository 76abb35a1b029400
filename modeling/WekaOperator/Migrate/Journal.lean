import WekaOperator.Lib.Protocol
import WekaOperator.Migrate.Reads

/-! The journal of a migration's reconcile: the record it loaded, what it was told since, and what it may do then. -/

namespace WekaOperator.Migrate
open List Option Bool Lib Operations

/-! ### What a reconcile is told about a proxy -/

/-- What a reconcile may learn about a node's proxy. -/
inductive Seen
  | noProxy (node : String)
  | proxy (node : String) (proxy : SsdProxy)
  | shared (node : String) (drives : List SharedDriveInfo)
  | physical (node : String) (proxy : SsdProxy) (uuids : List String)
  | pod (proxy : SsdProxy) (pod : Option ProxyPod)
  deriving DecidableEq, Repr

/-- What is known after one more read; a lookup of the proxy starts afresh. -/
def Seen.after (seen : List Seen) : (q : Read) → q.Reply → List Seen
  | .ssdProxy node, .ok p => [.proxy node p]
  | .ssdProxy node, .error .notFound => [.noProxy node]
  | .sharedDrives node, .ok (.ok drives) => .shared node drives :: seen
  | .proxyDrives node p, .ok uuids => .physical node p uuids :: seen
  | .proxyPod p, .ok found => .pod p (some found) :: seen
  | .proxyPod p, .error .notFound => .pod p none :: seen
  | _, _ => seen

/-- The pod, if there is one, reserves the hugepages of the spec. -/
def Reserves (proxy : SsdProxy) (pod : Option ProxyPod) : Prop :=
  ∀ p ∈ pod, ∃ quantity ∈ p.hugepages, proxy.hugepagesRequest ≤ quantity

/-- The running proxy lists all drives of the entry, and its pod reserves enough. -/
def Serves (seen : List Seen) (e : ContainerState) : Prop :=
  ∃ proxy shared uuids pod, .proxy e.node proxy ∈ seen ∧ .shared e.node shared ∈ seen ∧ .physical e.node proxy uuids ∈ seen ∧
    .pod proxy pod ∈ seen ∧ unseenDrives shared e.serials uuids = [] ∧ Reserves proxy pod

/-- The entry waits for its sign-drives operation, and none was seen finished yet. -/
structure ContainerState.Awaiting (e : ContainerState) : Prop where
  phase : e.phase = .inFlight
  subPhase : e.subPhase = .signing
  unlatched : e.signDone = false

/-- The entry is in the proxy's sub-phase with the restart on record. -/
structure ContainerState.Restarted (e : ContainerState) : Prop where
  phase : e.phase = .inFlight
  subPhase : e.subPhase = .proxy
  marker : e.proxyRestarted = true

/-- The replies since the record was loaded, the last one first. -/
abbrev Told := List (Σ op : Op, op.Reply)

namespace Told

/-- What they say of the proxy. -/
def seen : Told → List Seen
  | [] => []
  | ⟨.read q, r⟩ :: told => Seen.after (seen told) q r
  | _ :: told => seen told

/-- The last verdict of the gate. -/
def gate : Told → Option Bool
  | [] => none
  | ⟨.gate, verdict⟩ :: _ => some verdict.allowed
  | _ :: told => gate told

/-- The last headroom. -/
def headroom : Told → Option Int
  | [] => none
  | ⟨.wekaStatus, .ok status⟩ :: _ => some (rawBytesFromUsable status.unprovisionedBytes status)
  | _ :: told => headroom told

/-- The operation that the last lookup did not find. -/
def missed : Told → Option (String × String)
  | ⟨.getChild ns name, .error .notFound⟩ :: _ => some (ns, name)
  | _ => none

end Told

/-! ### What becomes of an entry -/

/-- How the phase of an entry of `planned` moves. One is started while none is in flight, with its drives on record, the
    gate open and enough headroom. A container is drained when it was not found. One goes on to rejoin when its node has no
    proxy, when the proxy and its pod run after a restart on record, or when the proxy serves it. -/
inductive Shift (told : Told) (planned : List ContainerState) (m e : ContainerState) : Prop
  | stays (phase : e.phase = m.phase) (subPhase : e.subPhase = m.subPhase)
  | gated (pending : m.phase = .pending) (phase : e.phase = .pending) (subPhase : e.subPhase = .gate)
  | starts (pending : m.phase = .pending) (phase : e.phase = .inFlight) (subPhase : e.subPhase = .draining)
      (idle : ∀ t ∈ planned, t.phase ≠ .inFlight) (serials : e.serials ≠ []) (gate : told.gate = some true)
      (headroom : ∃ h, told.headroom = some h ∧ e.capacityBytes ≤ h)
  | drained (flying : m.phase = .inFlight) (draining : m.subPhase = .draining) (phase : e.phase = .inFlight)
      (subPhase : e.subPhase = .signing) (gone : ⟨.read (.container m.container), .error .notFound⟩ ∈ told)
  | signed (flying : m.phase = .inFlight) (signing : m.subPhase = .signing) (phase : e.phase = .inFlight)
      (subPhase : e.subPhase = .proxy)
  | rejoins (flying : m.phase = .inFlight) (proxied : m.subPhase = .proxy) (phase : e.phase = .inFlight)
      (subPhase : e.subPhase = .rejoining)
      (told : .noProxy e.node ∈ told.seen ∨
        (m.Restarted ∧ ∃ proxy pod, .proxy e.node proxy ∈ told.seen ∧ .pod proxy (some pod) ∈ told.seen ∧
          pod.phase = "Running" ∧ proxy.status = "Running") ∨ Serves told.seen e)
  | completes (flying : m.phase = .inFlight) (rejoining : m.subPhase = .rejoining) (phase : e.phase = .done)
      (subPhase : e.subPhase = .unset)

/-- A finished sign-drives operation that was seen stays on record. -/
structure Moves (told : Told) (planned : List ContainerState) (m e : ContainerState) : Prop where
  container : e.container = m.container
  node : e.node = m.node
  recorded : (e.serials = m.serials ∧ e.capacityBytes = m.capacityBytes) ∨ (m.phase = .pending ∧ 0 < e.capacityBytes)
  shift : Shift told planned m e
  latched : m.signDone = true → e.signDone = true

theorem Moves.refl (told : Told) (planned : List ContainerState) (m : ContainerState) : Moves told planned m m :=
  ⟨rfl, rfl, .inl ⟨rfl, rfl⟩, .stays rfl rfl, id⟩

/-- The entries as loaded, or as planning refreshed them. -/
inductive Refreshed (told : Told) (entries : List ContainerState) : List ContainerState → Prop
  | kept : Refreshed told entries entries
  | all {containers : List DriveContainer} (names : (containers.map (·.name)).Nodup)
      (listed : ⟨.read .driveContainers, .ok containers⟩ ∈ told) :
      Refreshed told entries
        (planMigrationContainers entries (splitTargets containers none).1 (splitTargets containers none).2)
  | selected {containers : List DriveContainer} {selector : Labels} {nodes : List String} {before : Told}
      (names : (containers.map (·.name)).Nodup)
      (listed : (⟨.read (.nodes selector), .ok nodes⟩ :: ⟨.read .driveContainers, .ok containers⟩ :: before : Told) <:+ told) :
      Refreshed told entries
        (planMigrationContainers entries (splitTargets containers (some nodes)).1 (splitTargets containers (some nodes)).2)

variable {planned : List ContainerState}

theorem Refreshed.mono {told told' : Told} {entries : List ContainerState} (more : told <:+ told')
    (h : Refreshed told entries planned) : Refreshed told' entries planned := by
  cases h with
  | kept => exact .kept
  | all names listed => exact .all names (more.subset listed)
  | selected names listed => exact .selected names (listed.trans more)

theorem Refreshed.flying {told : Told} {entries : List ContainerState} (h : Refreshed told entries planned)
    {m : ContainerState} (mem : m ∈ planned) (flying : m.phase = .inFlight) : m ∈ entries := by
  cases h with
  | kept => exact mem
  | all names listed => exact (plan_inFlight _ _ _ flying).mp mem
  | selected names listed => exact (plan_inFlight _ _ _ flying).mp mem

theorem Refreshed.started {told : Told} {entries : List ContainerState} (h : Refreshed told entries planned)
    {m : ContainerState} (mem : m ∈ entries) (started : m.phase ≠ .pending) : m ∈ planned := by
  cases h with
  | kept => exact mem
  | all names listed => exact plan_started _ _ started mem
  | selected names listed => exact plan_started _ _ started mem

/-! ### The journal -/

/-- Nothing is left to migrate. -/
def Settled (containers : List ContainerState) : Prop := ∀ s ∈ containers, s.phase = .done ∨ s.phase = .skipped

/-- Calls that neither load nor store the record. -/
def Op.Noted : Op → Prop
  | .load | .persist _ | .fail _ | .succeed _ => False
  | _ => True

/-- What a reconcile knows: nothing, the record it loaded, or the one it stored. -/
inductive Journal
  | fresh
  | loaded (entries : List ContainerState) (told : Told)
  | written (entries : List ContainerState)
  | closed

namespace Journal

/-- Adds a reply. -/
def note (journal : Journal) (t : Σ op : Op, op.Reply) : Journal :=
  match journal with
  | loaded entries told => loaded entries (t :: told)
  | journal => journal

/-- The journal after a call. -/
def next (journal : Journal) : (op : Op) → op.Reply → Journal
  | .load, .ok owner => loaded (owner.result.getD {}).containers []
  | .load, .error _ => journal
  | .persist r, .ok () => written r.containers
  | .persist _, .error _ => closed
  | .fail _, _ => closed
  | .succeed _, _ => closed
  | op, r => journal.note ⟨op, r⟩

/-- The replies since the record was loaded. -/
def told : Journal → Told
  | loaded _ told => told
  | _ => []

/-- The entries that a reconcile works on. -/
inductive Holds (planned : List ContainerState) : Journal → Prop
  | loaded {entries : List ContainerState} {told : Told} (h : Refreshed told entries planned) : Holds planned (loaded entries told)
  | written : Holds planned (written planned)

/-- A record that may be stored: the entries as they are, or with one of them moved. -/
inductive Writes (journal : Journal) (r : Result) : Prop
  | kept (holds : journal.Holds r.containers)
  | moved {planned : List ContainerState} {idx : Nat} {m e : ContainerState} (holds : journal.Holds planned)
      (entry : planned[idx]? = some m) (moves : Moves journal.told planned m e) (record : r.containers = planned.set idx e)

/-- What a reconcile may do at this point of the journal. -/
def allowed (c : Campaign) (journal : Journal) : Op → Prop
  | .load => journal = fresh
  | .deleteContainer name => ∃ entries told, journal = loaded entries told ∧
      ∃ m ∈ entries, m.container = name ∧ m.phase = .inFlight ∧ m.subPhase = .draining
  | .createChild name child => ∃ entries told, journal = loaded entries told ∧
      told.missed = some (child.namespaceName, child.name) ∧
      child.namespaceName = c.operatorNamespace ∧ child.name = childSignOpName c name ∧
      ∃ m ∈ entries, m.container = name ∧ m.Awaiting
  | .persist r => journal.Writes r
  | .fail r => journal.Writes r
  | .succeed r => journal.Writes r ∧ Settled r.containers
  | _ => True

theorem Writes.forall₂ {journal : Journal} {r : Result} (h : journal.Writes r) :
    ∃ planned, journal.Holds planned ∧ List.Forall₂ (Moves journal.told planned) planned r.containers := by
  cases h with
  | kept holds => exact ⟨_, holds, forall₂_same.mpr fun m _ => Moves.refl _ _ m⟩
  | moved holds entry moves record =>
    rw [record]
    exact ⟨_, holds, forall₂_set (Moves.refl _ _) entry moves⟩

end Journal

/-- The protocol of the journal. -/
def journalOf (c : Campaign) : Protocol Op Op.Reply Journal where
  fresh := .fresh
  next := Journal.next
  allowed := Journal.allowed c
  admits op r := Op.Admits c op r

/-! ### The rules -/

section Conforms
variable {c : Campaign} {journal : Journal} {entries : List ContainerState} {told : Told} {res : Result} {idx : Nat}
  {m s : ContainerState} {α β : Type} {p : P α} {op : Op} {R : α → Prop}

/-- A part of the reconcile keeps to the journal. -/
def Conforms (c : Campaign) (Q : α → Journal → Prop) (p : P α) (journal : Journal) : Prop := p.Conforms (journalOf c) Q journal

/-- A part after which the reconcile ends. -/
abbrev Ends (c : Campaign) (p : P α) (journal : Journal) : Prop := Conforms c (fun _ _ => True) p journal

variable {Q : α → Journal → Prop} {s' : ContainerState} {res' : Result} {q : Read} {proxy : SsdProxy} {phase : Phase}
  {a : α}

theorem Conforms.bind {Q' : β → Journal → Prop} {f : α → P β} (h : Conforms c Q p journal)
    (hf : ∀ a j, Q a j → Conforms c Q' (f a) j) : Conforms c Q' (p >>= f) journal := Prog.Conforms.bind h hf

theorem Conforms.pure (h : Q a journal) : Conforms c Q (Pure.pure a) journal := h

theorem Ends.pure : Ends c (Pure.pure a : P α) journal := trivial

theorem call_next {k : op.Reply → P α} (allowed : journal.allowed c op)
    (h : ∀ r, Conforms c Q (k r) (journal.next op r)) : Conforms c Q (call op >>= k) journal := ⟨allowed, fun r _ => h r⟩

theorem read_next (q : Read) : Conforms c (fun r j => q.admits c r = true ∧ j = journal.next (.read q) r) (read q) journal :=
  ⟨trivial, fun _ hr => ⟨hr, rfl⟩⟩

theorem Conforms.read {Q : β → Journal → Prop} {f : q.Reply → P β}
    (h : ∀ r, Conforms c Q (f r) (journal.next (.read q) r)) :
    Conforms c Q (Migrate.read q >>= f) journal := ⟨trivial, fun r _ => h r⟩

theorem Journal.next_noted (noted : op.Noted) (r : op.Reply) : journal.next op r = journal.note ⟨op, r⟩ := by
  cases op with
  | load => exact noted.elim
  | persist _ => exact noted.elim
  | fail _ => exact noted.elim
  | succeed _ => exact noted.elim
  | _ => rfl

theorem Journal.Holds.note (h : journal.Holds planned) (op : Op) (noted : op.Noted) (r : op.Reply) :
    (journal.next op r).Holds planned := by
  rw [next_noted noted]
  cases h with
  | loaded h => exact .loaded (h.mono (suffix_cons _ _))
  | written => exact .written

theorem Yields.keeps (h : Yields c R p) {I : Journal → Prop}
    (step : ∀ j q r, I j → I (j.next (.read q) r)) (hi : I journal) : Conforms c (fun a j => R a ∧ I j) p journal := by
  induction p generalizing journal with
  | ret a => exact ⟨h, hi⟩
  | call op k ih =>
    cases op with
    | read q => exact ⟨trivial, fun r hr => ih r (h.2 r hr) (step journal q r hi)⟩
    | _ => exact h.1.elim

/-- The journal after some more replies. -/
def Later (entries : List ContainerState) (told : Told) (j : Journal) : Prop := ∃ told', told <:+ told' ∧ j = .loaded entries told'

theorem Later.refl : Later entries told (.loaded entries told) := ⟨told, List.suffix_rfl, rfl⟩

theorem Yields.later (h : Yields c R p) :
    Conforms c (fun a j => R a ∧ Later entries told j) p (.loaded entries told) := by
  refine h.keeps (fun j q r later => ?_) Later.refl
  obtain ⟨told', more, rfl⟩ := later
  exact ⟨_, more.trans (suffix_cons _ _), rfl⟩

theorem call_later (noted : op.Noted) (allowed : (Journal.loaded entries told).allowed c op) :
    Conforms c (fun _ => Later entries told) (call op) (.loaded entries told) := by
  refine ⟨allowed, fun r _ => ⟨⟨op, r⟩ :: told, suffix_cons _ _, ?_⟩⟩
  exact Journal.next_noted noted r

theorem unlessDone_later {p : P (Except ApiError Unit)} (h : Conforms c (fun _ => Later entries told) p (.loaded entries told))
    (done : Bool) : Conforms c (fun _ => Later entries told) (unlessDone done p) (.loaded entries told) := by
  unfold unlessDone
  split
  · exact .pure Later.refl
  · exact h

theorem persistAndWait_ends (h : journal.Writes res) (why : String) : Ends c (persistAndWait res why) journal := by
  have persist : Ends c (call (.persist res)) journal := ⟨h, fun _ _ => trivial⟩
  refine .bind persist fun r j _ => ?_
  cases r with
  | error e => exact Ends.pure
  | ok _ => exact Ends.pure

theorem Journal.Holds.writes (h : journal.Holds res.containers) (record : res'.containers = res.containers) :
    journal.Writes res' := by
  rw [← record] at h
  exact .kept h

theorem waitWithPersistedErr_ends (h : journal.Holds res.containers) (err : String) :
    Ends c (waitWithPersistedErr res err) journal := by
  refine .bind ((stamp_yields _).keeps (fun _ q r h => h.note (.read q) trivial r) h) fun t j hj => ?_
  refine persistAndWait_ends ?_ err
  exact hj.2.writes rfl

/-! ### The entry at hand -/

/-- The entry keeps its place. -/
structure Parks (m s : ContainerState) : Prop where
  container : s.container = m.container
  node : s.node = m.node
  phase : s.phase = m.phase
  subPhase : s.subPhase = m.subPhase ∨ (m.phase = .pending ∧ s.subPhase = .gate)
  recorded : (s.serials = m.serials ∧ s.capacityBytes = m.capacityBytes) ∨ (m.phase = .pending ∧ 0 < s.capacityBytes)
  latched : m.signDone = true → s.signDone = true

theorem Parks.refl (m : ContainerState) : Parks m m := ⟨rfl, rfl, rfl, .inl rfl, .inl ⟨rfl, rfl⟩, id⟩

/-- The fields that say where an entry stands. -/
def ContainerState.standing (s : ContainerState) : String × String × Phase × SubPhase × List String × Int × Bool :=
  (s.container, s.node, s.phase, s.subPhase, s.serials, s.capacityBytes, s.signDone)

theorem Parks.update (h : Parks m s) (same : s'.standing = s.standing) : Parks m s' := by
  simp only [ContainerState.standing, Prod.mk.injEq] at same
  obtain ⟨container, node, phase, subPhase, serials, capacity, signDone⟩ := same
  refine ⟨container.trans h.container, node.trans h.node, phase.trans h.phase, subPhase ▸ h.subPhase, ?_, ?_⟩
  · rw [serials, capacity]
    exact h.recorded
  · rw [signDone]
    exact h.latched

theorem Parks.moves (h : Parks m s) (told : Told) (planned : List ContainerState) : Moves told planned m s := by
  refine ⟨h.container, h.node, h.recorded, ?_, h.latched⟩
  rcases h.subPhase with same | ⟨pending, gate⟩
  · exact .stays h.phase same
  · exact .gated pending (h.phase.trans pending) gate

/-- The reconcile works on this entry of the record. -/
structure At (m : ContainerState) (res : Result) (idx : Nat) (s : ContainerState) (journal : Journal) : Prop where
  holds : journal.Holds res.containers
  entry : res.containers[idx]? = some m
  parks : Parks m s

theorem At.note (h : At m res idx s journal) (op : Op) (noted : op.Noted) (r : op.Reply) : At m res idx s (journal.next op r) :=
  ⟨h.holds.note op noted r, h.entry, h.parks⟩

theorem At.later {j : Journal} (h : At m res idx s (.loaded entries told)) (later : Later entries told j) : At m res idx s j := by
  obtain ⟨⟨refreshed⟩, entry, parks⟩ := h
  obtain ⟨told', more, rfl⟩ := later
  exact ⟨.loaded (refreshed.mono more), entry, parks⟩

theorem At.update (h : At m res idx s journal) (record : res'.containers = res.containers)
    (same : s'.standing = s.standing) : At m res' idx s' journal :=
  ⟨record ▸ h.holds, record ▸ h.entry, h.parks.update same⟩

theorem At.writes (h : At m res idx s journal) {r : Result} {e : ContainerState} (record : r.containers = res.containers.set idx e)
    (moves : Moves journal.told res.containers m e) : journal.Writes r := .moved h.holds h.entry moves record

theorem Yields.at (h : Yields c R p) (here : At m res idx s journal) :
    Conforms c (fun a j => R a ∧ At m res idx s j) p journal := h.keeps (fun _ q r here => here.note (.read q) trivial r) here

section
variable (h : At m res idx s journal)
include h

theorem parkNode_ends (record : res'.containers = res.containers) (same : s'.standing = s.standing) :
    Ends c (parkNode res' idx s') journal := by
  have h := h.update record same
  unfold parkNode
  split
  · refine .bind ((stamp_yields _).at h) fun t j hj => ?_
    refine persistAndWait_ends (hj.2.writes rfl (Parks.moves ?_ _ _)) _
    exact h.parks.update rfl
  · exact persistAndWait_ends (h.writes rfl (h.parks.moves _ _)) _

theorem parkOnErr_ends (action err : String) : Ends c (parkOnErr res idx s action err) journal := by
  exact parkNode_ends h rfl rfl

theorem enterSubPhase_ends {subPhase : SubPhase}
    (shift : Shift journal.told res.containers m { s with subPhase := subPhase, reason := "" }) (why : String) :
    Ends c (enterSubPhase res idx s subPhase why) journal := by
  refine persistAndWait_ends (h.writes rfl ?_) why
  exact ⟨h.parks.container, h.parks.node, h.parks.recorded, shift, h.parks.latched⟩

end

/-! ### Planning -/

/-- A plan that goes on holds the refreshed entries. -/
def PlanHolds (entries : List ContainerState) (out : Planned) (journal : Journal) : Prop :=
  ∀ cluster r, out = .ok (cluster, r) → ∃ told, journal = .loaded entries told ∧ Refreshed told entries r.containers

theorem planParks_conforms (h : Refreshed told entries res.containers) (err : String) :
    Conforms c (PlanHolds entries) (do return Except.error (← waitWithPersistedErr res err)) (.loaded entries told) := by
  refine .bind (waitWithPersistedErr_ends (.loaded h) err) fun _ _ _ => .pure ?_
  intro _ _ h
  cases h

theorem checkCapacity_conforms (cluster : Cluster) :
    Conforms c (fun out j => Later entries told j ∧ out.1.containers = res.containers) (checkCapacity res cluster)
      (.loaded entries told) := by
  unfold checkCapacity
  split
  · exact .pure ⟨Later.refl, rfl⟩
  refine .bind (call_later trivial trivial) fun r j later => ?_
  cases r with
  | error e => exact .pure ⟨later, rfl⟩
  | ok status =>
    dsimp only
    split
    · exact .pure ⟨later, rfl⟩
    split
    · exact .pure ⟨later, rfl⟩
    · exact .pure ⟨later, rfl⟩

theorem planGuards_conforms (h : Refreshed told entries res.containers) (cluster : Cluster) :
    Conforms c (PlanHolds entries) (planGuards cluster res) (.loaded entries told) := by
  unfold planGuards
  split
  · exact planParks_conforms h _
  refine .bind (refuseIfSignPolicyMatches_yields _).later fun out j hj => ?_
  obtain ⟨-, told₁, more, rfl⟩ := hj
  have h := h.mono more
  cases out with
  | error e => exact planParks_conforms h _
  | ok _ =>
    refine .bind (checkCapacity_conforms cluster) fun out j hj => ?_
    obtain ⟨⟨told₂, more, rfl⟩, same⟩ := hj
    obtain ⟨r, verdict⟩ := out
    have h : Refreshed told₂ entries r.containers := by
      rw [same]
      exact h.mono more
    cases verdict with
    | error e => exact planParks_conforms h _
    | ok _ =>
      refine .pure ?_
      rintro _ _ ⟨rfl⟩
      exact ⟨_, rfl, h⟩

theorem discoverTargets_conforms (payload : Payload) :
    Conforms c (fun out j => ∃ told', j = .loaded entries told' ∧ ∀ exclusive sharing,
      out = .ok (exclusive, sharing) → Refreshed told' entries (planMigrationContainers entries exclusive sharing))
      (discoverTargets payload) (.loaded entries told) := by
  have list : Conforms c (fun out j => ∃ told', j = .loaded entries told' ∧ ∀ containers, out = .ok containers →
      (containers.map (·.name)).Nodup ∧ ∃ before, told' = ⟨.read .driveContainers, .ok containers⟩ :: before)
      (listDriveContainers payload) (.loaded entries told) := by
    refine .bind (read_next _) fun r j hj => ?_
    obtain ⟨admitted, rfl⟩ := hj
    cases r with
    | error e => exact .pure ⟨_, rfl, fun _ h => by cases h⟩
    | ok containers =>
      refine .pure ⟨_, rfl, ?_⟩
      rintro _ ⟨rfl⟩
      exact ⟨of_decide_eq_true admitted, told, rfl⟩
  refine .bind list fun out j hj => ?_
  obtain ⟨told₁, rfl, listed⟩ := hj
  cases out with
  | error e => exact .pure ⟨_, rfl, fun _ _ h => by cases h⟩
  | ok containers =>
    obtain ⟨names, before, rfl⟩ := listed containers rfl
    dsimp only
    split
    · refine .read fun r => ?_
      cases r with
      | error e => exact .pure ⟨_, rfl, fun _ _ h => by cases h⟩
      | ok nodes =>
        refine .pure ⟨_, rfl, ?_⟩
        rintro _ _ ⟨rfl⟩
        exact .selected names suffix_rfl
    · refine .pure ⟨_, rfl, ?_⟩
      rintro _ _ ⟨rfl⟩
      exact .all names mem_cons_self

theorem planTargets_conforms (loaded : res.containers = entries) (payload : Payload) (cluster : Cluster) :
    Conforms c (PlanHolds entries) (planTargets payload cluster res) (.loaded entries told) := by
  subst loaded
  refine .bind (discoverTargets_conforms payload) fun out j hj => ?_
  obtain ⟨told₁, rfl, refreshed⟩ := hj
  cases out with
  | error e => exact planParks_conforms .kept _
  | ok targets =>
    obtain ⟨exclusive, sharing⟩ := targets
    have refreshed := refreshed exclusive sharing rfl
    dsimp only
    split
    · exact planParks_conforms refreshed _
    · exact planGuards_conforms refreshed cluster

theorem planCluster_conforms (loaded : res.containers = entries) (payload : Payload) :
    Conforms c (PlanHolds entries) (planCluster c payload res) (.loaded entries told) := by
  have kept : ∀ told, Refreshed told entries res.containers := by
    intro told
    rw [loaded]
    exact .kept
  refine Conforms.bind (Yields.read _).later fun r j hj => ?_
  obtain ⟨-, told₁, -, rfl⟩ := hj
  cases r with
  | error e => exact planParks_conforms (kept _) _
  | ok cluster =>
    refine Conforms.bind refuseIfAnotherCampaignRunning_yields.later fun out j hj => ?_
    obtain ⟨-, told₂, -, rfl⟩ := hj
    cases out with
    | error e => exact planParks_conforms (kept _) _
    | ok _ =>
      dsimp only
      split
      · exact planParks_conforms (kept _) _
      · exact planTargets_conforms loaded payload cluster

theorem plan_conforms (owner : Owner) : Conforms c (PlanHolds (owner.result.getD {}).containers) (plan c owner)
    (.loaded (owner.result.getD {}).containers told) := by
  unfold plan
  dsimp only
  split
  · have holds : (Journal.loaded (owner.result.getD {}).containers told).Holds (owner.result.getD {}).containers := .loaded .kept
    have fail : Ends c (call (.fail { owner.result.getD {} with
        err := "spec.payload.migrateToDriveSharingPayload.cluster.name is required" }))
        (.loaded (owner.result.getD {}).containers told) := ⟨holds.writes rfl, fun _ _ => trivial⟩
    refine .bind fail fun _ _ _ => .pure ?_
    intro _ _ h
    cases h
  · refine planCluster_conforms ?_ _
    rfl

/-! ### Starting a container -/

theorem recordDriveInventory_yields (container : WekaContainer) (pending : s.phase = .pending) :
    Yields c (fun out => ∀ s', out = .ok s' → Parks s s' ∧ s'.subPhase = s.subPhase ∧ s'.serials ≠ [])
      (recordDriveInventory container s) := by
  unfold recordDriveInventory
  split
  next known =>
    refine .pure ?_
    rintro _ ⟨rfl⟩
    exact ⟨.refl s, rfl, ne_nil_of_length_pos known⟩
  split
  · exact .error
  next some =>
    have serials : container.drives ≠ [] := fun h => some (h ▸ rfl)
    refine (readContainerDrives_yields container).bind fun out _ => ?_
    cases out with
    | error e => exact .error
    | ok drives =>
      dsimp only
      split
      next reported =>
        refine .pure ?_
        rintro _ ⟨rfl⟩
        exact ⟨⟨rfl, rfl, rfl, .inl rfl, .inr ⟨pending, Int.natCast_pos.mpr reported⟩, id⟩, rfl, serials⟩
      refine (readAnnotatedCapacity_yields _ _).bind fun out nonneg => ?_
      cases out with
      | error e => exact .error
      | ok annotated =>
        dsimp only
        split
        · exact .error
        next nonzero =>
          have positive : 0 < annotated := lt_of_le_of_ne (nonneg annotated rfl) (Ne.symm nonzero)
          refine .pure ?_
          rintro _ ⟨rfl⟩
          exact ⟨⟨rfl, rfl, rfl, .inl rfl, .inr ⟨pending, positive⟩, id⟩, rfl, serials⟩

theorem gateAndStart_ends (h : At m res idx s (.loaded entries told)) (idle : ∀ t ∈ res.containers, t.phase ≠ .inFlight)
    (pending : m.phase = .pending) (serials : s.serials ≠ []) : Ends c (gateAndStart res idx s) (.loaded entries told) := by
  refine call_next trivial fun verdict => ?_
  have h := h.note .gate trivial verdict
  split
  · exact parkNode_ends h rfl rfl
  next open' =>
    refine call_next trivial fun r => ?_
    have h := h.note .wekaStatus trivial r
    cases r with
    | error e => exact parkOnErr_ends h _ _
    | ok status =>
      dsimp only
      split
      · exact parkNode_ends h rfl rfl
      next enough =>
        refine .read fun now => ?_
        have h := h.note (.read .now) trivial now
        refine persistAndWait_ends ?_ _
        refine h.writes rfl ⟨h.parks.container, h.parks.node, h.parks.recorded, .starts pending rfl rfl idle serials ?_ ?_,
          h.parks.latched⟩
        · rw [not_eq_true, not_eq_false'] at open'
          exact congrArg some open'
        · exact ⟨_, rfl, not_lt.mp enough⟩

theorem startPending_ends (h : Refreshed told entries res.containers) (idle : ∀ t ∈ res.containers, t.phase ≠ .inFlight)
    (entry : res.containers[idx]? = some s) (pending : s.phase = .pending) :
    Ends c (startPending res idx s) (.loaded entries told) := by
  have here : At s { res with current := s.node } idx { s with subPhase := .gate } (.loaded entries told) :=
    ⟨.loaded h, entry, rfl, rfl, rfl, .inr ⟨pending, rfl⟩, .inl ⟨rfl, rfl⟩, id⟩
  refine Conforms.bind (Yields.read _).later fun r j hj => ?_
  obtain ⟨-, told₁, more, rfl⟩ := hj
  have here := here.later ⟨told₁, more, rfl⟩
  cases r with
  | error e => exact parkOnErr_ends here _ _
  | ok container =>
    have inventory : Yields c (fun out => ∀ s', out = .ok s' → Parks { s with subPhase := .gate } s' ∧ s'.subPhase = .gate ∧
        s'.serials ≠ []) (recordDriveInventory container { s with subPhase := .gate }) := recordDriveInventory_yields container pending
    refine Conforms.bind inventory.later fun out j hj => ?_
    obtain ⟨recorded, told₂, more, rfl⟩ := hj
    have here := here.later ⟨told₂, more, rfl⟩
    cases out with
    | error e => exact parkOnErr_ends here _ _
    | ok s' =>
      obtain ⟨parks, gate, serials⟩ := recorded s' rfl
      refine gateAndStart_ends ⟨here.holds, here.entry, parks.container, parks.node, parks.phase, ?_, parks.recorded,
        parks.latched⟩ idle pending serials
      exact .inr ⟨pending, gate⟩

/-! ### Advancing the container in flight -/

theorem At.flown (h : At s res idx s (.loaded entries told)) (flying : s.phase = .inFlight) : s ∈ entries := by
  obtain ⟨⟨refreshed⟩, entry, -⟩ := h
  exact refreshed.flying (mem_of_getElem? entry) flying

theorem advanceDraining_ends (h : At s res idx s (.loaded entries told)) (flying : s.phase = .inFlight)
    (draining : s.subPhase = .draining) : Ends c (advanceDraining res idx s) (.loaded entries told) := by
  refine .read fun r => ?_
  have h := h.note (.read (.container s.container)) trivial r
  match r with
  | .error .notFound => exact enterSubPhase_ends h (.drained flying draining flying rfl mem_cons_self) _
  | .error (.other e) => exact parkOnErr_ends h _ _
  | .ok container =>
    refine .bind (unlessDone_later ?_ _) fun r j later => ?_
    · exact call_later trivial trivial
    have h := h.later later
    obtain ⟨told₁, -, rfl⟩ := later
    cases r with
    | error e => exact parkOnErr_ends h _ _
    | ok _ =>
      have deletes : (Journal.loaded entries told₁).allowed c (.deleteContainer s.container) :=
        ⟨entries, told₁, rfl, s, h.flown flying, rfl, flying, draining⟩
      refine .bind (unlessDone_later ?_ _) fun r j later => ?_
      · exact call_later trivial deletes
      have h := h.later later
      match r with
      | .error (.other e) => exact parkOnErr_ends h _ _
      | .error .notFound => exact parkNode_ends h rfl rfl
      | .ok _ => exact parkNode_ends h rfl rfl

theorem retryFailedSignOp_ends (h : At m res idx s journal) (ns name : String) (child : ChildView) :
    Ends c (retryFailedSignOp res idx s ns name child) journal := by
  refine Conforms.bind ((Yields.read _).at h) fun now j hj => ?_
  have h := hj.2
  split
  · exact parkNode_ends h rfl rfl
  split
  · exact parkNode_ends h rfl rfl
  refine call_next trivial fun r => ?_
  have h := h.note (.deleteChild ns name) trivial r
  match r with
  | .error (.other e) => exact parkOnErr_ends (h.update rfl rfl) _ _
  | .error .notFound => exact parkNode_ends h rfl rfl
  | .ok _ => exact parkNode_ends h rfl rfl

theorem advanceChild_ends (h : At s res idx s (.loaded entries told)) (awaiting : s.Awaiting) (payload : Payload)
    (missing : List String) :
    Ends c (advanceChild c payload res idx s c.operatorNamespace (childSignOpName c s.container) missing)
      (.loaded entries told) := by
  unfold advanceChild
  refine call_next trivial fun r => ?_
  have h := h.note (.getChild c.operatorNamespace (childSignOpName c s.container)) trivial r
  have named : At s res idx { s with signOp := childSignOpName c s.container } _ := h.update rfl rfl
  match r with
  | .error .notFound =>
    refine .bind (call_later trivial ?_) fun r j later => ?_
    · exact ⟨entries, _, rfl, rfl, rfl, rfl, s, h.flown awaiting.phase, rfl, awaiting⟩
    have named := named.later later
    cases r with
    | error e => exact parkOnErr_ends named _ _
    | ok _ => exact parkNode_ends named rfl rfl
  | .error (.other e) => exact parkOnErr_ends named _ _
  | .ok child =>
    dsimp only
    split
    · have latched : At s res idx { s with signDone := true } _ :=
        ⟨h.holds, h.entry, rfl, rfl, rfl, .inl rfl, .inl ⟨rfl, rfl⟩, fun _ => rfl⟩
      exact parkNode_ends latched rfl rfl
    split
    · exact retryFailedSignOp_ends named _ _ child
    · exact parkNode_ends h rfl rfl

theorem advanceSigning_ends (h : At s res idx s (.loaded entries told)) (flying : s.phase = .inFlight)
    (signing : s.subPhase = .signing) (payload : Payload) :
    Ends c (advanceSigning c payload res idx s) (.loaded entries told) := by
  refine .bind (call_later trivial trivial) fun r j later => ?_
  have h := h.later later
  obtain ⟨told₁, -, rfl⟩ := later
  cases r with
  | error e => exact parkOnErr_ends h _ _
  | ok _ =>
    refine .bind (readSharedDrives_yields _).later fun out j hj => ?_
    obtain ⟨-, told₂, more, rfl⟩ := hj
    have h := h.later ⟨told₂, more, rfl⟩
    cases out with
    | error e => exact parkOnErr_ends h _ _
    | ok shared =>
      dsimp only
      split
      · exact enterSubPhase_ends h (.signed flying signing flying rfl) _
      refine .bind (read_next _) fun r j hj => ?_
      obtain ⟨admitted, rfl⟩ := hj
      have h := h.note (.read .podNamespace) trivial r
      cases r with
      | error e => exact parkOnErr_ends h _ _
      | ok ns =>
        obtain rfl : ns = c.operatorNamespace := of_decide_eq_true admitted
        dsimp only
        split
        · exact parkNode_ends h rfl rfl
        next unlatched => exact advanceChild_ends h ⟨flying, signing, eq_false_of_not_eq_true unlatched⟩ payload _

/-! ### The proxy -/

/-- The journal after replies that forget nothing of the proxy. -/
def Watching (entries : List ContainerState) (told : Told) (R : Told → Prop) (j : Journal) : Prop :=
  ∃ told' : Told, told <:+ told' ∧ (∀ x ∈ told.seen, x ∈ told'.seen) ∧ j = .loaded entries told' ∧ R told'

variable {r : q.Reply}

theorem Watching.read {R : Told → Prop} {x : Seen} (adds : Seen.after told.seen q r = x :: told.seen)
    (h : R (⟨.read q, r⟩ :: told)) : Watching entries told R (.loaded entries (⟨.read q, r⟩ :: told)) := by
  refine ⟨_, suffix_cons _ _, fun y mem => ?_, rfl, h⟩
  have seen : Told.seen (⟨.read q, r⟩ :: told) = x :: told.seen := adds
  rw [seen]
  exact mem_cons_of_mem _ mem

theorem Watching.silent {R : Told → Prop} (same : Seen.after told.seen q r = told.seen) (h : R (⟨.read q, r⟩ :: told)) :
    Watching entries told R (.loaded entries (⟨.read q, r⟩ :: told)) := by
  refine ⟨_, suffix_cons _ _, fun y mem => ?_, rfl, h⟩
  have seen : Told.seen (⟨.read q, r⟩ :: told) = told.seen := same
  rw [seen]
  exact mem

theorem proxyPodRunning_conforms (proxy : SsdProxy) :
    Conforms c (fun out => Watching entries told fun told' => out = .ok none →
      ∃ pod, .pod proxy (some pod) ∈ told'.seen ∧ pod.phase = "Running" ∧ proxy.status = "Running")
      (proxyPodRunning proxy) (.loaded entries told) := by
  refine .read fun r => ?_
  match r with
  | .error .notFound => exact .pure (.read rfl nofun)
  | .error (.other e) => exact .pure (.silent rfl nofun)
  | .ok pod =>
    dsimp only
    split
    · exact .pure (.read rfl nofun)
    split
    · exact .pure (.read rfl nofun)
    next running up =>
      exact .pure (.read rfl fun _ => ⟨pod, mem_cons_self, not_not.mp running, not_not.mp up⟩)

theorem proxyHugepagesDrifted_conforms (proxy : SsdProxy) :
    Conforms c (fun out => Watching entries told fun told' => out = .ok false →
      ∃ pod, .pod proxy pod ∈ told'.seen ∧ Reserves proxy pod)
      (proxyHugepagesDrifted proxy) (.loaded entries told) := by
  refine .read fun r => ?_
  match r with
  | .error .notFound => exact .pure (.read rfl fun _ => ⟨none, mem_cons_self, nofun⟩)
  | .error (.other e) => exact .pure (.silent rfl nofun)
  | .ok pod =>
    dsimp only
    split
    · exact .pure (.read rfl nofun)
    next quantity reserved =>
      refine .pure (.read rfl fun same => ⟨some pod, mem_cons_self, ?_⟩)
      rintro _ ⟨rfl⟩
      have enough : ¬quantity < proxy.hugepagesRequest := of_decide_eq_false (Except.ok.inj same)
      exact ⟨quantity, reserved, not_lt.mp enough⟩

theorem readSharedDrives_conforms (node : String) :
    Conforms c (fun out => Watching entries told fun told' => ∀ drives, out = .ok drives → .shared node drives ∈ told'.seen)
      (readSharedDrives node) (.loaded entries told) := by
  refine .read fun r => ?_
  match r with
  | .error e => exact .pure (.silent rfl nofun)
  | .ok (.error e) => exact .pure (.silent rfl nofun)
  | .ok (.ok drives) =>
    refine .pure (.read rfl ?_)
    rintro _ ⟨rfl⟩
    exact mem_cons_self

theorem proxyRestartReason_conforms (found : .proxy s.node proxy ∈ told.seen) :
    Conforms c (fun out j => ∃ told' : Told, told <:+ told' ∧ j = .loaded entries told' ∧ (out = .ok "" → Serves told'.seen s))
      (proxyRestartReason s proxy) (.loaded entries told) := by
  refine .bind (readSharedDrives_conforms s.node) fun out j hj => ?_
  obtain ⟨told₁, later, more, rfl, listed⟩ := hj
  cases out with
  | error e => exact .pure ⟨_, later, rfl, nofun⟩
  | ok drives =>
    refine .read fun r => ?_
    have later := later.trans (suffix_cons (⟨.read (.proxyDrives s.node proxy), r⟩ : Σ op : Op, op.Reply) told₁)
    cases r with
    | error e => exact .pure ⟨_, later, rfl, nofun⟩
    | ok uuids =>
      dsimp only
      split
      · refine .pure ⟨_, later, rfl, fun same => ?_⟩
        have lengths := congrArg String.length (Except.ok.inj same)
        simp at lengths
      next none =>
        refine .bind (proxyHugepagesDrifted_conforms proxy) fun out j hj => ?_
        obtain ⟨told₂, later', more', rfl, reserved⟩ := hj
        have later := later.trans later'
        cases out with
        | error e => exact .pure ⟨_, later, rfl, nofun⟩
        | ok drifted =>
          dsimp only
          split
          · refine .pure ⟨_, later, rfl, fun same => ?_⟩
            have lengths := congrArg String.length (Except.ok.inj same)
            simp at lengths
          next enough =>
            refine .pure ⟨_, later, rfl, fun _ => ?_⟩
            rw [not_eq_true] at enough
            obtain ⟨pod, told, reserves⟩ := reserved (congrArg Except.ok enough)
            have seen' : unseenDrives drives s.serials uuids = [] := length_eq_zero_iff.mp (Nat.eq_zero_of_not_pos none)
            exact ⟨proxy, drives, uuids, pod, more' _ (mem_cons_of_mem _ (more _ found)),
              more' _ (mem_cons_of_mem _ (listed drives rfl)), more' _ mem_cons_self, told, seen', reserves⟩

section
variable (h : At s res idx s (.loaded entries told))
include h

theorem awaitProxy_ends (restarted : s.Restarted) (found : .proxy s.node proxy ∈ told.seen) :
    Ends c (awaitProxy res idx s proxy) (.loaded entries told) := by
  refine .bind (proxyPodRunning_conforms proxy) fun out j hj => ?_
  obtain ⟨told₁, later, more, rfl, back⟩ := hj
  have h := h.later ⟨told₁, later, rfl⟩
  match out with
  | .error e => exact parkOnErr_ends h _ _
  | .ok (some reason) => exact parkNode_ends h rfl rfl
  | .ok none =>
    obtain ⟨pod, told, running⟩ := back rfl
    refine .read fun r => ?_
    have h := h.note (.read (.proxyRecovered s.node proxy)) trivial r
    cases r with
    | error e => exact parkOnErr_ends h _ _
    | ok verdicts =>
      dsimp only
      split
      · exact parkNode_ends h rfl rfl
      · refine enterSubPhase_ends (m := s) ?_ (.rejoins restarted.phase restarted.subPhase restarted.phase rfl ?_) _
        · exact h.update rfl rfl
        · exact .inr (.inl ⟨restarted, proxy, pod, more _ found, told, running⟩)

theorem restartProxy_ends (proxy : SsdProxy) (reason : String) :
    Ends c (restartProxy res idx s proxy reason) (.loaded entries told) := by
  refine .read fun r => ?_
  have h := h.note (.read (.proxyGate s.node proxy)) trivial r
  cases r with
  | error e => exact parkOnErr_ends h _ _
  | ok verdicts =>
    dsimp only
    split
    · exact parkNode_ends h rfl rfl
    generalize hs : { s with proxyRestarted := true, reason := "restarting the ssdproxy: " ++ reason } = s'
    generalize hres : { res with blocked := [] }.set idx s' = res'
    have marked : Parks s s' := by
      rw [← hs]
      exact (Parks.refl s).update rfl
    have persist : Conforms c (fun r j => r = .ok () → j = .written res'.containers) (call (.persist res'))
        (.loaded entries (⟨.read (.proxyGate s.node proxy), .ok verdicts⟩ :: told)) := by
      refine ⟨?_, fun r _ => ?_⟩
      · rw [← hres]
        exact h.writes rfl (marked.moves _ _)
      · rintro rfl
        rfl
    refine .bind persist fun r j hj => ?_
    cases r with
    | error e => exact Ends.pure
    | ok _ =>
      obtain rfl := hj rfl
      refine call_next trivial fun r => ?_
      match r with
      | .error (.other e) =>
        have entry : res'.containers[idx]? = some s' := by
          rw [← hres]
          exact List.getElem?_set_self (List.getElem?_eq_some_iff.mp h.entry).1
        refine parkOnErr_ends ⟨.written, entry, ?_⟩ _ _
        rw [← hs]
        exact (Parks.refl _).update rfl
      | .error .notFound => exact Ends.pure
      | .ok _ => exact Ends.pure

theorem advanceProxy_ends (flying : s.phase = .inFlight)
    (proxied : s.subPhase = .proxy) : Ends c (advanceProxy res idx s) (.loaded entries told) := by
  refine .read fun r => ?_
  have h := h.note (.read (.ssdProxy s.node)) trivial r
  match r with
  | .error .notFound => exact enterSubPhase_ends h (.rejoins flying proxied flying rfl (.inl mem_cons_self)) _
  | .error (.other e) => exact parkOnErr_ends h _ _
  | .ok proxy =>
    have found : .proxy s.node proxy ∈ Told.seen (⟨.read (.ssdProxy s.node), .ok proxy⟩ :: told) := mem_cons_self
    dsimp only
    split
    next marker => exact awaitProxy_ends h ⟨flying, proxied, marker⟩ found
    refine .bind (proxyRestartReason_conforms found) fun out j hj => ?_
    obtain ⟨told', later, rfl, serves⟩ := hj
    have h := h.later ⟨told', later, rfl⟩
    cases out with
    | error e => exact parkOnErr_ends h _ _
    | ok reason =>
      dsimp only
      split
      next none =>
        subst none
        exact enterSubPhase_ends h (.rejoins flying proxied flying rfl (.inr (.inr (serves rfl)))) _
      · exact restartProxy_ends h proxy reason

end

/-! ### The reconcile -/

theorem advanceRejoining_ends (h : At s res idx s journal) (flying : s.phase = .inFlight) (rejoining : s.subPhase = .rejoining)
    (payload : Payload) : Ends c (advanceRejoining payload res idx s) journal := by
  refine .bind ((listDriveContainers_yields payload).at h) fun out j hj => ?_
  have h := hj.2
  cases out with
  | error e => exact parkOnErr_ends h _ _
  | ok containers =>
    dsimp only
    split
    · exact parkNode_ends h rfl rfl
    split
    · exact parkNode_ends h rfl rfl
    split
    · exact parkNode_ends h rfl rfl
    refine Conforms.bind ((Yields.read _).at h) fun verdict j hj => ?_
    have h := hj.2
    split
    · exact parkNode_ends h rfl rfl
    · refine persistAndWait_ends ?_ _
      refine h.writes rfl ?_
      exact ⟨rfl, rfl, .inl ⟨rfl, rfl⟩, .completes flying rejoining rfl rfl, id⟩

theorem advanceInFlight_ends (h : At s res idx s (.loaded entries told)) (flying : s.phase = .inFlight) (payload : Payload) :
    Ends c (advanceInFlight c payload res idx s) (.loaded entries told) := by
  have here : At s { res with current := s.node } idx s (.loaded entries told) := h.update rfl rfl
  unfold advanceInFlight
  split
  next draining => exact advanceDraining_ends here flying draining
  next signing => exact advanceSigning_ends here flying signing payload
  next proxied => exact advanceProxy_ends here flying proxied
  next rejoining => exact advanceRejoining_ends here flying rejoining payload
  · exact parkNode_ends here rfl rfl
  · exact parkNode_ends here rfl rfl

theorem firstOf_some (h : firstOf res phase = some (idx, s)) : res.containers[idx]? = some s ∧ s.phase = phase := by
  obtain ⟨i, hi, hs⟩ := bind_eq_some_iff.mp h
  obtain ⟨t, ht, same⟩ := map_eq_some_iff.mp hs
  cases same
  obtain ⟨hlt, hp, -⟩ := findIdx?_eq_some_iff_getElem.mp hi
  rw [getElem?_eq_getElem hlt] at ht
  cases ht
  exact ⟨getElem?_eq_getElem hlt, of_decide_eq_true hp⟩

theorem firstOf_none (h : firstOf res phase = none) : ∀ t ∈ res.containers, t.phase ≠ phase := by
  intro t ht same
  rcases hi : indexOfMigrationPhase res.containers phase with _ | i
  · exact of_decide_eq_false (findIdx?_eq_none_iff.mp hi t ht) same
  · obtain ⟨hlt, -, -⟩ := findIdx?_eq_some_iff_getElem.mp hi
    rw [firstOf, hi, bind_some, getElem?_eq_getElem hlt] at h
    cases h

theorem advanceOne_conforms (h : Refreshed told entries res.containers) (payload : Payload) :
    Conforms c (fun out j => ∀ r, out = .ok r → j = .loaded entries told ∧ Refreshed told entries r.containers ∧ Settled r.containers)
      (advanceOne c payload res) (.loaded entries told) := by
  have ended : ∀ {p : P Outcome}, Ends c p (.loaded entries told) →
      Conforms c (fun out j => ∀ r : Result, out = .ok r → j = .loaded entries told ∧ Refreshed told entries r.containers ∧
        Settled r.containers)
        (do return Except.error (← p)) (.loaded entries told) := by
    intro p hp
    refine .bind hp fun _ _ _ => .pure fun r h => ?_
    cases h
  unfold advanceOne
  split
  next first =>
    obtain ⟨entry, flying⟩ := firstOf_some first
    exact ended (advanceInFlight_ends ⟨.loaded h, entry, .refl _⟩ flying payload)
  next grounded =>
    split
    · refine ended (persistAndWait_ends ?_ _)
      exact Journal.Holds.writes (.loaded h) rfl
    split
    next idle =>
      refine .pure ?_
      rintro _ ⟨rfl⟩
      refine ⟨rfl, h, fun s mem => ?_⟩
      have notFlying := firstOf_none grounded s mem
      have notPending := firstOf_none idle s mem
      cases phase : s.phase with
      | pending => exact absurd phase notPending
      | inFlight => exact absurd phase notFlying
      | done => exact .inl rfl
      | skipped => exact .inr rfl
    next first =>
      obtain ⟨entry, pending⟩ := firstOf_some first
      exact ended (startPending_ends h (firstOf_none grounded) entry pending)

theorem finalize_ends (h : Refreshed told entries res.containers) (settled : Settled res.containers) (cluster : Cluster) :
    Ends c (finalize cluster res) (.loaded entries told) := by
  refine .bind (unlessDone_later ?_ _) fun r j later => ?_
  · exact call_later trivial trivial
  obtain ⟨told₁, more, rfl⟩ := later
  have holds : (Journal.loaded entries told₁).Holds res.containers := .loaded (h.mono more)
  cases r with
  | error e => exact Ends.pure
  | ok _ =>
    have succeed : Ends c (call (.succeed res)) (.loaded entries told₁) := ⟨⟨.kept holds, settled⟩, fun _ _ => trivial⟩
    refine .bind succeed fun r _ _ => ?_
    cases r with
    | error e => exact Ends.pure
    | ok _ => exact Ends.pure

theorem reconcile_journal : Ends c (reconcile c) .fresh := by
  have load : Conforms c (fun r j => ∀ owner, r = .ok owner → j = .loaded (owner.result.getD {}).containers [])
      (call .load) .fresh := by
    refine ⟨rfl, fun r _ => ?_⟩
    rintro owner rfl
    rfl
  refine .bind load fun r j hj => ?_
  match r with
  | .error .notFound => exact Ends.pure
  | .error (.other e) => exact Ends.pure
  | .ok owner =>
    obtain rfl := hj owner rfl
    dsimp only
    split
    · exact Ends.pure
    refine .bind (plan_conforms owner) fun out j hj => ?_
    cases out with
    | error outcome => exact Ends.pure
    | ok planned =>
      obtain ⟨cluster, res⟩ := planned
      obtain ⟨told, rfl, refreshed⟩ := hj cluster res rfl
      refine .bind (advanceOne_conforms refreshed _) fun out j hj => ?_
      cases out with
      | error outcome => exact Ends.pure
      | ok r =>
        obtain ⟨rfl, refreshed, settled⟩ := hj r rfl
        exact finalize_ends refreshed settled cluster

end Conforms

end WekaOperator.Migrate
