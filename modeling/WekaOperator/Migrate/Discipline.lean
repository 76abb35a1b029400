import WekaOperator.Migrate.Journal

/-! Over any run of a migration campaign, with crashes between any two calls and any failures: at most one container
    is in flight in the persisted record, and every container the campaign deletes was persisted in flight and
    draining, started behind an open gate with enough headroom. -/

namespace WekaOperator.Migrate
open Option List Lib Operations World System.Reachable

/-! ### The invariant -/

/-- The container was persisted in flight and draining, started behind an open gate with enough headroom. -/
def Deletion.Justified (d : Deletion) : Prop :=
  ∃ s ∈ (d.result.getD {}).containers, s.container = d.container ∧ s.phase = .inFlight ∧ s.subPhase = .draining ∧
    s.serials ≠ [] ∧ 0 < s.capacityBytes ∧ (∃ st ∈ d.starts, st.container = d.container) ∧
    ∀ st ∈ d.starts, st.container = d.container → st.gate = some true ∧ ∃ h, st.headroom = some h ∧ s.capacityBytes ≤ h

/-- The container of an entry that waits for the operation `ns/name` has a finished one that is not on record. -/
def World.awaits (c : Campaign) (w : World) (ns name : String) : Bool :=
  ns = c.operatorNamespace && w.entries.any fun m => m.phase = .inFlight ∧ m.subPhase = .signing ∧ m.signDone = false ∧
    m.container ∈ w.finished ∧ name = childSignOpName c m.container

/-- A finished operation goes, by whomever it is deleted, only once it is on record or its entry has left the signing. The
    campaign itself deletes one where it finishes after it was read as failed. -/
def finishedChildKept (c : Campaign) (w : World) : Event Unit Op EnvEvent Op.Reply → Bool
  | .env (.childDeleted ns name) => !w.awaits c ns name
  | .reply _ (.deleteChild ns name) r applied => !took r applied || !w.awaits c ns name
  | _ => true

/-- The condition, where it is asked for. -/
def guard (c : Campaign) (strict : Bool) (w : World) (e : Event Unit Op EnvEvent Op.Reply) : Bool :=
  !strict || finishedChildKept c w e

/-- The entry has come to the signing of its drives. -/
def ContainerState.Begun (e : ContainerState) : Prop := e.phase ≠ .pending ∧ ¬(e.phase = .inFlight ∧ e.subPhase = .draining)

/-- Containers with an operation, or a finished one, have begun the signing; those that wait for theirs still have it. -/
structure Sound (c : Campaign) (strict : Bool) (w : World) : Prop where
  consistent : Consistent w.starts w.entries
  deletions : ∀ d ∈ w.deletions, d.Justified
  named : ∀ k ∈ w.children, k.namespaceName = c.operatorNamespace ∧ k.name = childSignOpName c k.container
  fresh : strict = true → ∀ x ∈ w.created, x.2 = false
  begun : ∀ x, x ∈ w.finished ∨ (∃ k ∈ w.children, k.container = x) → ∃ m ∈ w.entries, m.container = x ∧ m.Begun
  awaited : strict = true → ∀ m ∈ w.entries, m.Awaiting → m.container ∈ w.finished → ∃ k ∈ w.children, k.container = m.container

/-- Nothing changes that a running reconcile relies on. -/
structure Kept (w w' : World) : Prop where
  result : w'.result = w.result
  starts : w'.starts = w.starts
  gateSeen : w'.gateSeen = w.gateSeen
  headroomSeen : w'.headroomSeen = w.headroomSeen
  children : ∀ k ∈ w'.children, ∃ k' ∈ w.children, k'.container = k.container
  finished : ∀ x ∈ w'.finished, x ∈ w.finished ∨ ∃ k ∈ w.children, k.container = x

/-- The container has no operation, and none of it has finished. -/
structure Childless (strict : Bool) (w : World) (container : String) : Prop where
  absent : ∀ k ∈ w.children, k.container ≠ container
  unfinished : strict = true → container ∉ w.finished

/-- What the journal says holds in the world. -/
def Journal.Tells (c : Campaign) (strict : Bool) (w : World) : Journal → Prop
  | loaded entries told => w.entries = entries ∧ (∀ b ∈ told.gate, w.gateSeen = some b) ∧
      (∀ h ∈ told.headroom, w.headroomSeen = some h) ∧
      ∀ m ∈ entries, m.Awaiting →
        told.missed = some (c.operatorNamespace, childSignOpName c m.container) → Childless strict w m.container
  | written entries => w.entries = entries
  | fresh => True
  | closed => True

/-- The invariant of the world and the journal of the running reconcile. -/
structure Disciplined (c : Campaign) (strict : Bool) (w : World) (journal : Journal) : Prop where
  sound : Sound c strict w
  tells : journal.Tells c strict w

/-! ### Writing the record -/

/-- Entries that agree with the persisted ones on those in flight. -/
structure Tracks (w : World) (l : List ContainerState) : Prop where
  consistent : Consistent w.starts l
  flying : ∀ s : ContainerState, s.phase = .inFlight → (s ∈ l ↔ s ∈ w.entries)

section Writes
variable {c : Campaign} {strict : Bool} {w : World} {journal : Journal} {told : Told} {entries planned l l' : List ContainerState}
  {m e : ContainerState} {idx : Nat} {r : Result}

theorem Tracks.plan (h : Tracks w entries) {exclusive sharing : List Target} (names : ((exclusive ++ sharing).map (·.name)).Nodup) :
    Tracks w (planMigrationContainers entries exclusive sharing) :=
  ⟨h.consistent.plan names, fun s hs => (plan_inFlight _ _ _ hs).trans (h.flying s hs)⟩

theorem Refreshed.tracks (h : Refreshed told entries planned) (tracks : Tracks w entries) : Tracks w planned := by
  cases h with
  | kept => exact tracks
  | all names listed => exact tracks.plan (splitTargets_names names _)
  | selected names listed => exact tracks.plan (splitTargets_names names _)

theorem Disciplined.tracks (h : Disciplined c strict w journal) (holds : journal.Holds planned) : Tracks w planned := by
  have tracks : Tracks w w.entries := ⟨h.sound.consistent, fun _ _ => Iff.rfl⟩
  cases holds with
  | loaded refreshed =>
    obtain ⟨rfl, -⟩ := h.tells
    exact refreshed.tracks tracks
  | written =>
    have same : w.entries = planned := h.tells
    exact same ▸ tracks

theorem Tracks.updated (h : Tracks w l) (hu : List.Forall₂ Updates l l') (record : r.containers = l') :
    Consistent (w.starts ++ (w.newlyInFlight r).map w.startOf) r.containers := by
  subst record
  have none : w.newlyInFlight r = [] := by
    rw [newlyInFlight, filter_eq_nil_iff]
    intro s' hs' new
    rw [decide_eq_true_eq] at new
    obtain ⟨s, hs, hu⟩ := forall₂_mem_right hu hs'
    have flying := (hu.flown new.1).1
    refine new.2 (mem_map.mpr ⟨s, ?_, hu.container.symm⟩)
    exact mem_filter.mpr ⟨(h.flying s flying).mp hs, by simpa using flying⟩
  rw [none, map_nil, append_nil]
  exact h.consistent.forall₂ hu

theorem Tracks.started (h : Tracks w l) (idle : ∀ t ∈ l, t.phase ≠ .inFlight) (entry : l[idx]? = some m)
    (pending : m.phase = .pending) (container : e.container = m.container) (flying : e.phase = .inFlight)
    (serials : e.serials ≠ []) (capacity : 0 < e.capacityBytes) (gate : w.gateSeen = some true)
    (headroom : ∃ h, w.headroomSeen = some h ∧ e.capacityBytes ≤ h) (record : r.containers = l.set idx e) :
    Consistent (w.starts ++ (w.newlyInFlight r).map w.startOf) r.containers := by
  have grounded : w.inFlight = [] := by
    rw [inFlight, filter_eq_nil_iff]
    intro t ht flying
    rw [decide_eq_true_eq] at flying
    exact idle t ((h.flying t flying).mpr ht) flying
  have new : w.newlyInFlight r = [e] := by
    rw [newlyInFlight, grounded, record]
    refine filter_set_eq_singleton (fun t ht => ?_) entry (by simp [flying])
    simp [idle t ht]
  rw [new, record]
  exact h.consistent.start idle entry pending container flying serials capacity rfl rfl ⟨gate, headroom⟩

theorem Moves.updates (h : Moves told planned m e) (flown : e.phase = .inFlight → m.phase = .inFlight)
    (started : m.phase ≠ .pending → e.phase ≠ .pending) : Updates m e where
  container := h.container
  recorded := h.recorded.imp_right And.right
  flown flying := by
    refine ⟨flown flying, ?_⟩
    rcases h.recorded with ⟨same, -⟩ | ⟨pending, -⟩
    · exact same
    · cases pending.symm.trans (flown flying)
  started moved := by
    refine ⟨started moved, ?_⟩
    rcases h.recorded with ⟨-, same⟩ | ⟨pending, -⟩
    · exact same
    · exact absurd pending moved

theorem Disciplined.writes (h : Disciplined c strict w journal) (writes : journal.Writes r) :
    Consistent (w.starts ++ (w.newlyInFlight r).map w.startOf) r.containers := by
  cases writes with
  | kept holds => exact (h.tracks holds).updated (forall₂_same.mpr fun s _ => Updates.refl s) rfl
  | @moved planned idx m e holds entry moves record =>
    have tracks := h.tracks holds
    have updated : Updates m e → Consistent (w.starts ++ (w.newlyInFlight r).map w.startOf) r.containers :=
      fun hu => tracks.updated (forall₂_set Updates.refl entry hu) record
    -- in flight before, or where it was: only a start needs more
    have flew : m.phase = .inFlight → e.phase ≠ .pending → Updates m e :=
      fun flying moved => moves.updates (fun _ => flying) fun _ => moved
    rcases moves.shift with ⟨phase, -⟩ | ⟨pending, phase, -⟩ | ⟨pending, phase, -, idle, serials, gate, headroom⟩ |
      ⟨flying, -, phase, -, -⟩ | ⟨flying, -, phase, -⟩ | ⟨flying, -, phase, -, -⟩ | ⟨flying, -, phase, -⟩
    · exact updated (moves.updates (fun flying => phase ▸ flying) fun moved => phase ▸ moved)
    · refine updated (moves.updates (fun flying => ?_) fun moved => absurd pending moved)
      cases phase.symm.trans flying
    · cases holds with
      | written => cases gate
      | loaded refreshed =>
        obtain ⟨rfl, gateSeen, headroomSeen, -⟩ := h.tells
        have capacity : 0 < e.capacityBytes := by
          rcases moves.recorded with ⟨same, size⟩ | ⟨-, positive⟩
          · rw [size]
            exact tracks.consistent.recorded m (mem_of_getElem? entry) (same ▸ serials)
          · exact positive
        obtain ⟨room, seen, enough⟩ := headroom
        exact tracks.started idle entry pending moves.container phase serials capacity (gateSeen true gate)
          ⟨room, headroomSeen room seen, enough⟩ record
    · exact updated (flew flying (by simp [phase]))
    · exact updated (flew flying (by simp [phase]))
    · exact updated (flew flying (by simp [phase]))
    · exact updated (flew flying (by simp [phase]))

theorem Moves.begun (h : Moves told planned m e) (begun : m.Begun) : e.Begun := by
  rcases h.shift with ⟨phase, subPhase⟩ | ⟨pending, -, -⟩ | ⟨pending, -⟩ | ⟨flying, draining, -⟩ | ⟨-, -, phase, subPhase⟩ |
    ⟨-, -, phase, subPhase, -⟩ | ⟨-, -, phase, -⟩
  · rw [ContainerState.Begun, phase, subPhase]
    exact begun
  · exact absurd pending begun.1
  · exact absurd pending begun.1
  · exact absurd ⟨flying, draining⟩ begun.2
  · simp [ContainerState.Begun, phase, subPhase]
  · simp [ContainerState.Begun, phase, subPhase]
  · simp [ContainerState.Begun, phase]

theorem Disciplined.holds_begun (h : Disciplined c strict w journal) (holds : journal.Holds planned) (hm : m ∈ w.entries)
    (begun : m.Begun) : m ∈ planned := by
  cases holds with
  | loaded refreshed =>
    obtain ⟨rfl, -⟩ := h.tells
    exact refreshed.started hm begun.1
  | written =>
    have same : w.entries = planned := h.tells
    exact same ▸ hm

theorem Disciplined.writes_begun (h : Disciplined c strict w journal) (writes : journal.Writes r) (hm : m ∈ w.entries)
    (begun : m.Begun) : ∃ e ∈ r.containers, e.container = m.container ∧ e.Begun := by
  obtain ⟨planned, holds, moved⟩ := writes.forall₂
  obtain ⟨e, he, moves⟩ := forall₂_mem_left moved (h.holds_begun holds hm begun)
  exact ⟨e, he, moves.container, moves.begun begun⟩

/-- An entry that waits for an operation waited for it before, unless its container was just drained. -/
theorem Moves.awaiting (h : Moves told planned m e) (awaiting : e.Awaiting) :
    m.Awaiting ∨ (m.phase = .inFlight ∧ m.subPhase = .draining) := by
  have unlatched : m.signDone = false := by
    cases latched : m.signDone with
    | false => rfl
    | true => exact absurd (h.latched latched) (by simp [awaiting.unlatched])
  obtain ⟨flying, signing, -⟩ := awaiting
  rcases h.shift with ⟨phase, subPhase⟩ | ⟨-, phase, -⟩ | ⟨-, -, subPhase, -⟩ | ⟨flying, draining, -⟩ | ⟨-, -, -, subPhase⟩ |
    ⟨-, -, -, subPhase, -⟩ | ⟨-, -, phase, -⟩
  · exact .inl ⟨phase ▸ flying, subPhase ▸ signing, unlatched⟩
  · cases phase.symm.trans flying
  · cases subPhase.symm.trans signing
  · exact .inr ⟨flying, draining⟩
  · cases subPhase.symm.trans signing
  · cases subPhase.symm.trans signing
  · cases phase.symm.trans flying

theorem Disciplined.writes_awaited (h : Disciplined c strict w journal) (writes : journal.Writes r) (hs : strict = true)
    (he : e ∈ r.containers) (awaiting : e.Awaiting) (finished : e.container ∈ w.finished) :
    ∃ k ∈ w.children, k.container = e.container := by
  obtain ⟨planned, holds, moved⟩ := writes.forall₂
  obtain ⟨m, hm, moves⟩ := forall₂_mem_right moved he
  rw [moves.container] at finished ⊢
  rcases moves.awaiting awaiting with awaiting | ⟨flying, draining⟩
  · exact h.sound.awaited hs m (((h.tracks holds).flying m awaiting.phase).mp hm) awaiting finished
  · -- a container with a finished operation is past the draining
    obtain ⟨m', hm', name, begun⟩ := h.sound.begun _ (.inl finished)
    obtain rfl : m' = m :=
      inj_on_of_nodup_map h.sound.consistent.names hm' (((h.tracks holds).flying m flying).mp hm) name
    exact absurd ⟨flying, draining⟩ begun.2

theorem Disciplined.write_if (h : Disciplined c strict w journal) (writes : journal.Writes r) (status : OwnerStatus) (b : Bool) :
    Sound c strict (if b = true then w.write status r else w) := by
  cases b with
  | false => exact h.sound
  | true =>
    refine ⟨h.writes writes, h.sound.deletions, h.sound.named, h.sound.fresh, fun x hx => ?_, fun hs e he => ?_⟩
    · obtain ⟨m, hm, rfl, begun⟩ := h.sound.begun x hx
      exact h.writes_begun writes hm begun
    · exact h.writes_awaited writes hs he

end Writes

/-! ### The other calls -/

section Calls
variable {c : Campaign} {strict : Bool} {w w' : World} {journal : Journal} {m : ContainerState}

theorem Childless.kept {container : String} (h : Childless strict w container) (hk : Kept w w') :
    Childless strict w' container where
  absent k hk' same := by
    obtain ⟨k', hk', same'⟩ := hk.children k hk'
    exact h.absent k' hk' (same'.trans same)
  unfinished hs hf := by
    rcases hk.finished _ hf with hf | ⟨k, hk, same⟩
    · exact h.unfinished hs hf
    · exact h.absent k hk same

theorem Kept.entries (h : Kept w w') : w'.entries = w.entries := by
  rw [World.entries, h.result, World.entries]

theorem Journal.Tells.kept (h : journal.Tells c strict w) (hk : Kept w w') : journal.Tells c strict w' := by
  cases journal with
  | fresh => trivial
  | closed => trivial
  | written entries => exact hk.entries.trans h
  | loaded entries told =>
    obtain ⟨same, gate, headroom, childless⟩ := h
    refine ⟨hk.entries.trans same, ?_, ?_, fun m hm awaiting missed => (childless m hm awaiting missed).kept hk⟩
    · rw [hk.gateSeen]
      exact gate
    · rw [hk.headroomSeen]
      exact headroom

/-- Calls after which nothing new is known of the gate, the headroom or a child. -/
def Op.Silent : (op : Op) → op.Reply → Prop
  | .gate, _ => False
  | .wekaStatus, .ok _ => False
  | .getChild _ _, _ => False
  | op, _ => op.Noted

variable {op : Op} {name ns : String}

theorem Op.Silent.told {r : op.Reply} (h : op.Silent r) (told : Told) :
    op.Noted ∧ Told.gate (⟨op, r⟩ :: told) = told.gate ∧ Told.headroom (⟨op, r⟩ :: told) = told.headroom ∧
      Told.missed (⟨op, r⟩ :: told) = none := by
  cases op with
  | gate => exact h.elim
  | wekaStatus =>
    cases r with
    | ok status => exact h.elim
    | error e => exact ⟨trivial, rfl, rfl, rfl⟩
  | getChild ns name => exact h.elim
  | load => exact h.elim
  | persist _ => exact h.elim
  | fail _ => exact h.elim
  | succeed _ => exact h.elim
  | _ => exact ⟨trivial, rfl, rfl, rfl⟩

variable {r : op.Reply} {applied : Bool}

theorem Journal.Tells.silent (h : journal.Tells c strict w) (silent : op.Silent r) (entries : w'.entries = w.entries)
    (gate : w'.gateSeen = w.gateSeen) (headroom : w'.headroomSeen = w.headroomSeen) :
    (journal.next op r).Tells c strict w' := by
  rw [next_noted (silent.told []).1]
  cases journal with
  | fresh => trivial
  | closed => trivial
  | written l => exact entries.trans h
  | loaded l told =>
    obtain ⟨same, seen, room, -⟩ := h
    obtain ⟨-, gate', headroom', lookup⟩ := silent.told told
    refine ⟨entries.trans same, ?_, ?_, fun m hm flying missed => ?_⟩
    · rw [gate, gate']
      exact seen
    · rw [headroom, headroom']
      exact room
    · rw [lookup] at missed
      cases missed

theorem Disciplined.silent (h : Disciplined c strict w journal) (silent : op.Silent r) :
    Disciplined c strict w (journal.next op r) := ⟨h.sound, h.tells.silent silent rfl rfl rfl⟩

theorem Disciplined.load (h : Disciplined c strict w journal) {owner : Owner} (same : owner.result = w.result) :
    Disciplined c strict w (journal.next .load (.ok owner)) := by
  refine ⟨h.sound, ?_, fun _ seen => ?_, fun _ seen => ?_, fun _ _ _ missed => ?_⟩
  · rw [entries, same]
  · cases seen
  · cases seen
  · cases missed

theorem Sound.justified (h : Sound c strict w) (hm : m ∈ w.entries) (flying : m.phase = .inFlight)
    (draining : m.subPhase = .draining) : Deletion.Justified ⟨m.container, w.result, w.starts⟩ := by
  obtain ⟨serials, start⟩ := h.consistent.flown m hm flying
  refine ⟨m, hm, rfl, flying, draining, serials, h.consistent.recorded m hm serials, start, fun st hst name => ?_⟩
  obtain ⟨⟨gate, headroom, seen, enough⟩, t, ht, name', _, capacity⟩ := h.consistent.started st hst
  -- Names are distinct, so the start is that of this very entry.
  have same : t = m := inj_on_of_nodup_map h.consistent.names ht hm (name'.trans name)
  subst same
  exact ⟨gate, headroom, seen, capacity ▸ enough⟩

theorem Disciplined.deleteContainer (h : Disciplined c strict w journal) (applied : Bool)
    (allowed : journal.allowed c (.deleteContainer name)) :
    Sound c strict (if applied = true then w.deleteContainer name else w) := by
  obtain ⟨entries, told, rfl, m, hm, rfl, flying, draining⟩ := allowed
  obtain ⟨rfl, -⟩ := h.tells
  cases applied with
  | false => exact h.sound
  | true =>
    refine ⟨h.sound.consistent, fun d hd => ?_, h.sound.named, h.sound.fresh, h.sound.begun, h.sound.awaited⟩
    rcases mem_append.mp hd with hd | hd
    · exact h.sound.deletions d hd
    · obtain rfl := mem_singleton.mp hd
      exact h.sound.justified hm flying draining

theorem Sound.childless (h : Sound c strict w) (hm : m ∈ w.entries) (awaiting : m.Awaiting)
    (missing : (w.child? c.operatorNamespace (childSignOpName c m.container)).isNone = true) :
    Childless strict w m.container := by
  have absent : ∀ k ∈ w.children, k.container ≠ m.container := by
    intro k hk same
    obtain ⟨ns, name⟩ := h.named k hk
    rw [child?, isNone_iff_eq_none, List.find?_eq_none] at missing
    refine missing k hk ?_
    rw [decide_eq_true_eq, ns, name, same]
    exact ⟨rfl, rfl⟩
  refine ⟨absent, fun hs finished => ?_⟩
  obtain ⟨k, hk, same⟩ := h.awaited hs m hm awaiting finished
  exact absent k hk same

/-- Deleting an operation that no entry waits for takes none from an entry that does. -/
theorem Sound.deleteChild (h : Sound c strict w) (kept : strict = true → w.awaits c ns name = false) :
    Sound c strict (w.deleteChild ns name) := by
  refine ⟨h.consistent, h.deletions, fun k hk => h.named k (mem_filter.mp hk).1, h.fresh, fun x hx => ?_,
    fun hs m hm awaiting finished => ?_⟩
  · exact h.begun x (hx.imp_right fun ⟨k, hk, same⟩ => ⟨k, (mem_filter.mp hk).1, same⟩)
  · obtain ⟨k, hk, same⟩ := h.awaited hs m hm awaiting finished
    refine ⟨k, mem_filter.mpr ⟨hk, decide_eq_true fun ⟨ns', name'⟩ => ?_⟩, same⟩
    obtain ⟨operator, named⟩ := h.named k hk
    have awaits : w.awaits c ns name = true := by
      rw [awaits, Bool.and_eq_true, decide_eq_true_eq, List.any_eq_true]
      refine ⟨ns'.symm.trans operator, m, hm, decide_eq_true ?_⟩
      refine ⟨awaiting.phase, awaiting.subPhase, awaiting.unlatched, finished, ?_⟩
      rw [← name', named, same]
    cases awaits.symm.trans (kept hs)

section
variable (h : Disciplined c strict w journal)
include h

theorem Disciplined.missed (missing : (w.child? ns name).isNone = true) :
    Disciplined c strict w (journal.next (.getChild ns name) (.error .notFound)) := by
  refine ⟨h.sound, ?_⟩
  cases journal with
  | fresh => trivial
  | closed => trivial
  | written l => exact h.tells
  | loaded l told =>
    obtain ⟨rfl, gate, headroom, -⟩ := h.tells
    refine ⟨rfl, gate, headroom, fun m hm awaiting missed => ?_⟩
    cases some.inj missed
    exact h.sound.childless hm awaiting missing

theorem Disciplined.found {r : Except ApiError ChildView} (found : r ≠ .error .notFound) :
    Disciplined c strict w (journal.next (.getChild ns name) r) := by
  refine ⟨h.sound, ?_⟩
  cases journal with
  | fresh => trivial
  | closed => trivial
  | written l => exact h.tells
  | loaded l told =>
    obtain ⟨rfl, gate, headroom, -⟩ := h.tells
    refine ⟨rfl, gate, headroom, fun m hm flying missed => ?_⟩
    match r with
    | .ok child => cases missed
    | .error .notFound => exact absurd rfl found
    | .error (.other e) => cases missed

theorem Disciplined.createChild {child : ChildSignOp} (allowed : journal.allowed c (.createChild name child)) :
    Sound c strict (w.createChild name child) := by
  obtain ⟨entries, told, rfl, missed, ns, named, m, hm, rfl, awaiting⟩ := allowed
  obtain ⟨rfl, -, -, childless⟩ := h.tells
  rw [ns, named] at missed
  have more : ∀ k ∈ w.children, k ∈ (w.createChild m.container child).children := fun k hk => mem_append_left _ hk
  refine ⟨h.sound.consistent, h.sound.deletions, fun k hk => ?_, fun hs x hx => ?_, fun x hx => ?_,
    fun hs m hm awaiting finished => ?_⟩
  · rcases mem_append.mp hk with hk | hk
    · exact h.sound.named k hk
    · obtain rfl := mem_singleton.mp hk
      exact ⟨ns, named⟩
  · rcases mem_append.mp hx with hx | hx
    · exact h.sound.fresh hs x hx
    · obtain rfl := mem_singleton.mp hx
      exact decide_eq_false ((childless m hm awaiting missed).unfinished hs)
  · rcases hx with finished | ⟨k, hk, rfl⟩
    · exact h.sound.begun x (.inl finished)
    rcases mem_append.mp hk with hk | hk
    · exact h.sound.begun _ (.inr ⟨k, hk, rfl⟩)
    · obtain rfl := mem_singleton.mp hk
      refine ⟨m, hm, rfl, ?_⟩
      simp [ContainerState.Begun, awaiting.phase, awaiting.subPhase]
  · obtain ⟨k, hk, same⟩ := h.sound.awaited hs m hm awaiting finished
    exact ⟨k, more k hk, same⟩

theorem Disciplined.call (allowed : journal.allowed c op) (ok : guard c strict w (.reply () op r applied) = true)
    (hp : perform c w op r applied = some w') : Op.Admits c op r ∧ Disciplined c strict w' (journal.next op r) := by
  cases op with
  | read q =>
    have hp : (if q.admits c r then some w else none) = some w' := hp
    split at hp
    next admitted =>
      cases hp
      refine ⟨admitted, h.silent ?_⟩
      trivial
    next => cases hp
  | load =>
    refine ⟨trivial, ?_⟩
    cases r with
    | error e =>
      cases hp
      exact h
    | ok owner =>
      obtain ⟨same, rfl⟩ := ite_some_none_eq_some.mp hp
      exact h.load same.2
  | gate =>
    cases hp
    refine ⟨trivial, ⟨h.sound.consistent, h.sound.deletions, h.sound.named, h.sound.fresh, h.sound.begun, h.sound.awaited⟩, ?_⟩
    cases journal with
    | loaded l told =>
      obtain ⟨rfl, -, headroom, -⟩ := h.tells
      refine ⟨rfl, fun _ seen => congrArg some (some.inj seen), headroom, fun _ _ _ missed => ?_⟩
      cases missed
    | written l => exact h.tells
    | _ => trivial
  | wekaStatus =>
    refine ⟨trivial, ?_⟩
    cases r with
    | error e =>
      cases hp
      refine h.silent ?_
      trivial
    | ok status =>
      cases hp
      refine ⟨⟨h.sound.consistent, h.sound.deletions, h.sound.named, h.sound.fresh, h.sound.begun, h.sound.awaited⟩, ?_⟩
      cases journal with
      | loaded l told =>
        obtain ⟨rfl, gate, -⟩ := h.tells
        refine ⟨rfl, gate, fun _ seen => congrArg some (some.inj seen), fun _ _ _ missed => ?_⟩
        cases missed
      | written l => exact h.tells
      | _ => trivial
  | getChild ns name =>
    refine ⟨trivial, ?_⟩
    match r with
    | .ok child =>
      obtain ⟨-, rfl⟩ := ite_some_none_eq_some.mp hp
      exact h.found nofun
    | .error .notFound =>
      obtain ⟨missing, rfl⟩ := ite_some_none_eq_some.mp hp
      exact h.missed missing
    | .error (.other e) =>
      cases hp
      exact h.found nofun
  | suppressForceResign container =>
    cases hp
    refine ⟨trivial, h.silent ?_⟩
    trivial
  | deleteContainer container =>
    cases hp
    refine ⟨trivial, h.deleteContainer _ allowed, ?_⟩
    refine h.tells.silent ?_ ?_ ?_ ?_
    · trivial
    · split <;> rfl
    · split <;> rfl
    · split <;> rfl
  | removeFullDrives node serials =>
    cases hp
    refine ⟨trivial, h.silent ?_⟩
    trivial
  | createChild container child =>
    refine ⟨trivial, ?_⟩
    simp only [perform] at hp
    split at hp
    · split at hp
      · cases hp
        refine ⟨h.createChild allowed, h.tells.silent ?_ rfl rfl rfl⟩
        trivial
      · cases hp
    · cases hp
      refine h.silent ?_
      trivial
  | deleteChild ns name =>
    cases hp
    refine ⟨trivial, ?_⟩
    split
    next taken =>
      refine ⟨h.sound.deleteChild fun hs => ?_, h.tells.silent ?_ rfl rfl rfl⟩
      · subst hs
        simpa [guard, finishedChildKept, taken] using ok
      · trivial
    next =>
      refine h.silent ?_
      trivial
  | deleteProxyPod proxy =>
    cases hp
    refine ⟨trivial, h.silent ?_⟩
    trivial
  | removeMigrationAnnotationKey =>
    cases hp
    refine ⟨trivial, h.silent ?_⟩
    trivial
  | persist res =>
    cases hp
    refine ⟨trivial, h.write_if allowed _ _, ?_⟩
    cases r with
    | error e => trivial
    | ok _ => rfl
  | fail res =>
    cases hp
    exact ⟨trivial, h.write_if allowed _ _, trivial⟩
  | succeed res =>
    cases hp
    exact ⟨trivial, h.write_if allowed.1 _ _, trivial⟩

end

end Calls

/-! ### Whole runs -/

theorem Sound.initial (c : Campaign) (strict : Bool) : Sound c strict World.initial := by
  refine ⟨Consistent.nil, nofun, nofun, nofun, fun x hx => ?_, fun _ m hm => ?_⟩
  · rcases hx with finished | ⟨k, hk, -⟩
    · cases finished
    · cases hk
  · cases hm

variable {strict : Bool} {c : Campaign}

theorem World.env_sound {w w' : World} {e : EnvEvent} (h : Sound c strict w) (ok : guard c strict w (.env e) = true)
    (he : w.env e = some w') :
    Sound c strict w' ∧ Kept w w' := by
  cases e with
  | childReports ns name phase =>
    obtain ⟨-, rfl⟩ := ite_some_none_eq_some.mp he
    have from_child : ∀ k ∈ (w.reportChild ns name phase).children, ∃ k' ∈ w.children,
        k'.namespaceName = k.namespaceName ∧ k'.name = k.name ∧ k'.container = k.container := by
      intro k hk
      obtain ⟨k', hk', rfl⟩ := mem_map.mp hk
      refine ⟨k', hk', ?_⟩
      split
      · exact ⟨rfl, rfl, rfl⟩
      · exact ⟨rfl, rfl, rfl⟩
    have of_finished : ∀ x ∈ (w.reportChild ns name phase).finished, x ∈ w.finished ∨ ∃ k ∈ w.children, k.container = x := by
      intro x hx
      rcases mem_append.mp hx with hx | hx
      · exact .inl hx
      · split at hx
        · obtain ⟨k, hk, rfl⟩ := mem_map.mp hx
          exact .inr ⟨k, (mem_filter.mp hk).1, rfl⟩
        · cases hx
    have still : ∀ k ∈ w.children, ∃ k' ∈ (w.reportChild ns name phase).children, k'.container = k.container := by
      intro k hk
      refine ⟨_, mem_map_of_mem hk, ?_⟩
      split
      · rfl
      · rfl
    refine ⟨⟨h.consistent, h.deletions, fun k hk => ?_, h.fresh, fun x hx => ?_, fun hs m hm awaiting finished => ?_⟩,
      rfl, rfl, rfl, rfl, fun k hk => ?_, of_finished⟩
    · obtain ⟨k', hk', ns', name', container⟩ := from_child k hk
      rw [← ns', ← name', ← container]
      exact h.named k' hk'
    · rcases hx with finished | ⟨k, hk, rfl⟩
      · exact h.begun x (of_finished x finished)
      · obtain ⟨k', hk', -, -, container⟩ := from_child k hk
        exact container ▸ h.begun _ (.inr ⟨k', hk', rfl⟩)
    · have child : ∃ k ∈ w.children, k.container = m.container := by
        rcases of_finished _ finished with finished | child
        · exact h.awaited hs m hm awaiting finished
        · exact child
      obtain ⟨k, hk, same⟩ := child
      obtain ⟨k', hk', same'⟩ := still k hk
      exact ⟨k', hk', same'.trans same⟩
    · obtain ⟨k', hk', -, -, container⟩ := from_child k hk
      exact ⟨k', hk', container⟩
  | childDeleted ns name =>
    cases he
    refine ⟨h.deleteChild fun hs => ?_, rfl, rfl, rfl, rfl, ?_, ?_⟩
    · subst hs
      simpa [guard, finishedChildKept] using ok
    · exact fun k hk => ⟨k, (mem_filter.mp hk).1, rfl⟩
    · exact fun x hx => .inl hx

theorem sound_of_reachable {s : SysState World Unit Op Op.Reply}
    (h : (system c).Reachable (guard c strict) World.initial s) : Sound c strict s.world := by
  suffices disciplined : ∃ st : Unit → Journal, Disciplined c strict s.world (st ()) from disciplined.elim fun _ h => h.sound
  refine invariant_of_conforms (fun _ => journalOf c) (fun w st => Disciplined c strict w (st ())) ?_ ?_ ?_ ?_ ?_ h
  · intro _
    exact Prog.Conforms.bind reconcile_journal fun _ _ _ => trivial
  · exact ⟨Sound.initial c strict, trivial⟩
  · intro _ w st disciplined _
    have sound := disciplined.sound
    exact ⟨⟨sound.consistent, sound.deletions, sound.named, sound.fresh, sound.begun, sound.awaited⟩, trivial⟩
  · intro _ w st op r applied w' disciplined allowed ok hp
    exact disciplined.call allowed ok hp
  · intro w st e w' disciplined ok he
    obtain ⟨sound, kept⟩ := env_sound disciplined.sound ok he
    exact ⟨sound, disciplined.tells.kept kept⟩

/-- At most one entry is in flight, and every deletion is justified by the record persisted at that moment. -/
theorem migration_disciplined {c : Campaign} {s : SysState World Unit Op Op.Reply}
    (h : (system c).Reachable (fun _ _ => true) World.initial s) :
    s.world.inFlight.length ≤ 1 ∧ ∀ d ∈ s.world.deletions, d.Justified := by
  have sound : Sound c false s.world := sound_of_reachable h
  exact ⟨sound.consistent.single, sound.deletions⟩

/-- Whatever fails and wherever a pass stops, the stored record accounts for every container that was started. -/
theorem record_consistent {c : Campaign} {s : SysState World Unit Op Op.Reply}
    (h : (system c).Reachable (fun _ _ => true) World.initial s) : Consistent s.world.starts s.world.entries := by
  have sound : Sound c false s.world := sound_of_reachable h
  exact sound.consistent

/-! ### A campaign of one container -/

/-- A campaign over one drive container. -/
def oneContainer : Campaign := ⟨"migrate", "weka", "uid-0", "weka-operator", fun name _ => name⟩

def oneContainerCluster : Cluster :=
  { driveSharing := true
    usesClusterCapacity := false
    migrationAnnotation := "drive-sharing"
    template := some { driveContainers := 1, containerCapacity := 100, numDrives := 0, driveCapacity := 0 } }

/-- Replies to a campaign that goes well; the container may be gone, the cluster out of reach. -/
def healthyReplies (gone reachable : Bool) (w : World) : (op : Op) → op.Reply
  | .read (.cluster _ _) => if reachable then .ok oneContainerCluster else .error (.other "timeout")
  | .read .operations => .ok []
  | .read .driveContainers =>
    .ok (if gone then [] else [{ name := "drive-0", node := "node-0", usesDriveSharing := false }])
  | .read (.nodes _) => .ok []
  | .read .policies => .ok []
  | .read (.nodeLabels _) => .ok []
  | .read (.container name) =>
    if gone then .error .notFound else .ok { name := name, drives := ["serial-0"], clusterContainerID := some 7 }
  | .read (.containerDrives _) => .ok [⟨"uuid-0", 2 ^ 30⟩]
  | .read (.fullDrives _) => .ok (.ok [])
  | .read (.sharedDrives _) => .ok (.ok [])
  | .read .podNamespace => .ok "weka-operator"
  | .read (.ssdProxy _) => .error .notFound
  | .read (.proxyPod _) => .error .notFound
  | .read (.proxyRecovered _ _) => .ok []
  | .read (.proxyGate _ _) => .ok []
  | .read (.proxyDrives _ _) => .ok []
  | .read (.recoveryGate _) => ⟨"weka", "cluster", "guid", true, ""⟩
  | .read .now => 0
  | .load =>
    .ok { deleting := false, payload := { clusterNamespace := "weka", clusterName := "cluster" }, status := w.status,
          result := w.result }
  | .gate => ⟨"weka", "cluster", "guid", true, ""⟩
  | .wekaStatus => .ok ⟨2 ^ 36, 2 ^ 35, 4, 2, 0⟩
  | .getChild ns name =>
    match w.child? ns name with
    | some k => .ok ⟨k.phase, ""⟩
    | none => .error .notFound
  | .suppressForceResign _ => .ok ()
  | .deleteContainer _ => .ok ()
  | .removeFullDrives _ _ => .ok ()
  | .createChild _ _ => .ok ()
  | .deleteChild _ _ => .ok ()
  | .deleteProxyPod _ => .ok ()
  | .removeMigrationAnnotationKey => .ok ()
  | .persist _ => .ok ()
  | .fail _ => .ok ()
  | .succeed _ => .ok ()

/-- The container is started and deleted. -/
def drained : List (System.Scene World Unit Op EnvEvent Op.Reply) :=
  [.pass () (healthyReplies false true) 40, .pass () (healthyReplies false true) 40]

theorem migration_disciplined_drained : ∃ s : SysState World Unit Op Op.Reply,
    (system oneContainer).Reachable (fun _ _ => true) World.initial s ∧ s.world.deletions.length = 1 ∧
    s.world.inFlight.length ≤ 1 ∧ ∀ d ∈ s.world.deletions, d.Justified :=
  of_play_and drained (by decide +kernel) migration_disciplined

theorem record_consistent_drained : ∃ s : SysState World Unit Op Op.Reply,
    (system oneContainer).Reachable (fun _ _ => true) World.initial s ∧ s.world.starts.length = 1 ∧
    Consistent s.world.starts s.world.entries :=
  of_play_and drained (by decide +kernel) record_consistent

/-! ### Children -/

/-- Where a finished child goes only once it is on record or its entry has left the signing, none is created again. -/
theorem finishedChild_notRecreated {c : Campaign} {s : SysState World Unit Op Op.Reply}
    (h : (system c).Reachable (finishedChildKept c) World.initial s) : ∀ x ∈ s.world.created, x.2 = false := by
  have sound : Sound c true s.world := sound_of_reachable h
  exact sound.fresh rfl

/-- Its drives are being signed. -/
def signed : List (System.Scene World Unit Op EnvEvent Op.Reply) :=
  drained ++ [.pass () (healthyReplies true true) 40, .pass () (healthyReplies true true) 40]

/-- The child is deleted after its end was put on record. -/
def signedAndGone : List (System.Scene World Unit Op EnvEvent Op.Reply) :=
  signed ++ [
    .event (.env (.childReports "weka-operator" "migrate-sign-drive-0" "Done")),
    .pass () (healthyReplies true true) 40,
    .event (.env (.childDeleted "weka-operator" "migrate-sign-drive-0")),
    .pass () (healthyReplies true true) 40]

theorem finishedChild_notRecreated_gone : ∃ s : SysState World Unit Op Op.Reply,
    (system oneContainer).Reachable (finishedChildKept oneContainer) World.initial s ∧
    (s.world.created.length = 1 ∧ s.world.finished = ["drive-0"] ∧ s.world.children = []) ∧
    ∀ x ∈ s.world.created, x.2 = false :=
  of_play_and signedAndGone (by decide +kernel) finishedChild_notRecreated

/-- The operation ends and goes while no reconcile gets past planning. -/
def resigned : List (System.Scene World Unit Op EnvEvent Op.Reply) :=
  signed ++ [
    .event (.env (.childReports "weka-operator" "migrate-sign-drive-0" "Done")),
    .pass () (healthyReplies true false) 40,
    .event (.env (.childDeleted "weka-operator" "migrate-sign-drive-0")),
    .pass () (healthyReplies true true) 40]

theorem finishedChild_recreated : ∃ s : SysState World Unit Op Op.Reply,
    (system oneContainer).Reachable (fun _ _ => true) World.initial s ∧ ("drive-0", true) ∈ s.world.created :=
  of_play resigned (by decide +kernel)

end WekaOperator.Migrate
