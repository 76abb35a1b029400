import WekaOperator.Migrate.Journal

/-! The protocol of a migration's reconcile as far as the Rejoining sub-phase goes: between the load of the record and
    the write that moves a container there, what the reconcile was told about the node's ssdproxy bears the move out. -/

namespace WekaOperator.Migrate
open Lib Operations

/-- The restart was on record when loaded, and the pod and the proxy run. -/
structure Awaited (loaded : List ContainerState) (seen : List Seen) (e : ContainerState) : Prop where
  marked : ∃ m ∈ loaded, m.container = e.container ∧ m.node = e.node ∧ m.Restarted
  running : ∃ proxy pod, .proxy e.node proxy ∈ seen ∧ .pod proxy (some pod) ∈ seen ∧ pod.phase = "Running" ∧
    proxy.status = "Running"

/-! ### Stages -/

/-- The journal, as far as the proxy goes. -/
inductive Stage
  | fresh
  | loaded (entries : List ContainerState) (seen : List Seen)
  | written (entries : List ContainerState)
  | closed

/-- Entries that were Rejoining already. -/
def Rejoined (entries : List ContainerState) (e : ContainerState) : Prop :=
  e.subPhase = .rejoining → ∃ m ∈ entries, m.container = e.container ∧ m.subPhase = .rejoining

namespace Stage

/-- The stage after a call. -/
def next (stage : Stage) : (op : Op) → op.Reply → Stage
  | .load, .ok owner => loaded (owner.result.getD {}).containers []
  | .read q, r =>
    match stage with
    | loaded entries seen => loaded entries (Seen.after seen q r)
    | stage => stage
  | .persist r, .ok () => written r.containers
  | .persist _, .error _ => closed
  | .fail _, _ => closed
  | .succeed _, _ => closed
  | _, _ => stage

/-- Every entry that becomes Rejoining is borne out by what was seen. -/
def Writes : Stage → Result → Prop
  | loaded entries seen, r => ∀ e ∈ r.containers,
      Rejoined entries e ∨ .noProxy e.node ∈ seen ∨ Awaited entries seen e ∨ Serves seen e
  | written entries, r => ∀ e ∈ r.containers, Rejoined entries e
  | fresh, _ => False
  | closed, _ => False

/-- The calls allowed at a stage. -/
def allowed : Stage → Op → Prop
  | stage, .load => stage = fresh
  | stage, .persist r => stage.Writes r
  | stage, .fail r => stage.Writes r
  | stage, .succeed r => stage.Writes r
  | _, _ => True

end Stage

/-- The protocol of the stages. -/
def protocol (c : Campaign) : Protocol Op Op.Reply Stage where
  fresh := .fresh
  next := Stage.next
  allowed := Stage.allowed
  admits op r := Op.Admits c op r

/-! ### From the journal -/

/-- The stage of a journal. -/
def Journal.stage : Journal → Stage
  | fresh => .fresh
  | loaded entries told => .loaded entries told.seen
  | written entries => .written entries
  | closed => .closed

theorem Journal.stage_next (journal : Journal) (op : Op) (r : op.Reply) :
    (journal.next op r).stage = journal.stage.next op r := by
  cases op with
  | load => cases r <;> rfl
  | persist res => cases r <;> rfl
  | fail res => rfl
  | succeed res => rfl
  | _ => cases journal <;> rfl

theorem refreshState_alike (exclusive : List Target) (s : ContainerState) :
    (refreshState exclusive s).container = s.container ∧ (refreshState exclusive s).subPhase = s.subPhase := by
  unfold refreshState
  split
  · split
    · exact ⟨rfl, rfl⟩
    · exact ⟨rfl, rfl⟩
  · exact ⟨rfl, rfl⟩

section Writes
variable {told : Told} {entries planned : List ContainerState} {m e : ContainerState}

theorem plan_rejoined (entries : List ContainerState) (exclusive sharing : List Target) :
    ∀ e ∈ planMigrationContainers entries exclusive sharing, Rejoined entries e := by
  unfold planMigrationContainers
  intro e he rejoining
  split at he
  · rw [(sortMigrationStates_perm _).mem_iff, List.mem_append, List.mem_map, List.mem_map] at he
    rcases he with ⟨t, -, rfl⟩ | ⟨t, -, rfl⟩
    · cases rejoining
    · cases rejoining
  · rw [(sortMigrationStates_perm _).mem_iff, List.mem_map] at he
    obtain ⟨m, hm, rfl⟩ := he
    obtain ⟨container, subPhase⟩ := refreshState_alike exclusive m
    exact ⟨m, hm, container.symm, subPhase ▸ rejoining⟩

theorem Refreshed.rejoined (h : Refreshed told entries planned) : ∀ e ∈ planned, Rejoined entries e := by
  cases h with
  | kept => exact fun e he rejoining => ⟨e, he, rfl, rejoining⟩
  | all names listed => exact plan_rejoined _ _ _
  | selected names listed => exact plan_rejoined _ _ _

theorem Moves.rejoined (h : Moves told planned m e) (rejoining : e.subPhase = .rejoining) :
    m.subPhase = .rejoining ∨ .noProxy e.node ∈ told.seen ∨
      (m.Restarted ∧ ∃ proxy pod, .proxy e.node proxy ∈ told.seen ∧ .pod proxy (some pod) ∈ told.seen ∧
        pod.phase = "Running" ∧ proxy.status = "Running") ∨ Serves told.seen e := by
  rcases h.shift with ⟨-, same⟩ | ⟨-, -, other⟩ | ⟨-, -, other, -⟩ | ⟨-, -, -, other, -⟩ | ⟨-, -, -, other⟩ | ⟨-, -, -, -, told⟩ |
    ⟨-, -, -, other⟩
  · exact .inl (same.symm.trans rejoining)
  · cases other.symm.trans rejoining
  · cases other.symm.trans rejoining
  · cases other.symm.trans rejoining
  · cases other.symm.trans rejoining
  · exact .inr told
  · cases other.symm.trans rejoining

theorem Journal.Writes.stage {journal : Journal} {r : Result} (h : journal.Writes r) : journal.stage.Writes r := by
  obtain ⟨planned, holds, moved⟩ := h.forall₂
  cases holds with
  | loaded refreshed =>
    intro e he
    obtain ⟨m, hm, moves⟩ := forall₂_mem_right moved he
    by_cases rejoining : e.subPhase = .rejoining
    case neg => exact .inl fun h => absurd h rejoining
    rcases moves.rejoined rejoining with before | gone | ⟨restarted, running⟩ | serves
    · obtain ⟨k, hk, container, same⟩ := refreshed.rejoined m hm before
      exact .inl fun _ => ⟨k, hk, container.trans moves.container.symm, same⟩
    · exact .inr (.inl gone)
    · have persisted := refreshed.flying hm restarted.phase
      exact .inr (.inr (.inl ⟨⟨m, persisted, moves.container.symm, moves.node.symm, restarted⟩, running⟩))
    · exact .inr (.inr (.inr serves))
  | written =>
    intro e he rejoining
    obtain ⟨m, hm, moves⟩ := forall₂_mem_right moved he
    -- after a write nothing is known of the proxy
    rcases moves.rejoined rejoining with before | gone | ⟨-, proxy, pod, gone, -⟩ | ⟨proxy, shared, uuids, pod, gone, -⟩
    · exact ⟨m, hm, moves.container.symm, before⟩
    · cases gone
    · cases gone
    · cases gone

theorem Journal.allowed_stage (c : Campaign) (journal : Journal) (op : Op) (h : journal.allowed c op) : journal.stage.allowed op := by
  cases op with
  | load =>
    have fresh : journal = .fresh := h
    subst fresh
    rfl
  | persist r => exact Writes.stage h
  | fail r => exact Writes.stage h
  | succeed r => exact h.1.stage
  | _ => trivial

end Writes

/-- A reconcile keeps to these stages, whatever it is told. -/
theorem reconcile_ends {c : Campaign} : (reconcile c).Conforms (protocol c) (fun _ _ => True) .fresh :=
  reconcile_journal.image Journal.stage (fun _ _ => id) Journal.stage_next (Journal.allowed_stage c) fun _ _ _ => trivial

end WekaOperator.Migrate
