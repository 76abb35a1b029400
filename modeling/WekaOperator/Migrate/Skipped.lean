import WekaOperator.Migrate.Discipline

/-! What becomes of the containers of the frozen set. -/

namespace WekaOperator.Migrate
open List Lib Operations

/-! ### The drive containers and the nodes -/

/-- The record, the drive containers of the cluster and the labels of the nodes. `names` are those of all drive containers
    there ever were, `listed` is what the last list showed, `frozen` the names of the set, and `left` its exclusive
    containers at each finalization. -/
structure Site where
  status : OwnerStatus := .unset
  result : Option Result := none
  containers : List DriveContainer
  nodes : List (String × Labels)
  names : List String
  listed : List DriveContainer := []
  frozen : List String := []
  left : List (List String) := []
  deriving DecidableEq, Repr

namespace Site

/-- A site before the campaign. -/
def initial (containers : List DriveContainer) (nodes : List (String × Labels)) : Site :=
  { containers, nodes, names := containers.map (·.name) }

/-- The stored entries. -/
def entries (w : Site) : List ContainerState := (w.result.getD {}).containers

/-- An exclusive container of that name exists. -/
def exclusive (w : Site) (name : String) : Bool := w.containers.any fun d => d.name = name ∧ ¬d.usesDriveSharing

/-- The nodes that match a selector. -/
def matching (w : Site) (selector : Labels) : List String := (w.nodes.filter (selectorMatches selector ·.2)).map (·.1)

/-- Stores status and record. -/
def write (w : Site) (status : OwnerStatus) (r : Result) : Site :=
  { w with
    status := status
    result := some r
    frozen := if w.frozen = [] then r.containers.map (·.container) else w.frozen }

/-- Stores the success, and logs the exclusive containers that are left. -/
def finish (w : Site) (r : Result) : Site :=
  let w := w.write .done r
  { w with left := w.left ++ [w.frozen.filter w.exclusive] }

/-- Lists show what is there. -/
def answers (c : Campaign) (w : Site) : (op : Op) → op.Reply → Bool
  | .read .driveContainers, .ok containers => containers = w.containers ∧ (containers.map (·.name)).Nodup
  | .read (.nodes selector), .ok nodes => nodes = w.matching selector
  | .read (.container name), .error .notFound => !w.containers.any (·.name = name)
  | .read q, r => q.admits c r
  | .load, .ok owner => owner.status = w.status ∧ owner.result = w.result
  | _, _ => true

/-- What a call does. -/
def after (w : Site) : (op : Op) → op.Reply → Bool → Site
  | .read .driveContainers, .ok containers, _ => { w with listed := containers }
  | .persist res, r, applied => if took r applied then w.write w.status.progressed res else w
  | .fail res, r, applied => if took r applied then w.write .failed res else w
  | .succeed res, r, applied => if took r applied then w.finish res else w
  | _, _, _ => w

end Site

/-- Containers come and go, and nodes are relabelled. -/
inductive SiteEvent
  | created (container : DriveContainer)
  | updated (container : DriveContainer)
  | gone (name : String)
  | relabelled (nodes : List (String × Labels))
  deriving DecidableEq, Repr

/-- The effect of what others do. -/
def Site.env (w : Site) : SiteEvent → Option Site
  | .created d => if d.name ∈ w.names then none else some { w with containers := w.containers ++ [d], names := w.names ++ [d.name] }
  | .updated d =>
    if w.containers.any fun old => old.name = d.name ∧ old.usesDriveSharing ∧ ¬d.usesDriveSharing then none
    else some { w with containers := w.containers.map fun old => if old.name = d.name then d else old }
  | .gone name => some { w with containers := w.containers.filter (·.name ≠ name) }
  | .relabelled nodes => some { w with nodes := nodes }

/-- The reconciles of the campaign over the site. -/
def siteSystem (c : Campaign) : System Site Unit Op SiteEvent Op.Reply where
  body _ := do
    let _ ← reconcile c
    return ()
  start _ w := w
  perform _ w op r applied := if w.answers c op r then some (w.after op r applied) else none
  env := Site.env

/-- No Pending container that was listed leaves the matching nodes. -/
def targetsKept (w : Site) : Event Unit Op SiteEvent Op.Reply → Bool
  | .reply _ (.read (.nodes _)) (.ok nodes) _ => w.entries.all fun e => w.listed.all fun d =>
    e.phase ≠ .pending ∨ d.name ≠ e.container ∨ d.usesDriveSharing ∨ d.node ∈ nodes
  | _ => true

/-! ### The invariant -/

/-- The entry's container is gone or skipped. -/
def ContainerState.Spent (e : ContainerState) : Prop :=
  e.phase = .skipped ∨ e.phase = .done ∨
    e.phase = .inFlight ∧ (e.subPhase = .signing ∨ e.subPhase = .proxy ∨ e.subPhase = .rejoining)

/-- What holds of the site and its record. -/
structure Placed (w : Site) : Prop where
  used : ∀ d ∈ w.containers, d.name ∈ w.names
  named : ∀ e ∈ w.entries, e.container ∈ w.names
  spent : ∀ e ∈ w.entries, e.Spent → w.exclusive e.container = false
  frozen : ∀ name ∈ w.frozen, name ∈ w.entries.map (·.container)
  left : ∀ names ∈ w.left, names = []

/-- A list of containers, as the site has them or had them. -/
structure Lists (w : Site) (entries : List ContainerState) (containers : List DriveContainer) : Prop where
  named : ∀ d ∈ containers, d.name ∈ w.names
  sharing : ∀ d ∈ containers, d.usesDriveSharing = true → w.exclusive d.name = false
  unlisted : ∀ e ∈ entries, (∀ d ∈ containers, d.name = e.container → d.usesDriveSharing = true) → w.exclusive e.container = false

/-- What the replies say holds. -/
structure Facts (w : Site) (entries : List ContainerState) (told : Told) : Prop where
  gone : ∀ e ∈ entries, ⟨.read (.container e.container), .error .notFound⟩ ∈ told → w.exclusive e.container = false
  listed : ∀ containers, ⟨.read .driveContainers, .ok containers⟩ ∈ told → Lists w entries containers
  latest : ∀ containers before, told = ⟨.read .driveContainers, .ok containers⟩ :: before → w.listed = containers
  matched : ∀ selector nodes containers before,
    (⟨.read (.nodes selector), .ok nodes⟩ :: ⟨.read .driveContainers, .ok containers⟩ :: before : Told) <:+ told →
    ∀ e ∈ entries, e.phase = .pending → ∀ d ∈ containers, d.name = e.container → d.usesDriveSharing = true ∨ d.node ∈ nodes

/-- What the journal says holds. -/
def Journal.Informs (w : Site) : Journal → Prop
  | loaded entries told => w.entries = entries ∧ Facts w entries told
  | written entries => w.entries = entries
  | fresh => True
  | closed => True

/-- The invariant of the site and the journal. -/
structure Located (w : Site) (journal : Journal) : Prop where
  placed : Placed w
  informs : journal.Informs w

variable {exclusive : List Target} {e : ContainerState} {op : Op} {applied : Bool}

section Located
variable {c : Campaign} {w w' : Site} {journal : Journal} {entries planned : List ContainerState} {told : Told}
  {containers : List DriveContainer} {r : Result}

theorem Site.exclusive_eq_false {name : String} :
    w.exclusive name = false ↔ ∀ d ∈ w.containers, d.name = name → d.usesDriveSharing = true := by
  simp [Site.exclusive]

/-! ### Refreshing the set -/

variable {sharing : List Target} {p : ContainerState}

theorem mem_plan (h : p ∈ planMigrationContainers entries exclusive sharing) :
    (entries = [] ∧ ((∃ t ∈ exclusive, t.name = p.container ∧ p.phase = .pending) ∨ ∃ t ∈ sharing, t.name = p.container)) ∨
      ∃ e ∈ entries, p = refreshState exclusive e := by
  unfold planMigrationContainers at h
  split at h
  next first =>
    refine .inl ⟨length_eq_zero_iff.mp first, ?_⟩
    rcases mem_append.mp ((sortMigrationStates_perm _).mem_iff.mp h) with h | h
    · obtain ⟨t, ht, rfl⟩ := mem_map.mp h
      exact .inl ⟨t, ht, rfl, rfl⟩
    · obtain ⟨t, ht, rfl⟩ := mem_map.mp h
      exact .inr ⟨t, ht, rfl⟩
  next =>
    obtain ⟨e, he, rfl⟩ := mem_map.mp ((sortMigrationStates_perm _).mem_iff.mp h)
    exact .inr ⟨e, he, rfl⟩

theorem plan_names (set : entries ≠ []) (he : e ∈ entries) :
    e.container ∈ (planMigrationContainers entries exclusive sharing).map (·.container) := by
  unfold planMigrationContainers
  rw [if_neg fun first => set (length_eq_zero_iff.mp first)]
  refine mem_map.mpr ⟨refreshState exclusive e, ?_, (refreshState_updates exclusive e).container⟩
  exact (sortMigrationStates_perm _).mem_iff.mpr (mem_map_of_mem he)

theorem refreshState_spent (h : (refreshState exclusive e).Spent) :
    e.Spent ∨ e.phase = .pending ∧ ∀ t ∈ exclusive, t.name ≠ e.container := by
  unfold refreshState at h
  split at h
  next pending =>
    split at h
    next gone =>
      refine .inr ⟨pending, fun t ht same => ?_⟩
      have none := List.getLast?_eq_none_iff.mp gone
      exact absurd (decide_eq_true same) (filter_eq_nil_iff.mp none t ht)
    next => simp [ContainerState.Spent, pending] at h
  next => exact .inl h

theorem Lists.plan (h : Lists w entries containers) (named : ∀ e ∈ entries, e.container ∈ w.names)
    (spent : ∀ e ∈ entries, e.Spent → w.exclusive e.container = false) (filter : Option (List String))
    (kept : ∀ nodes ∈ filter, ∀ e ∈ entries, e.phase = .pending → ∀ d ∈ containers, d.name = e.container →
      d.usesDriveSharing = true ∨ d.node ∈ nodes)
    (hp : p ∈ planMigrationContainers entries (splitTargets containers filter).1 (splitTargets containers filter).2) :
    p.container ∈ w.names ∧ (p.Spent → w.exclusive p.container = false) := by
  rcases mem_plan hp with ⟨-, ⟨t, ht, name, pending⟩ | ⟨t, ht, name⟩⟩ | ⟨e, he, rfl⟩
  · obtain ⟨d, hd, rfl⟩ := mem_map.mp ht
    rw [← name]
    refine ⟨h.named d (mem_filter.mp (mem_filter.mp hd).1).1, fun hs => ?_⟩
    simp [ContainerState.Spent, pending] at hs
  · obtain ⟨d, hd, rfl⟩ := mem_map.mp ht
    obtain ⟨hd, sharing⟩ := mem_filter.mp hd
    rw [← name]
    exact ⟨h.named d (mem_filter.mp hd).1, fun _ => h.sharing d (mem_filter.mp hd).1 sharing⟩
  · rw [(refreshState_updates _ e).container]
    refine ⟨named e he, fun hs => ?_⟩
    rcases refreshState_spent hs with hs | ⟨pending, untargeted⟩
    · exact spent e he hs
    · refine h.unlisted e he fun d hd name => ?_
      -- an exclusive container that was listed is selected, hence a target
      by_contra exclusive
      have selected : filter.all (d.node ∈ ·) = true := by
        cases filter with
        | none => rfl
        | some nodes => simpa using (kept nodes rfl e he pending d hd name).resolve_left exclusive
      refine untargeted ⟨d.name, d.node⟩ (mem_map.mpr ⟨d, ?_, rfl⟩) name
      exact mem_filter.mpr ⟨mem_filter.mpr ⟨hd, selected⟩, by simpa using exclusive⟩

theorem Refreshed.located (h : Refreshed told w.entries planned) (placed : Placed w) (facts : Facts w w.entries told) :
    ∀ p ∈ planned, p.container ∈ w.names ∧ (p.Spent → w.exclusive p.container = false) := by
  intro p hp
  cases h with
  | kept => exact ⟨placed.named p hp, placed.spent p hp⟩
  | all names listed => exact (facts.listed _ listed).plan placed.named placed.spent none nofun hp
  | @selected containers selector nodes before names listed =>
    have lists := facts.listed containers (listed.subset (mem_cons_of_mem _ mem_cons_self))
    refine lists.plan placed.named placed.spent (some nodes) ?_ hp
    rintro _ ⟨⟩
    exact facts.matched selector nodes containers before listed

theorem Refreshed.names (h : Refreshed told entries planned) (set : entries ≠ []) (he : e ∈ entries) :
    e.container ∈ planned.map (·.container) := by
  cases h with
  | kept => exact mem_map_of_mem he
  | all names listed => exact plan_names set he
  | selected names listed => exact plan_names set he

/-! ### Writing the record -/

theorem Moves.spent {m : ContainerState} (h : Moves told planned m e) (hs : e.Spent) :
    m.Spent ∨ m.phase = .inFlight ∧ ⟨.read (.container m.container), .error .notFound⟩ ∈ told := by
  cases h.shift with
  | stays phase subPhase =>
    unfold ContainerState.Spent at hs ⊢
    rw [phase, subPhase] at hs
    exact .inl hs
  | gated pending phase subPhase => simp [ContainerState.Spent, phase] at hs
  | starts pending phase subPhase idle serials gate headroom => simp [ContainerState.Spent, phase, subPhase] at hs
  | drained flying draining phase subPhase gone => exact .inr ⟨flying, gone⟩
  | signed flying signing phase subPhase => exact .inl (.inr (.inr ⟨flying, .inl signing⟩))
  | rejoins flying proxied phase subPhase told => exact .inl (.inr (.inr ⟨flying, .inr (.inl proxied)⟩))
  | completes flying rejoining phase subPhase => exact .inl (.inr (.inr ⟨flying, .inr (.inr rejoining)⟩))

theorem Located.writes (h : Located w journal) (writes : journal.Writes r) :
    (∀ e ∈ r.containers, e.container ∈ w.names ∧ (e.Spent → w.exclusive e.container = false)) ∧
      (w.entries ≠ [] → ∀ e ∈ w.entries, e.container ∈ r.containers.map (·.container)) := by
  obtain ⟨planned, holds, moves⟩ := writes.forall₂
  have names : r.containers.map (·.container) = planned.map (·.container) := names_eq (moves.imp fun _ _ h => h.container)
  rw [names]
  cases holds with
  | @loaded entries told refreshed =>
    obtain ⟨rfl, facts⟩ := h.informs
    refine ⟨fun e he => ?_, fun set e he => refreshed.names set he⟩
    obtain ⟨m, hm, move⟩ := forall₂_mem_right moves he
    obtain ⟨named, absent⟩ := refreshed.located h.placed facts m hm
    rw [move.container]
    refine ⟨named, fun hs => ?_⟩
    rcases move.spent hs with hs | ⟨flying, gone⟩
    · exact absent hs
    · exact facts.gone m (refreshed.flying hm flying) gone
  | written =>
    have same : w.entries = planned := h.informs
    rw [same]
    refine ⟨fun e he => ?_, fun _ e he => mem_map_of_mem he⟩
    obtain ⟨m, hm, move⟩ := forall₂_mem_right moves he
    rw [← same] at hm
    rw [move.container]
    refine ⟨h.placed.named m hm, fun hs => ?_⟩
    rcases move.spent hs with hs | ⟨-, gone⟩
    · exact h.placed.spent m hm hs
    · cases gone

theorem Located.write (h : Located w journal) (writes : journal.Writes r) (status : OwnerStatus) : Placed (w.write status r) := by
  obtain ⟨located, kept⟩ := h.writes writes
  refine ⟨h.placed.used, fun e he => (located e he).1, fun e he => (located e he).2, fun name hn => ?_, h.placed.left⟩
  simp only [Site.write] at hn
  split at hn
  · exact hn
  next set =>
    obtain ⟨e, he, rfl⟩ := mem_map.mp (h.placed.frozen name hn)
    exact kept (ne_nil_of_mem he) e he

theorem Located.finish (h : Located w journal) (writes : journal.Writes r) (settled : Settled r.containers) : Placed (w.finish r) := by
  have placed := h.write writes .done
  refine ⟨placed.used, placed.named, placed.spent, placed.frozen, fun names hn => ?_⟩
  rcases mem_append.mp hn with hn | hn
  · exact h.placed.left names hn
  · rw [mem_singleton.mp hn, filter_eq_nil_iff]
    intro name hname
    obtain ⟨e, he, rfl⟩ := mem_map.mp (placed.frozen name hname)
    have spent : e.Spent := (settled e he).elim (fun done => .inr (.inl done)) .inl
    simp [placed.spent e he spent]

/-! ### Calls -/

theorem Site.after_noted (noted : op.Noted) (r : op.Reply) (applied : Bool) :
    ∃ listed, w.after op r applied = { w with listed := listed } := by
  cases op with
  | load => exact noted.elim
  | persist _ => exact noted.elim
  | fail _ => exact noted.elim
  | succeed _ => exact noted.elim
  | read q =>
    cases q with
    | driveContainers =>
      cases r with
      | error e => exact ⟨w.listed, rfl⟩
      | ok containers => exact ⟨containers, rfl⟩
    | _ => exact ⟨w.listed, rfl⟩
  | _ => exact ⟨w.listed, rfl⟩

theorem Placed.lists (h : Placed w) (nodup : (w.containers.map (·.name)).Nodup) : Lists w w.entries w.containers := by
  refine ⟨h.used, fun d hd sharing => ?_, fun e _ unlisted => Site.exclusive_eq_false.mpr unlisted⟩
  refine Site.exclusive_eq_false.mpr fun d' hd' same => ?_
  rw [inj_on_of_nodup_map nodup hd' hd same]
  exact sharing

theorem Facts.nil : Facts w entries [] := by
  refine ⟨fun e _ gone => ?_, fun containers shown => ?_, fun containers before same => ?_, fun _ _ _ _ suffix => ?_⟩
  · cases gone
  · cases shown
  · cases same
  · cases suffix_nil.mp suffix

theorem Facts.note (facts : Facts w w.entries told) (placed : Placed w) {r : op.Reply}
    (noted : op.Noted) (answers : w.answers c op r = true) (ok : targetsKept w (.reply () op r applied) = true) :
    Facts (w.after op r applied) w.entries (⟨op, r⟩ :: told) := by
  obtain ⟨listed, same⟩ := w.after_noted noted r applied
  refine ⟨fun e he gone => ?_, fun containers shown => ?_, ?_, ?_⟩
  · rw [same]
    rcases mem_cons.mp gone with new | gone
    · cases new
      have absent : ∀ d ∈ w.containers, d.name ≠ e.container := by simpa [Site.answers] using answers
      exact Site.exclusive_eq_false.mpr fun d hd name => absurd name (absent d hd)
    · exact facts.gone e he gone
  · rw [same]
    have lists : Lists w w.entries containers := by
      rcases mem_cons.mp shown with new | shown
      · cases new
        obtain ⟨rfl, nodup⟩ := of_decide_eq_true answers
        exact placed.lists nodup
      · exact facts.listed containers shown
    exact ⟨lists.named, lists.sharing, lists.unlisted⟩
  · rintro containers before ⟨⟩
    rfl
  · intro selector nodes containers before suffix e he pending d hd name
    rcases suffix_cons_iff.mp suffix with new | suffix
    · cases new
      have latest := facts.latest containers before rfl
      have kept := all_eq_true.mp (all_eq_true.mp ok e he) d (latest ▸ hd)
      simpa [pending, name] using kept
    · exact facts.matched selector nodes containers before suffix e he pending d hd name

theorem Located.note (h : Located w journal) {r : op.Reply} (noted : op.Noted)
    (answers : w.answers c op r = true) (ok : targetsKept w (.reply () op r applied) = true) :
    Located (w.after op r applied) (journal.next op r) := by
  obtain ⟨listed, same⟩ := w.after_noted noted r applied
  have placed : Placed (w.after op r applied) := by
    rw [same]
    exact ⟨h.placed.used, h.placed.named, h.placed.spent, h.placed.frozen, h.placed.left⟩
  have entries : (w.after op r applied).entries = w.entries := by
    rw [same]
    rfl
  refine ⟨placed, ?_⟩
  rw [Journal.next_noted noted]
  cases journal with
  | loaded l told =>
    obtain ⟨rfl, facts⟩ := h.informs
    exact ⟨entries, facts.note h.placed noted answers ok⟩
  | written l => exact entries.trans h.informs
  | _ => trivial

theorem Located.call (h : Located w journal) {r : op.Reply} (allowed : journal.allowed c op)
    (ok : targetsKept w (.reply () op r applied) = true) (answers : w.answers c op r = true) :
    Located (w.after op r applied) (journal.next op r) := by
  have applied_or : ∀ {w' : Site}, Placed w' → ∀ b : Bool, Placed (if b then w' else w) := by
    intro w' placed b
    cases b with
    | false => exact h.placed
    | true => exact placed
  cases op with
  | load =>
    cases r with
    | error e => exact h
    | ok owner =>
      obtain ⟨-, same⟩ := of_decide_eq_true answers
      refine ⟨h.placed, ?_, .nil⟩
      rw [same]
      rfl
  | persist res =>
    refine ⟨applied_or (h.write allowed _) _, ?_⟩
    cases r with
    | error e => trivial
    | ok _ => rfl
  | fail res => exact ⟨applied_or (h.write allowed _) _, trivial⟩
  | succeed res => exact ⟨applied_or (h.finish allowed.1 allowed.2) _, trivial⟩
  | _ =>
    refine h.note ?_ answers ok
    trivial

theorem Site.answers_admits {r : op.Reply} (h : w.answers c op r = true) : Op.Admits c op r := by
  cases op with
  | read q =>
    cases q with
    | driveContainers =>
      cases r with
      | error e => rfl
      | ok containers => exact decide_eq_true (of_decide_eq_true h).2
    | nodes selector => rfl
    | container name => rfl
    | _ => exact h
  | _ => trivial

theorem Placed.env {e : SiteEvent} (h : Placed w) (he : w.env e = some w') :
    (∀ d ∈ w'.containers, d.name ∈ w'.names) ∧ w.names ⊆ w'.names ∧
      (∀ name ∈ w.names, w.exclusive name = false → w'.exclusive name = false) ∧
      w' = { w with containers := w'.containers, nodes := w'.nodes, names := w'.names } := by
  cases e with
  | created d =>
    obtain ⟨new, he⟩ := Option.ite_none_left_eq_some.mp he
    cases he
    refine ⟨fun d' hd' => ?_, subset_append_left _ _, fun name used absent => ?_, rfl⟩
    · rcases mem_append.mp hd' with hd' | hd'
      · exact mem_append_left _ (h.used d' hd')
      · rw [mem_singleton.mp hd']
        exact mem_append_right _ (mem_singleton.mpr rfl)
    · refine Site.exclusive_eq_false.mpr fun d' hd' same => ?_
      rcases mem_append.mp hd' with hd' | hd'
      · exact Site.exclusive_eq_false.mp absent d' hd' same
      · rw [mem_singleton.mp hd'] at same
        exact absurd (same ▸ used) new
  | updated d =>
    obtain ⟨kept, he⟩ := Option.ite_none_left_eq_some.mp he
    cases he
    refine ⟨fun d' hd' => ?_, .refl _, fun name used absent => ?_, rfl⟩
    · obtain ⟨old, hold, rfl⟩ := mem_map.mp hd'
      split
      next same => exact same ▸ h.used old hold
      next => exact h.used old hold
    · refine Site.exclusive_eq_false.mpr fun d' hd' same => ?_
      obtain ⟨old, hold, rfl⟩ := mem_map.mp hd'
      split at same
      next here =>
        have sharing := Site.exclusive_eq_false.mp absent old hold (here.trans same)
        rw [if_pos here]
        by_contra exclusive
        exact kept (any_eq_true.mpr ⟨old, hold, by simp [here, sharing, exclusive]⟩)
      next there =>
        rw [if_neg there]
        exact Site.exclusive_eq_false.mp absent old hold same
  | gone name =>
    cases he
    refine ⟨fun d hd => h.used d (mem_filter.mp hd).1, .refl _, fun name used absent => ?_, rfl⟩
    exact Site.exclusive_eq_false.mpr fun d hd => Site.exclusive_eq_false.mp absent d (mem_filter.mp hd).1
  | relabelled nodes =>
    cases he
    exact ⟨h.used, .refl _, fun _ _ => id, rfl⟩

theorem Located.env {e : SiteEvent} (h : Located w journal) (he : w.env e = some w') : Located w' journal := by
  obtain ⟨used, more, absent, same⟩ := h.placed.env he
  have entries : w'.entries = w.entries := by
    rw [same]
    rfl
  have named : ∀ e ∈ w.entries, e.container ∈ w.names := h.placed.named
  refine ⟨⟨used, ?_, ?_, ?_, ?_⟩, ?_⟩
  · rw [entries]
    exact fun e he => more (named e he)
  · rw [entries]
    exact fun e he spent => absent _ (named e he) (h.placed.spent e he spent)
  · rw [entries, same]
    exact h.placed.frozen
  · rw [same]
    exact h.placed.left
  · cases journal with
    | loaded l told =>
      obtain ⟨rfl, facts⟩ := h.informs
      refine ⟨entries, fun e he gone => absent _ (named e he) (facts.gone e he gone), fun containers shown => ?_, ?_, facts.matched⟩
      · have lists := facts.listed containers shown
        exact ⟨fun d hd => more (lists.named d hd), fun d hd sharing => absent _ (lists.named d hd) (lists.sharing d hd sharing),
          fun e he unlisted => absent _ (named e he) (lists.unlisted e he unlisted)⟩
      · rw [same]
        exact facts.latest
    | written l => exact entries.trans h.informs
    | _ => trivial

end Located

/-! ### Whole runs -/

theorem Placed.initial (containers : List DriveContainer) (nodes : List (String × Labels)) : Placed (Site.initial containers nodes) := by
  refine ⟨fun d hd => mem_map_of_mem hd, fun e he => ?_, fun e he => ?_, fun name hn => ?_, fun names hn => ?_⟩
  · cases he
  · cases he
  · cases hn
  · cases hn

/-- As long as the selector matches the nodes of the Pending containers that are listed exclusive, a Skipped container is
    gone or shares its drives, and at each finalization so does every container of the set. -/
theorem skipped_notExclusive {c : Campaign} {containers : List DriveContainer} {nodes : List (String × Labels)}
    {s : SysState Site Unit Op Op.Reply} (h : (siteSystem c).Reachable targetsKept (Site.initial containers nodes) s) :
    (∀ e ∈ s.world.entries, e.phase = .skipped → s.world.exclusive e.container = false) ∧ ∀ names ∈ s.world.left, names = [] := by
  have located : ∃ st : Unit → Journal, Located s.world (st ()) := by
    refine invariant_of_conforms (fun _ => journalOf c) (fun w st => Located w (st ())) ?_ ?_ ?_ ?_ ?_ h
    · intro _
      exact .bind reconcile_journal fun _ _ _ => trivial
    · exact ⟨.initial containers nodes, trivial⟩
    · intro _ w st located _
      exact ⟨located.placed, trivial⟩
    · intro _ w st op r applied w' located allowed ok hp
      obtain ⟨answers, rfl⟩ := Option.ite_some_none_eq_some.mp hp
      exact ⟨Site.answers_admits answers, located.call allowed ok answers⟩
    · intro w st e w' located _ he
      exact located.env he
  obtain ⟨st, placed, -⟩ := located
  exact ⟨fun e he skipped => placed.spent e he (.inl skipped), placed.left⟩

def poolReplies (w : Site) : (op : Op) → op.Reply
  | .read .driveContainers => .ok w.containers
  | .read (.nodes selector) => .ok (w.matching selector)
  | .read (.container name) => if w.exclusive name then .error (.other "timeout") else .error .notFound
  | .load =>
    .ok { deleting := false
          payload := { clusterNamespace := "weka", clusterName := "cluster", nodeSelector := [("pool", "a")] }
          status := w.status
          result := w.result }
  | op => healthyReplies false true {} op

def poolSite : Site := .initial [{ name := "drive-0", node := "node-0", usesDriveSharing := false }] [("node-0", [("pool", "a")])]

/-- The container is found a second time while it is Pending, and is then deleted. -/
def deletedByHand : List (System.Scene Site Unit Op SiteEvent Op.Reply) :=
  [.pass () poolReplies 40, .pass () poolReplies 40, .event (.env (.gone "drive-0")), .pass () poolReplies 40]

theorem skipped_notExclusive_deletedByHand : ∃ s : SysState Site Unit Op Op.Reply,
    (siteSystem oneContainer).Reachable targetsKept poolSite s ∧
    (s.world.entries.map (·.phase) = [.skipped] ∧ s.world.left = [[]]) ∧
    (∀ e ∈ s.world.entries, e.phase = .skipped → s.world.exclusive e.container = false) ∧ ∀ names ∈ s.world.left, names = [] :=
  System.Reachable.of_play_and deletedByHand (by decide +kernel) skipped_notExclusive

def unlabelled : List (System.Scene Site Unit Op SiteEvent Op.Reply) :=
  [.pass () poolReplies 40, .event (.env (.relabelled [("node-0", [])])), .pass () poolReplies 40]

/-- The container is Skipped and the campaign finalizes, although it exists and is exclusive. -/
theorem skipped_exclusive_unlabelled : ∃ s : SysState Site Unit Op Op.Reply,
    (siteSystem oneContainer).Reachable (fun _ _ => true) poolSite s ∧ s.world.left = [["drive-0"]] ∧
    ∃ e ∈ s.world.entries, e.phase = .skipped ∧ s.world.exclusive e.container = true :=
  System.Reachable.of_play unlabelled (by decide +kernel)

end WekaOperator.Migrate
