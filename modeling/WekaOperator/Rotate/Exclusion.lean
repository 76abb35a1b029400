import WekaOperator.Rotate.OneAtATime

/-! Any number of rotation campaigns side by side. -/

namespace WekaOperator.Rotate
open Option Function List Lib Operations Stage

/-! ### The operations -/

/-- A rotation as stored. -/
structure Operation where
  uid : String
  deleting : Bool := false
  status : OwnerStatus := .unset
  result : Option Result := none
  deriving DecidableEq, Repr

/-- It is neither deleted nor over. -/
def Operation.active (o : Operation) : Bool := !o.deleting && !o.status.terminal

/-- An image that was sent, and the rivals at that time. -/
structure Dispatch where
  sender : String
  known : Option (List String)
  rivals : List String
  deriving DecidableEq, Repr

/-- What is logged: a passed check or an image sent. -/
inductive Entry
  | passed (uid : String) (finished : List String)
  | sent (d : Dispatch)
  deriving DecidableEq, Repr

/-- All rotations, and the log. -/
structure Fleet where
  ops : List Operation := []
  created : List String := []
  past : String → Option (List String) := fun _ => none
  log : List Entry := []

namespace Fleet

/-- The view is of this operation. -/
def shows (v : OperationView) (o : Operation) : Bool := v.uid = o.uid ∧ v.status = o.status ∧ v.deleting = o.deleting

/-- The list shows all rotations as they are. -/
def lists (w : Fleet) (views : List OperationView) : Bool :=
  (w.ops.all fun o => views.any fun v => v.sameAction && shows v o) &&
    views.all fun v => !v.sameAction || w.ops.any (shows v)

/-- Logs a passed check. -/
def pass (w : Fleet) (uid : String) : Fleet :=
  { w with
    past := Function.update w.past uid (some w.created)
    log := w.log ++ [.passed uid ((w.ops.filter (·.status.terminal)).map (·.uid))] }

/-- Other active rotations. -/
def rivals (w : Fleet) (uid : String) : List String :=
  if w.ops.any fun o => o.uid = uid ∧ o.active then (w.ops.filter fun o => o.uid ≠ uid ∧ o.active).map (·.uid) else []

/-- Logs an image that is sent. -/
def send (w : Fleet) (uid : String) : Fleet :=
  { w with log := w.log ++ [.sent ⟨uid, w.past uid, w.rivals uid⟩] }

/-- Changes a rotation. -/
def modify (w : Fleet) (uid : String) (f : Operation → Operation) : Fleet :=
  { w with ops := w.ops.map fun o => if o.uid = uid then f o else o }

/-- A status write that may fail. -/
def attempt (w : Fleet) (uid : String) (status : OwnerStatus → OwnerStatus) (r : Result) (reply : Except ApiError Unit)
    (applied : Bool) : Option Fleet :=
  if took reply applied then
    if w.ops.any (·.uid = uid) then some (w.modify uid fun o => { o with status := status o.status, result := some r }) else none
  else some w

/-- What a call does. -/
def perform (w : Fleet) (uid : String) : (op : Op) → op.Reply → Bool → Option Fleet
  | .load, .ok owner, _ =>
    if ⟨uid, owner.deleting, owner.status, owner.result⟩ ∈ w.ops then some w else none
  | .load, .error .notFound, _ => if w.ops.any (·.uid = uid) then none else some w
  | .load, .error _, _ => some w
  | .operations, .ok views, _ =>
    if w.lists views then some (if (contender uid views).isNone then w.pass uid else w) else none
  | .operations, .error _, _ => some w
  | .targets _, _, _ => some w
  | .podNamespace, _, _ => some w
  | .getProxy _, _, _ => some w
  | .getPod _, _, _ => some w
  | .gate _ _, _, _ => some w
  | .verifyRecovered _ _, _, _ => some w
  | .now, _, _ => some w
  | .patchImage _ _, _, _ => some (w.send uid)
  | .persist r, reply, applied => w.attempt uid (·.progressed) r reply applied
  | .fail r, reply, applied => w.attempt uid (fun _ => .failed) r reply applied
  | .succeed r, reply, applied => w.attempt uid (fun _ => .done) r reply applied

end Fleet

/-- Rotations are created and deleted. -/
inductive FleetEvent
  | create (uid : String)
  | mark (uid : String)
  | gone (uid : String)
  deriving DecidableEq, Repr

/-- The reconciles of all rotations. -/
def fleet (order : MapOrder NodeState) : System Fleet String Op FleetEvent Op.Reply where
  body uid := do
    let _ ← reconcile ⟨uid, order⟩
    return ()
  start uid w := { w with past := Function.update w.past uid none }
  perform uid w := w.perform uid
  env w
    | .create uid =>
      if uid ∈ w.created then none else some { w with ops := w.ops ++ [{ uid := uid }], created := w.created ++ [uid] }
    | .mark uid => some (w.modify uid fun o => { o with deleting := true })
    | .gone uid => some { w with ops := w.ops.filter (·.uid ≠ uid) }

/-- What may precede what in the log. -/
def Entry.Before : Entry → Entry → Prop
  | .sent p, .sent q => p.sender = q.sender → ∀ b ∈ p.rivals, b ∉ q.rivals
  | .passed _ finished, .sent q => q.sender ∉ finished
  | _, _ => True

/-- Of two active campaigns only the one created first sends patches, at most one, and in a reconcile that had passed its
    check before the other was created; a campaign that had finished when another one passed its check sends none. -/
structure Fleet.Exclusive (w : Fleet) : Prop where
  sent : ∀ d, .sent d ∈ w.log → ∀ b ∈ d.rivals, [d.sender, b].Sublist w.created ∧ ∃ known ∈ d.known, b ∉ known
  log : w.log.Pairwise Entry.Before

/-! ### What a reconcile knows -/

/-- A rotation at work. -/
def Stage.running : Stage → Bool
  | .fresh | .closed => false
  | _ => true

/-- The check is passed. -/
def Stage.passed : Stage → Bool
  | .admitted _ _ | .planned _ _ | .cleared _ _ _ _ | .verified _ _ _ => true
  | _ => false

/-- The rotation is there and not over. -/
structure Running (w : Fleet) (uid : String) : Prop where
  created : uid ∈ w.created
  unfinished : ∀ o ∈ w.ops, o.uid = uid → o.status.terminal = false
  spared : ∀ other finished, .passed other finished ∈ w.log → uid ∉ finished

/-- No other one was active when the check passed. -/
structure Alone (w : Fleet) (uid : String) (known : List String) : Prop where
  past : w.past uid = some known
  initial : known <+: w.created
  self : uid ∈ known
  apart : ∀ o ∈ w.ops, o.active = true → o.uid ≠ uid → o.uid ∉ known
  earlier : ∀ d, .sent d ∈ w.log → d.sender = uid → ∀ b ∈ d.rivals, b ∈ known

/-- What a stage says of its rotation. -/
structure Guarded (w : Fleet) (uid : String) (stage : Stage) : Prop where
  running : stage.running = true → Running w uid
  alone : stage.passed = true → ∃ known, Alone w uid known

/-- The log is in order. -/
structure Recorded (w : Fleet) : Prop where
  uids : (w.ops.map (·.uid)).Nodup
  created : ∀ o ∈ w.ops, o.uid ∈ w.created
  rivals : ∀ d, .sent d ∈ w.log → ∀ b ∈ d.rivals, b ∈ w.created
  finished : ∀ other finished, .passed other finished ∈ w.log → ∀ uid ∈ finished,
    uid ∈ w.created ∧ ∀ o ∈ w.ops, o.uid = uid → o.status.terminal = true
  exclusive : w.Exclusive

section Guarded
variable {w w' : Fleet} {uid other : String} {stage stage' : Stage} {known : List String}

theorem Guarded.closed : Guarded w uid .closed := ⟨nofun, nofun⟩

theorem Guarded.mono (h : Guarded w uid stage) (running : stage'.running = true → stage.running = true)
    (passed : stage'.passed = true → stage.passed = true) : Guarded w uid stage' :=
  ⟨fun hr => h.running (running hr), fun hp => h.alone (passed hp)⟩

/-! ### Operations come and wind down -/

/-- The world grows, without a new entry in the log. -/
structure Evolves (w w' : Fleet) : Prop where
  created : w.created <+: w'.created
  log : w'.log = w.log
  uids : (w'.ops.map (·.uid)).Nodup
  ops : ∀ o' ∈ w'.ops, (o'.uid ∉ w.created ∧ o'.uid ∈ w'.created ∧ o'.status.terminal = false) ∨
    ∃ o ∈ w.ops, o.uid = o'.uid ∧ (o'.active = true → o.active = true) ∧ (o.status.terminal = true → o'.status.terminal = true)

theorem Recorded.evolve (h : Recorded w) (ev : Evolves w w') : Recorded w' := by
  have subset := ev.created.subset
  refine ⟨ev.uids, fun o' ho' => ?_, fun d hd b hb => ?_, fun u finished hu x hx => ?_, ⟨fun d hd b hb => ?_, ?_⟩⟩
  · rcases ev.ops o' ho' with ⟨-, new, -⟩ | ⟨o, ho, same, -⟩
    · exact new
    · exact same ▸ subset (h.created o ho)
  · rw [ev.log] at hd
    exact subset (h.rivals d hd b hb)
  · rw [ev.log] at hu
    obtain ⟨old, terminal⟩ := h.finished u finished hu x hx
    refine ⟨subset old, fun o' ho' hx' => ?_⟩
    rcases ev.ops o' ho' with ⟨new, -⟩ | ⟨o, ho, same, -, stays⟩
    · exact absurd (hx' ▸ old) new
    · exact stays (terminal o ho (same.trans hx'))
  · rw [ev.log] at hd
    obtain ⟨order, apart⟩ := h.exclusive.sent d hd b hb
    exact ⟨order.trans ev.created.sublist, apart⟩
  · rw [ev.log]
    exact h.exclusive.log

theorem Guarded.evolve (h : Guarded w uid stage) (ev : Evolves w w') (past : w'.past uid = w.past uid)
    (steady : ∀ o' ∈ w'.ops, o'.uid = uid → o'.status.terminal = true → ∃ o ∈ w.ops, o.uid = uid ∧ o.status.terminal = true) :
    Guarded w' uid stage := by
  refine ⟨fun hr => ?_, fun hp => ?_⟩
  · have running := h.running hr
    refine ⟨ev.created.subset running.created, fun o' ho' same => ?_, ?_⟩
    · by_contra terminal
      obtain ⟨o, ho, same, terminal⟩ := steady o' ho' same (by simpa using terminal)
      rw [running.unfinished o ho same] at terminal
      cases terminal
    · rw [ev.log]
      exact running.spared
  · obtain ⟨known, alone⟩ := h.alone hp
    refine ⟨known, past.trans alone.past, alone.initial.trans ev.created, alone.self, fun o' ho' active hne => ?_, ?_⟩
    · rcases ev.ops o' ho' with ⟨new, -⟩ | ⟨o, ho, same, was, -⟩
      · exact fun hk => new (alone.initial.subset hk)
      · exact same ▸ alone.apart o ho (was active) (same ▸ hne)
    · rw [ev.log]
      exact alone.earlier

/-! ### The check is passed -/

variable {o : Operation} {op : Op} {b : String}

theorem Recorded.eq_of_uid (h : Recorded w) {o' : Operation} (ho : o ∈ w.ops) (ho' : o' ∈ w.ops) (same : o.uid = o'.uid) :
    o = o' :=
  inj_on_of_nodup_map h.uids ho ho' same

theorem Recorded.pass (h : Recorded w) (uid : String) : Recorded (w.pass uid) := by
  refine ⟨h.uids, h.created, fun d hd => ?_, fun u finished hu x hx => ?_, ⟨fun d hd => ?_, ?_⟩⟩
  · exact h.rivals d (by simpa [Fleet.pass] using hd)
  · rcases mem_append.mp hu with hu | hu
    · exact h.finished u finished hu x hx
    · cases mem_singleton.mp hu
      obtain ⟨o, ho, rfl⟩ := mem_map.mp hx
      obtain ⟨ho, terminal⟩ := mem_filter.mp ho
      exact ⟨h.created o ho, fun o' ho' same => h.eq_of_uid ho' ho same ▸ terminal⟩
  · exact h.exclusive.sent d (by simpa [Fleet.pass] using hd)
  · refine pairwise_append.mpr ⟨h.exclusive.log, pairwise_singleton _ _, fun e _ f hf => ?_⟩
    cases mem_singleton.mp hf
    cases e <;> trivial

theorem Running.pass (h : Running w uid) (other : String) : Running (w.pass other) uid := by
  refine ⟨h.created, h.unfinished, fun u finished hu => ?_⟩
  rcases mem_append.mp hu with hu | hu
  · exact h.spared u finished hu
  · cases mem_singleton.mp hu
    intro hx
    obtain ⟨o, ho, same⟩ := mem_map.mp hx
    obtain ⟨ho, terminal⟩ := mem_filter.mp ho
    rw [h.unfinished o ho same] at terminal
    cases terminal

theorem Guarded.pass (h : Guarded w uid stage) (hne : uid ≠ other) : Guarded (w.pass other) uid stage := by
  refine ⟨fun hr => (h.running hr).pass other, fun hp => ?_⟩
  obtain ⟨known, alone⟩ := h.alone hp
  refine ⟨known, ?_, alone.initial, alone.self, alone.apart, fun d hd => alone.earlier d (by simpa [Fleet.pass] using hd)⟩
  exact (update_of_ne hne _ _).trans alone.past

theorem Fleet.lists_contender {views : List OperationView} (shown : w.lists views = true)
    (none : (contender uid views).isNone = true) (ho : o ∈ w.ops) (active : o.active = true) : o.uid = uid := by
  by_contra hne
  obtain ⟨v, hv, action, same, status, deleting⟩ : ∃ v ∈ views, v.sameAction = true ∧ v.uid = o.uid ∧ v.status = o.status ∧
      v.deleting = o.deleting := by
    simpa [shows] using all_eq_true.mp (Bool.and_eq_true_iff.mp shown).1 o ho
  have refused := find?_eq_none.mp (isNone_iff_eq_none.mp none) v hv
  simp only [Operation.active, Bool.and_eq_true, Bool.not_eq_true'] at active
  simp [same, hne, action, status, deleting, active] at refused

theorem Alone.of_pass (h : Recorded w) (running : Running w uid) (only : ∀ o ∈ w.ops, o.active = true → o.uid = uid) :
    Alone (w.pass uid) uid w.created where
  past := Function.update_self ..
  initial := List.prefix_rfl
  self := running.created
  apart o ho active hne := absurd (only o ho active) hne
  earlier d hd _ := h.rivals d (by simpa [Fleet.pass] using hd)

/-! ### A patch is sent -/

theorem Fleet.mem_rivals (h : b ∈ w.rivals uid) : ∃ o ∈ w.ops, o.active = true ∧ o.uid ≠ uid ∧ o.uid = b := by
  unfold Fleet.rivals at h
  split at h
  · obtain ⟨o, ho, rfl⟩ := mem_map.mp h
    obtain ⟨ho, rival⟩ := mem_filter.mp ho
    obtain ⟨hne, active⟩ := of_decide_eq_true rival
    exact ⟨o, ho, active, hne, rfl⟩
  · cases h

theorem sublist_of_initial {created : List String} {a : String} (initial : known <+: created) (ha : a ∈ known)
    (hb : b ∈ created) (later : b ∉ known) : [a, b].Sublist created := by
  obtain ⟨rest, rfl⟩ := initial
  have hb : b ∈ rest := (mem_append.mp hb).resolve_left later
  exact (singleton_sublist.mpr ha).append (singleton_sublist.mpr hb)

theorem Recorded.send (h : Recorded w) (running : Running w uid) (alone : Alone w uid known) : Recorded (w.send uid) := by
  have apart : ∀ b ∈ w.rivals uid, b ∈ w.created ∧ b ∉ known := by
    intro b hb
    obtain ⟨o, ho, active, hne, rfl⟩ := Fleet.mem_rivals hb
    exact ⟨h.created o ho, alone.apart o ho active hne⟩
  refine ⟨h.uids, h.created, fun d hd b hb => ?_, fun u finished hu => ?_, ⟨fun d hd b hb => ?_, ?_⟩⟩
  · rcases mem_append.mp hd with hd | hd
    · exact h.rivals d hd b hb
    · cases mem_singleton.mp hd
      exact (apart b hb).1
  · exact h.finished u finished (by simpa [Fleet.send] using hu)
  · rcases mem_append.mp hd with hd | hd
    · exact h.exclusive.sent d hd b hb
    · cases mem_singleton.mp hd
      obtain ⟨old, later⟩ := apart b hb
      exact ⟨sublist_of_initial alone.initial alone.self old later, known, alone.past, later⟩
  · refine pairwise_append.mpr ⟨h.exclusive.log, pairwise_singleton _ _, fun e he f hf => ?_⟩
    cases mem_singleton.mp hf
    cases e with
    | passed u finished => exact running.spared u finished he
    | sent d => exact fun same b hb hb' => (apart b hb').2 (alone.earlier d he same b hb)

theorem Running.send (h : Running w uid) (other : String) : Running (w.send other) uid :=
  ⟨h.created, h.unfinished, fun u finished hu => h.spared u finished (by simpa [Fleet.send] using hu)⟩

theorem Guarded.send (h : Guarded w uid stage) (hne : uid ≠ other) : Guarded (w.send other) uid stage := by
  refine ⟨fun hr => (h.running hr).send other, fun hp => ?_⟩
  obtain ⟨known, alone⟩ := h.alone hp
  refine ⟨known, alone.past, alone.initial, alone.self, alone.apart, fun d hd same => ?_⟩
  rcases mem_append.mp hd with hd | hd
  · exact alone.earlier d hd same
  · cases mem_singleton.mp hd
    exact absurd same.symm hne

/-! ### Every step -/

/-- A step keeps the log in order and the other stages right. -/
structure Keeps (w w' : Fleet) (uid : String) (stage' : Stage) : Prop where
  recorded : Recorded w'
  own : Guarded w' uid stage'
  others : ∀ other stage, other ≠ uid → Guarded w other stage → Guarded w' other stage

theorem Stage.next_mono (stage : Stage) (c : Campaign) (r : op.Reply) (load : op ≠ .load)
    (operations : op ≠ .operations) :
    ((stage.next c op r).running = true → stage.running = true) ∧ ((stage.next c op r).passed = true → stage.passed = true) := by
  cases op with
  | load => exact absurd rfl load
  | operations => exact absurd rfl operations
  | targets selector =>
    cases r with
    | error e => exact ⟨id, id⟩
    | ok observed =>
      cases stage <;> simp only [next, running, passed, implies_true, and_self, imp_self]
  | gate node proxy =>
    cases r with
    | error e => exact ⟨id, id⟩
    | ok verdicts => cases stage <;> simp [next, running, passed]
  | verifyRecovered node proxy =>
    cases r with
    | error e => exact ⟨id, id⟩
    | ok verdicts => cases stage <;> simp [next, running, passed]
  | patchImage proxy image => cases stage <;> simp [next, running, passed]
  | persist res =>
    cases r with
    | error e => exact ⟨fun h => (by cases h), fun h => (by cases h)⟩
    | ok _ => cases stage <;> simp [next, running, passed]
  | fail res => exact ⟨fun h => (by cases h), fun h => (by cases h)⟩
  | succeed res => exact ⟨fun h => (by cases h), fun h => (by cases h)⟩
  | _ => exact ⟨id, id⟩

variable {f : Operation → Operation} {applied : Bool}

theorem Evolves.modify (h : Recorded w) (uid_eq : ∀ o, (f o).uid = o.uid)
    (active : ∀ o, (f o).active = true → o.active = true)
    (terminal : ∀ o, o.status.terminal = true → (f o).status.terminal = true) : Evolves w (w.modify uid f) := by
  refine ⟨prefix_rfl, rfl, ?_, fun o' ho' => ?_⟩
  · have same : ∀ o : Operation, (if o.uid = uid then f o else o).uid = o.uid := by
      intro o
      split
      · exact uid_eq o
      · rfl
    have uids : (w.modify uid f).ops.map (·.uid) = w.ops.map (·.uid) := by
      simp [Fleet.modify, comp_def, same]
    rw [uids]
    exact h.uids
  · obtain ⟨o, ho, rfl⟩ := mem_map.mp ho'
    refine .inr ⟨o, ho, ?_⟩
    split
    · exact ⟨(uid_eq o).symm, active o, terminal o⟩
    · exact ⟨rfl, id, id⟩

theorem Guarded.modify (h : Guarded w uid stage) (ev : Evolves w (w.modify other f)) (uid_eq : ∀ o, (f o).uid = o.uid)
    (steady : uid = other → ∀ o, (f o).status.terminal = true → o.status.terminal = true) :
    Guarded (w.modify other f) uid stage := by
  refine h.evolve ev rfl fun o' ho' same terminal => ?_
  obtain ⟨o, ho, rfl⟩ := mem_map.mp ho'
  refine ⟨o, ho, ?_⟩
  split at same
  next here =>
    rw [uid_eq] at same
    rw [if_pos here] at terminal
    exact ⟨same, steady (same.symm.trans here) o terminal⟩
  next there =>
    rw [if_neg there] at terminal
    exact ⟨same, terminal⟩

theorem Keeps.quiet (h : Recorded w) (own : Guarded w uid stage) : Keeps w w uid stage := ⟨h, own, fun _ _ _ h => h⟩

theorem Recorded.attempt (h : Recorded w) (own : Guarded w uid stage) {status : OwnerStatus → OwnerStatus}
    {res : Result} {reply : Except ApiError Unit}
    (stays : ∀ s : OwnerStatus, s.terminal = true → (status s).terminal = true)
    (ends : stage' = .closed ∨ ∀ s : OwnerStatus, (status s).terminal = true → s.terminal = true)
    (back : (stage'.running = true → stage.running = true) ∧ (stage'.passed = true → stage.passed = true))
    (hp : w.attempt uid status res reply applied = some w') : Keeps w w' uid stage' := by
  unfold Fleet.attempt at hp
  split at hp
  · split at hp
    · cases hp
      have ev : Evolves w (w.modify uid fun o => { o with status := status o.status, result := some res }) := by
        refine .modify h (fun _ => rfl) (fun o active => ?_) fun o => stays o.status
        by_contra idle
        cases terminal : o.status.terminal with
        | false => simp_all [Operation.active]
        | true => simp [Operation.active, stays _ terminal] at active
      refine ⟨h.evolve ev, ?_, fun other stage hne others => ?_⟩
      · rcases ends with rfl | steady
        · exact .closed
        · exact (own.modify ev (fun _ => rfl) fun _ o => steady o.status).mono back.1 back.2
      · exact others.modify ev (fun _ => rfl) fun same => absurd same hne
    · cases hp
  · cases hp
    exact .quiet h (own.mono back.1 back.2)

theorem terminal_progressed (s : OwnerStatus) : s.progressed.terminal = s.terminal := by cases s <;> rfl

theorem Recorded.load (h : Recorded w) (ho : o ∈ w.ops) (unfinished : o.status.terminal = false) : Running w o.uid := by
  refine ⟨h.created o ho, fun o' ho' same => h.eq_of_uid ho' ho same ▸ unfinished, fun other finished hu hx => ?_⟩
  have terminal := (h.finished other finished hu o.uid hx).2 o ho rfl
  rw [unfinished] at terminal
  cases terminal

theorem Recorded.call (h : Recorded w) (own : Guarded w uid stage) (order : MapOrder NodeState) {r : op.Reply}
    (allowed : stage.allowed false op) (hp : w.perform uid op r applied = some w') :
    Keeps w w' uid (stage.next ⟨uid, order⟩ op r) := by
  cases op with
  | load =>
    cases r with
    | error e =>
      obtain rfl : w = w' := by
        cases e with
        | notFound =>
          simp only [Fleet.perform] at hp
          split at hp
          · cases hp
          · exact some.inj hp
        | other msg => exact some.inj hp
      exact .quiet h own
    | ok owner =>
      obtain ⟨here, rfl⟩ := ite_some_none_eq_some.mp hp
      refine .quiet h ?_
      simp only [Stage.next]
      split
      · exact .closed
      next going =>
        simp only [Bool.or_eq_true, not_or, Bool.not_eq_true] at going
        exact ⟨fun _ => h.load here going.2, fun h => (by cases h)⟩
  | operations =>
    obtain ⟨record, image, rfl⟩ := allowed
    cases r with
    | error e =>
      cases hp
      exact .quiet h own
    | ok views =>
      obtain ⟨shown, rfl⟩ := ite_some_none_eq_some.mp hp
      simp only [Stage.next]
      split
      next none =>
        have running := own.running rfl
        have alone := Alone.of_pass h running fun o ho => Fleet.lists_contender shown none ho
        exact ⟨h.pass uid, ⟨fun _ => running.pass uid, fun _ => ⟨w.created, alone⟩⟩, fun other stage hne others => others.pass hne⟩
      next => exact .quiet h own
  | patchImage proxy target =>
    cases hp
    obtain ⟨nodes, image, node, rfl, -⟩ := allowed
    obtain ⟨known, alone⟩ := own.alone rfl
    have running := own.running rfl
    exact ⟨h.send running alone, ⟨fun _ => running.send uid, fun h => (by cases h)⟩, fun other stage hne others => others.send hne⟩
  | persist res =>
    refine h.attempt own (fun s => ?_) (.inr fun s => ?_) (stage.next_mono _ r (fun h => (by cases h)) (fun h => (by cases h))) hp
    · rw [terminal_progressed]
      exact id
    · rw [terminal_progressed]
      exact id
  | fail res =>
    have hp : w.attempt uid (fun _ => .failed) res r applied = some w' := hp
    exact h.attempt own (fun _ _ => rfl) (.inl rfl) (stage.next_mono _ r (fun h => (by cases h)) (fun h => (by cases h))) hp
  | succeed res =>
    have hp : w.attempt uid (fun _ => .done) res r applied = some w' := hp
    exact h.attempt own (fun _ _ => rfl) (.inl rfl) (stage.next_mono _ r (fun h => (by cases h)) (fun h => (by cases h))) hp
  | _ =>
    cases hp
    have back := stage.next_mono ⟨uid, order⟩ r (fun h => (by cases h)) (fun h => (by cases h))
    exact .quiet h (own.mono back.1 back.2)

theorem Recorded.env (h : Recorded w) {order : MapOrder NodeState} {e : FleetEvent} (he : (fleet order).env w e = some w') :
    Recorded w' ∧ ∀ uid stage, Guarded w uid stage → Guarded w' uid stage := by
  cases e with
  | create uid =>
    simp only [fleet] at he
    split at he
    · cases he
    next new =>
      cases he
      have ev : Evolves w { w with ops := w.ops ++ [{ uid := uid }], created := w.created ++ [uid] } := by
        refine ⟨prefix_append _ _, rfl, ?_, fun o' ho' => ?_⟩
        · rw [map_append]
          refine h.uids.append (nodup_singleton _) fun u hu hu' => new ?_
          obtain ⟨o, ho, rfl⟩ := mem_map.mp hu
          cases mem_singleton.mp hu'
          exact h.created o ho
        · rcases mem_append.mp ho' with ho | ho
          · exact .inr ⟨o', ho, rfl, id, id⟩
          · cases mem_singleton.mp ho
            exact .inl ⟨new, mem_append_right _ (mem_singleton.mpr rfl), rfl⟩
      refine ⟨h.evolve ev, fun u stage guarded => guarded.evolve ev rfl fun o' ho' same terminal => ?_⟩
      rcases mem_append.mp ho' with ho | ho
      · exact ⟨o', ho, same, terminal⟩
      · cases mem_singleton.mp ho
        cases terminal
  | mark uid =>
    cases he
    have ev : Evolves w (w.modify uid fun o => { o with deleting := true }) :=
      .modify h (fun _ => rfl) (fun _ => nofun) fun _ => id
    exact ⟨h.evolve ev, fun u stage guarded => guarded.modify ev (fun _ => rfl) fun _ _ => id⟩
  | gone uid =>
    cases he
    have ev : Evolves w { w with ops := w.ops.filter (·.uid ≠ uid) } := by
      refine ⟨prefix_rfl, rfl, h.uids.sublist (filter_sublist.map _), fun o' ho' => ?_⟩
      exact .inr ⟨o', (mem_filter.mp ho').1, rfl, id, id⟩
    refine ⟨h.evolve ev, fun u stage guarded => guarded.evolve ev rfl fun o' ho' same terminal => ?_⟩
    exact ⟨o', (mem_filter.mp ho').1, same, terminal⟩

end Guarded

/-! ### Whole runs -/

/-- However campaigns are created, deleted and reconciled, no two of them disrupt side by side. -/
theorem campaigns_exclusive {order : MapOrder NodeState} {s : SysState Fleet String Op Op.Reply}
    (h : (fleet order).Reachable (fun _ _ => true) {} s) : s.world.Exclusive := by
  suffices inv : ∃ st : String → Stage, Recorded s.world ∧ ∀ uid, Guarded s.world uid (st uid) from inv.elim fun _ h => h.1.exclusive
  refine invariant_of_conforms (fun uid => protocol ⟨uid, order⟩ false)
    (fun w st => Recorded w ∧ ∀ uid, Guarded w uid (st uid)) ?_ ?_ ?_ ?_ ?_ h
  · intro uid
    exact Conforms.bind reconcile_ends fun _ _ _ => Ends.pure
  · exact ⟨⟨nodup_nil, nofun, nofun, nofun, ⟨nofun, List.Pairwise.nil⟩⟩, fun _ => ⟨nofun, nofun⟩⟩
  · rintro uid w st ⟨recorded, guarded⟩ -
    have ev : Evolves w { w with past := update w.past uid none } :=
      ⟨prefix_rfl, rfl, recorded.uids, fun o ho => .inr ⟨o, ho, rfl, id, id⟩⟩
    refine ⟨recorded.evolve ev, fun other => ?_⟩
    by_cases hne : other = uid
    · subst hne
      rw [update_self]
      exact ⟨nofun, nofun⟩
    · rw [update_of_ne hne]
      exact (guarded other).evolve ev (update_of_ne hne _ _) fun o ho same terminal => ⟨o, ho, same, terminal⟩
  · rintro uid w st op r applied w' ⟨recorded, guarded⟩ allowed - hp
    have keeps := recorded.call (guarded uid) order allowed hp
    refine ⟨nofun, keeps.recorded, fun other => ?_⟩
    by_cases hne : other = uid
    · subst hne
      rw [update_self]
      exact keeps.own
    · rw [update_of_ne hne]
      exact keeps.others other _ hne (guarded other)
  · rintro w st e w' ⟨recorded, guarded⟩ - he
    obtain ⟨recorded, keeps⟩ := recorded.env he
    exact ⟨recorded, fun uid => keeps uid _ (guarded uid)⟩

def firstAlone (_ : Fleet) : (op : Op) → op.Reply
  | .operations => .ok [⟨"a", "ns", "rotate-a", true, .unset, false⟩]
  | op => healthyReplies [⟨"proxy-a", "", "node-a", "v1"⟩] ["node-a"] { status := .unset } op

def lateRival : List (System.Scene Fleet String Op FleetEvent Op.Reply) :=
  [.event (.env (.create "a")), .pass "a" firstAlone 8, .event (.env (.create "b")),
   .event (.reply "a" (.patchImage "proxy-a" "v2") (.ok ()) false)]

theorem campaigns_exclusive_lateRival : ∃ s : SysState Fleet String Op Op.Reply,
    (fleet MapOrder.asListed).Reachable (fun _ _ => true) {} s ∧
    s.world.log = [.passed "a" [], .sent ⟨"a", some ["a"], ["b"]⟩] ∧ s.world.Exclusive :=
  System.Reachable.of_play_and lateRival (by decide +kernel) campaigns_exclusive

end WekaOperator.Rotate
