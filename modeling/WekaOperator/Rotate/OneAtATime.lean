import WekaOperator.Rotate.Protocol

/-! Over any run of a rotation campaign whose observations keep the node in flight, with crashes between any two calls
    and any failures: at most one node is in flight in the persisted record, and no proxy is patched while another one
    patched earlier exists unverified. -/

namespace WekaOperator.Rotate
open List Lib Operations

/-- The stage has the stored record. -/
def Stage.Tracked (w : World) : Stage → Prop
  | .fresh => True
  | .loaded record _ => w.result.getD {} = record
  | .admitted record _ => w.result.getD {} = record
  | .planned nodes image => image ≠ "" ∧ Tracks w nodes
  | .cleared nodes image _ _ => image ≠ "" ∧ Tracks w nodes
  | .patched nodes image => image ≠ "" ∧ Tracks w nodes
  | .verified nodes image _ => image ≠ "" ∧ Tracks w nodes ∧ w.unverified = []
  | .closed => True

/-- The invariant of the record and the stage. -/
structure Orderly (w : World) (stage : Stage) : Prop where
  sound : Sound w
  tracked : stage.Tracked w

section Orderly
variable {c : Campaign} {w w' : World} {stage : Stage} {nodes : List NodeState} {image node proxy : String} {r : Result}

theorem Orderly.kept (h : Orderly w stage) (hk : Kept w w') (patches : w'.patches = w.patches) : Orderly w' stage := by
  refine ⟨⟨?_, patches ▸ h.sound.patches⟩, ?_⟩
  · rw [hk.entries, hk.result]
    exact h.sound.record.kept hk
  have tracked := h.tracked
  cases stage with
  | fresh => trivial
  | closed => trivial
  | loaded record image => exact hk.record.trans tracked
  | admitted record image => exact hk.record.trans tracked
  | planned nodes image => exact ⟨tracked.1, tracked.2.kept hk⟩
  | cleared nodes image node proxy => exact ⟨tracked.1, tracked.2.kept hk⟩
  | patched nodes image => exact ⟨tracked.1, tracked.2.kept hk⟩
  | verified nodes image proxy =>
    refine ⟨tracked.1, tracked.2.1.kept hk, eq_nil_iff_forall_not_mem.mpr fun q hq => ?_⟩
    have before := hk.unverified q hq
    rw [tracked.2.2] at before
    cases before

/-! ### Writes -/

theorem Tracks.parked (h : Tracks w nodes) (all : List.Forall₂ Alike nodes r.nodes) : Tracks w r.nodes :=
  h.alike (all.imp fun _ _ alike => ⟨alike.phase, alike.proxyName⟩)

theorem Tracks.started (h : Tracks w nodes) (idle : ∀ m ∈ nodes, m.phase ≠ .inFlight) {idx : Nat} {a b : NodeState}
    (entry : nodes[idx]? = some a) (flying : b.phase = .inFlight) (record : r.nodes = nodes.set idx b) :
    w.unverified = [] ∧ (r.nodes.filter (·.phase = .inFlight)).length ≤ 1 := by
  have one : r.nodes.filter (·.phase = .inFlight) = [b] := by
    rw [record]
    exact filter_set_eq_singleton (by simpa using idle) entry (by simpa using flying)
  exact ⟨h.unverified_nil idle, by rw [one]; exact le_rfl⟩

theorem Orderly.writes (h : Orderly w stage) (hw : stage.Writes false r) : Writable w r.nodes r.targetImage := by
  have tracked := h.tracked
  cases stage with
  | fresh => exact hw.elim
  | closed => exact hw.elim
  | loaded record image =>
    obtain rfl : w.result.getD {} = record := tracked
    have same : r.nodes = w.entries := hw.1
    rw [same]
    refine ⟨h.sound.record.single, h.sound.record.held, fun flying => ?_⟩
    rcases hw.2 with target | ⟨target, named⟩
    · rw [target]
      exact h.sound.record.image flying
    · rwa [target]
  | admitted record image =>
    obtain rfl : w.result.getD {} = record := tracked
    have same : r.nodes = w.entries := hw.1
    rw [same, hw.2.1]
    exact ⟨h.sound.record.single, h.sound.record.held, fun _ => hw.2.2⟩
  | planned nodes image => exact (tracked.2.parked hw.2).writable (hw.1 ▸ tracked.1)
  | patched nodes image => exact (tracked.2.parked hw.2).writable (hw.1 ▸ tracked.1)
  | cleared nodes image node proxy =>
    obtain ⟨target, all | ⟨idle, idx, a, b, entry, starts, record⟩⟩ := hw
    · exact (tracked.2.parked all).writable (target ▸ tracked.1)
    · obtain ⟨empty, single⟩ := tracked.2.started idle entry starts.phase record
      exact ⟨single, fun hne => absurd empty hne, fun _ => target ▸ tracked.1⟩
  | verified nodes image proxy =>
    obtain ⟨target, all⟩ := hw
    refine ⟨le_trans (length_filter_le_of_forall₂ (fun a b hab flying => ?_) all) tracked.2.1.single,
      fun hne => absurd tracked.2.2 hne, fun _ => target ▸ tracked.1⟩
    rw [decide_eq_true_eq] at flying ⊢
    rcases hab with alike | completes
    · exact alike.phase.symm.trans flying
    · cases completes.phase.symm.trans flying

theorem Orderly.write_if (h : Orderly w stage) (hw : stage.Writes false r) (status : OwnerStatus) (b : Bool) :
    Orderly (if b then w.write status r else w) .closed := by
  cases b with
  | false => exact ⟨h.sound, trivial⟩
  | true =>
    have writable := h.writes hw
    exact ⟨⟨⟨writable.single, writable.held, writable.image⟩, h.sound.patches⟩, trivial⟩

theorem Orderly.persisted (h : Orderly w (.cleared nodes image node proxy)) (hw : (Stage.cleared nodes image node proxy).Writes false r)
    (status : OwnerStatus) : Orderly (w.write status r) (.cleared r.nodes image node proxy) := by
  have writable := h.writes hw
  refine ⟨⟨⟨writable.single, writable.held, writable.image⟩, h.sound.patches⟩, h.tracked.1, writable.single, fun q hq => ?_, id⟩
  obtain ⟨-, all | ⟨idle, idx, a, b, entry, starts, record⟩⟩ := hw
  · exact (h.tracked.2.parked all).named q hq
  · have here : q ∈ w.unverified := hq
    rw [(h.tracked.2.started idle entry starts.phase record).1] at here
    cases here

/-! ### Patches -/

theorem Sound.patch (h : Sound w) (only : ∀ q ∈ w.unverified, q = proxy) (flying : ∃ n ∈ w.entries, n.phase = .inFlight) :
    Sound (w.patch proxy) := by
  have others : w.unverified.filter (· ≠ proxy) = [] := by
    rw [filter_eq_nil_iff]
    intro q hq
    simpa using only q hq
  refine ⟨⟨h.record.single, fun _ => flying, h.record.image⟩, fun p hp => ?_⟩
  rcases mem_append.mp hp with hp | hp
  · exact h.patches p hp
  · obtain rfl := mem_singleton.mp hp
    exact others

variable {n : NodeState}

theorem Orderly.patch (h : Orderly w (.cleared nodes image node proxy)) (hn : n ∈ nodes) (name : n.proxyName = proxy)
    (flying : n.phase = .inFlight) (b : Bool) : Orderly (if b then w.patch proxy else w) (.patched nodes image) := by
  obtain ⟨target, tracks⟩ := h.tracked
  cases b with
  | false => exact ⟨h.sound, target, tracks⟩
  | true =>
    have only := tracks.unverified_eq hn flying
    rw [name] at only
    refine ⟨h.sound.patch only (tracks.lands ⟨n, hn, flying⟩), target, tracks.single, fun q hq => ?_, tracks.lands⟩
    rcases mem_cons.mp hq with rfl | hq
    · exact ⟨n, hn, flying, name⟩
    · exact tracks.named q (mem_filter.mp hq).1

theorem Orderly.verified (h : Orderly w (.planned nodes image)) (hn : n ∈ nodes) (name : n.proxyName = proxy)
    (flying : n.phase = .inFlight) : Orderly (w.release proxy) (.verified nodes image proxy) := by
  have released : Kept w (w.release proxy) := ⟨rfl, fun q hq => (mem_filter.mp hq).1⟩
  have only := h.tracked.2.unverified_eq hn flying
  obtain ⟨sound, target, tracks⟩ := h.kept released rfl
  refine ⟨sound, target, tracks, ?_⟩
  rw [World.release, filter_eq_nil_iff]
  intro q hq
  simpa [name] using only q hq

theorem Orderly.call (h : Orderly w stage) {op : Op} {r : op.Reply} {applied : Bool} (allowed : stage.allowed false op)
    (ok : observationsKeep w (.reply () op r applied) = true) (hp : perform w op r applied = some w') :
    Orderly w' (stage.next c op r) := by
  cases op with
  | load =>
    cases r with
    | error e =>
      cases hp
      exact h
    | ok owner =>
      obtain ⟨same, rfl⟩ := Option.ite_some_none_eq_some.mp hp
      have tracked : w.result.getD {} = owner.result.getD {} := by rw [same.2]
      simp only [Stage.next]
      split
      · exact ⟨h.sound, trivial⟩
      · exact ⟨h.sound, tracked⟩
  | operations =>
    cases hp
    obtain ⟨record, image, rfl⟩ := allowed
    cases r with
    | error e => exact h
    | ok ops =>
      simp only [Stage.next]
      split
      · exact ⟨h.sound, h.tracked⟩
      · exact h
  | targets selector =>
    cases hp
    obtain ⟨record, image, rfl, named, same⟩ := allowed
    cases r with
    | error e => exact h
    | ok observed =>
      obtain rfl : w.result.getD {} = record := h.tracked
      simp only [Stage.next]
      split
      · exact h
      · exact ⟨h.sound, named, Tracks.merge h.sound ok c.order same⟩
  | gate node proxy =>
    cases hp
    obtain ⟨nodes, image, rfl⟩ := allowed
    cases r with
    | error e => exact h
    | ok verdicts =>
      simp only [Stage.next]
      split
      · exact ⟨h.sound, h.tracked⟩
      · exact h
  | verifyRecovered node proxy =>
    obtain ⟨nodes, image, rfl, n, hn, name, flying⟩ := allowed
    cases r with
    | error e =>
      cases hp
      exact h
    | ok verdicts =>
      cases hp
      simp only [Stage.next]
      split
      · exact h.verified hn name flying
      · exact h
  | patchImage proxy target =>
    cases hp
    obtain ⟨nodes, image, node, rfl, n, hn, -, name, flying⟩ := allowed
    exact h.patch hn name flying _
  | persist res =>
    cases hp
    cases r with
    | error e => exact h.write_if allowed _ _
    | ok _ =>
      cases stage with
      | cleared nodes image node proxy => exact h.persisted allowed _
      | fresh => exact allowed.elim
      | closed => exact allowed.elim
      | _ => exact h.write_if allowed _ true
  | fail res =>
    cases hp
    exact h.write_if allowed _ _
  | succeed res =>
    cases hp
    exact h.write_if allowed _ _
  | _ =>
    cases hp
    exact h

end Orderly

theorem sound_of_reachable {c : Campaign} {s : SysState World Unit Op Op.Reply}
    (h : (system c).Reachable observationsKeep World.initial s) : Sound s.world := by
  suffices orderly : ∃ st : Unit → Stage, Orderly s.world (st ()) from orderly.elim fun _ h => h.sound
  refine invariant_of_conforms (fun _ => protocol c false) (fun w st => Orderly w (st ())) ?_ ?_ ?_ ?_ ?_ h
  · intro _
    exact Conforms.bind reconcile_ends fun _ _ _ => Ends.pure
  · exact ⟨⟨⟨by decide, fun h => absurd rfl h, nofun⟩, nofun⟩, trivial⟩
  · intro _ w st orderly _
    exact ⟨orderly.sound, trivial⟩
  · intro _ w st op r applied w' orderly allowed ok hp
    exact ⟨nofun, orderly.call allowed ok hp⟩
  · intro w st e w' orderly _ he
    cases e with
    | proxyDeleted proxy =>
      cases he
      exact orderly.kept ⟨rfl, fun q hq => (mem_filter.mp hq).1⟩ rfl

/-- While the observations keep the node in flight, one node is in flight at a time, and no proxy is patched while
    another one is unverified. -/
theorem rotation_oneAtATime {c : Campaign} {s : SysState World Unit Op Op.Reply}
    (h : (system c).Reachable observationsKeep World.initial s) :
    s.world.inFlight.length ≤ 1 ∧ ∀ p ∈ s.world.patches, p.pendingOthers = [] := by
  have sound := sound_of_reachable h
  exact ⟨sound.record.single, sound.patches⟩

/-! ### A campaign of two proxies -/

def twoProxies : Campaign := ⟨"uid-0", MapOrder.asListed⟩

/-- All goes well; the campaign selects nodes, and these are matched. -/
def healthyReplies (observed : List ListedProxy) (matched : List String) (w : World) : (op : Op) → op.Reply
  | .load => .ok { deleting := false, payload := { targetImage := "v2", nodeSelector := [("pool", "a")] }, status := w.status
                   result := w.result }
  | .operations => .ok []
  | .targets _ => .ok { proxies := observed, nodes := some matched }
  | .podNamespace => .ok "weka-operator"
  | .getProxy _ => .ok { image := "v1", status := "Running", internalStatus := "READY" }
  | .getPod _ => .ok { wekaImage := some "v1" }
  | .gate _ _ => .ok []
  | .verifyRecovered _ _ => .ok []
  | .patchImage _ _ => .ok ()
  | .now => 0
  | .persist _ => .ok ()
  | .fail _ => .ok ()
  | .succeed _ => .ok ()

def firstPatched : List (System.Scene World Unit Op EnvEvent Op.Reply) :=
  [.pass () (healthyReplies [⟨"proxy-a", "", "node-a", "v1"⟩, ⟨"proxy-b", "", "node-b", "v1"⟩] ["node-a", "node-b"]) 20]

theorem rotation_oneAtATime_firstPatched : ∃ s : SysState World Unit Op Op.Reply,
    (system twoProxies).Reachable observationsKeep World.initial s ∧ s.world.patches.length = 1 ∧
    s.world.inFlight.length ≤ 1 ∧ ∀ p ∈ s.world.patches, p.pendingOthers = [] :=
  System.Reachable.of_play_and firstPatched (by decide +kernel) rotation_oneAtATime

/-- The first node leaves the selector. -/
def firstDropped : List (System.Scene World Unit Op EnvEvent Op.Reply) := firstPatched ++
  [.pass () (healthyReplies [⟨"proxy-a", "", "node-a", "v2"⟩, ⟨"proxy-b", "", "node-b", "v1"⟩] ["node-b"]) 20]

/-- Another proxy is on the first node. -/
def firstDoubled : List (System.Scene World Unit Op EnvEvent Op.Reply) := firstPatched ++
  [.pass () (healthyReplies [⟨"proxy-a", "", "node-a", "v2"⟩, ⟨"proxy-c", "", "node-a", "v1"⟩] ["node-a", "node-b"]) 20]

/-- The second node is patched while the first proxy is unverified, and two nodes are in flight. -/
theorem rotation_twoAtATime :
    (∃ s : SysState World Unit Op Op.Reply, (system twoProxies).Reachable (fun _ _ => true) World.initial s ∧
      ⟨"proxy-b", ["proxy-a"]⟩ ∈ s.world.patches) ∧
    ∃ s : SysState World Unit Op Op.Reply, (system twoProxies).Reachable (fun _ _ => true) World.initial s ∧
      s.world.inFlight.length = 2 :=
  ⟨System.Reachable.of_play firstDropped (by decide +kernel), System.Reachable.of_play firstDoubled (by decide +kernel)⟩

end WekaOperator.Rotate
