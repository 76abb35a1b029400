import WekaOperator.Lib.Protocol
import WekaOperator.Rotate.Record

/-! The protocol of a rotation's reconcile: it loads the record, passes the exclusion check, merges the observed
    proxies into the record, has one node cleared by the gate or verified as recovered, and patches at most once; what
    it may persist or patch follows from how far it got. -/

namespace WekaOperator.Rotate
open List Option Lib Operations

/-! ### Stages -/

/-- The entry keeps its place. -/
structure Alike (a b : NodeState) : Prop where
  node : b.node = a.node
  proxyName : b.proxyName = a.proxyName
  phase : b.phase = a.phase
  previousImage : b.previousImage = a.previousImage

theorem Alike.refl (n : NodeState) : Alike n n := ⟨rfl, rfl, rfl, rfl⟩

theorem Alike.trans {a b d : NodeState} (h : Alike a b) (h' : Alike b d) : Alike a d :=
  ⟨h'.node.trans h.node, h'.proxyName.trans h.proxyName, h'.phase.trans h.phase, h'.previousImage.trans h.previousImage⟩

/-- The entry goes into flight. -/
structure Starts (imaged : Bool) (node proxy : String) (a b : NodeState) : Prop where
  node : b.node = node ∧ a.node = node
  proxyName : b.proxyName = proxy ∧ a.proxyName = proxy
  phase : b.phase = .inFlight
  previousImage : imaged = true → b.previousImage ≠ ""

/-- The entry is done. -/
structure Completes (proxy : String) (a b : NodeState) : Prop where
  proxyName : b.proxyName = proxy ∧ a.proxyName = proxy
  phase : b.phase = .done

/-- How far a reconcile has come. -/
inductive Stage
  | fresh
  | loaded (record : Result) (image : String)
  | admitted (record : Result) (image : String)
  | planned (nodes : List NodeState) (image : String)
  | cleared (nodes : List NodeState) (image node proxy : String)
  | verified (nodes : List NodeState) (image proxy : String)
  | patched (nodes : List NodeState) (image : String)
  | closed

namespace Stage

/-- The stage after a call. -/
def next (c : Campaign) (stage : Stage) : (op : Op) → op.Reply → Stage
  | .load, .ok owner =>
    if owner.deleting || owner.status.terminal then closed
    else loaded (owner.result.getD {}) (resolveTargetImage owner.payload.targetImage owner.imageOverride)
  | .operations, .ok ops =>
    match stage with
    | loaded record image => if (contender c.ownerUID ops).isNone then admitted record image else stage
    | stage => stage
  | .targets selector, .ok observed =>
    match stage with
    | admitted record image =>
      -- a selector that matches nothing leaves the record alone
      if selector.length > 0 ∧ (resolveTargetProxies observed).length = 0 then stage
      else planned (sortNodes c.order (mergeCampaignNodes record.nodes (resolveTargetProxies observed) image)) image
    | stage => stage
  | .gate node proxy, .ok verdicts =>
    match stage with
    | planned nodes image => if (allAllowed verdicts).1 then cleared nodes image node proxy else stage
    | stage => stage
  | .verifyRecovered _ proxy, .ok verdicts =>
    match stage with
    | planned nodes image => if (allAllowed verdicts).2 = "" then verified nodes image proxy else stage
    | stage => stage
  | .patchImage _ _, _ =>
    match stage with
    | cleared nodes image _ _ => patched nodes image
    | stage => stage
  | .persist r, .ok () =>
    match stage with
    | cleared _ image node proxy => cleared r.nodes image node proxy
    | _ => closed
  | .persist _, .error _ => closed
  | .fail _, _ => closed
  | .succeed _, _ => closed
  | _, _ => stage

/-- The records that may be stored. -/
def Writes (imaged : Bool) : Stage → Result → Prop
  | loaded record image, r => r.nodes = record.nodes ∧ (r.targetImage = record.targetImage ∨ r.targetImage = image ∧ image ≠ "")
  | admitted record image, r => r.nodes = record.nodes ∧ r.targetImage = image ∧ image ≠ ""
  | planned nodes image, r => r.targetImage = image ∧ List.Forall₂ Alike nodes r.nodes
  | patched nodes image, r => r.targetImage = image ∧ List.Forall₂ Alike nodes r.nodes
  | cleared nodes image node proxy, r =>
    r.targetImage = image ∧ (List.Forall₂ Alike nodes r.nodes ∨ (∀ m ∈ nodes, m.phase ≠ .inFlight) ∧
      ∃ (idx : Nat) (a b : NodeState), nodes[idx]? = some a ∧ Starts imaged node proxy a b ∧ r.nodes = nodes.set idx b)
  | verified nodes image proxy, r =>
    r.targetImage = image ∧ List.Forall₂ (fun a b => Alike a b ∨ Completes proxy a b) nodes r.nodes
  | fresh, _ => False
  | closed, _ => False

/-- The calls allowed at a stage. -/
def allowed (imaged : Bool) : Stage → Op → Prop
  | stage, .load => stage = fresh
  | stage, .operations => ∃ record image, stage = loaded record image
  | stage, .targets _ => ∃ record image, stage = admitted record image ∧ image ≠ "" ∧
      (record.targetImage ≠ "" → image = record.targetImage)
  | stage, .gate _ _ => ∃ nodes image, stage = planned nodes image
  | stage, .verifyRecovered _ proxy => ∃ nodes image, stage = planned nodes image ∧
      ∃ n ∈ nodes, n.proxyName = proxy ∧ n.phase = .inFlight
  | stage, .patchImage proxy _ => ∃ nodes image node, stage = cleared nodes image node proxy ∧
      ∃ n ∈ nodes, n.node = node ∧ n.proxyName = proxy ∧ n.phase = .inFlight
  | stage, .persist r => stage.Writes imaged r
  | stage, .fail r => stage.Writes imaged r
  | stage, .succeed r => stage.Writes imaged r
  | _, .podNamespace => True
  | _, .getProxy _ => True
  | _, .getPod _ => True
  | _, .now => True

theorem Writes.cleared {imaged : Bool} {nodes : List NodeState} {image node proxy : String} {r : Result}
    (h : (Stage.cleared nodes image node proxy).Writes imaged r) :
    r.targetImage = image ∧ List.Forall₂ (fun a b => Alike a b ∨ Starts imaged node proxy a b) nodes r.nodes := by
  obtain ⟨target, all | ⟨-, idx, a, b, entry, starts, record⟩⟩ := h
  · exact ⟨target, all.imp fun _ _ => .inl⟩
  · rw [record]
    exact ⟨target, forall₂_set (fun a => .inl (.refl a)) entry (.inr starts)⟩

end Stage

/-- A proxy has an image. -/
def admits : (op : Op) → op.Reply → Bool
  | .getProxy _, .ok proxy => proxy.image ≠ ""
  | _, _ => true

/-- The protocol of a reconcile. -/
def protocol (c : Campaign) (imaged : Bool) : Protocol Op Op.Reply Stage where
  fresh := .fresh
  next := Stage.next c
  allowed := Stage.allowed imaged
  admits op r := imaged = true → admits op r = true

/-! ### The reconcile conforms -/

section Conforms
variable {c : Campaign} {imaged : Bool} {stage : Stage} {res : Result} {idx : Nat} {n : NodeState} {α : Type}

/-- A part keeps to the protocol. -/
def Conforms (c : Campaign) (imaged : Bool) (Q : α → Stage → Prop) (p : P α) (stage : Stage) : Prop :=
  p.Conforms (protocol c imaged) Q stage

/-- A part after which the reconcile ends. -/
abbrev Ends (c : Campaign) (imaged : Bool) (p : P α) (stage : Stage) : Prop := Conforms c imaged (fun _ _ => True) p stage

variable {Q : α → Stage → Prop} {record : Result} {phase : Phase} {op : Op} {a : α}

theorem Conforms.bind {β : Type} {Q' : β → Stage → Prop} {p : P α} {f : α → P β} (h : Conforms c imaged Q p stage)
    (hf : ∀ a s, Q a s → Conforms c imaged Q' (f a) s) : Conforms c imaged Q' (p >>= f) stage := Prog.Conforms.bind h hf

theorem Conforms.pure (h : Q a stage) : Conforms c imaged Q (Pure.pure a) stage := h

theorem Ends.pure : Ends c imaged (Pure.pure a : P α) stage := trivial

theorem call_conforms {Q : op.Reply → Stage → Prop} (allowed : stage.allowed imaged op)
    (h : ∀ r, (imaged = true → admits op r = true) → Q r (stage.next c op r)) :
    Conforms c imaged Q (call op) stage := ⟨allowed, h⟩

theorem call_next (allowed : stage.allowed imaged op) : Conforms c imaged (fun r s => s = stage.next c op r) (call op) stage :=
  call_conforms allowed fun _ _ => rfl

theorem persistAndWait_ends (h : stage.Writes imaged res) (why : String) : Ends c imaged (persistAndWait res why) stage := by
  refine .bind (call_conforms (Q := fun _ _ => True) h fun _ _ => trivial) fun r s _ => ?_
  cases r with
  | error e => exact Ends.pure
  | ok _ => exact Ends.pure

theorem stamp_conforms (since : Option Int) : Conforms c imaged (fun _ s => s = stage) (stamp since) stage := by
  cases since with
  | none => exact call_conforms trivial fun _ _ => rfl
  | some t => exact .pure rfl

theorem waitWithPersistedErr_ends (h : ∀ since err, stage.Writes imaged { res with err := err, blockedSince := since }) (err : String) :
    Ends c imaged (waitWithPersistedErr res err) stage := by
  refine .bind (stamp_conforms _) fun t s hs => ?_
  subst hs
  exact persistAndWait_ends (h _ _) err

theorem failTerminally_ends (h : ∀ err, stage.Writes imaged { res with err := err }) (err : String) : Ends c imaged (failTerminally res err) stage :=
  Conforms.bind (call_conforms (Q := fun _ _ => True) (h err) fun _ _ => trivial) fun _ _ _ => Ends.pure

/-- The entry may be stored with a reason. -/
def Parks (imaged : Bool) (stage : Stage) (res : Result) (idx : Nat) (n : NodeState) : Prop :=
  ∀ n', Alike n n' → stage.Writes imaged (res.set idx n')

theorem parkNode_ends (h : Parks imaged stage res idx n) : Ends c imaged (parkNode res idx n) stage := by
  unfold parkNode
  split
  · refine .bind (stamp_conforms _) fun t s hs => ?_
    subst hs
    refine persistAndWait_ends ?_ _
    exact h _ ⟨rfl, rfl, rfl, rfl⟩
  · exact persistAndWait_ends (h _ (.refl n)) _

theorem parkOnErr_ends (h : Parks imaged stage res idx n) (action err : String) : Ends c imaged (parkOnErr res idx n action err) stage :=
  parkNode_ends fun n' h' => h n' ⟨h'.node, h'.proxyName, h'.phase, h'.previousImage⟩

/-! ### The node at hand -/

/-- The reconcile works on this entry. -/
structure At (nodes : List NodeState) (image : String) (res : Result) (idx : Nat) (n : NodeState) : Prop where
  record : res.nodes = nodes
  target : res.targetImage = image
  entry : ∃ n₀, nodes[idx]? = some n₀ ∧ Alike n₀ n

variable {nodes : List NodeState} {image node proxy : String}

section
variable (h : At nodes image res idx n)
include h

theorem At.set {R : NodeState → NodeState → Prop} (refl : ∀ a, R a a) {n' : NodeState}
    (hn : ∀ n₀, Alike n₀ n → R n₀ n') : List.Forall₂ R nodes (res.set idx n').nodes := by
  obtain ⟨n₀, hn₀, alike⟩ := h.entry
  have := forall₂_set refl hn₀ (hn n₀ alike)
  simpa only [Result.set, h.record] using this

theorem At.parks_planned : Parks imaged (.planned nodes image) res idx n :=
  fun _ hn' => ⟨h.target, h.set .refl fun _ alike => alike.trans hn'⟩

theorem At.parks_patched : Parks imaged (.patched nodes image) res idx n :=
  fun _ hn' => ⟨h.target, h.set .refl fun _ alike => alike.trans hn'⟩

theorem At.mem : ∃ m ∈ nodes, Alike m n := by
  obtain ⟨n₀, hn₀, alike⟩ := h.entry
  exact ⟨n₀, mem_of_getElem? hn₀, alike⟩

end

theorem liveProxy_conforms (name : String) :
    Conforms c imaged (fun out s => s = stage ∧ ∀ proxy, out = .ok proxy → imaged = true → proxy.image ≠ "") (liveProxy name) stage := by
  refine .bind (call_conforms (Q := fun _ s => s = stage) trivial ?_) fun r s hs => ?_
  · intro r _
    cases r with
    | error e => rfl
    | ok _ => rfl
  subst hs
  cases r with
  | error e => exact .pure ⟨rfl, nofun⟩
  | ok _ =>
    have read : Conforms c imaged (fun r s' => s' = s ∧ ∀ proxy, r = .ok proxy → imaged = true → proxy.image ≠ "")
        (call (.getProxy name)) s := by
      refine call_conforms trivial fun r hr => ?_
      cases r with
      | error e => exact ⟨rfl, nofun⟩
      | ok proxy =>
        refine ⟨rfl, ?_⟩
        rintro _ ⟨rfl⟩
        exact fun all => of_decide_eq_true (hr all)
    refine .bind read fun r s' hs => ?_
    obtain ⟨rfl, image⟩ := hs
    cases r with
    | error e => exact .pure ⟨rfl, nofun⟩
    | ok proxy =>
      refine .pure ⟨rfl, ?_⟩
      rintro _ ⟨rfl⟩
      exact image proxy rfl

theorem liveProxyAndPod_conforms (name : String) : Conforms c imaged (fun _ s => s = stage) (liveProxyAndPod name) stage := by
  refine .bind (liveProxy_conforms name) fun out s hs => ?_
  obtain ⟨rfl, -⟩ := hs
  cases out with
  | error e => exact .pure rfl
  | ok proxy =>
    refine .bind (call_conforms (Q := fun _ s' => s' = s) trivial ?_) fun r s' hs => ?_
    · intro r _
      cases r with
      | error e => rfl
      | ok _ => rfl
    subst hs
    match r with
    | .error .notFound => exact .pure rfl
    | .error (.other e) => exact .pure rfl
    | .ok pod => exact .pure rfl

/-- What the gate leaves behind. -/
def GateOutcome (nodes : List NodeState) (image : String) (idx : Nat) (n : NodeState) (out : Except String (Bool × Result × NodeState))
    (stage : Stage) : Prop :=
  match out with
  | .error _ => stage = .planned nodes image
  | .ok (true, res, n') => stage = .planned nodes image ∧ At nodes image res idx n' ∧ Alike n n'
  | .ok (false, res, n') => stage = .cleared nodes image n.node n.proxyName ∧ At nodes image res idx n' ∧ Alike n n'

theorem evaluateGate_conforms (h : At nodes image res idx n) :
    Conforms c imaged (GateOutcome nodes image idx n) (evaluateGate res n) (.planned nodes image) := by
  have edited : ∀ blocked reason, At nodes image { res with blocked := blocked } idx { n with reason := reason } := by
    intro blocked reason
    obtain ⟨n₀, hn₀, alike⟩ := h.entry
    exact ⟨h.record, h.target, n₀, hn₀, alike.trans ⟨rfl, rfl, rfl, rfl⟩⟩
  refine .bind (call_next ⟨nodes, image, rfl⟩) fun r s hs => ?_
  cases r with
  | error e => exact .pure hs
  | ok verdicts =>
    have hs : s = if (allAllowed verdicts).1 then .cleared nodes image n.node n.proxyName else .planned nodes image := hs
    dsimp only
    split
    next reason blocked =>
      rw [blocked] at hs
      exact .pure ⟨hs, edited _ _, rfl, rfl, rfl, rfl⟩
    next reason allowed =>
      rw [allowed] at hs
      exact .pure ⟨hs, edited _ _, rfl, rfl, rfl, rfl⟩

variable {m : NodeState}

theorem patchProxyImage_conforms (hm : m ∈ nodes) (alike : Alike m n) (flying : m.phase = .inFlight) (target : String) :
    Conforms c imaged (fun _ s => s = .patched nodes image) (patchProxyImage n target)
      (.cleared nodes image n.node n.proxyName) := by
  refine ⟨⟨nodes, image, n.node, rfl, m, hm, alike.node.symm, alike.proxyName.symm, flying⟩, fun r _ => ?_⟩
  cases r with
  | error e => exact .pure rfl
  | ok _ => exact .pure rfl

theorem reapplyTargetImage_ends (h : At nodes image res idx n) (flying : n.phase = .inFlight) :
    Ends c imaged (reapplyTargetImage res idx n) (.planned nodes image) := by
  refine .bind (evaluateGate_conforms h) fun out s hs => ?_
  match out with
  | .error e =>
    cases hs
    exact parkOnErr_ends h.parks_planned _ _
  | .ok (true, res', n') =>
    obtain ⟨rfl, h', -⟩ := hs
    exact parkNode_ends h'.parks_planned
  | .ok (false, res', n') =>
    obtain ⟨rfl, h', alike⟩ := hs
    obtain ⟨m, hm, alike'⟩ := h'.mem
    have flying' : m.phase = .inFlight := alike'.phase.symm.trans (alike.phase.trans flying)
    rw [← alike.node, ← alike.proxyName]
    refine .bind (patchProxyImage_conforms hm alike' flying' _) fun r s hs => ?_
    subst hs
    cases r with
    | error e => exact parkOnErr_ends h'.parks_patched _ _
    | ok _ => exact persistAndWait_ends (h'.parks_patched n' (.refl n')) _

theorem podAndProxyReady_reason {proxy : Proxy} {pod : Pod} {reason : String}
    (h : podAndProxyReady proxy pod image = .ok (some reason)) : reason ≠ "" := by
  unfold podAndProxyReady at h
  split at h
  · cases h
  split at h
  · cases h
    simp [toString_self]
  split at h
  · cases h
    simp [toString_self]
  split at h
  · cases h
    simp [toString_self]
  · cases h

theorem verifyNodeComplete_conforms (hm : m ∈ nodes) (alike : Alike m n) (flying : m.phase = .inFlight)
    (proxyObject : Proxy) (pod : Pod) (target : String) :
    Conforms c imaged (fun out s => (s = .planned nodes image ∨ s = .verified nodes image n.proxyName) ∧
        ∀ verdicts, out = .ok (verdicts, "") → s = .verified nodes image n.proxyName)
      (verifyNodeComplete proxyObject pod target n) (.planned nodes image) := by
  unfold verifyNodeComplete
  split
  · exact .pure ⟨.inl rfl, nofun⟩
  next reason ready =>
    refine .pure ⟨.inl rfl, ?_⟩
    rintro _ ⟨rfl⟩
    exact absurd rfl (podAndProxyReady_reason ready)
  refine .bind (call_next ⟨nodes, image, rfl, m, hm, alike.proxyName.symm, flying⟩) fun r s hs => ?_
  cases r with
  | error e => exact .pure ⟨.inl hs, nofun⟩
  | ok verdicts =>
    have hs : s = if (allAllowed verdicts).2 = "" then .verified nodes image n.proxyName else .planned nodes image := hs
    dsimp only
    split
    next reason blocked =>
      rw [blocked] at hs
      refine .pure ⟨?_, ?_⟩
      · split at hs
        · exact .inr hs
        · exact .inl hs
      · rintro _ ⟨rfl⟩
        rwa [if_pos rfl] at hs
    next reason allowed =>
      have clear : (allAllowed verdicts).2 = "" := by
        unfold allAllowed at allowed ⊢
        dsimp only at allowed ⊢
        split
        · rfl
        next some =>
          rw [if_neg some] at allowed
          cases allowed
      rw [if_pos clear] at hs
      exact .pure ⟨.inr hs, fun _ _ => hs⟩

theorem advanceInFlight_ends (h : At nodes image res idx n) (flying : n.phase = .inFlight) :
    Ends c imaged (advanceInFlight res idx n) (.planned nodes image) := by
  have h : At nodes image { res with currentNode := n.node } idx n := ⟨h.record, h.target, h.entry⟩
  refine .bind (liveProxyAndPod_conforms _) fun out s hs => ?_
  subst hs
  match out with
  | .error e => exact parkOnErr_ends h.parks_planned _ _
  | .ok (proxyObject, pod) =>
    dsimp only
    split
    · exact reapplyTargetImage_ends h flying
    cases pod with
    | none => exact parkNode_ends fun n' h' => h.parks_planned n' ⟨h'.node, h'.proxyName, h'.phase, h'.previousImage⟩
    | some pod =>
      obtain ⟨m, hm, alike⟩ := h.mem
      have aloft : m.phase = .inFlight := alike.phase.symm.trans flying
      refine .bind (verifyNodeComplete_conforms hm alike aloft proxyObject pod _) fun out s hs => ?_
      obtain ⟨hs, complete⟩ := hs
      have parks : Parks imaged s { res with currentNode := n.node } idx n := by
        rcases hs with rfl | rfl
        · exact h.parks_planned
        · exact fun _ hn' => ⟨h.target, h.set (fun a => .inl (.refl a)) fun _ alike => .inl (alike.trans hn')⟩
      match out with
      | .error e => exact parkOnErr_ends parks _ _
      | .ok (verdicts, reason) =>
        dsimp only
        split
        · refine parkNode_ends fun n' h' => ?_
          have := parks n' ⟨h'.node, h'.proxyName, h'.phase, h'.previousImage⟩
          rcases hs with rfl | rfl
          · exact this
          · exact this
        next verified =>
          rw [not_not] at verified
          subst verified
          obtain rfl := complete verdicts rfl
          refine persistAndWait_ends ?_ _
          refine ⟨h.target, ?_⟩
          exact h.set (fun a => .inl (.refl a)) fun n₀ alike =>
            .inr ⟨⟨rfl, alike.proxyName.symm⟩, rfl⟩

/-! ### Starting a node -/

theorem start_previousImage {proxyObject : Proxy} (hp : proxyObject.image ≠ "") (now : Int) : (n.start proxyObject now).previousImage ≠ "" := by
  simp only [NodeState.start]
  split
  · exact hp
  · assumption

theorem startNode_ends (h : At nodes image res idx n) (idle : ∀ t ∈ nodes, t.phase ≠ .inFlight) (node : m.node = n.node)
    (name : m.proxyName = n.proxyName) (flying : m.phase = .inFlight) (previous : imaged = true → m.previousImage ≠ "") :
    Ends c imaged (startNode res idx m) (.cleared nodes image m.node m.proxyName) := by
  have writes : (Stage.cleared nodes image m.node m.proxyName).Writes imaged (res.set idx m) := by
    obtain ⟨n₀, hn₀, alike⟩ := h.entry
    refine ⟨h.target, .inr ⟨idle, idx, n₀, m, hn₀, ?_, congrArg (set · idx m) h.record⟩⟩
    exact ⟨⟨rfl, alike.node.symm.trans node.symm⟩, ⟨rfl, alike.proxyName.symm.trans name.symm⟩, flying, previous⟩
  have here : (res.set idx m).nodes[idx]? = some m := by
    obtain ⟨n₀, hn₀, -⟩ := h.entry
    rw [← h.record] at hn₀
    exact List.getElem?_set_self (List.getElem?_eq_some_iff.mp hn₀).1
  have written : At (res.set idx m).nodes image (res.set idx m) idx m := ⟨rfl, h.target, m, here, .refl m⟩
  refine .bind (call_next writes) fun r s hs => ?_
  cases r with
  | error e => exact Ends.pure
  | ok _ =>
    subst hs
    refine .bind (patchProxyImage_conforms (mem_of_getElem? here) (.refl m) flying _) fun r s hs => ?_
    subst hs
    cases r with
    | error e => exact parkOnErr_ends written.parks_patched _ _
    | ok _ => exact Ends.pure

theorem advancePending_ends (h : At nodes image res idx n) (idle : ∀ t ∈ nodes, t.phase ≠ .inFlight) :
    Ends c imaged (advancePending res idx n) (.planned nodes image) := by
  have h : At nodes image { res with currentNode := n.node } idx n := ⟨h.record, h.target, h.entry⟩
  refine .bind (liveProxy_conforms _) fun out s hs => ?_
  obtain ⟨rfl, hasImage⟩ := hs
  cases out with
  | error e => exact parkOnErr_ends h.parks_planned _ _
  | ok proxyObject =>
    refine .bind (evaluateGate_conforms h) fun out s hs => ?_
    match out with
    | .error e =>
      cases hs
      exact parkOnErr_ends h.parks_planned _ _
    | .ok (true, res', n') =>
      obtain ⟨rfl, h', -⟩ := hs
      exact parkNode_ends h'.parks_planned
    | .ok (false, res', n') =>
      obtain ⟨rfl, h', alike⟩ := hs
      rw [← alike.node, ← alike.proxyName]
      refine .bind (call_next trivial) fun now s hs => ?_
      subst hs
      refine startNode_ends (n := n') ?_ idle rfl rfl rfl fun all => start_previousImage (hasImage _ rfl all) now
      exact ⟨h'.record, h'.target, h'.entry⟩

/-! ### The whole reconcile -/

theorem firstOf_some (h : firstOf res phase = some (idx, n)) : res.nodes[idx]? = some n ∧ n.phase = phase := by
  obtain ⟨i, hi, hn⟩ := bind_eq_some_iff.mp h
  obtain ⟨t, ht, same⟩ := map_eq_some_iff.mp hn
  cases same
  obtain ⟨hlt, hp, -⟩ := findIdx?_eq_some_iff_getElem.mp hi
  rw [getElem?_eq_getElem hlt] at ht
  cases ht
  exact ⟨getElem?_eq_getElem hlt, of_decide_eq_true hp⟩

theorem firstOf_none (h : firstOf res phase = none) : ∀ m ∈ res.nodes, m.phase ≠ phase := by
  intro m hm same
  rcases hi : indexOfPhase res.nodes phase with _ | i
  · exact of_decide_eq_false (findIdx?_eq_none_iff.mp hi m hm) same
  · obtain ⟨hlt, -, -⟩ := findIdx?_eq_some_iff_getElem.mp hi
    rw [firstOf, hi, bind_some, getElem?_eq_getElem hlt] at h
    cases h

theorem rehydrateFrom_nodes (r : Option Result) : (rehydrateFrom r).nodes = (r.getD {}).nodes := by
  cases r with
  | none => rfl
  | some r => rfl

theorem rehydrateFrom_targetImage (r : Option Result) : (rehydrateFrom r).targetImage = (r.getD {}).targetImage := by
  cases r with
  | none => rfl
  | some r => rfl

/-- A plan that goes on has its stage. -/
def Proceeds (out : Except Outcome Result) (stage : Stage) : Prop :=
  ∀ r, out = .ok r → stage = .planned r.nodes r.targetImage

theorem ended_conforms {p : P Outcome} (h : Ends c imaged p stage) : Conforms c imaged Proceeds (do return .error (← p)) stage :=
  .bind h fun _ _ _ => .pure nofun

theorem advanceOne_conforms (payload : Payload) :
    Conforms c imaged Proceeds (advanceOne payload res) (.planned res.nodes res.targetImage) := by
  have at_ : ∀ {phase idx n}, firstOf res phase = some (idx, n) → At res.nodes res.targetImage res idx n := fun first =>
    ⟨rfl, rfl, _, (firstOf_some first).1, .refl _⟩
  unfold advanceOne
  split
  · exact .pure nofun
  split
  next first => exact ended_conforms (advanceInFlight_ends (at_ first) (firstOf_some first).2)
  next grounded =>
    split
    · refine ended_conforms (persistAndWait_ends ?_ _)
      exact ⟨rfl, forall₂_same.mpr fun n _ => .refl n⟩
    split
    · refine .pure ?_
      rintro _ ⟨rfl⟩
      rfl
    next first => exact ended_conforms (advancePending_ends (at_ first) (firstOf_none grounded))

theorem planTargets_conforms (payload : Payload) (hnodes : res.nodes = record.nodes) (himage : res.targetImage ≠ "")
    (same : record.targetImage ≠ "" → res.targetImage = record.targetImage) :
    Conforms c imaged Proceeds (planTargets c payload res) (.admitted record res.targetImage) := by
  have parks : ∀ s, s = Stage.admitted record res.targetImage → ∀ since err, s.Writes imaged { res with err := err, blockedSince := since } := by
    rintro _ rfl _ _
    exact ⟨hnodes, rfl, himage⟩
  refine .bind (call_next ⟨record, _, rfl, himage, same⟩) fun r s hs => ?_
  cases r with
  | error e => exact ended_conforms (waitWithPersistedErr_ends (parks s hs) _)
  | ok o =>
    have hs : s = if payload.nodeSelector.length > 0 ∧ (resolveTargetProxies o).length = 0 then .admitted record res.targetImage
      else .planned (sortNodes c.order (mergeCampaignNodes record.nodes (resolveTargetProxies o) res.targetImage)) res.targetImage := hs
    dsimp only
    split
    next nothing =>
      rw [if_pos nothing] at hs
      exact ended_conforms (waitWithPersistedErr_ends (parks s hs) _)
    next some =>
      rw [if_neg some] at hs
      refine .pure ?_
      rintro _ ⟨rfl⟩
      rw [hs, hnodes]

theorem refuseIfAnotherCampaignRunning_conforms :
    Conforms c imaged (fun out s => s = match out with
        | .ok _ => .admitted record image
        | .error _ => .loaded record image)
      (refuseIfAnotherCampaignRunning c.ownerUID) (.loaded record image) := by
  refine .bind (call_next ⟨record, image, rfl⟩) fun r s hs => ?_
  cases r with
  | error e => exact .pure hs
  | ok ops =>
    have hs : s = if (contender c.ownerUID ops).isNone then .admitted record image else .loaded record image := hs
    dsimp only
    split
    next alone =>
      rw [alone] at hs
      exact .pure hs
    next other =>
      rw [other] at hs
      exact .pure hs

theorem plan_conforms (owner : Owner) : Conforms c imaged Proceeds (plan c owner)
    (.loaded (owner.result.getD {}) (resolveTargetImage owner.payload.targetImage owner.imageOverride)) := by
  have record : ∀ err, (Stage.loaded (owner.result.getD {}) (resolveTargetImage owner.payload.targetImage owner.imageOverride)).Writes imaged
      { rehydrateFrom owner.result with err := err } := fun _ => ⟨rehydrateFrom_nodes _, .inl (rehydrateFrom_targetImage _)⟩
  unfold plan
  dsimp only
  split
  · exact ended_conforms (failTerminally_ends record _)
  next named =>
    split
    · exact ended_conforms (failTerminally_ends record _)
    next unchanged =>
      refine .bind refuseIfAnotherCampaignRunning_conforms fun r s hs => ?_
      cases r with
      | error e =>
        subst hs
        refine ended_conforms (waitWithPersistedErr_ends (fun _ _ => ?_) _)
        exact ⟨rehydrateFrom_nodes _, .inr ⟨rfl, named⟩⟩
      | ok _ =>
        subst hs
        refine planTargets_conforms _ ?_ named fun planned => ?_
        · exact rehydrateFrom_nodes _
        · rw [rehydrateFrom_targetImage] at unchanged
          by_contra differs
          exact unchanged ⟨planned, fun h => differs h.symm⟩

theorem reconcile_ends : Ends c imaged (reconcile c) .fresh := by
  refine .bind (call_next rfl) fun r s hs => ?_
  match r with
  | .error .notFound => exact Ends.pure
  | .error (.other e) => exact Ends.pure
  | .ok owner =>
    have hs : s = if owner.deleting || owner.status.terminal then .closed
      else .loaded (owner.result.getD {}) (resolveTargetImage owner.payload.targetImage owner.imageOverride) := hs
    dsimp only
    split
    · exact Ends.pure
    next live =>
    rw [if_neg live] at hs
    subst hs
    refine .bind (plan_conforms owner) fun out s hs => ?_
    match out with
    | .error outcome => exact Ends.pure
    | .ok res =>
      obtain rfl := hs res rfl
      refine .bind (advanceOne_conforms owner.payload) fun out s hs => ?_
      match out with
      | .error outcome => exact Ends.pure
      | .ok res =>
        obtain rfl := hs res rfl
        refine .bind (call_next ⟨rfl, forall₂_same.mpr fun n _ => .refl n⟩) fun r s _ => ?_
        cases r with
        | error e => exact Ends.pure
        | ok _ => exact Ends.pure

end Conforms

end WekaOperator.Rotate
