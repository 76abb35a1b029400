import WekaOperator.Rotate.OneAtATime

/-! What the campaign counts as Done or Skipped was verified if it was patched, and every patch is cleared by the gate
    and on record before it is sent. -/

namespace WekaOperator.Rotate
open List Lib Operations

/-! ### The audited world -/

/-- An image sent, and whether the gate was open. -/
structure Sent where
  proxy : String
  gated : Bool
  recorded : Bool
  deriving DecidableEq, Repr

/-- The world with the open gates of the running reconcile. -/
structure Audited where
  world : World := {}
  cleared : List (String × String) := []
  sent : List Sent := []
  deriving DecidableEq, Repr

/-- The entry of the log. -/
def Audited.send (a : Audited) (proxy : String) : Sent where
  proxy := proxy
  gated := a.cleared.any (·.2 = proxy)
  recorded := a.cleared.any fun g => g.2 = proxy ∧ a.world.entries.any fun n =>
    n.node = g.1 ∧ n.phase = .inFlight ∧ n.previousImage ≠ ""

/-- What a reply adds. -/
def Audited.observe (a : Audited) : (op : Op) → op.Reply → Audited
  | .gate node proxy, .ok verdicts => if (allAllowed verdicts).1 then { a with cleared := (node, proxy) :: a.cleared } else a
  | .patchImage proxy _, _ => { a with sent := a.sent ++ [a.send proxy] }
  | _, _ => a

/-- The reconciles with that log. -/
def audited (c : Campaign) : System Audited Unit Op EnvEvent Op.Reply where
  body := (system c).body
  start _ a := { a with cleared := [] }
  perform _ a op r applied := (perform a.world op r applied).map fun w => { a.observe op r with world := w }
  env a e := ((system c).env a.world e).map fun w => { a with world := w }

/-- Done or skipped. -/
def NodeState.Settled (n : NodeState) : Prop := n.phase = .done ∨ n.phase = .skipped

instance (n : NodeState) : Decidable n.Settled := inferInstanceAs (Decidable (_ ∨ _))

/-- A settled node's proxy is verified. -/
def World.Verified (w : World) : Prop := ∀ n ∈ w.entries, n.Settled → n.proxyName ∉ w.unverified

instance (w : World) : Decidable w.Verified := inferInstanceAs (Decidable (∀ n ∈ w.entries, _ → _))

/-! ### Observations that tell the patched proxies -/

/-- What is on record for a node, or a Pending entry. -/
def priorEntry (previous : List NodeState) (node : String) : NodeState :=
  (priorByNode previous node).getD { node := node, phase := .pending }

/-- The proxies `targets` have different names. One that is patched and unverified still has its record: the entry of its
    node is not another proxy's Done one, and has the image before unless the proxy is not on the target image. One
    that counts as Done or Skipped is not observed on a node in flight. -/
def tellsPatched (w : World) (targets : List ListedProxy) : Bool :=
  (targets.map (·.name)).Nodup ∧ ∀ t ∈ targets,
    (t.name ∈ w.unverified → (priorEntry w.entries t.node).phase ≠ .done ∧
      (t.image ≠ (w.result.getD {}).targetImage ∨ (priorEntry w.entries t.node).previousImage ≠ "")) ∧
    ((∃ n ∈ w.entries, n.Settled ∧ n.proxyName = t.name) → (priorEntry w.entries t.node).phase ≠ .inFlight)

/-- What is found tells the patched proxies. -/
def observationsTell (a : Audited) : Event Unit Op EnvEvent Op.Reply → Bool
  | .reply _ (.targets _) (.ok observed) _ => tellsPatched a.world (resolveTargetProxies observed)
  | .reply _ (.getProxy name) r _ => admits (.getProxy name) r
  | _ => true

/-! ### The invariant -/

/-- Settled entries are verified, and those in flight have an image to go back to. -/
structure Clean (unverified : List String) (l : List NodeState) : Prop where
  settled : ∀ n ∈ l, n.Settled → n.proxyName ∉ unverified
  flying : ∀ n ∈ l, n.phase = .inFlight → n.previousImage ≠ ""

/-- A record that may be stored. -/
structure Ready (w : World) (l : List NodeState) : Prop where
  clean : Clean w.unverified l
  names : (l.map (·.proxyName)).Nodup
  recorded : ∀ n ∈ l, n.phase = .inFlight → ∃ m ∈ w.entries, m.node = n.node ∧ m.phase = .inFlight
  apart : ∀ n ∈ l, n.phase = .inFlight → ∀ m ∈ w.entries, m.Settled → m.proxyName ≠ n.proxyName

/-- What a stage says. -/
def Stage.Knows (a : Audited) : Stage → Prop
  | .fresh => True
  | .loaded record _ => a.world.result.getD {} = record
  | .admitted record _ => a.world.result.getD {} = record
  | .planned nodes image => image ≠ "" ∧ Ready a.world nodes
  | .cleared nodes image node proxy => image ≠ "" ∧ Ready a.world nodes ∧ (node, proxy) ∈ a.cleared
  | .verified nodes image proxy => image ≠ "" ∧ Clean a.world.unverified nodes ∧ proxy ∉ a.world.unverified
  | .patched nodes image => image ≠ "" ∧ Clean a.world.unverified nodes
  | .closed => True

/-- The invariant of the audit. -/
structure Honest (a : Audited) (stage : Stage) : Prop where
  record : Clean a.world.unverified a.world.entries
  image : a.world.unverified ≠ [] ∨ a.world.entries ≠ [] → (a.world.result.getD {}).targetImage ≠ ""
  sent : ∀ p ∈ a.sent, p.gated = true ∧ p.recorded = true
  knows : stage.Knows a

variable {nodes : List NodeState} {image : String}
variable {c : Campaign}

section Invariant
variable {a : Audited} {w w' : World} {stage : Stage} {l l' : List NodeState} {r : Result}

theorem Clean.kept (h : Clean w.unverified l) (hk : Kept w w') : Clean w'.unverified l :=
  ⟨fun n hn settled hmem => h.settled n hn settled (hk.unverified _ hmem), h.flying⟩

theorem Ready.kept (h : Ready w l) (hk : Kept w w') : Ready w' l :=
  ⟨h.clean.kept hk, h.names, by rw [hk.entries]; exact h.recorded, by rw [hk.entries]; exact h.apart⟩

theorem Honest.kept (h : Honest a stage) (hk : Kept a.world w') : Honest { a with world := w' } stage := by
  refine ⟨?_, fun hne => ?_, h.sent, ?_⟩
  · rw [show ({ a with world := w' } : Audited).world.entries = a.world.entries from hk.entries]
    exact h.record.kept hk
  · rw [hk.result]
    refine h.image (hne.imp hk.unverified_ne_nil fun hne => ?_)
    rwa [← hk.entries]
  · have known := h.knows
    cases stage with
    | fresh => trivial
    | loaded record image => exact hk.record.trans known
    | admitted record image => exact hk.record.trans known
    | patched nodes image => exact ⟨known.1, known.2.kept hk⟩
    | planned nodes image => exact ⟨known.1, known.2.kept hk⟩
    | cleared nodes image node proxy => exact ⟨known.1, known.2.1.kept hk, known.2.2⟩
    | verified nodes image proxy => exact ⟨known.1, known.2.1.kept hk, fun hmem => known.2.2 (hk.unverified _ hmem)⟩
    | closed => trivial

/-! ### Writes -/

theorem Clean.of_forall₂ {unverified : List String} (h : Clean unverified l) {R : NodeState → NodeState → Prop} (all : List.Forall₂ R l l')
    (settled : ∀ m n, R m n → n.Settled → Alike m n ∨ n.proxyName ∉ unverified)
    (flying : ∀ m n, R m n → n.phase = .inFlight → Alike m n ∨ n.previousImage ≠ "") : Clean unverified l' := by
  refine ⟨fun n hn hs => ?_, fun n hn hf => ?_⟩
  · obtain ⟨m, hm, hr⟩ := forall₂_mem_right all hn
    rcases settled m n hr hs with alike | verified
    · rw [alike.proxyName]
      exact h.settled m hm (by unfold NodeState.Settled at *; rwa [← alike.phase])
    · exact verified
  · obtain ⟨m, hm, hr⟩ := forall₂_mem_right all hn
    rcases flying m n hr hf with alike | previous
    · rw [alike.previousImage]
      exact h.flying m hm (alike.phase.symm.trans hf)
    · exact previous

theorem Honest.writes (h : Honest a stage) (hw : stage.Writes true r) :
    Clean a.world.unverified r.nodes ∧ (a.world.unverified ≠ [] ∨ r.nodes ≠ [] → r.targetImage ≠ "") := by
  have known := h.knows
  cases stage with
  | fresh => exact hw.elim
  | closed => exact hw.elim
  | loaded record image =>
    obtain ⟨nodes, target⟩ := hw
    have known : a.world.result.getD {} = record := known
    have entries : r.nodes = a.world.entries := by rw [nodes, ← known]; rfl
    rw [entries]
    refine ⟨h.record, fun hne => ?_⟩
    rcases target with target | ⟨target, named⟩
    · rw [target, ← known]
      exact h.image hne
    · rwa [target]
  | admitted record image =>
    obtain ⟨nodes, target, named⟩ := hw
    have known : a.world.result.getD {} = record := known
    have entries : r.nodes = a.world.entries := by rw [nodes, ← known]; rfl
    rw [entries, target]
    exact ⟨h.record, fun _ => named⟩
  | patched nodes image =>
    obtain ⟨target, all⟩ := hw
    exact ⟨known.2.of_forall₂ all (fun _ _ hr _ => .inl hr) fun _ _ hr _ => .inl hr, fun _ => target ▸ known.1⟩
  | planned nodes image =>
    obtain ⟨target, all⟩ := hw
    exact ⟨known.2.clean.of_forall₂ all (fun _ _ hr _ => .inl hr) fun _ _ hr _ => .inl hr, fun _ => target ▸ known.1⟩
  | cleared nodes image node proxy =>
    obtain ⟨target, all⟩ := hw.cleared
    refine ⟨known.2.1.clean.of_forall₂ all (fun m n hr hs => ?_) fun m n hr hf => ?_, fun _ => target ▸ known.1⟩
    · rcases hr with alike | starts
      · exact .inl alike
      · unfold NodeState.Settled at hs
        rw [starts.phase] at hs
        rcases hs with hs | hs <;> cases hs
    · exact hr.imp id (·.previousImage rfl)
  | verified nodes image proxy =>
    obtain ⟨target, all⟩ := hw
    refine ⟨known.2.1.of_forall₂ all (fun m n hr hs => ?_) fun m n hr hf => ?_, fun _ => target ▸ known.1⟩
    · rcases hr with alike | completes
      · exact .inl alike
      · exact .inr (completes.proxyName.1 ▸ known.2.2)
    · rcases hr with alike | completes
      · exact .inl alike
      · rw [completes.phase] at hf
        cases hf

theorem Honest.write_if (h : Honest a stage) (hw : stage.Writes true r) (status : OwnerStatus) (b : Bool) :
    Honest { a with world := if b then a.world.write status r else a.world } .closed := by
  cases b with
  | false => exact ⟨h.record, h.image, h.sent, trivial⟩
  | true =>
    obtain ⟨clean, image⟩ := h.writes hw
    exact ⟨clean, image, h.sent, trivial⟩

theorem Honest.persisted {node proxy : String} (h : Honest a (.cleared nodes image node proxy))
    (hw : (Stage.cleared nodes image node proxy).Writes true r) (status : OwnerStatus) :
    Honest { a with world := a.world.write status r } (.cleared r.nodes image node proxy) := by
  obtain ⟨clean, target⟩ := h.writes hw
  obtain ⟨named, ready, gated⟩ := h.knows
  have names : r.nodes.map (·.proxyName) = nodes.map (·.proxyName) := by
    refine (forall₂_eq_eq_eq.le _ _ (forall₂_map_left_iff.mpr (forall₂_map_right_iff.mpr ?_))).symm
    refine hw.cleared.2.imp fun m n hr => ?_
    rcases hr with alike | starts
    · exact alike.proxyName.symm
    · exact starts.proxyName.2.trans starts.proxyName.1.symm
  have nodup : (r.nodes.map (·.proxyName)).Nodup := names ▸ ready.names
  refine ⟨clean, target, h.sent, named, ⟨clean, nodup, fun n hn hf => ⟨n, hn, rfl, hf⟩, fun n hn hf m hm hs same => ?_⟩, gated⟩
  obtain rfl := inj_on_of_nodup_map nodup hm hn same
  unfold NodeState.Settled at hs
  rw [hf] at hs
  rcases hs with hs | hs <;> cases hs

theorem Honest.patch {node proxy : String} (h : Honest a (.cleared nodes image node proxy))
    {n : NodeState} (hn : n ∈ nodes) (hnode : n.node = node) (hname : n.proxyName = proxy) (flying : n.phase = .inFlight) (b : Bool) :
    Honest { a with world := if b then a.world.patch proxy else a.world, sent := a.sent ++ [a.send proxy] }
      (.patched nodes image) := by
  obtain ⟨named, ready, gated⟩ := h.knows
  obtain ⟨m, hm, mnode, mflying⟩ := ready.recorded n hn flying
  have sent : ∀ p ∈ a.sent ++ [a.send proxy], p.gated = true ∧ p.recorded = true := by
    intro p hp
    rcases mem_append.mp hp with hp | hp
    · exact h.sent p hp
    · obtain rfl := mem_singleton.mp hp
      refine ⟨any_eq_true.mpr ⟨_, gated, by simp⟩, any_eq_true.mpr ⟨_, gated, ?_⟩⟩
      simp only [decide_eq_true_eq, true_and, any_eq_true]
      exact ⟨m, hm, mnode.trans hnode, mflying, h.record.flying m hm mflying⟩
  cases b with
  | false => exact ⟨h.record, h.image, sent, named, ready.clean⟩
  | true =>
    -- a settled entry is not the one in flight, neither in memory nor on record
    have other : ∀ k : NodeState, k.Settled → k.proxyName ∉ a.world.unverified → k.proxyName ≠ proxy →
        k.proxyName ∉ (a.world.patch proxy).unverified := by
      intro k _ verified hne hmem
      rcases mem_cons.mp hmem with same | hmem
      · exact hne same
      · exact verified (mem_filter.mp hmem).1
    have inMemory : Clean (a.world.patch proxy).unverified nodes := by
      refine ⟨fun k hk hs => other k hs (ready.clean.settled k hk hs) fun same => ?_, ready.clean.flying⟩
      obtain rfl := inj_on_of_nodup_map ready.names hk hn (same.trans hname.symm)
      unfold NodeState.Settled at hs
      rw [flying] at hs
      rcases hs with hs | hs <;> cases hs
    have onRecord : Clean (a.world.patch proxy).unverified a.world.entries :=
      ⟨fun k hk hs => other k hs (h.record.settled k hk hs) (hname ▸ ready.apart n hn flying k hk hs), h.record.flying⟩
    exact ⟨onRecord, fun _ => h.image (.inr (ne_nil_of_mem hm)), sent, named, inMemory⟩

/-! ### Merging -/

theorem mergeTarget_entry (previous : List NodeState) (image : String) (t : ListedProxy) :
    (mergeTarget previous image t).node = (priorEntry previous t.node).node ∧ (mergeTarget previous image t).proxyName = t.name ∧
      (mergeTarget previous image t).previousImage = (priorEntry previous t.node).previousImage := by
  unfold mergeTarget priorEntry
  dsimp only
  split
  · exact ⟨rfl, rfl, rfl⟩
  split
  · exact ⟨rfl, rfl, rfl⟩
  · exact ⟨rfl, rfl, rfl⟩

variable {previous : List NodeState} {t : ListedProxy}

theorem mergeTarget_settled (h : (mergeTarget previous image t).Settled) :
    (priorEntry previous t.node).phase = .done ∨ (t.image = image ∧ (priorEntry previous t.node).previousImage = "") := by
  unfold mergeTarget at h
  dsimp only at h
  split at h
  next never => exact Or.inr never
  split at h
  · rcases h with h | h <;> cases h
  next skipped =>
    rcases h with h | h
    · exact Or.inl h
    · exact absurd h skipped

theorem mergeTarget_flying (h : (mergeTarget previous image t).phase = .inFlight) :
    (priorEntry previous t.node).phase = .inFlight ∧ priorEntry previous t.node ∈ previous ∧
      (priorEntry previous t.node).node = t.node := by
  have phase : (priorEntry previous t.node).phase = .inFlight := by
    unfold mergeTarget at h
    dsimp only at h
    split at h
    · cases h
    split at h
    · cases h
    · exact h
  unfold priorEntry at phase ⊢
  cases hp : priorByNode previous t.node with
  | none =>
    rw [hp] at phase
    cases phase
  | some n => exact ⟨by rw [hp] at phase; exact phase, priorByNode_mem hp⟩

theorem Honest.merge (h : Honest a stage) {targets : List ListedProxy} (tells : tellsPatched a.world targets = true)
    (same : (a.world.result.getD {}).targetImage ≠ "" → image = (a.world.result.getD {}).targetImage) (order : MapOrder NodeState) :
    Ready a.world (sortNodes order (mergeCampaignNodes a.world.entries targets image)) := by
  obtain ⟨names, tells⟩ := of_decide_eq_true tells
  have perm := sortNodes_perm order (mergeCampaignNodes a.world.entries targets image)
  have merged : ∀ n ∈ sortNodes order (mergeCampaignNodes a.world.entries targets image),
      ∃ t ∈ targets, n = mergeTarget a.world.entries image t := by
    intro n hn
    obtain ⟨t, ht, rfl⟩ := mem_map.mp (perm.mem_iff.mp hn)
    exact ⟨t, ht, rfl⟩
  refine ⟨⟨fun n hn hs hmem => ?_, fun n hn hf => ?_⟩, ?_, fun n hn hf => ?_, fun n hn hf m hm hs => ?_⟩
  · obtain ⟨t, ht, rfl⟩ := merged n hn
    rw [(mergeTarget_entry ..).2.1] at hmem
    obtain ⟨notDone, patched⟩ := (tells t ht).1 hmem
    rw [← same (h.image (.inl (ne_nil_of_mem hmem)))] at patched
    rcases mergeTarget_settled hs with done | ⟨onTarget, never⟩
    · exact notDone done
    · rcases patched with off | before
      · exact off onTarget
      · exact before never
  · obtain ⟨t, ht, rfl⟩ := merged n hn
    obtain ⟨phase, mem, -⟩ := mergeTarget_flying hf
    rw [(mergeTarget_entry ..).2.2]
    exact h.record.flying _ mem phase
  · rw [(perm.map _).nodup_iff, mergeCampaignNodes, map_map]
    have : (fun n : NodeState => n.proxyName) ∘ mergeTarget a.world.entries image = fun t => t.name := by
      funext t
      exact (mergeTarget_entry ..).2.1
    rw [this]
    exact names
  · obtain ⟨t, ht, rfl⟩ := merged n hn
    obtain ⟨phase, mem, -⟩ := mergeTarget_flying hf
    exact ⟨_, mem, (mergeTarget_entry ..).1.symm, phase⟩
  · obtain ⟨t, ht, rfl⟩ := merged n hn
    rw [(mergeTarget_entry ..).2.1]
    intro same
    exact (tells t ht).2 ⟨m, hm, hs, same⟩ (mergeTarget_flying hf).1

/-! ### One call -/

theorem Honest.gated (h : Honest a (.planned nodes image)) (node proxy : String) :
    Honest { a with cleared := (node, proxy) :: a.cleared } (.cleared nodes image node proxy) := by
  obtain ⟨named, ready⟩ := h.knows
  exact ⟨h.record, h.image, h.sent, named, ready, mem_cons_self⟩

theorem Honest.verified (h : Honest a (.planned nodes image)) (proxy : String) :
    Honest { a with world := a.world.release proxy } (.verified nodes image proxy) := by
  have released : Kept a.world (a.world.release proxy) := ⟨rfl, fun q hq => (mem_filter.mp hq).1⟩
  obtain ⟨record, image', sent, named, ready⟩ := h.kept released
  refine ⟨record, image', sent, named, ready.clean, fun hmem => ?_⟩
  simpa using (mem_filter.mp hmem).2

theorem Honest.call (h : Honest a stage) {op : Op} {r : op.Reply} {applied : Bool} {a' : Audited}
    (allowed : stage.allowed true op) (ok : observationsTell a (.reply () op r applied) = true)
    (hp : (audited c).perform () a op r applied = some a') : admits op r = true ∧ Honest a' (stage.next c op r) := by
  obtain ⟨w', hw, rfl⟩ := Option.map_eq_some_iff.mp hp
  cases op with
  | load =>
    refine ⟨rfl, ?_⟩
    cases r with
    | error e =>
      cases hw
      exact h
    | ok owner =>
      obtain ⟨same, rfl⟩ := Option.ite_some_none_eq_some.mp hw
      have known : a.world.result.getD {} = owner.result.getD {} := by rw [same.2]
      simp only [Stage.next]
      split
      · exact ⟨h.record, h.image, h.sent, trivial⟩
      · exact ⟨h.record, h.image, h.sent, known⟩
  | operations =>
    refine ⟨rfl, ?_⟩
    cases hw
    obtain ⟨record, image, rfl⟩ := allowed
    cases r with
    | error e => exact h
    | ok ops =>
      simp only [Stage.next]
      split
      · exact ⟨h.record, h.image, h.sent, h.knows⟩
      · exact h
  | targets selector =>
    refine ⟨rfl, ?_⟩
    cases hw
    obtain ⟨record, image, rfl, named, same⟩ := allowed
    cases r with
    | error e => exact h
    | ok observed =>
      have known : a.world.result.getD {} = record := h.knows
      simp only [Stage.next]
      split
      · exact h
      · subst known
        exact ⟨h.record, h.image, h.sent, named, h.merge ok same c.order⟩
  | podNamespace =>
    cases hw
    exact ⟨rfl, h⟩
  | getProxy name =>
    cases hw
    exact ⟨ok, h⟩
  | getPod name =>
    cases hw
    exact ⟨rfl, h⟩
  | gate node proxy =>
    refine ⟨rfl, ?_⟩
    cases hw
    obtain ⟨nodes, image, rfl⟩ := allowed
    cases r with
    | error e => exact h
    | ok verdicts =>
      simp only [Stage.next, Audited.observe]
      split
      · exact h.gated node proxy
      · exact h
  | verifyRecovered node proxy =>
    refine ⟨rfl, ?_⟩
    obtain ⟨nodes, image, rfl, -⟩ := allowed
    cases r with
    | error e =>
      cases hw
      exact h
    | ok verdicts =>
      cases hw
      simp only [Stage.next, Audited.observe]
      split
      · exact h.verified proxy
      · exact h
  | now =>
    cases hw
    exact ⟨rfl, h⟩
  | patchImage proxy target =>
    refine ⟨rfl, ?_⟩
    cases hw
    obtain ⟨nodes, image, node, rfl, n, hn, hnode, hname, flying⟩ := allowed
    exact h.patch hn hnode hname flying _
  | persist res =>
    refine ⟨rfl, ?_⟩
    cases hw
    cases r with
    | error e => exact h.write_if allowed _ _
    | ok _ =>
      cases stage with
      | cleared nodes image node proxy => exact h.persisted allowed _
      | fresh => exact allowed.elim
      | closed => exact allowed.elim
      | _ => exact h.write_if allowed _ true
  | fail res =>
    refine ⟨rfl, ?_⟩
    cases hw
    exact h.write_if allowed _ _
  | succeed res =>
    refine ⟨rfl, ?_⟩
    cases hw
    exact h.write_if allowed _ _

end Invariant

/-! ### Whole runs -/

theorem honest_of_reachable {s : SysState Audited Unit Op Op.Reply} (h : (audited c).Reachable observationsTell {} s) :
    ∃ stage, Honest s.world stage := by
  suffices honest : ∃ st : Unit → Stage, Honest s.world (st ()) from honest.elim fun st honest => ⟨st (), honest⟩
  refine invariant_of_conforms (fun _ => protocol c true) (fun a st => Honest a (st ())) ?_ ?_ ?_ ?_ ?_ h
  · intro _
    exact Conforms.bind reconcile_ends fun _ _ _ => Ends.pure
  · exact ⟨⟨nofun, nofun⟩, by simp [World.entries], nofun, trivial⟩
  · intro _ a st honest _
    exact ⟨honest.record, honest.image, honest.sent, trivial⟩
  · intro _ a st op r applied a' honest allowed ok hp
    obtain ⟨admitted, honest⟩ := honest.call allowed ok hp
    exact ⟨fun _ => admitted, honest⟩
  · intro a st e a' honest _ he
    cases e with
    | proxyDeleted proxy =>
      cases he
      exact honest.kept ⟨rfl, fun q hq => (mem_filter.mp hq).1⟩

/-- While the observations tell the patched proxies, what counts as Done or Skipped is verified, and every patch was
    cleared by the gate in its reconcile and on record when it was sent. -/
theorem rotation_verified {c : Campaign} {s : SysState Audited Unit Op Op.Reply}
    (h : (audited c).Reachable observationsTell {} s) :
    s.world.world.Verified ∧ ∀ p ∈ s.world.sent, p.gated = true ∧ p.recorded = true := by
  obtain ⟨stage, honest⟩ := honest_of_reachable h
  exact ⟨honest.record.settled, honest.sent⟩

def auditedReplies (observed : List ListedProxy) (matched : List String) (a : Audited) : (op : Op) → op.Reply :=
  healthyReplies observed matched a.world

def blockedReplies (observed : List ListedProxy) (matched : List String) (a : Audited) : (op : Op) → op.Reply
  | .gate _ _ => .ok [{ namespaceName := "weka", name := "cluster", clusterGUID := "guid", allowed := false, reason := "rebuilding" }]
  | op => auditedReplies observed matched a op

theorem rotation_verified_firstPatched : ∃ s : SysState Audited Unit Op Op.Reply,
    (audited twoProxies).Reachable observationsTell {} s ∧ s.world.sent.length = 1 ∧
    s.world.world.Verified ∧ ∀ p ∈ s.world.sent, p.gated = true ∧ p.recorded = true :=
  System.Reachable.of_play_and
    [.pass () (auditedReplies [⟨"proxy-a", "", "node-a", "v1"⟩, ⟨"proxy-b", "", "node-b", "v1"⟩] ["node-a", "node-b"]) 20]
    (by decide +kernel) rotation_verified

/-- The first node leaves the selector and comes back. -/
def firstComesBack : List (System.Scene Audited Unit Op EnvEvent Op.Reply) :=
  let patched : List ListedProxy := [⟨"proxy-a", "", "node-a", "v2"⟩, ⟨"proxy-b", "", "node-b", "v1"⟩]
  [.pass () (auditedReplies [⟨"proxy-a", "", "node-a", "v1"⟩, ⟨"proxy-b", "", "node-b", "v1"⟩] ["node-a", "node-b"]) 20,
    .pass () (blockedReplies patched ["node-b"]) 20, .pass () (blockedReplies patched ["node-a", "node-b"]) 20]

/-- Its proxy is then Skipped, though it was patched and never verified. -/
theorem rotation_skips_patched : ∃ s : SysState Audited Unit Op Op.Reply,
    (audited twoProxies).Reachable (fun _ _ => true) {} s ∧ "proxy-a" ∈ s.world.world.unverified ∧
    ∃ n ∈ s.world.world.entries, n.proxyName = "proxy-a" ∧ n.phase = .skipped :=
  System.Reachable.of_play firstComesBack (by decide +kernel)

end WekaOperator.Rotate
