import WekaOperator.Planner.Chosen

/-! The even split of a failure domain.

Hosts take their turns one after the other; what each takes depends on its own node alone, and the domain reaches its
level exactly if every host takes its whole share. -/

namespace WekaOperator.Planner
open List Option Lib

/-! ### Shares -/

/-- The shares from the i-th host on. -/
def sharesFrom (base rem : Int) : List String → Int → List (String × Int)
  | [], _ => []
  | node :: nodes, hi => (node, if hi < rem then base + 1 else base) :: sharesFrom base rem nodes (hi + 1)

/-- The shares of the hosts. -/
def evenShares (target : Int) (nodes : List String) : List (String × Int) :=
  sharesFrom (target.tdiv nodes.length) (target.tmod nodes.length) nodes 0

theorem sharesFrom_nodes (base rem : Int) (nodes : List String) (hi : Int) :
    (sharesFrom base rem nodes hi).map Prod.fst = nodes := by
  induction nodes generalizing hi with
  | nil => rfl
  | cons node nodes ih => rw [sharesFrom, map_cons, ih]

theorem evenShares_nodes (target : Int) (nodes : List String) : (evenShares target nodes).map Prod.fst = nodes :=
  sharesFrom_nodes _ _ nodes 0

theorem sharesFrom_sum (base rem : Int) (nodes : List String) (hi : Int) :
    ((sharesFrom base rem nodes hi).map Prod.snd).sum = base * nodes.length + min (max (rem - hi) 0) nodes.length := by
  induction nodes generalizing hi with
  | nil => simp [sharesFrom]
  | cons node nodes ih =>
    rw [sharesFrom, map_cons, sum_cons, ih, length_cons, Nat.cast_add, Nat.cast_one, mul_add, mul_one]
    split <;> omega

theorem sharesFrom_nonneg {base rem : Int} (h : 0 ≤ base) {nodes : List String} {hi : Int} {s : String × Int}
    (hs : s ∈ sharesFrom base rem nodes hi) : 0 ≤ s.2 := by
  induction nodes generalizing hi with
  | nil => cases hs
  | cons node nodes ih =>
    rcases mem_cons.mp hs with rfl | hs
    · dsimp only
      split <;> omega
    · exact ih hs

theorem evenShares_sum {target : Int} (h : 0 ≤ target) {nodes : List String} (hne : nodes ≠ []) :
    ((evenShares target nodes).map Prod.snd).sum = target := by
  have hlen : (0 : Int) < nodes.length := by exact_mod_cast length_pos_of_ne_nil hne
  have hdiv := Int.mul_tdiv_add_tmod target nodes.length
  have hrem := Int.tmod_lt_of_pos target hlen
  have hnn := Int.tmod_nonneg (nodes.length : Int) h
  rw [evenShares, sharesFrom_sum, mul_comm]
  omega

/-! ### A host's turn -/

section Turn
variable (p : PoolKind) (existing : List ExistingContainer) (cons : CapacityConstraints)

/-- A host's placement alone. -/
def hostTurn (b : Books) (s : String × Int) : FdRun := placeHost p existing cons "" s.2 s.1 { books := b }

/-- The host takes its whole share. -/
def HostFits (b : Books) (s : String × Int) : Prop :=
  match b.states.lookup s.1 with
  | none => s.2 ≤ 0
  | some ns =>
    match existingOnNode existing s.1 with
    | some c => s.2 ≤ poolCap c p ∨ s.2 - poolCap c p ≤ ns.nodeHeadroom p cons false ∨
        s.2 ≤ 0 ∧ ns.nodeHeadroom p cons false ≤ 0
    | none => s.2 ≤ 0 ∨ s.2 ≤ ns.nodeHeadroom p cons (b.newByNode.lookup s.1).isNone ∧
        (0 < b.newCap s.1 p ∨ cons.minChunkSizeGiB ≤ s.2)

instance (b : Books) (s : String × Int) : Decidable (HostFits p existing cons b s) := by
  unfold HostFits
  cases b.states.lookup s.1 with
  | none => exact inferInstanceAs (Decidable (_ ≤ _))
  | some ns =>
    cases existingOnNode existing s.1 with
    | none => exact inferInstanceAs (Decidable (_ ∨ _))
    | some c => exact inferInstanceAs (Decidable (_ ∨ _))

/-- What the host takes. -/
def hostGain (b : Books) (s : String × Int) : Int :=
  match b.states.lookup s.1 with
  | none => 0
  | some ns =>
    match existingOnNode existing s.1 with
    | some c => max 0 (min (s.2 - poolCap c p) (ns.nodeHeadroom p cons false))
    | none => max 0 s.2

end Turn

/-- The books agree on these nodes. -/
def Agree (nodes : List String) (b b' : Books) : Prop :=
  ∀ n ∈ nodes, b'.states.lookup n = b.states.lookup n ∧ b'.newByNode.lookup n = b.newByNode.lookup n

namespace Agree
variable {nodes nodes' : List String} {b b' b'' : Books}

theorem refl (nodes : List String) (b : Books) : Agree nodes b b := fun _ _ => ⟨rfl, rfl⟩

theorem trans (h : Agree nodes b b') (h' : Agree nodes b' b'') : Agree nodes b b'' := fun n hn =>
  ⟨(h' n hn).1.trans (h n hn).1, (h' n hn).2.trans (h n hn).2⟩

theorem subset (h : Agree nodes b b') (hs : nodes' ⊆ nodes) : Agree nodes' b b' := fun n hn => h n (hs hn)

end Agree

section Host
variable {p : PoolKind} {existing : List ExistingContainer} {cons : CapacityConstraints} {b b' : Books}
  {s : String × Int}

/-- The least a node takes. -/
def leastAdd (p : PoolKind) (cons : CapacityConstraints) (b : Books) (node : String) : Int :=
  if 0 < b.newCap node p then 1 else cons.minChunkSizeGiB

/-- What a host's turn comes to. -/
inductive Outcome (p : PoolKind) (existing : List ExistingContainer) (cons : CapacityConstraints) (b : Books)
    (s : String × Int) : List Move → Int → Prop
  | unknown (state : b.states.lookup s.1 = none) : Outcome p existing cons b s [] 0
  | holds {ns : NodeState} (state : b.states.lookup s.1 = some ns)
      (share : s.2 ≤ (existingOnNode existing s.1).elim 0 (poolCap · p)) : Outcome p existing cons b s [] s.2
  | full {ns : NodeState} {c : ExistingContainer} (state : b.states.lookup s.1 = some ns)
      (container : existingOnNode existing s.1 = some c) (share : poolCap c p < s.2)
      (room : ns.nodeHeadroom p cons false ≤ 0) : Outcome p existing cons b s [] 0
  | grows {ns : NodeState} {c : ExistingContainer} (state : b.states.lookup s.1 = some ns)
      (container : existingOnNode existing s.1 = some c) (share : poolCap c p < s.2)
      (room : 0 < ns.nodeHeadroom p cons false) :
      Outcome p existing cons b s [.grew s.1 (min (s.2 - poolCap c p) (ns.nodeHeadroom p cons false)) c]
        (poolCap c p + min (s.2 - poolCap c p) (ns.nodeHeadroom p cons false))
  | refused {ns : NodeState} (state : b.states.lookup s.1 = some ns) (container : existingOnNode existing s.1 = none)
      (share : 0 < s.2) (room : ns.nodeHeadroom p cons (b.newByNode.lookup s.1).isNone ≤ 0 ∨
        min s.2 (ns.nodeHeadroom p cons (b.newByNode.lookup s.1).isNone) < leastAdd p cons b s.1) :
      Outcome p existing cons b s [] 0
  | creates {ns : NodeState} (state : b.states.lookup s.1 = some ns) (container : existingOnNode existing s.1 = none)
      (share : 0 < s.2) (room : 0 < ns.nodeHeadroom p cons (b.newByNode.lookup s.1).isNone)
      (chunk : leastAdd p cons b s.1 ≤ min s.2 (ns.nodeHeadroom p cons (b.newByNode.lookup s.1).isNone)) :
      Outcome p existing cons b s [.created s.1 (min s.2 (ns.nodeHeadroom p cons (b.newByNode.lookup s.1).isNone))
        (b.newByNode.lookup s.1).isNone] (min s.2 (ns.nodeHeadroom p cons (b.newByNode.lookup s.1).isNone))

theorem leastAdd_eq (b : Books) (node : String) :
    (if (b.newByNode.lookup node).any (0 < poolCapNew · p) = true then (1 : Int) else cons.minChunkSizeGiB) =
      leastAdd p cons b node := by
  refine if_congr ?_ rfl rfl
  unfold Books.newCap
  cases b.newByNode.lookup node <;> simp

theorem placeHost_turn (fdValue : String) {r : FdRun} (h : Agree [s.1] b r.books) :
    (placeHost p existing cons fdValue s.2 s.1 r).moves = r.moves ++ (hostTurn p existing cons b s).moves ∧
      (placeHost p existing cons fdValue s.2 s.1 r).placedFD = r.placedFD + (hostTurn p existing cons b s).placedFD := by
  obtain ⟨hstate, hnew⟩ := h s.1 mem_cons_self
  unfold hostTurn placeHost
  simp only [hstate, hnew]
  cases b.states.lookup s.1 with
  | none => simp
  | some ns =>
    dsimp only
    rw [leastAdd_eq]
    split
    · simp
    cases existingOnNode existing s.1 with
    | some c => dsimp only; split <;> simp
    | none =>
      dsimp only
      split
      · simp
      split <;> simp

theorem hostTurn_outcome (b : Books) (s : String × Int) :
    Outcome p existing cons b s (hostTurn p existing cons b s).moves (hostTurn p existing cons b s).placedFD := by
  generalize h : hostTurn p existing cons b s = r
  unfold hostTurn placeHost at h
  cases hns : b.states.lookup s.1 with
  | none =>
    simp only [hns] at h
    subst h
    exact .unknown hns
  | some ns =>
    simp only [hns, leastAdd_eq, zero_add, nil_append] at h
    split at h
    · rename_i hneed
      have hle : s.2 ≤ (existingOnNode existing s.1).elim 0 (poolCap · p) := by omega
      rw [min_eq_right hle] at h
      subst h
      exact .holds hns hle
    rename_i hneed
    cases hec : existingOnNode existing s.1 with
    | some c =>
      simp only [hec, elim_some] at h hneed
      split at h <;> subst h
      · exact .full hns hec (by omega) (by omega)
      · exact .grows hns hec (by omega) (by omega)
    | none =>
      simp only [hec, elim_none, sub_zero] at h hneed
      split at h
      · rename_i hroom
        subst h
        exact .refused hns hec (by omega) (.inl hroom)
      rename_i hroom
      split at h <;> subst h
      · rename_i hadd
        exact .refused hns hec (by omega) (.inr hadd)
      · rename_i hadd
        exact .creates hns hec (by omega) (by omega) (not_lt.mp hadd)

theorem hostTurn_congr (h : Agree [s.1] b b') :
    (hostTurn p existing cons b' s).moves = (hostTurn p existing cons b s).moves ∧
      (hostTurn p existing cons b' s).placedFD = (hostTurn p existing cons b s).placedFD := by
  obtain ⟨hm, hp⟩ := @placeHost_turn p existing cons b s "" { books := b' } h
  exact ⟨hm.trans (nil_append _), hp.trans (zero_add _)⟩

variable {moves : List Move} {placed : Int}

section
variable (h : Outcome p existing cons b s moves placed)
include h

theorem Outcome.fits_and_gain :
    (0 ≤ s.2 → placed ≤ s.2 ∧ (placed = s.2 ↔ HostFits p existing cons b s)) ∧
      (HostFits p existing cons b s → (moves.map (·.amount)).sum = hostGain p existing cons b s) := by
  unfold HostFits hostGain
  cases h with
  | unknown state =>
    simp only [state]
    exact ⟨by omega, by simp⟩
  | holds state hs =>
    rw [state]
    cases hec : existingOnNode existing s.1 with
    | none =>
      rw [hec, elim_none] at hs
      simp [hs]
    | some c =>
      rw [hec, elim_some] at hs
      refine ⟨by simp [hs], fun fits => ?_⟩
      simp only [map_nil, sum_nil]
      omega
  | full state container hs room =>
    simp only [state, container, map_nil, sum_nil]
    omega
  | grows state container hs room =>
    simp only [state, container, map_cons, map_nil, sum_cons, sum_nil, Move.amount]
    omega
  | refused state container hs room =>
    simp only [state, container]
    unfold leastAdd at room
    split at room <;> omega
  | creates state container hs room chunk =>
    simp only [state, container, map_cons, map_nil, sum_cons, sum_nil, Move.amount]
    unfold leastAdd at chunk
    split at chunk <;> omega

end

end Host

/-! ### A domain's run -/

theorem sum_le_sum_iff_of_le {α : Type} {f g : α → Int} {l : List α} (h : ∀ a ∈ l, f a ≤ g a) :
    (l.map g).sum ≤ (l.map f).sum ↔ ∀ a ∈ l, f a = g a := by
  induction l with
  | nil => simp
  | cons a l ih =>
    have ha := h a mem_cons_self
    have hl : ∀ x ∈ l, f x ≤ g x := fun x hx => h x (mem_cons_of_mem _ hx)
    have hsum : (l.map f).sum ≤ (l.map g).sum := sum_le_sum hl
    rw [map_cons, map_cons, sum_cons, sum_cons, forall_mem_cons, ← ih hl]
    omega

/-- The failure domain reaches the level. -/
def FdFits (p : PoolKind) (existing : List ExistingContainer) (cons : CapacityConstraints) (target : Int) (b : Books)
    (g : FdGroup) : Prop :=
  ∀ s ∈ evenShares target g.nodes, HostFits p existing cons b s

instance (p : PoolKind) (existing : List ExistingContainer) (cons : CapacityConstraints) (target : Int) (b : Books)
    (g : FdGroup) : Decidable (FdFits p existing cons target b g) :=
  inferInstanceAs (Decidable (∀ s ∈ evenShares target g.nodes, HostFits p existing cons b s))

section Run
variable {p : PoolKind} {existing : List ExistingContainer} {cons : CapacityConstraints} {b b' : Books} {target : Int}
  {nodes : List String} {g : FdGroup}

theorem Move.Writes.agree {fdValue : String} {sign : Int} {m : Move} (hw : m.Writes p fdValue sign b b')
    (h : m.node ∉ nodes) : Agree nodes b b' := by
  intro n hn
  have hne : ¬n = m.node := fun e => h (e ▸ hn)
  cases hw with
  | absent _ => exact ⟨rfl, rfl⟩
  | grew _ _ _ =>
    refine ⟨?_, rfl⟩
    simp only [Move.node] at hne
    rw [Books.lookup_setState, if_neg hne]
    rfl
  | created _ _ _ =>
    simp only [Move.node] at hne
    rw [Books.lookup_setState, if_neg hne, Books.setState_newByNode, Books.lookup_addNew, if_neg hne]
    exact ⟨rfl, rfl⟩

theorem placeHosts_eq_foldl (fdValue : String) (base rem : Int) (nodes : List String) (hi : Int) (r : FdRun) :
    placeHosts p existing cons fdValue base rem nodes hi r =
      (sharesFrom base rem nodes hi).foldl (fun r s => placeHost p existing cons fdValue s.2 s.1 r) r := by
  induction nodes generalizing hi r with
  | nil => rfl
  | cons node nodes ih => rw [placeHosts, sharesFrom, foldl_cons, ih]

theorem placeHost_agree (fdValue : String) (share : Int) {node : String} (r : FdRun) (h : node ∉ nodes) :
    Agree nodes r.books (placeHost p existing cons fdValue share node r).books := by
  generalize hr : placeHost p existing cons fdValue share node r = r'
  intro n hn
  have hne : ¬n = node := fun e => h (e ▸ hn)
  rcases placeHost_inv hr with ⟨hb, -⟩ | ⟨ns, c, add, -, -, -, -, -, -, hb⟩ | ⟨ns, add, -, -, -, -, -, -, hb⟩
  · rw [hb]
    exact ⟨rfl, rfl⟩
  · rw [hb, Books.lookup_setState, if_neg hne]
    exact ⟨rfl, rfl⟩
  · rw [hb, Books.lookup_setState, if_neg hne, Books.setState_newByNode, Books.lookup_addNew, if_neg hne]
    exact ⟨rfl, rfl⟩

theorem turns_foldl (fdValue : String) (shares : List (String × Int)) (nodup : (shares.map Prod.fst).Nodup) (r : FdRun)
    (h : Agree (shares.map Prod.fst) b r.books) :
    (shares.foldl (fun r s => placeHost p existing cons fdValue s.2 s.1 r) r).moves =
        r.moves ++ shares.flatMap (fun s => (hostTurn p existing cons b s).moves) ∧
      (shares.foldl (fun r s => placeHost p existing cons fdValue s.2 s.1 r) r).placedFD =
        r.placedFD + (shares.map fun s => (hostTurn p existing cons b s).placedFD).sum := by
  induction shares generalizing r with
  | nil => simp
  | cons s shares ih =>
    rw [map_cons] at nodup h
    obtain ⟨hs, hrest⟩ := nodup_cons.mp nodup
    have here : Agree [s.1] b r.books := h.subset (by simp)
    have hturn := @placeHost_turn p existing cons b s fdValue r here
    have hagree := (h.subset (subset_cons_self _ _)).trans (@placeHost_agree p existing cons _ fdValue s.2 s.1 r hs)
    obtain ⟨hm, hp⟩ := ih hrest _ hagree
    rw [foldl_cons, hm, hp, hturn.1, hturn.2, flatMap_cons, map_cons, sum_cons, append_assoc,
      add_assoc]
    exact ⟨rfl, rfl⟩

theorem runFd_turns (target : Int) (fdValue : String) {nodes : List String} (nodup : nodes.Nodup) (b : Books) :
    (runFd p existing cons target fdValue nodes b).moves =
        (evenShares target nodes).flatMap (fun s => (hostTurn p existing cons b s).moves) ∧
      (runFd p existing cons target fdValue nodes b).placedFD =
        ((evenShares target nodes).map fun s => (hostTurn p existing cons b s).placedFD).sum := by
  unfold runFd
  rw [placeHosts_eq_foldl]
  obtain ⟨hm, hp⟩ := @turns_foldl p existing cons b fdValue (evenShares target nodes)
    ((evenShares_nodes target nodes).symm ▸ nodup) { books := b } (Agree.refl _ b)
  exact ⟨hm.trans (nil_append _), hp.trans (zero_add _)⟩

theorem runFd_reaches_iff (nonneg : 0 ≤ target) (nodup : g.nodes.Nodup) (hne : g.nodes ≠ []) (fdValue : String)
    (b : Books) : target ≤ (runFd p existing cons target fdValue g.nodes b).placedFD ↔ FdFits p existing cons target b g := by
  have turn : ∀ s ∈ evenShares target g.nodes, (hostTurn p existing cons b s).placedFD ≤ s.2 ∧
      ((hostTurn p existing cons b s).placedFD = s.2 ↔ HostFits p existing cons b s) := fun s hs =>
    (hostTurn_outcome b s).fits_and_gain.1 (sharesFrom_nonneg (Int.tdiv_nonneg nonneg (Int.natCast_nonneg _)) hs)
  have hsum := evenShares_sum nonneg hne
  rw [(runFd_turns target fdValue nodup b).2]
  nth_rewrite 1 [← hsum]
  rw [sum_le_sum_iff_of_le fun s hs => (turn s hs).1]
  exact forall₂_congr fun s hs => (turn s hs).2

theorem runFd_congr (target : Int) (fdValue fdValue' : String) {nodes : List String} (nodup : nodes.Nodup)
    (h : Agree nodes b b') :
    (runFd p existing cons target fdValue' nodes b').moves = (runFd p existing cons target fdValue nodes b).moves ∧
      (runFd p existing cons target fdValue' nodes b').placedFD = (runFd p existing cons target fdValue nodes b).placedFD := by
  have turns : ∀ s ∈ evenShares target nodes,
      (hostTurn p existing cons b' s).moves = (hostTurn p existing cons b s).moves ∧
        (hostTurn p existing cons b' s).placedFD = (hostTurn p existing cons b s).placedFD := by
    intro s hs
    have hnode : s.1 ∈ nodes := evenShares_nodes target nodes ▸ mem_map_of_mem hs
    exact hostTurn_congr (h.subset (by simpa using hnode))
  obtain ⟨hm, hp⟩ := @runFd_turns p existing cons target fdValue nodes nodup b
  obtain ⟨hm', hp'⟩ := @runFd_turns p existing cons target fdValue' nodes nodup b'
  rw [hm, hm', hp, hp', flatMap_congr fun s hs => (turns s hs).1, map_congr_left fun s hs => (turns s hs).2]
  exact ⟨rfl, rfl⟩

theorem fdTrace_congr (target : Int) {g : FdGroup} (nodup : g.nodes.Nodup) (h : Agree g.nodes b b') :
    fdTrace p existing cons target b' g = fdTrace p existing cons target b g := by
  obtain ⟨hm, hp⟩ := @runFd_congr p existing cons b b' target (b.fdOf g.nodes) (b'.fdOf g.nodes) g.nodes nodup h
  unfold fdTrace
  split
  · rfl
  · dsimp only
    rw [hm, hp]

theorem placeFd_agree (target : Int) (b : Books) (h : ∀ n ∈ g.nodes, n ∉ nodes) :
    Agree nodes b (placeFd p existing cons target b g) :=
  placeFd_writes (Agree.refl nodes b) fun _ hm _ _ _ hb hw => hb.trans (hw.agree
    (h _ ((@runFd_taken p existing cons target (b.fdOf g.nodes) g.nodes b).nodes.subset (mem_map_of_mem hm))))

theorem uniformTrace_eq (target : Int) {chosen : List FdGroup} (nodup : (chosen.map (·.nodes)).flatten.Nodup) (b : Books) :
    uniformTrace p existing cons target chosen b = chosen.flatMap (fdTrace p existing cons target b) := by
  induction chosen generalizing b with
  | nil => rfl
  | cons g gs ih =>
    rw [map_cons, flatten_cons, nodup_append] at nodup
    obtain ⟨-, hgs, hdisj⟩ := nodup
    rw [uniformTrace, flatMap_cons, ih hgs]
    refine congrArg _ (flatMap_congr fun g' hg' => ?_)
    have hsub : g'.nodes ⊆ (gs.map (·.nodes)).flatten := fun n hn =>
      mem_flatten.mpr ⟨_, mem_map_of_mem hg', hn⟩
    refine fdTrace_congr target (hgs.sublist (sublist_flatten_of_mem (mem_map_of_mem hg'))) ?_
    exact placeFd_agree target b fun n hn hn' => hdisj n hn n (hsub hn') rfl

end Run

def pairNodes : List NodeCapacity := ([("n1", 700), ("n2", 400)] : List (String × Int)).map fun (n, size) =>
  { nodeName := n, fdValue := "f", tlcGiB := size, qlcGiB := size, allocatableCPU := 40
    availableHugepagesMiB := 100000, availableMemoryMiB := 100000 }

def unevenPair : Books where
  states := pairNodes.foldl (fun m nc => m.insert nc.nodeName (NodeState.ofCapacity nc)) ∅

def pairCons : CapacityConstraints :=
  { tlcCapacityPerCoreGiB := 1000, qlcCapacityPerCoreGiB := 1000, minChunkSizeGiB := 384
    hugepagesPerCoreMiB := 1000, memoryBaseMiB := 8000, memoryPerCoreMiB := 3000 }

end WekaOperator.Planner
