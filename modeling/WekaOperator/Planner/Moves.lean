import WekaOperator.Planner.Pool

/-! What `placeUniform` does to the books.

Every placement is a list of moves, each within what its node has left, and the books change by exactly these moves; a
failure domain that falls short takes all of its moves back. -/

namespace WekaOperator.Planner
open List Option Lib NodeState Books Move

namespace Books
variable (b : Books) {p q : PoolKind} {add : Int} {c c' : ExistingContainer} {node n fd : String} {ns : NodeState}

/-- The capacity of the new container on a node. -/
def newCap (node : String) (q : PoolKind) : Int := (b.newByNode.lookup node).elim 0 (poolCapNew · q)

/-- Records are filed under their own names. -/
structure Keyed : Prop where
  growth : ∀ k g, b.growth.lookup k = some g → g.name = k
  new : ∀ k n, b.newByNode.lookup k = some n → n.node = k

@[simp] theorem setState_growth : (b.setState node ns).growth = b.growth := rfl
@[simp] theorem setState_newByNode : (b.setState node ns).newByNode = b.newByNode := rfl
@[simp] theorem addGrowth_states : (b.addGrowth c p add).states = b.states := rfl
@[simp] theorem addGrowth_newByNode : (b.addGrowth c p add).newByNode = b.newByNode := rfl
@[simp] theorem addNew_states : (b.addNew node fd p add).states = b.states := rfl
@[simp] theorem addNew_growth : (b.addNew node fd p add).growth = b.growth := rfl

theorem lookup_setState : (b.setState node ns).states.lookup n = if n = node then some ns else b.states.lookup n :=
  lookup_insert_eq b.states node n ns

theorem poolCapGrown_growFor : poolCapGrown (b.growFor c) q = finalPoolCap c b.growth q := by
  unfold growFor finalPoolCap
  cases b.growth.lookup c.name with
  | none => cases q <;> rfl
  | some g => rfl

theorem finalPoolCap_addGrowth (h : c'.name = c.name → c' = c) :
    finalPoolCap c' (b.addGrowth c p add).growth q =
      finalPoolCap c' b.growth q + if c' = c ∧ q = p then add else 0 := by
  by_cases hc : c'.name = c.name
  · obtain rfl := h hc
    have hl : (b.addGrowth c' p add).growth.lookup c'.name = some (addPoolGrowth (b.growFor c') p add) :=
      AList.lookup_insert b.growth
    unfold finalPoolCap
    rw [hl, elim_some, poolCapGrown_add, poolCapGrown_growFor]
    simp [finalPoolCap]
  · have hne : c' ≠ c := fun e => hc (e ▸ rfl)
    have hl : (b.addGrowth c p add).growth.lookup c'.name = b.growth.lookup c'.name := AList.lookup_insert_ne hc
    simp [finalPoolCap, hl, hne]

theorem poolCapNew_newFor : poolCapNew (b.newFor node fd) q = b.newCap node q := by
  unfold newFor newCap
  cases b.newByNode.lookup node with
  | none => cases q <;> rfl
  | some n => rfl

theorem lookup_addNew : (b.addNew node fd p add).newByNode.lookup n =
    if n = node then some (addPoolNew (b.newFor node fd) p add) else b.newByNode.lookup n :=
  lookup_insert_eq b.newByNode node n _

theorem newCap_addNew : (b.addNew node fd p add).newCap n q = b.newCap n q + if n = node ∧ q = p then add else 0 := by
  unfold newCap
  rw [lookup_addNew]
  by_cases hn : n = node
  · subst hn
    rw [if_pos rfl, elim_some, poolCapNew_add, poolCapNew_newFor]
    simp [newCap]
  · simp [hn]

@[simp] theorem newCap_setState : (b.setState node ns).newCap n q = b.newCap n q := rfl

theorem growFor_name (h : b.Keyed) : (b.growFor c).name = c.name := by
  unfold growFor
  cases hl : b.growth.lookup c.name with
  | none => rfl
  | some g => exact h.growth _ _ hl

theorem newFor_node (h : b.Keyed) : (b.newFor node fd).node = node := by
  unfold newFor
  cases hl : b.newByNode.lookup node with
  | none => rfl
  | some n => exact h.new _ _ hl

variable {b}

theorem Keyed.setState (h : b.Keyed) : (b.setState node ns).Keyed := ⟨h.growth, h.new⟩

theorem Keyed.addGrowth (h : b.Keyed) : (b.addGrowth c p add).Keyed where
  growth k g hk := by
    unfold Books.addGrowth at hk
    rw [lookup_insert_eq] at hk
    split at hk
    · rename_i e
      rw [← some.inj hk, addPoolGrowth_name, b.growFor_name h, e]
    · exact h.growth k g hk
  new := h.new

theorem Keyed.addNew (h : b.Keyed) : (b.addNew node fd p add).Keyed where
  growth := h.growth
  new k n hk := by
    rw [lookup_addNew] at hk
    split at hk
    · rename_i e
      rw [← some.inj hk, addPoolNew_node, b.newFor_node h, e]
    · exact h.new k n hk

end Books

/-! ### Committed moves -/

/-- One step of a placement, with the room it needs. -/
inductive Commit (p : PoolKind) (existing : List ExistingContainer) (cons : CapacityConstraints) :
    Books → Books → Prop
  | grow {b : Books} {node : String} {ns : NodeState} {c : ExistingContainer} {add : Int}
      (state : b.states.lookup node = some ns) (container : existingOnNode existing node = some c)
      (pos : 0 < add) (room : add ≤ ns.nodeHeadroom p cons false) :
      Commit p existing cons b ((b.addGrowth c p add).setState node (ns.consume p add cons false))
  | create {b : Books} {node fd : String} {ns : NodeState} {add : Int}
      (state : b.states.lookup node = some ns) (container : existingOnNode existing node = none)
      (pos : 0 < add) (room : add ≤ ns.nodeHeadroom p cons (b.newByNode.lookup node).isNone) :
      Commit p existing cons b
        ((b.addNew node fd p add).setState node (ns.consume p add cons (b.newByNode.lookup node).isNone))

variable {fdValue : String} {r : FdRun} {b' : Books} {moves : List Move} {m : Move}

section Placement
variable {p : PoolKind} {existing : List ExistingContainer} {cons : CapacityConstraints}
variable {c : ExistingContainer} {g : FdGroup}

theorem mem_of_existingOnNode {node : String} (h : existingOnNode existing node = some c) :
    c ∈ existing ∧ c.node = node ∧ c.node ≠ "" ∧ c.unscheduled = false := by
  have hm := mem_of_getLast? h
  simp only [mem_filter, Bool.and_eq_true, decide_eq_true_eq, beq_iff_eq, Bool.not_eq_true'] at hm
  exact ⟨hm.1, hm.2.2, hm.2.1.1, hm.2.1.2⟩

/-- Carries out a move. -/
def Move.apply (p : PoolKind) (cons : CapacityConstraints) (fdValue : String) (b : Books) : Move → Books
  | .grew node add c =>
    match b.states.lookup node with
    | none => b
    | some ns => (b.addGrowth c p add).setState node (ns.consume p add cons false)
  | .created node add includeBase =>
    match b.states.lookup node with
    | none => b
    | some ns => (b.addNew node fdValue p add).setState node (ns.consume p add cons includeBase)

theorem placeHost_inv {share : Int} {node : String} {r' : FdRun}
    (h : placeHost p existing cons fdValue share node r = r') :
    (r'.books = r.books ∧ r'.moves = r.moves ∧ ∀ ns c, r.books.states.lookup node = some ns →
      existingOnNode existing node = some c → share ≤ poolCap c p ∨ ns.nodeHeadroom p cons false ≤ 0) ∨
    (∃ ns c add, r.books.states.lookup node = some ns ∧ existingOnNode existing node = some c ∧ poolCap c p < share ∧
      0 < add ∧ add ≤ ns.nodeHeadroom p cons false ∧ r'.moves = r.moves ++ [.grew node add c] ∧
      r'.books = (r.books.addGrowth c p add).setState node (ns.consume p add cons false)) ∨
    (∃ ns add, r.books.states.lookup node = some ns ∧ existingOnNode existing node = none ∧ 0 < add ∧
      add ≤ ns.nodeHeadroom p cons (r.books.newByNode.lookup node).isNone ∧
      (0 < r.books.newCap node p ∨ cons.minChunkSizeGiB ≤ add) ∧
      r'.moves = r.moves ++ [.created node add (r.books.newByNode.lookup node).isNone] ∧
      r'.books = (r.books.addNew node fdValue p add).setState node
        (ns.consume p add cons (r.books.newByNode.lookup node).isNone)) := by
  unfold placeHost at h
  cases hns : r.books.states.lookup node with
  | none =>
    rw [hns] at h
    subst h
    exact .inl ⟨rfl, rfl, fun _ _ h => nomatch h⟩
  | some ns =>
    rw [hns] at h
    cases hec : existingOnNode existing node with
    | none =>
      simp only [hec, elim_none] at h
      have none_grows : ∀ ns' c, some ns = some ns' → (none : Option ExistingContainer) = some c →
          share ≤ poolCap c p ∨ ns'.nodeHeadroom p cons false ≤ 0 := fun _ _ _ h => nomatch h
      split at h
      · subst h
        exact .inl ⟨rfl, rfl, none_grows⟩
      rename_i hneed
      split at h
      · subst h
        exact .inl ⟨rfl, rfl, none_grows⟩
      rename_i hroom
      have chunk : ∀ add, ¬add < (if (r.books.newByNode.lookup node).any (0 < poolCapNew · p) = true then (1 : Int)
          else cons.minChunkSizeGiB) → 0 < r.books.newCap node p ∨ cons.minChunkSizeGiB ≤ add := by
        intro add hadd
        unfold newCap
        cases hn : r.books.newByNode.lookup node with
        | none => exact .inr (by simpa [hn] using hadd)
        | some x =>
          by_cases hx : 0 < poolCapNew x p
          · exact .inl hx
          · exact .inr (by simpa [hn, hx] using hadd)
      generalize (if (r.books.newByNode.lookup node).any (0 < poolCapNew · p) = true then (1 : Int)
        else cons.minChunkSizeGiB) = minAdd at h chunk
      split at h <;> subst h
      · exact .inl ⟨rfl, rfl, none_grows⟩
      · rename_i hadd
        exact .inr (.inr ⟨ns, _, rfl, rfl, lt_min (not_le.mp hneed) (not_le.mp hroom), min_le_right _ _,
          chunk _ hadd, rfl, rfl⟩)
    | some c =>
      simp only [hec, elim_some] at h
      split at h
      · rename_i hneed
        subst h
        refine .inl ⟨rfl, rfl, ?_⟩
        rintro _ _ ⟨⟩ ⟨⟩
        exact .inl (by omega)
      rename_i hneed
      split at h <;> subst h
      · rename_i hadd
        refine .inl ⟨rfl, rfl, ?_⟩
        rintro _ _ ⟨⟩ ⟨⟩
        exact .inr (by omega)
      · rename_i hadd
        exact .inr (.inl ⟨ns, c, _, rfl, rfl, by omega, not_le.mp hadd, min_le_right _ _, rfl, rfl⟩)

namespace Move

/-- The node of a move. -/
def node : Move → String
  | .grew node _ _ => node
  | .created node _ _ => node

/-- What it places. -/
def amount : Move → Int
  | .grew _ add _ => add
  | .created _ add _ => add

/-- It is charged with the base. -/
def includeBase : Move → Bool
  | .grew _ _ _ => false
  | .created _ _ includeBase => includeBase

/-- What a move adds to a container. -/
def grownBy (c : ExistingContainer) : Move → Int
  | .grew _ add c' => if c = c' then add else 0
  | .created _ _ _ => 0

/-- What a move adds on a node. -/
def createdOn (n : String) : Move → Int
  | .grew _ _ _ => 0
  | .created node add _ => if n = node then add else 0

/-- The move is about a known node and container. -/
structure Valid (existing : List ExistingContainer) (b : Books) (m : Move) : Prop where
  node : (b.states.lookup m.node).isSome
  container : ∀ node add c, m = .grew node add c → c ∈ existing

/-- What a move takes of a node. -/
def chargeOn (p : PoolKind) (cons : CapacityConstraints) (n : String) (ns : NodeState) (m : Move) : NodeState :=
  if m.node = n then ns.consume p m.amount cons m.includeBase else ns

theorem apply_lookup (fdValue : String) (b : Books) (m : Move) (n : String) :
    (m.apply p cons fdValue b).states.lookup n = (b.states.lookup n).map (chargeOn p cons n · m) := by
  have update : ∀ {b' : Books} {ns : NodeState}, b'.states = b.states → b.states.lookup m.node = some ns →
      (b'.setState m.node (ns.consume p m.amount cons m.includeBase)).states.lookup n =
        (b.states.lookup n).map (chargeOn p cons n · m) := by
    intro b' ns hb h
    rw [lookup_setState, hb]
    by_cases e : n = m.node
    · subst e
      simp [h, chargeOn]
    · have e' : ¬m.node = n := fun h => e h.symm
      simp [e, e', chargeOn]
  have absent : b.states.lookup m.node = none → b.states.lookup n = (b.states.lookup n).map (chargeOn p cons n · m) := by
    intro h
    by_cases e : m.node = n
    · rw [← e, h, map_none]
    · simp [chargeOn, e]
  cases m with
  | grew node add c =>
    simp only [apply]
    split
    · exact absent ‹_›
    · exact update rfl ‹_›
  | created node add base =>
    simp only [apply]
    split
    · exact absent ‹_›
    · exact update rfl ‹_›

end Move

theorem placeHost_cases (fdValue : String) (share : Int) (node : String) (r : FdRun) :
    (placeHost p existing cons fdValue share node r).books = r.books ∧
        (placeHost p existing cons fdValue share node r).moves = r.moves ∨
      ∃ m : Move, m.Valid existing r.books ∧
        (placeHost p existing cons fdValue share node r).moves = r.moves ++ [m] ∧
        (placeHost p existing cons fdValue share node r).books = m.apply p cons fdValue r.books ∧
        Commit p existing cons r.books (m.apply p cons fdValue r.books) := by
  generalize h : placeHost p existing cons fdValue share node r = r'
  rcases placeHost_inv h with ⟨hb, hm, -⟩ | ⟨ns, c, add, hns, hec, -, hpos, hroom, hm, hb⟩ |
    ⟨ns, add, hns, hec, hpos, hroom, -, hm, hb⟩
  · exact .inl ⟨hb, hm⟩
  · refine .inr ⟨.grew node add c, ⟨by simp [Move.node, hns], ?_⟩, hm, ?_, ?_⟩
    · rintro _ _ _ ⟨⟩
      exact (mem_of_existingOnNode hec).1
    · simp only [apply, hns, hb]
    · simp only [apply, hns]
      exact Commit.grow hns hec hpos hroom
  · refine .inr ⟨.created node add _, ⟨by simp [Move.node, hns], by rintro _ _ _ ⟨⟩⟩, hm, ?_, ?_⟩
    · simp only [apply, hns, hb]
    · simp only [apply, hns]
      exact Commit.create hns hec hpos hroom

/-- A run is the moves it lists. -/
structure Ran (p : PoolKind) (existing : List ExistingContainer) (cons : CapacityConstraints) (fdValue : String)
    (b : Books) (r : FdRun) : Prop where
  books : r.books = r.moves.foldl (Move.apply p cons fdValue) b
  commits : Relation.ReflTransGen (Commit p existing cons) b r.books
  valid : ∀ m ∈ r.moves, m.Valid existing b
  nodes : ∀ n, (r.books.states.lookup n).isSome = (b.states.lookup n).isSome

variable {b : Books} {target add : Int} {P : Books → Prop}

theorem Ran.placeHost (h : Ran p existing cons fdValue b r) (share : Int) (node : String) :
    Ran p existing cons fdValue b (placeHost p existing cons fdValue share node r) := by
  rcases placeHost_cases fdValue share node r with ⟨h1, h2⟩ | ⟨m, hv, h1, h2, h3⟩
  · exact ⟨by rw [h1, h2]; exact h.books, by rw [h1]; exact h.commits, by rw [h2]; exact h.valid, by rw [h1]; exact h.nodes⟩
  · refine ⟨?_, by rw [h2]; exact h.commits.tail h3, fun m' hm' => ?_, fun n => ?_⟩
    · rw [h1, h2, foldl_append, ← h.books]
      rfl
    · rw [h1, mem_append, mem_singleton] at hm'
      rcases hm' with hm' | rfl
      · exact h.valid m' hm'
      · exact ⟨h.nodes _ ▸ hv.node, hv.container⟩
    · rw [h2, apply_lookup, isSome_map, h.nodes]

theorem Ran.placeHosts (base rem : Int) :
    ∀ (nodes : List String) (hi : Int) {r : FdRun}, Ran p existing cons fdValue b r →
      Ran p existing cons fdValue b (placeHosts p existing cons fdValue base rem nodes hi r)
  | [], _, _, h => h
  | node :: nodes, hi, _, h => Ran.placeHosts base rem nodes (hi + 1) (h.placeHost _ node)

theorem runFd_ran (target : Int) (fdValue : String) (nodes : List String) (b : Books) :
    Ran p existing cons fdValue b (runFd p existing cons target fdValue nodes b) :=
  Ran.placeHosts _ _ nodes 0 ⟨rfl, .refl, fun _ h => (not_mem_nil h).elim, fun _ => rfl⟩

/-! ### What a move writes -/

/-- A move that is applied (`sign = 1`) or undone (`sign = -1`). -/
inductive Move.Writes (p : PoolKind) (fdValue : String) (sign : Int) (b : Books) : Move → Books → Prop
  | absent {m : Move} (state : b.states.lookup m.node = none) : Writes p fdValue sign b m b
  | grew {node : String} {add amount : Int} {c : ExistingContainer} {ns ns' : NodeState}
      (state : b.states.lookup node = some ns) (nc : ns'.nc = ns.nc) (h : amount = sign * add) :
      Writes p fdValue sign b (.grew node add c) ((b.addGrowth c p amount).setState node ns')
  | created {node : String} {add amount : Int} {base : Bool} {ns ns' : NodeState}
      (state : b.states.lookup node = some ns) (nc : ns'.nc = ns.nc) (h : amount = sign * add) :
      Writes p fdValue sign b (.created node add base) ((b.addNew node fdValue p amount).setState node ns')

theorem Move.apply_writes (b : Books) (m : Move) : m.Writes p fdValue 1 b (m.apply p cons fdValue b) := by
  cases m <;> simp only [apply] <;> split
  · exact .absent ‹_›
  · exact .grew ‹_› (charge_nc ..) (one_mul _).symm
  · exact .absent ‹_›
  · exact .created ‹_› (charge_nc ..) (one_mul _).symm

theorem undoMove_writes (b : Books) (m : Move) : m.Writes p fdValue (-1) b (undoMove p cons fdValue b m) := by
  cases m <;> simp only [undoMove] <;> split
  · exact .absent ‹_›
  · exact .grew ‹_› (charge_nc ..) (neg_one_mul _).symm
  · exact .absent ‹_›
  · exact .created ‹_› (charge_nc ..) (neg_one_mul _).symm

theorem placeFd_writes (init : P b)
    (step : ∀ m ∈ (runFd p existing cons target (b.fdOf g.nodes) g.nodes b).moves, ∀ b₁ b₂ sign, P b₁ →
      m.Writes p (b.fdOf g.nodes) sign b₁ b₂ → P b₂) : P (placeFd p existing cons target b g) := by
  have ran : Ran p existing cons _ b _ := runFd_ran target (b.fdOf g.nodes) g.nodes b
  have hrun : P (runFd p existing cons target (b.fdOf g.nodes) g.nodes b).books := by
    rw [ran.books]
    exact foldlRecOn _ _ init fun b h m hm => step m hm _ _ _ h (m.apply_writes b)
  unfold placeFd
  split
  · exact init
  dsimp only
  split
  · exact foldlRecOn _ _ hrun fun b h m hm => step m hm _ _ _ h (undoMove_writes b m)
  · exact hrun

theorem placeFd_keyed (h : b.Keyed) (g : FdGroup) : (placeFd p existing cons target b g).Keyed := by
  refine placeFd_writes h fun m _ b₁ b₂ sign h hw => ?_
  cases hw with
  | absent _ => exact h
  | grew _ _ _ => exact h.addGrowth.setState
  | created _ _ _ => exact h.addNew.setState

/-! ### Roll-back -/

/-- The books changed by exactly these moves. -/
structure Shifted (p : PoolKind) (existing : List ExistingContainer) (cons : CapacityConstraints) (b : Books)
    (moves : List Move) (b' : Books) : Prop where
  states : ∀ n, b'.states.lookup n = (b.states.lookup n).map (moves.foldl (Move.chargeOn p cons n))
  grown : ∀ c ∈ existing, ∀ q, finalPoolCap c b'.growth q =
    finalPoolCap c b.growth q + if q = p then (moves.map (·.grownBy c)).sum else 0
  new : ∀ n q, b'.newCap n q = b.newCap n q + if q = p then (moves.map (·.createdOn n)).sum else 0
  fds : ∀ n x, b.newByNode.lookup n = some x → ∃ x', b'.newByNode.lookup n = some x' ∧ x'.fdValue = x.fdValue

/-- The same amounts, whatever records were opened. -/
abbrev SameAmounts (p : PoolKind) (existing : List ExistingContainer) (cons : CapacityConstraints) (b b' : Books) : Prop :=
  Shifted p existing cons b [] b'

theorem SameAmounts.refl (b : Books) : SameAmounts p existing cons b b :=
  ⟨by simp, by simp, by simp, fun _ x h => ⟨x, h, rfl⟩⟩

theorem Books.fds_addNew {node fd : String}
    (h : ∀ n x, b.newByNode.lookup n = some x → ∃ x', b'.newByNode.lookup n = some x' ∧ x'.fdValue = x.fdValue) :
    ∀ n x, b.newByNode.lookup n = some x →
      ∃ x', (b'.addNew node fd p add).newByNode.lookup n = some x' ∧ x'.fdValue = x.fdValue := by
  intro n x hx
  obtain ⟨x', hx', hfd⟩ := h n x hx
  rw [lookup_addNew]
  split
  · rename_i e
    subst e
    refine ⟨_, rfl, ?_⟩
    rw [addPoolNew_fdValue, newFor, hx', getD_some, hfd]
  · exact ⟨x', hx', hfd⟩

section Named
variable (names : (existing.map (·.name)).Nodup)
include names

theorem eq_of_name_eq {c' : ExistingContainer} (hc : c ∈ existing) (hc' : c' ∈ existing) (h : c.name = c'.name) :
    c = c' :=
  inj_on_of_nodup_map names hc hc' h

theorem Shifted.addGrowth {moves' : List Move} {node : String} {ns : NodeState} (h : Shifted p existing cons b moves b')
    (hc : c ∈ existing) (states : ∀ n, (b'.setState node ns).states.lookup n =
      (b.states.lookup n).map (moves'.foldl (Move.chargeOn p cons n)))
    (grown : ∀ c', (moves'.map (·.grownBy c')).sum = (moves.map (·.grownBy c')).sum + if c' = c then add else 0)
    (new : ∀ n, (moves'.map (·.createdOn n)).sum = (moves.map (·.createdOn n)).sum) :
    Shifted p existing cons b moves' ((b'.addGrowth c p add).setState node ns) where
  states := states
  grown c' hc' q := by
    rw [setState_growth, finalPoolCap_addGrowth _ (eq_of_name_eq names hc' hc), h.grown c' hc' q, grown]
    by_cases hq : q = p <;> by_cases hcc : c' = c <;> simp [hq, hcc, add_assoc]
  new n q := by
    rw [new]
    exact h.new n q
  fds := h.fds

omit names in
theorem Shifted.addNew {b : Books} {moves' : List Move} {node fd : String} {ns : NodeState} {add : Int}
    (h : Shifted p existing cons b moves b')
    (states : ∀ n, (b'.setState node ns).states.lookup n =
      (b.states.lookup n).map (moves'.foldl (Move.chargeOn p cons n)))
    (grown : ∀ c', (moves'.map (·.grownBy c')).sum = (moves.map (·.grownBy c')).sum)
    (new : ∀ n, (moves'.map (·.createdOn n)).sum = (moves.map (·.createdOn n)).sum + if n = node then add else 0) :
    Shifted p existing cons b moves' ((b'.addNew node fd p add).setState node ns) where
  states := states
  grown c' hc' q := by
    rw [grown]
    exact h.grown c' hc' q
  new n q := by
    rw [Books.newCap_setState, Books.newCap_addNew, h.new n q, new]
    by_cases hq : q = p <;> by_cases hn : n = node <;> simp [hq, hn, add_assoc]
  fds := Books.fds_addNew h.fds

omit names in
theorem Shifted.lookup_node {b : Books} (h : Shifted p existing cons b moves b')
    (hm : m.Valid existing b) : ∃ ns, b'.states.lookup m.node = some ns := by
  rw [← isSome_iff_exists, h.states, isSome_map]
  exact hm.node

theorem Shifted.apply (h : Shifted p existing cons b moves b') (hm : m.Valid existing b) :
    Shifted p existing cons b (moves ++ [m]) (m.apply p cons fdValue b') := by
  have states : ∀ n, (m.apply p cons fdValue b').states.lookup n =
      (b.states.lookup n).map ((moves ++ [m]).foldl (chargeOn p cons n)) := by
    intro n
    rw [apply_lookup, h.states, Option.map_map]
    congr 1
    funext ns
    simp
  obtain ⟨ns, hns⟩ := h.lookup_node hm
  cases m with
  | grew node add c =>
    simp only [Move.node] at hns
    simp only [apply, hns] at states ⊢
    exact h.addGrowth names (hm.container _ _ _ rfl) states (by simp [grownBy]) (by simp [createdOn])
  | created node add base =>
    simp only [Move.node] at hns
    simp only [apply, hns] at states ⊢
    exact h.addNew states (by simp [grownBy]) (by simp [createdOn])

omit names in
theorem unconsume_foldl_chargeOn (n : String) (g : Int) (base : Bool) :
    ∀ (moves : List Move) (ns : NodeState), (moves.foldl (Move.chargeOn p cons n) ns).unconsume p g cons base =
      moves.foldl (Move.chargeOn p cons n) (ns.unconsume p g cons base)
  | [], _ => rfl
  | m :: moves, ns => by
    rw [List.foldl_cons, List.foldl_cons, unconsume_foldl_chargeOn n g base moves]
    congr 1
    unfold Move.chargeOn
    split
    · exact NodeState.unconsume_consume_comm ns p m.amount g cons m.includeBase base
    · rfl

theorem Shifted.undo (h : Shifted p existing cons b (m :: moves) b') (hm : m.Valid existing b) :
    Shifted p existing cons b moves (undoMove p cons fdValue b' m) := by
  obtain ⟨ns, hns⟩ := h.lookup_node hm
  have states : ∀ n, (b'.setState m.node (ns.unconsume p m.amount cons m.includeBase)).states.lookup n =
      (b.states.lookup n).map (moves.foldl (chargeOn p cons n)) := by
    intro n
    have hn := h.states n
    rw [lookup_setState]
    by_cases e : n = m.node
    · subst e
      rw [hns] at hn
      obtain ⟨ns₀, hns₀, heq⟩ := map_eq_some_iff.mp hn.symm
      rw [if_pos rfl, hns₀, ← heq, foldl_cons, unconsume_foldl_chargeOn, chargeOn, if_pos rfl,
        unconsume_consume, map_some]
    · have e' : ¬m.node = n := fun h => e h.symm
      rw [if_neg e, hn]
      congr 1
      funext ns
      rw [foldl_cons, chargeOn, if_neg e']
  cases m with
  | grew node add c =>
    simp only [Move.node] at hns states
    simp only [undoMove, hns]
    refine h.addGrowth names (hm.container _ _ _ rfl) states (fun c' => ?_) (by simp [createdOn])
    by_cases hcc : c' = c <;> simp [hcc, grownBy]
  | created node add base =>
    simp only [Move.node] at hns states
    simp only [undoMove, hns]
    refine h.addNew states (by simp [grownBy]) fun n => ?_
    by_cases hn : n = node <;> simp [hn, createdOn]

theorem Shifted.undoAll (fdValue : String) (h : Shifted p existing cons b moves b')
    (hv : ∀ m ∈ moves, m.Valid existing b) : SameAmounts p existing cons b (rollBack p cons fdValue moves b') := by
  induction moves generalizing b' with
  | nil => exact h
  | cons m moves ih =>
    exact ih (h.undo names (hv m mem_cons_self)) fun m' hm' => hv m' (mem_cons_of_mem _ hm')

theorem Shifted.applyAll (fdValue : String) {done : List Move} (h : Shifted p existing cons b done b')
    (hv : ∀ m ∈ moves, m.Valid existing b) :
    Shifted p existing cons b (done ++ moves) (moves.foldl (Move.apply p cons fdValue) b') := by
  induction moves generalizing done b' with
  | nil => simpa using h
  | cons m moves ih =>
    rw [foldl_cons, append_cons]
    exact ih (h.apply names (hv m mem_cons_self)) fun m' hm' => hv m' (mem_cons_of_mem _ hm')

theorem Ran.rolledBack (h : Ran p existing cons fdValue b r) :
    SameAmounts p existing cons b (rollBack p cons fdValue r.moves r.books) := by
  have shifted : Shifted p existing cons b ([] ++ r.moves) r.books := by
    rw [h.books]
    exact (SameAmounts.refl b).applyAll names fdValue h.valid
  exact shifted.undoAll names fdValue h.valid

theorem placeFd_induct (init : P b)
    (rolledBack : g.nodes ≠ [] → (runFd p existing cons target (b.fdOf g.nodes) g.nodes b).placedFD < target →
      ∀ b', b' = rollBack p cons (b.fdOf g.nodes) (runFd p existing cons target (b.fdOf g.nodes) g.nodes b).moves
        (runFd p existing cons target (b.fdOf g.nodes) g.nodes b).books → SameAmounts p existing cons b b' → P b')
    (commit : ∀ b₁ b₂, P b₁ → Commit p existing cons b₁ b₂ → P b₂) : P (placeFd p existing cons target b g) := by
  have ran : Ran p existing cons _ b _ := runFd_ran target (b.fdOf g.nodes) g.nodes b
  unfold placeFd
  split
  · exact init
  rename_i hne
  dsimp only
  split
  · rename_i hlt
    exact rolledBack hne hlt _ rfl (ran.rolledBack names)
  · exact Relation.ReflTransGen.head_induction_on (motive := fun b' _ => P b' → P _) ran.commits id
      (fun hstep _ ih hb => ih (commit _ _ hb hstep)) init

end Named
end Placement
end WekaOperator.Planner
