import WekaOperator.Planner.Shares

/-! What a failed failure domain leaves behind.

Rolling back restores the nodes and the amounts but not the records that were opened; a placement leaves no trace of a
domain exactly if that domain opened no record. -/

namespace WekaOperator.Planner
open List Option Bool Lib

/-! ### Writes -/

theorem addPoolGrowth_zero (g : ContainerGrowth) (p : PoolKind) : addPoolGrowth g p 0 = g := by
  cases p <;> simp [addPoolGrowth]

theorem addPoolGrowth_add (g : ContainerGrowth) (p : PoolKind) (i j : Int) :
    addPoolGrowth (addPoolGrowth g p i) p j = addPoolGrowth g p (i + j) := by
  cases p <;> simp [addPoolGrowth, add_assoc]

theorem addPoolNew_zero (x : NewContainer) (p : PoolKind) : addPoolNew x p 0 = x := by
  cases p <;> simp [addPoolNew]

theorem addPoolNew_add (x : NewContainer) (p : PoolKind) (i j : Int) :
    addPoolNew (addPoolNew x p i) p j = addPoolNew x p (i + j) := by
  cases p <;> simp [addPoolNew, add_assoc]

namespace Move

/-- What a move, or its undoing, does to a growth record. -/
def growthWrite (p : PoolKind) (sign : Int) (k : String) (o : Option ContainerGrowth) : Move → Option ContainerGrowth
  | .grew _ add c =>
    if k = c.name then
      some (addPoolGrowth (o.getD { name := c.name, newTlcGiB := c.tlcGiB, newQlcGiB := c.qlcGiB }) p (sign * add))
    else o
  | .created _ _ _ => o

/-- What it does to a new-container record. -/
def newWrite (p : PoolKind) (fdValue : String) (sign : Int) (n : String) (o : Option NewContainer) :
    Move → Option NewContainer
  | .grew _ _ _ => o
  | .created node add _ =>
    if n = node then some (addPoolNew (o.getD { node := node, fdValue := fdValue }) p (sign * add)) else o

/-- What a move adds under a name. -/
def grownUnder (k : String) : Move → Int
  | .grew _ add c => if k = c.name then add else 0
  | .created _ _ _ => 0

section
variable {p : PoolKind} {fdValue : String} {sign : Int} {k : String} {m : Move}

theorem growthWrite_of_ne (h : m.record ≠ .growth k) (o : Option ContainerGrowth) : m.growthWrite p sign k o = o := by
  cases m with
  | grew node add c => exact if_neg fun e => h (congrArg Record.growth e.symm)
  | created => rfl

theorem newWrite_of_ne (h : m.record ≠ .new k) (o : Option NewContainer) : m.newWrite p fdValue sign k o = o := by
  cases m with
  | grew => rfl
  | created node add base => exact if_neg fun e => h (congrArg Record.new e.symm)

theorem growthWrite_some (x : ContainerGrowth) :
    m.growthWrite p sign k (some x) = some (addPoolGrowth x p (sign * m.grownUnder k)) := by
  cases m with
  | grew node add c =>
    simp only [growthWrite, grownUnder]
    split
    · rfl
    · rw [mul_zero, addPoolGrowth_zero]
  | created => rw [growthWrite, grownUnder, mul_zero, addPoolGrowth_zero]

theorem newWrite_some (x : NewContainer) :
    m.newWrite p fdValue sign k (some x) = some (addPoolNew x p (sign * m.createdOn k)) := by
  cases m with
  | grew => rw [newWrite, createdOn, mul_zero, addPoolNew_zero]
  | created node add base =>
    simp only [newWrite, createdOn]
    split
    · rfl
    · rw [mul_zero, addPoolNew_zero]

end
end Move

variable {α : Type}

section Writes
variable {p : PoolKind} {cons : CapacityConstraints} {fdValue : String} {sign : Int} {b b' : Books} {m : Move}

theorem Move.Writes.growth (h : m.Writes p fdValue sign b b') (node : (b.states.lookup m.node).isSome) (k : String) :
    b'.growth.lookup k = m.growthWrite p sign k (b.growth.lookup k) := by
  cases h with
  | absent state =>
    rw [state] at node
    cases node
  | grew _ _ h =>
    rw [Books.setState_growth, Books.addGrowth, lookup_insert_eq, h, growthWrite]
    split
    · rename_i e
      rw [e]
      rfl
    · rfl
  | created _ _ _ => rfl

theorem Move.Writes.new (h : m.Writes p fdValue sign b b') (node : (b.states.lookup m.node).isSome) (n : String) :
    b'.newByNode.lookup n = m.newWrite p fdValue sign n (b.newByNode.lookup n) := by
  cases h with
  | absent state =>
    rw [state] at node
    cases node
  | grew _ _ _ => rfl
  | created _ _ h =>
    rw [Books.setState_newByNode, Books.lookup_addNew, h, newWrite]
    split
    · rename_i e
      rw [e]
      rfl
    · rfl

end Writes

/-- A record after moves that are kept or taken back. -/
def rewritten {α : Type} (write : Int → α → Move → α) (moves : List Move) (kept : Bool) (o : α) : α :=
  if kept then moves.foldl (write 1) o else moves.foldl (write (-1)) (moves.foldl (write 1) o)

variable {moves : List Move}

theorem rewritten_eq_self {write : Int → α → Move → α} (h : ∀ m ∈ moves, ∀ sign o, write sign o m = o) (kept : Bool)
    (o : α) : rewritten write moves kept o = o := by
  have fold : ∀ sign o, moves.foldl (write sign) o = o := fun sign o =>
    foldlRecOn (motive := fun o' => o' = o) moves (write sign) rfl fun o' ho m hm => (h m hm sign o').trans ho
  unfold rewritten
  split
  · exact fold 1 o
  · rw [fold 1, fold (-1)]

theorem rewritten_restores {write : Int → Option α → Move → Option α} (op : α → Int → α) (amount : Move → Int)
    (op_zero : ∀ x, op x 0 = x) (op_op : ∀ x i j, op (op x i) j = op x (i + j))
    (adds : ∀ m sign x, write sign (some x) m = some (op x (sign * amount m))) {o : Option α}
    (absent : o = none → ∀ m ∈ moves, ∀ sign o, write sign o m = o) : rewritten write moves false o = o := by
  cases o with
  | none => exact rewritten_eq_self (absent rfl) false none
  | some x =>
    have fold : ∀ (sign : Int) (ms : List Move) (x : α),
        ms.foldl (write sign) (some x) = some (op x (sign * (ms.map amount).sum)) := by
      intro sign ms
      induction ms with
      | nil => exact fun x => by simp [op_zero]
      | cons m ms ih =>
        intro x
        rw [foldl_cons, adds, ih, op_op, map_cons, sum_cons, mul_add]
    have hsum : (1 : Int) * (moves.map amount).sum + -1 * (moves.map amount).sum = 0 := by omega
    rw [rewritten, if_neg Bool.false_ne_true, fold 1, fold (-1), op_op, hsum, op_zero]

/-! ### A domain's placement, entry by entry -/

section Entry
variable {p : PoolKind} {existing : List ExistingContainer} {cons : CapacityConstraints} {target : Int} {b b' : Books}
  {g : FdGroup}

/-- The failure domain reaches the level. -/
def fdReaches (p : PoolKind) (existing : List ExistingContainer) (cons : CapacityConstraints) (target : Int) (b : Books)
    (g : FdGroup) : Bool :=
  decide (target ≤ (runFd p existing cons target (b.fdOf g.nodes) g.nodes b).placedFD)

/-- The moves on a failure domain. -/
def fdMoves (p : PoolKind) (existing : List ExistingContainer) (cons : CapacityConstraints) (target : Int) (b : Books)
    (g : FdGroup) : List Move :=
  (runFd p existing cons target (b.fdOf g.nodes) g.nodes b).moves

theorem placeFd_read (read : Books → α) (write : Int → α → Move → α)
    (step : ∀ {sign b₁ b₂} {m : Move}, m.Writes p (b.fdOf g.nodes) sign b₁ b₂ → (b₁.states.lookup m.node).isSome →
      read b₂ = write sign (read b₁) m) :
    read (placeFd p existing cons target b g) =
      rewritten write (fdMoves p existing cons target b g) (fdReaches p existing cons target b g) (read b) := by
  have ran : Ran p existing cons _ b _ := runFd_ran target (b.fdOf g.nodes) g.nodes b
  unfold placeFd fdMoves fdReaches rewritten
  split
  · rename_i he
    rw [he]
    split <;> rfl
  have hvalid : ∀ m ∈ (runFd p existing cons target (b.fdOf g.nodes) g.nodes b).moves, (b.states.lookup m.node).isSome :=
    fun m hm => (ran.valid m hm).node
  have hrun := read_foldl (@Move.apply_writes _ p cons) step _ b hvalid
  rw [← ran.books] at hrun
  dsimp only
  split
  · rename_i hlt
    rw [if_neg (by simpa using hlt), ← hrun]
    refine read_foldl undoMove_writes step _ _ fun m hm => ?_
    rw [ran.nodes]
    exact hvalid m hm
  · rename_i hge
    rw [if_pos (by simpa using hge)]
    exact hrun

theorem placeFd_growth (target : Int) (b : Books) (g : FdGroup) (k : String) :
    (placeFd p existing cons target b g).growth.lookup k =
      rewritten (fun sign => Move.growthWrite p sign k) (fdMoves p existing cons target b g)
        (fdReaches p existing cons target b g) (b.growth.lookup k) :=
  placeFd_read (·.growth.lookup k) _ fun hw node => hw.growth node k

theorem placeFd_new (target : Int) (b : Books) (g : FdGroup) (n : String) :
    (placeFd p existing cons target b g).newByNode.lookup n =
      rewritten (fun sign => Move.newWrite p (b.fdOf g.nodes) sign n) (fdMoves p existing cons target b g)
        (fdReaches p existing cons target b g) (b.newByNode.lookup n) :=
  placeFd_read (·.newByNode.lookup n) _ fun hw node => hw.new node n

theorem Agree.fdOf {nodes : List String} (h : Agree nodes b b') : b'.fdOf nodes = b.fdOf nodes := by
  cases nodes with
  | nil => rfl
  | cons n nodes =>
    unfold Books.fdOf
    rw [head?_cons, bind_some, bind_some, (h n mem_cons_self).1]

theorem fdMoves_congr (target : Int) {g : FdGroup} (nodup : g.nodes.Nodup) (h : Agree g.nodes b b') :
    fdMoves p existing cons target b' g = fdMoves p existing cons target b g :=
  (runFd_congr target _ _ nodup h).1

theorem fdReaches_congr (target : Int) {g : FdGroup} (nodup : g.nodes.Nodup) (h : Agree g.nodes b b') :
    fdReaches p existing cons target b' g = fdReaches p existing cons target b g := by
  unfold fdReaches
  rw [(runFd_congr target (b.fdOf g.nodes) (b'.fdOf g.nodes) nodup h).2]

theorem fdMoves_taken (target : Int) (b : Books) (g : FdGroup) :
    Taken existing g.nodes (fdMoves p existing cons target b g) :=
  runFd_taken target _ g.nodes b

end Entry

/-! ### Equal books -/

/-- The same books, whatever the order of their maps. -/
structure Books.Same (b b' : Books) : Prop where
  states : ∀ n, b'.states.lookup n = b.states.lookup n
  growth : ∀ k, b'.growth.lookup k = b.growth.lookup k
  newByNode : ∀ n, b'.newByNode.lookup n = b.newByNode.lookup n

variable {chosen : List FdGroup}

namespace Books.Same
variable {p : PoolKind} {existing : List ExistingContainer} {cons : CapacityConstraints} {b b' b'' : Books}

theorem refl (b : Books) : b.Same b := ⟨fun _ => rfl, fun _ => rfl, fun _ => rfl⟩

theorem symm (h : b.Same b') : b'.Same b :=
  ⟨fun n => (h.states n).symm, fun k => (h.growth k).symm, fun n => (h.newByNode n).symm⟩

theorem trans (h : b.Same b') (h' : b'.Same b'') : b.Same b'' :=
  ⟨fun n => (h'.states n).trans (h.states n), fun k => (h'.growth k).trans (h.growth k),
    fun n => (h'.newByNode n).trans (h.newByNode n)⟩

theorem agree (h : b.Same b') (nodes : List String) : Agree nodes b b' := fun n _ => ⟨h.states n, h.newByNode n⟩

theorem has (h : b.Same b') (rec : Record) : b'.has rec = b.has rec := by
  cases rec with
  | growth k => exact congrArg isSome (h.growth k)
  | new n => exact congrArg isSome (h.newByNode n)

variable (names : (existing.map (·.name)).Nodup)
include names

theorem placeFd (h : b.Same b') (target : Int) {g : FdGroup} (nodup : g.nodes.Nodup) :
    (Planner.placeFd p existing cons target b g).Same (Planner.placeFd p existing cons target b' g) := by
  have hm := @fdMoves_congr p existing cons b b' target g nodup (h.agree _)
  have hr := @fdReaches_congr p existing cons b b' target g nodup (h.agree _)
  have ht := @fdTrace_congr p existing cons b b' target g nodup (h.agree _)
  refine ⟨fun n => ?_, fun k => ?_, fun n => ?_⟩
  · rw [(placeFd_shifted names target b' g).states n, (placeFd_shifted names target b g).states n, ht, h.states n]
  · rw [placeFd_growth, placeFd_growth, hm, hr, h.growth k]
  · rw [placeFd_new, placeFd_new, hm, hr, (h.agree g.nodes).fdOf, h.newByNode n]

theorem placeUniform (h : b.Same b') (target : Int) (nodup : ∀ g ∈ chosen, g.nodes.Nodup) :
    (Planner.placeUniform p existing cons target chosen b).Same (Planner.placeUniform p existing cons target chosen b') := by
  induction chosen generalizing b b' with
  | nil => exact h
  | cons g gs ih =>
    exact ih (h.placeFd names target (nodup g mem_cons_self)) fun g' hg' => nodup g' (mem_cons_of_mem _ hg')

end Books.Same

/-! ### Failed domains -/

section Failed
variable (p : PoolKind) (existing : List ExistingContainer) (cons : CapacityConstraints) (target : Int)

/-- The failure domains that reach the level. -/
def reachedFds : List FdGroup → Books → List FdGroup
  | [], _ => []
  | g :: gs, b =>
    let rest := reachedFds gs (placeFd p existing cons target b g)
    if fdReaches p existing cons target b g then g :: rest else rest

/-- The domain falls short and leaves a record behind. -/
def fdLeaves (b : Books) (g : FdGroup) : Bool :=
  decide (((evenShares target g.nodes).map fun s => (hostTurn p existing cons b s).placedFD).sum < target) &&
    (evenShares target g.nodes).any fun s => (hostTurn p existing cons b s).moves.any fun m => !b.has m.record

end Failed

theorem disjoint_of_nodup_flatten (h : (chosen.map (·.nodes)).flatten.Nodup) {g g' : FdGroup}
    (hg : g ∈ chosen) (hg' : g' ∈ chosen) (hne : g ≠ g') : ∀ n ∈ g.nodes, n ∉ g'.nodes := by
  induction chosen with
  | nil => cases hg
  | cons x gs ih =>
    rw [map_cons, flatten_cons, nodup_append] at h
    obtain ⟨-, hgs, hdisj⟩ := h
    have apart : ∀ y ∈ gs, ∀ n ∈ x.nodes, n ∉ y.nodes := fun y hy n hn hn' =>
      hdisj n hn n (mem_flatten.mpr ⟨_, mem_map_of_mem hy, hn'⟩) rfl
    rcases mem_cons.mp hg with rfl | hin <;> rcases mem_cons.mp hg' with rfl | hin'
    · exact absurd rfl hne
    · exact apart g' hin'
    · exact fun n hn hn' => apart g hin n hn' hn
    · exact ih hgs hin hin'

section Traceless
variable {p : PoolKind} {existing : List ExistingContainer} {cons : CapacityConstraints} {target : Int} {b : Books}
  {g g' : FdGroup}

theorem fdLeaves_eq (nodup : g.nodes.Nodup) : fdLeaves p existing cons target b g =
    (!fdReaches p existing cons target b g && (fdMoves p existing cons target b g).any fun m => !b.has m.record) := by
  obtain ⟨hm, hp⟩ := @runFd_turns p existing cons target (b.fdOf g.nodes) g.nodes nodup b
  unfold fdLeaves fdReaches fdMoves
  rw [hm, hp, any_flatMap, ← decide_not, ← decide_eq_decide.mpr not_le]

theorem fdTrace_any (target : Int) (b : Books) (g : FdGroup) (f : Move → Bool) :
    (fdTrace p existing cons target b g).any (fun t => f t.move) = (fdMoves p existing cons target b g).any f := by
  unfold fdTrace fdMoves
  split
  · rename_i he
    rw [he]
    rfl
  · dsimp only
    rw [List.any_map]
    rfl

theorem fdMoves_records (names : (existing.map (·.name)).Nodup) {b' : Books} (disjoint : ∀ n ∈ g.nodes, n ∉ g'.nodes)
    {m m' : Move} (hm : m ∈ fdMoves p existing cons target b g) (hm' : m' ∈ fdMoves p existing cons target b' g') :
    m.record ≠ m'.record := by
  have taken := @fdMoves_taken p existing cons target b g
  have taken' := @fdMoves_taken p existing cons target b' g'
  have hn : m.node ∈ g.nodes := taken.nodes.subset (mem_map_of_mem hm)
  have hn' : m'.node ∈ g'.nodes := taken'.nodes.subset (mem_map_of_mem hm')
  have hc := taken.container m hm
  have hc' := taken'.container m' hm'
  have hne : m.node ≠ m'.node := fun e => disjoint _ hn (e ▸ hn')
  intro h
  cases m with
  | grew node add c =>
    cases m' with
    | grew node' add' c' =>
      obtain ⟨hmem, hnode, -⟩ := mem_of_existingOnNode hc
      obtain ⟨hmem', hnode', -⟩ := mem_of_existingOnNode hc'
      have : c = c' := eq_of_name_eq names hmem hmem' (Record.growth.inj h)
      exact hne (hnode.symm.trans (this ▸ hnode'))
    | created => cases h
  | created node add base =>
    cases m' with
    | grew => cases h
    | created node' add' base' => exact hne (Record.new.inj h)

theorem placeFd_undone (names : (existing.map (·.name)).Nodup) (short : fdReaches p existing cons target b g = false)
    (present : ∀ m ∈ fdMoves p existing cons target b g, b.has m.record = true) :
    b.Same (placeFd p existing cons target b g) := by
  refine ⟨fun n => ?_, fun k => ?_, fun n => ?_⟩
  · have hnil : keptFor p (fdTrace p existing cons target b g) = [] := by
      unfold fdReaches at short
      unfold fdTrace
      split
      · rfl
      · simp [keptFor, List.filter_map, Function.comp_def, short]
    have hs := (@placeFd_shifted p existing cons names target b g).states n
    rw [hnil] at hs
    simpa using hs
  · rw [placeFd_growth, short]
    refine rewritten_restores (fun x => addPoolGrowth x p) (Move.grownUnder k) (addPoolGrowth_zero · p)
      (addPoolGrowth_add · p) (fun _ _ x => Move.growthWrite_some x) fun hk m hm sign o => Move.growthWrite_of_ne ?_ o
    intro e
    have := present m hm
    rw [e, Books.has, hk] at this
    cases this
  · rw [placeFd_new, short]
    refine rewritten_restores (fun x => addPoolNew x p) (Move.createdOn n) (addPoolNew_zero · p)
      (addPoolNew_add · p) (fun _ _ x => Move.newWrite_some x) fun hn m hm sign o => Move.newWrite_of_ne ?_ o
    intro e
    have := present m hm
    rw [e, Books.has, hn] at this
    cases this

theorem reachedFds_eq (nodup : (chosen.map (·.nodes)).flatten.Nodup) (b : Books) :
    reachedFds p existing cons target chosen b = chosen.filter (fdReaches p existing cons target b) := by
  induction chosen generalizing b with
  | nil => rfl
  | cons g gs ih =>
    rw [map_cons, flatten_cons, nodup_append] at nodup
    obtain ⟨-, hgs, hdisj⟩ := nodup
    have hrest : gs.filter (fdReaches p existing cons target (placeFd p existing cons target b g)) =
        gs.filter (fdReaches p existing cons target b) := by
      refine filter_congr fun g' hg' => ?_
      have hsub := sublist_flatten_of_mem (mem_map_of_mem (f := FdGroup.nodes) hg')
      refine fdReaches_congr target (hgs.sublist hsub) (placeFd_agree target b fun n hn hn' => ?_)
      exact hdisj n hn n (hsub.subset hn') rfl
    rw [reachedFds, ih hgs, hrest, filter_cons]

theorem placeUniform_has (nodup : (chosen.map (·.nodes)).flatten.Nodup) (b : Books) (rec : Record) :
    (placeUniform p existing cons target chosen b).has rec =
      (b.has rec || chosen.any fun g => (fdMoves p existing cons target b g).any fun m => m.record = rec) := by
  have htrace := @Request.uniformTrace_induct p existing cons target
    (fun trace b' => b'.has rec = (b.has rec || trace.any fun t => t.move.record = rec)) chosen
    (fun g _ trace b' h => by rw [placeFd_has, h, List.any_append, Bool.or_assoc]) [] b (by simp)
  rw [htrace, nil_append, uniformTrace_eq target nodup, any_flatMap]
  simp only [fdTrace_any target b _ fun m => decide (m.record = rec)]

theorem fdLeaves_placeFd (names : (existing.map (·.name)).Nodup) (nodup : g'.nodes.Nodup)
    (disjoint : ∀ n ∈ g.nodes, n ∉ g'.nodes) :
    fdLeaves p existing cons target (placeFd p existing cons target b g) g' = fdLeaves p existing cons target b g' := by
  have hagree : Agree g'.nodes b (placeFd p existing cons target b g) := placeFd_agree target b disjoint
  rw [fdLeaves_eq nodup, fdLeaves_eq nodup, fdReaches_congr target nodup hagree, fdMoves_congr target nodup hagree]
  refine congrArg _ (Bool.eq_iff_iff.mpr ?_)
  rw [List.any_eq_true, List.any_eq_true]
  refine exists_congr fun m => and_congr_right fun hm => ?_
  have hrec : ((fdMoves p existing cons target b g).any fun m' => m'.record = m.record) = false := by
    rw [List.any_eq_false]
    intro m' hm'
    simpa using fdMoves_records names disjoint hm' hm
  rw [placeFd_has, fdTrace_any target b g fun m' => decide (m'.record = m.record), hrec, Bool.or_false]

theorem placeUniform_traceless (names : (existing.map (·.name)).Nodup)
    (nodup : (chosen.map (·.nodes)).flatten.Nodup) (h : ∀ g ∈ chosen, fdLeaves p existing cons target b g = false) :
    (placeUniform p existing cons target (reachedFds p existing cons target chosen b) b).Same
      (placeUniform p existing cons target chosen b) := by
  induction chosen generalizing b with
  | nil => exact .refl b
  | cons g gs ih =>
    have hnodes : ∀ g' ∈ g :: gs, g'.nodes.Nodup := fun g' hg' =>
      nodup.sublist (sublist_flatten_of_mem (mem_map_of_mem hg'))
    rw [map_cons, flatten_cons, nodup_append] at nodup
    obtain ⟨-, hgs, hdisj⟩ := nodup
    have hrest : ∀ g' ∈ gs, fdLeaves p existing cons target (placeFd p existing cons target b g) g' = false := by
      intro g' hg'
      rw [fdLeaves_placeFd names (hnodes g' (mem_cons_of_mem _ hg'))]
      · exact h g' (mem_cons_of_mem _ hg')
      · exact fun n hn hn' => hdisj n hn n (mem_flatten.mpr ⟨_, mem_map_of_mem hg', hn'⟩) rfl
    have hrun := ih hgs hrest
    rw [reachedFds]
    cases hr : fdReaches p existing cons target b g with
    | true => exact hrun
    | false =>
      -- The failed domain changed nothing, so the others start from equal books.
      have hleaves := h g mem_cons_self
      rw [fdLeaves_eq (hnodes g List.mem_cons_self), hr, Bool.not_false, Bool.true_and, List.any_eq_false] at hleaves
      have hundone : b.Same (placeFd p existing cons target b g) :=
        placeFd_undone names hr fun m hm => by simpa using hleaves m hm
      refine .trans (hundone.placeUniform names target fun g' hg' => ?_) hrun
      rw [reachedFds_eq hgs] at hg'
      exact hnodes g' (mem_cons_of_mem _ (mem_filter.mp hg').1)

end Traceless

/-- A placement is the placement of the domains that reach its level if and only if no domain that fails
    to reach it opens a growth record or a new container. -/
theorem placeUniform_traceless_iff (p : PoolKind) (existing : List ExistingContainer) (cons : CapacityConstraints)
    (target : Int) (chosen : List FdGroup) (b : Books) (names : (existing.map (·.name)).Nodup)
    (disjoint : (chosen.map (·.nodes)).flatten.Nodup) :
    (placeUniform p existing cons target (reachedFds p existing cons target chosen b) b).Same
        (placeUniform p existing cons target chosen b) ↔
      ∀ g ∈ chosen, fdLeaves p existing cons target b g = false := by
  refine ⟨fun same g hg => ?_, placeUniform_traceless names disjoint⟩
  by_contra hleaves
  have hnodes : g.nodes.Nodup := disjoint.sublist (List.sublist_flatten_of_mem (List.mem_map_of_mem hg))
  rw [Bool.not_eq_false, fdLeaves_eq hnodes, Bool.and_eq_true, Bool.not_eq_true', List.any_eq_true] at hleaves
  obtain ⟨hr, m, hm, hnew⟩ := hleaves
  rw [Bool.not_eq_true'] at hnew
  have hsub : ((reachedFds p existing cons target chosen b).map (·.nodes)).flatten.Nodup := by
    rw [reachedFds_eq disjoint]
    exact disjoint.sublist (List.filter_sublist.map _).flatten
  have hhas := same.has m.record
  rw [placeUniform_has disjoint, placeUniform_has hsub, hnew, Bool.false_or, Bool.false_or] at hhas
  have hall : (chosen.any fun g => (fdMoves p existing cons target b g).any fun m' => m'.record = m.record) = true :=
    List.any_eq_true.mpr ⟨g, hg, List.any_eq_true.mpr ⟨m, hm, by simp⟩⟩
  rw [hall, reachedFds_eq disjoint, eq_comm, List.any_eq_true] at hhas
  obtain ⟨g', hg', hany⟩ := hhas
  obtain ⟨m', hm', hrec⟩ := List.any_eq_true.mp hany
  obtain ⟨hmem, hr'⟩ := List.mem_filter.mp hg'
  have hne : g ≠ g' := by
    rintro rfl
    rw [hr] at hr'
    cases hr'
  have hrec' : m'.record = m.record := by simpa using hrec
  exact fdMoves_records names (disjoint_of_nodup_flatten disjoint hg hmem hne) hm hm' hrec'.symm

/-- At 800 GiB both hosts take their half. -/
theorem placeUniform_traceless_pair :
    (∀ g ∈ [({ nodes := ["n1", "n2"] } : FdGroup)], fdLeaves .tlc [] pairCons 800 unevenPair g = false) ∧
      (placeUniform .tlc [] pairCons 800 (reachedFds .tlc [] pairCons 800 [{ nodes := ["n1", "n2"] }] unevenPair)
        unevenPair).Same (placeUniform .tlc [] pairCons 800 [{ nodes := ["n1", "n2"] }] unevenPair) := by
  have none : ∀ g ∈ [({ nodes := ["n1", "n2"] } : FdGroup)], fdLeaves .tlc [] pairCons 800 unevenPair g = false := by
    decide +kernel
  exact ⟨none, (placeUniform_traceless_iff .tlc [] pairCons 800 [{ nodes := ["n1", "n2"] }] unevenPair (by decide)
    (by decide)).mpr none⟩

/-- At 1000 GiB the second host has no room for its half and the domain is rolled back, but its containers
    stay, and QLC placed on `n1` next is not charged the base memory. -/
theorem placeUniform_leaves_pair :
    reachedFds .tlc [] pairCons 1000 [{ nodes := ["n1", "n2"] }] unevenPair = [] ∧
      ¬(placeUniform .tlc [] pairCons 1000 (reachedFds .tlc [] pairCons 1000 [{ nodes := ["n1", "n2"] }] unevenPair)
        unevenPair).Same (placeUniform .tlc [] pairCons 1000 [{ nodes := ["n1", "n2"] }] unevenPair) ∧
      ((placeUniform .qlc [] pairCons 400 [{ nodes := ["n1"] }] unevenPair).states.lookup "n1").map (·.memoryMiB) =
        some 89000 ∧
      ((placeUniform .qlc [] pairCons 400 [{ nodes := ["n1"] }]
        (placeUniform .tlc [] pairCons 1000 [{ nodes := ["n1", "n2"] }] unevenPair)).states.lookup "n1").map (·.memoryMiB) =
        some 97000 := by
  refine ⟨by decide +kernel, fun same => ?_, by decide +kernel, by decide +kernel⟩
  have hnew := congrArg isSome (same.newByNode "n1")
  revert hnew
  decide +kernel

end WekaOperator.Planner
