import WekaOperator.Planner.Coverage

/-! The trace of a run: every move of every placement, in order, with whether its failure domain reached the target. -/

namespace WekaOperator.Planner
open List Option Bool Lib

/-! ### Records -/

/-- A record that a placement opens. -/
inductive Record
  | growth (name : String)
  | new (node : String)
  deriving DecidableEq, Repr

namespace Move

/-- The record of a move. -/
def record : Move → Record
  | .grew _ _ c => .growth c.name
  | .created node _ _ => .new node

/-- The container it grew. -/
def container : Move → Option ExistingContainer
  | .grew _ _ c => some c
  | .created _ _ _ => none

end Move

/-- The record is there. -/
def Books.has (b : Books) : Record → Bool
  | .growth name => (b.growth.lookup name).isSome
  | .new node => (b.newByNode.lookup node).isSome

variable {m : Move} {q : PoolKind}

section Has
variable {p : PoolKind} {existing : List ExistingContainer} {cons : CapacityConstraints}

theorem Books.has_setState (b : Books) (node : String) (ns : NodeState) (rec : Record) :
    (b.setState node ns).has rec = b.has rec := by
  cases rec <;> rfl

theorem Books.has_addGrowth (b : Books) (c : ExistingContainer) (add : Int) (rec : Record) :
    (b.addGrowth c p add).has rec = (b.has rec || decide (Record.growth c.name = rec)) := by
  cases rec with
  | growth name =>
    simp only [has, addGrowth, lookup_insert_eq, Record.growth.injEq]
    by_cases h : name = c.name
    · simp [h]
    · have h' : ¬c.name = name := fun e => h e.symm
      simp [h, h']
  | new node => simp [has]

theorem Books.has_addNew (b : Books) (node fd : String) (add : Int) (rec : Record) :
    (b.addNew node fd p add).has rec = (b.has rec || decide (Record.new node = rec)) := by
  cases rec with
  | growth name => simp [has]
  | new n =>
    simp only [has, lookup_addNew, Record.new.injEq]
    by_cases h : n = node
    · simp [h]
    · have h' : ¬node = n := fun e => h e.symm
      simp [h, h']

/-- The nodes are the same, whatever they have left. -/
def SameNodes (b b' : Books) : Prop := ∀ n, (b'.states.lookup n).map (·.nc) = (b.states.lookup n).map (·.nc)

variable {fdValue : String} {sign : Int}

namespace SameNodes
variable {b b' b'' : Books}

theorem refl (b : Books) : SameNodes b b := fun _ => rfl

theorem trans (h : SameNodes b b') (h' : SameNodes b' b'') : SameNodes b b'' := fun n => (h' n).trans (h n)

theorem isSome (h : SameNodes b b') (n : String) : (b'.states.lookup n).isSome = (b.states.lookup n).isSome := by
  rw [← isSome_map (f := NodeState.nc), h n, isSome_map]

theorem setState {node : String} {ns ns' : NodeState} (hs : b'.states = b.states) (hns : b.states.lookup node = some ns)
    (hnc : ns'.nc = ns.nc) : SameNodes b (b'.setState node ns') := by
  intro n
  rw [Books.lookup_setState, hs]
  split
  · rename_i e
    rw [e, hns, map_some, map_some, hnc]
  · rfl

theorem writes (h : m.Writes p fdValue sign b b') : SameNodes b b' := by
  cases h with
  | absent _ => exact refl b
  | grew state nc _ => exact setState rfl state nc
  | created state nc _ => exact setState rfl state nc

end SameNodes

theorem read_foldl {α : Type} {read : Books → α} {f : Books → Move → Books} {write : α → Move → α}
    {fdValue : String} {sign : Int} (writes : ∀ b (m : Move), m.Writes p fdValue sign b (f b m))
    (step : ∀ {b b' : Books} {m : Move}, m.Writes p fdValue sign b b' → (b.states.lookup m.node).isSome →
      read b' = write (read b) m)
    (moves : List Move) (b : Books) (h : ∀ m ∈ moves, (b.states.lookup m.node).isSome) :
    read (moves.foldl f b) = moves.foldl write (read b) := by
  induction moves generalizing b with
  | nil => rfl
  | cons m moves ih =>
    rw [foldl_cons, foldl_cons, ih, step (writes b m) (h m mem_cons_self)]
    intro m' hm'
    rw [(SameNodes.writes (writes b m)).isSome]
    exact h m' (mem_cons_of_mem _ hm')

theorem Move.Writes.has {b b' : Books} (h : m.Writes p fdValue sign b b') (node : (b.states.lookup m.node).isSome)
    (rec : Record) : b'.has rec = (b.has rec || decide (m.record = rec)) := by
  cases h with
  | absent state =>
    rw [state] at node
    cases node
  | grew _ _ _ =>
    rw [Books.has_setState, Books.has_addGrowth]
    rfl
  | created _ _ _ =>
    rw [Books.has_setState, Books.has_addNew]
    rfl

theorem has_foldl {f : Books → Move → Books} (writes : ∀ b (m : Move), m.Writes p fdValue sign b (f b m))
    (moves : List Move) (b : Books) (h : ∀ m ∈ moves, (b.states.lookup m.node).isSome) (rec : Record) :
    (moves.foldl f b).has rec = (b.has rec || moves.any fun m => m.record = rec) := by
  rw [@read_foldl p _ (·.has rec) f (fun o m => o || decide (m.record = rec)) _ _ writes (fun hw node => hw.has node rec)
    moves b h]
  generalize b.has rec = o
  induction moves generalizing o with
  | nil => simp
  | cons m moves ih => rw [foldl_cons, ih fun m' hm' => h m' (mem_cons_of_mem _ hm'), any_cons, Bool.or_assoc]

/-! ### One failure domain -/

/-- The moves of a failure domain: one a host, each positive. -/
structure Taken (existing : List ExistingContainer) (nodes : List String) (moves : List Move) : Prop where
  nodes : (moves.map (·.node)).Sublist nodes
  pos : ∀ m ∈ moves, 0 < m.amount
  container : ∀ m ∈ moves, existingOnNode existing m.node = m.container

theorem placeHost_taken (fdValue : String) (share : Int) (node : String) (r : FdRun) :
    ∃ moves, (placeHost p existing cons fdValue share node r).moves = r.moves ++ moves ∧ Taken existing [node] moves := by
  generalize h : placeHost p existing cons fdValue share node r = r'
  rcases placeHost_inv h with ⟨-, hm, -⟩ | ⟨ns, c, add, -, hec, -, hpos, -, hm, -⟩ | ⟨ns, add, -, hec, hpos, -, -, hm, -⟩
  · exact ⟨[], by simpa using hm, by simp, by simp, by simp⟩
  · refine ⟨_, hm, by simp [Move.node], ?_, ?_⟩
    · simpa [Move.amount] using hpos
    · simpa [Move.node, Move.container] using hec
  · refine ⟨_, hm, by simp [Move.node], ?_, ?_⟩
    · simpa [Move.amount] using hpos
    · simpa [Move.node, Move.container] using hec

theorem placeHosts_taken (fdValue : String) (base rem : Int) (nodes : List String) (hi : Int) (r : FdRun) :
    ∃ moves, (placeHosts p existing cons fdValue base rem nodes hi r).moves = r.moves ++ moves ∧
      Taken existing nodes moves := by
  induction nodes generalizing hi r with
  | nil => exact ⟨[], by simp [placeHosts], by simp, by simp, by simp⟩
  | cons node nodes ih =>
    rw [placeHosts]
    generalize hr : placeHost p existing cons fdValue (if hi < rem then base + 1 else base) node r = r'
    obtain ⟨first, hfirst, t₁⟩ := hr ▸ placeHost_taken fdValue _ node r
    obtain ⟨rest, hrest, t₂⟩ := ih (hi + 1) r'
    refine ⟨first ++ rest, ?_, ?_, ?_, ?_⟩
    · rw [hrest, hfirst, append_assoc]
    · rw [map_append]
      exact t₁.nodes.append t₂.nodes
    · exact fun m hm => (mem_append.mp hm).elim (t₁.pos m) (t₂.pos m)
    · exact fun m hm => (mem_append.mp hm).elim (t₁.container m) (t₂.container m)

theorem runFd_taken (target : Int) (fdValue : String) (nodes : List String) (b : Books) :
    Taken existing nodes (runFd p existing cons target fdValue nodes b).moves := by
  unfold runFd
  obtain ⟨moves, hm, taken⟩ := @placeHosts_taken p existing cons fdValue (target.tdiv nodes.length)
    (target.tmod nodes.length) nodes 0 { books := b }
  rw [hm, nil_append]
  exact taken

end Has

/-- A move, its pool and whether its failure domain kept it. -/
structure Placement where
  pool : PoolKind
  move : Move
  kept : Bool
  deriving DecidableEq, Repr

/-- The moves of a pool that were kept. -/
def keptFor (q : PoolKind) (trace : List Placement) : List Move :=
  (trace.filter fun t => t.kept && decide (t.pool = q)).map (·.move)

theorem keptFor_append (q : PoolKind) (l l' : List Placement) : keptFor q (l ++ l') = keptFor q l ++ keptFor q l' := by
  simp [keptFor]

theorem mem_keptFor {trace : List Placement} : m ∈ keptFor q trace ↔ ⟨q, m, true⟩ ∈ trace := by
  simp only [keptFor, List.mem_map, List.mem_filter, Bool.and_eq_true, decide_eq_true_eq]
  constructor
  · rintro ⟨⟨pool, move, kept⟩, ⟨ht, rfl, rfl⟩, rfl⟩
    exact ht
  · intro h
    exact ⟨_, ⟨h, rfl, rfl⟩, rfl⟩

section Trace
variable (p : PoolKind) (existing : List ExistingContainer) (cons : CapacityConstraints)

/-- The placements on a failure domain. -/
def fdTrace (target : Int) (b : Books) (g : FdGroup) : List Placement :=
  if g.nodes = [] then [] else
  let r := runFd p existing cons target (b.fdOf g.nodes) g.nodes b
  r.moves.map fun m => ⟨p, m, decide (target ≤ r.placedFD)⟩

/-- Those on all chosen ones. -/
def uniformTrace (target : Int) : List FdGroup → Books → List Placement
  | [], _ => []
  | g :: gs, b => fdTrace p existing cons target b g ++ uniformTrace target gs (placeFd p existing cons target b g)

end Trace

section Domain
variable {p : PoolKind} {existing : List ExistingContainer} {cons : CapacityConstraints} {target : Int} {b : Books}
  {g : FdGroup}

theorem fdTrace_taken (target : Int) (b : Books) (g : FdGroup) :
    Taken existing g.nodes ((fdTrace p existing cons target b g).map (·.move)) := by
  unfold fdTrace
  split
  · exact ⟨by simp, by simp, by simp⟩
  · dsimp only
    rw [List.map_map]
    exact (map_id _).symm ▸ runFd_taken target (b.fdOf g.nodes) g.nodes b

theorem fdTrace_pool {t : Placement} (h : t ∈ fdTrace p existing cons target b g) : t.pool = p := by
  unfold fdTrace at h
  split at h
  · cases h
  · obtain ⟨m, -, rfl⟩ := mem_map.mp h
    rfl

theorem fdTrace_keptFor_of_ne (hq : q ≠ p) : keptFor q (fdTrace p existing cons target b g) = [] := by
  rw [keptFor, map_eq_nil_iff, filter_eq_nil_iff]
  intro t ht
  simp [fdTrace_pool ht, hq.symm]

theorem SameNodes.placeFd (target : Int) (b : Books) (g : FdGroup) : SameNodes b (placeFd p existing cons target b g) :=
  placeFd_writes (refl b) fun _ _ _ _ _ h hw => h.trans (writes hw)

theorem placeFd_has (target : Int) (b : Books) (g : FdGroup) (rec : Record) :
    (placeFd p existing cons target b g).has rec =
      (b.has rec || (fdTrace p existing cons target b g).any fun t => t.move.record = rec) := by
  have ran : Ran p existing cons _ b _ := runFd_ran target (b.fdOf g.nodes) g.nodes b
  unfold placeFd fdTrace
  split
  · simp
  dsimp only
  generalize runFd p existing cons target (b.fdOf g.nodes) g.nodes b = r at ran
  have hrun : r.books.has rec = (b.has rec || r.moves.any fun m => m.record = rec) := by
    rw [ran.books]
    exact has_foldl (fun b m => m.apply_writes b) _ b (fun m hm => (ran.valid m hm).node) rec
  rw [List.any_map]
  split
  · have hb : ∀ m ∈ r.moves, (r.books.states.lookup m.node).isSome := fun m hm => by
      rw [ran.nodes]
      exact (ran.valid m hm).node
    rw [rollBack, has_foldl undoMove_writes _ _ hb rec, hrun, Bool.or_assoc, Bool.or_self]
    rfl
  · exact hrun

theorem placeFd_shifted (names : (existing.map (·.name)).Nodup) (target : Int) (b : Books) (g : FdGroup) :
    Shifted p existing cons b (keptFor p (fdTrace p existing cons target b g)) (placeFd p existing cons target b g) := by
  have ran : Ran p existing cons _ b _ := runFd_ran target (b.fdOf g.nodes) g.nodes b
  unfold placeFd fdTrace
  split
  · exact SameAmounts.refl b
  dsimp only
  generalize runFd p existing cons target (b.fdOf g.nodes) g.nodes b = r at ran
  split
  · rename_i hlt
    have hnil : keptFor p (r.moves.map fun m => (⟨p, m, decide (target ≤ r.placedFD)⟩ : Placement)) = [] := by
      simp [keptFor, List.filter_map, Function.comp_def, not_le.mpr hlt]
    rw [hnil]
    exact ran.rolledBack names
  · rename_i hge
    have hall : keptFor p (r.moves.map fun m => (⟨p, m, decide (target ≤ r.placedFD)⟩ : Placement)) = r.moves := by
      simp [keptFor, List.filter_map, Function.comp_def, not_lt.mp hge]
    rw [hall]
    have := (@SameAmounts.refl p existing cons b).applyAll names (b.fdOf g.nodes) ran.valid
    rwa [List.nil_append, ← ran.books] at this

end Domain

/-- The books have the records of the trace. -/
structure Recorded (existing : List ExistingContainer) (trace : List Placement) (b : Books) : Prop where
  has : ∀ rec, b.has rec = trace.any fun t => t.move.record = rec
  grown : ∀ c ∈ existing, ∀ q, finalPoolCap c b.growth q = poolCap c q + ((keptFor q trace).map (·.grownBy c)).sum
  new : ∀ n q, b.newCap n q = ((keptFor q trace).map (·.createdOn n)).sum

theorem Recorded.placeFd {existing : List ExistingContainer} (names : (existing.map (·.name)).Nodup)
    {trace : List Placement} {b : Books} (h : Recorded existing trace b) (p : PoolKind) (cons : CapacityConstraints)
    (target : Int) (g : FdGroup) :
    Recorded existing (trace ++ fdTrace p existing cons target b g) (placeFd p existing cons target b g) where
  has rec := by rw [placeFd_has, h.has, any_append]
  grown c hc q := by
    rw [(placeFd_shifted names target b g).grown c hc q, h.grown c hc q, keptFor_append, map_append, sum_append,
      add_assoc]
    by_cases hq : q = p
    · simp [hq]
    · simp [hq, fdTrace_keptFor_of_ne hq]
  new n q := by
    rw [(placeFd_shifted names target b g).new n q, h.new n q, keptFor_append, map_append, sum_append]
    by_cases hq : q = p
    · simp [hq]
    · simp [hq, fdTrace_keptFor_of_ne hq]

/-! ### Whole runs -/

namespace Request
variable (r : Request)

/-- Those for a pool. -/
def poolTrace (targets : Int × Int) (b : Books) (p : PoolKind) : List Placement :=
  match r.choice targets b p with
  | .place o => uniformTrace p r.existingDrives r.cons o.level o.chosen b
  | _ => []

/-- Those for some pools. -/
def poolsTrace (targets : Int × Int) : List PoolKind → Draft → List Placement
  | [], _ => []
  | p :: ps, d => r.poolTrace targets d.books p ++ poolsTrace targets ps (r.step targets d p)

/-- All placements of a run. -/
def trace (targets : Int × Int) : List Placement := r.poolsTrace targets r.pools { books := { states := r.states } }

/-- The books are over the inventory's nodes. -/
abbrev OnInventory (b : Books) : Prop := SameNodes { states := r.states } b

variable {r} {targets : Int × Int}

theorem uniformTrace_induct {p : PoolKind} {existing : List ExistingContainer} {cons : CapacityConstraints} {target : Int}
    {P : List Placement → Books → Prop} {chosen : List FdGroup}
    (step : ∀ g ∈ chosen, ∀ trace b, P trace b →
      P (trace ++ fdTrace p existing cons target b g) (placeFd p existing cons target b g))
    {trace : List Placement} {b : Books} (init : P trace b) :
    P (trace ++ uniformTrace p existing cons target chosen b) (placeUniform p existing cons target chosen b) := by
  induction chosen generalizing trace b with
  | nil => simpa [uniformTrace, placeUniform] using init
  | cons g gs ih =>
    rw [uniformTrace, ← append_assoc]
    exact ih (fun g' hg' => step g' (mem_cons_of_mem _ hg')) (step g mem_cons_self _ _ init)

theorem step_books (targets : Int × Int) (d : Draft) (p : PoolKind) : (r.step targets d p).books =
    match r.choice targets d.books p with
    | .place o => placeUniform p r.existingDrives r.cons o.level o.chosen d.books
    | _ => d.books := by
  unfold Request.step planPool
  rw [carryOut_books]
  rfl

theorem planned_trace_induct {P : List Placement → Books → Prop}
    (step : ∀ p o b₀, r.OnInventory b₀ → r.choice targets b₀ p = .place o → ∀ g ∈ o.chosen, ∀ trace b, r.OnInventory b →
      P trace b → P (trace ++ fdTrace p r.existingDrives r.cons o.level b g)
        (placeFd p r.existingDrives r.cons o.level b g))
    (init : P [] { states := r.states }) : P (r.trace targets) (r.planned targets).books := by
  have pools : ∀ (ps : List PoolKind) (d : Draft) (trace : List Placement), r.OnInventory d.books → P trace d.books →
      P (trace ++ r.poolsTrace targets ps d) (ps.foldl (r.step targets) d).books := by
    intro ps
    induction ps with
    | nil => exact fun d trace _ h => by simpa [poolsTrace] using h
    | cons p ps ih =>
      intro d trace hd h
      rw [poolsTrace, ← append_assoc]
      have both : r.OnInventory (r.step targets d p).books ∧
          P (trace ++ r.poolTrace targets d.books p) (r.step targets d p).books := by
        rw [step_books]
        unfold poolTrace
        split
        · rename_i o ho
          exact uniformTrace_induct (P := fun t b => r.OnInventory b ∧ P t b)
            (fun g hg t b hb => ⟨hb.1.trans (.placeFd _ b g), step p o d.books hd ho g hg t b hb.1 hb.2⟩) ⟨hd, h⟩
        · exact ⟨hd, by simpa using h⟩
      exact ih _ _ both.1 both.2
  have := pools r.pools { books := { states := r.states } } [] (.refl _) init
  rwa [nil_append] at this

theorem planned_recorded (names : (r.existingDrives.map (·.name)).Nodup) :
    Recorded r.existingDrives (r.trace targets) (r.planned targets).books := by
  refine planned_trace_induct (fun p o _ _ _ g _ _ _ _ h => h.placeFd names p r.cons o.level g) ⟨?_, ?_, ?_⟩
  · rintro (_ | _) <;> rfl
  · intro c _ q
    exact (add_zero _).symm
  · intro n q
    rfl

end Request
end WekaOperator.Planner
