import WekaOperator.Planner.Chosen

/-! Well-formed plans.

Growths are of known containers, new containers of known nodes, each with capacity; they are all well formed exactly if
no failure domain that was rolled back leaves an empty record behind. -/

namespace WekaOperator.Planner
open List Option Bool Lib Request Books Move
variable {n : String} {m : Move} {chosen : List FdGroup} {c : ExistingContainer} {x : NewContainer} {ns : NodeState}
  {p : PoolKind} {level : Int} {g : FdGroup} {b b₀ : Books}

namespace Request
variable {r : Request}

theorem states_lookup (h : r.states.lookup n = some ns) : ∃ nc ∈ r.inventory, nc.nodeName = n ∧ ns.nc = nc := by
  rcases lookup_foldl_insert_cases _ _ _ _ h with h | ⟨nc, hnc, hname, rfl⟩
  · cases h
  · exact ⟨nc, hnc, hname, rfl⟩

theorem OnInventory.lookup (h : r.OnInventory b) (hn : b.states.lookup n = some ns) :
    ∃ nc ∈ r.inventory, nc.nodeName = n ∧ ns.nc = nc := by
  have hmap := h n
  rw [hn, map_some] at hmap
  obtain ⟨ns₀, hns₀, hnc⟩ := map_eq_some_iff.mp hmap.symm
  obtain ⟨nc, hnc', hname, e⟩ := states_lookup hns₀
  exact ⟨nc, hnc', hname, hnc.symm.trans e⟩

theorem OnInventory.named (h : r.OnInventory b) : Named b.states := by
  intro n ns hn
  obtain ⟨nc, -, hname, rfl⟩ := h.lookup hn
  exact hname

end Request

/-! ### New containers -/

section New
variable {p : PoolKind} {existing : List ExistingContainer} {cons : CapacityConstraints} {target : Int} {b b' : Books}

/-- New records are of this failure domain. -/
def OpenedIn (fd : String) (b b' : Books) : Prop :=
  ∀ n x, b.newByNode.lookup n = none → b'.newByNode.lookup n = some x → x.fdValue = fd

namespace OpenedIn
variable {fd : String}

theorem refl (fd : String) (b : Books) : OpenedIn fd b b := fun _ _ h hx => by rw [h] at hx; cases hx

theorem addNew (h : OpenedIn fd b b') (node : String) (add : Int) (ns : NodeState) :
    OpenedIn fd b ((b'.addNew node fd p add).setState node ns) := by
  intro n x hn hx
  rw [setState_newByNode, lookup_addNew] at hx
  split at hx
  · rename_i e
    subst e
    rw [← some.inj hx, addPoolNew_fdValue, newFor]
    cases hb' : b'.newByNode.lookup n with
    | none => rfl
    | some x₀ => exact h n x₀ hn hb'
  · exact h n x hn hx

theorem placeFd (target : Int) (b : Books) (g : FdGroup) :
    OpenedIn (b.fdOf g.nodes) b (placeFd p existing cons target b g) := by
  refine placeFd_writes (refl _ b) fun _ _ b₁ b₂ _ h hw => ?_
  cases hw with
  | absent _ => exact h
  | grew _ _ _ => exact h
  | created _ _ _ => exact h.addNew _ _ _

end OpenedIn

/-- Records keep their failure domain. -/
def KeepsFds (b b' : Books) : Prop :=
  ∀ n x, b.newByNode.lookup n = some x → ∃ x', b'.newByNode.lookup n = some x' ∧ x'.fdValue = x.fdValue

namespace KeepsFds

theorem refl (b : Books) : KeepsFds b b := fun _ x h => ⟨x, h, rfl⟩

theorem addNew (h : KeepsFds b b') (node fd : String) (add : Int) (ns : NodeState) :
    KeepsFds b ((b'.addNew node fd p add).setState node ns) := by
  intro n x hn
  obtain ⟨x', hx', hfd⟩ := h n x hn
  rw [setState_newByNode, lookup_addNew]
  split
  · rename_i e
    subst e
    refine ⟨_, rfl, ?_⟩
    rw [addPoolNew_fdValue, newFor, hx']
    exact hfd
  · exact ⟨x', hx', hfd⟩

theorem placeFd (target : Int) (b : Books) (g : FdGroup) : KeepsFds b (placeFd p existing cons target b g) := by
  refine placeFd_writes (refl b) fun _ _ b₁ b₂ _ h hw => ?_
  cases hw with
  | absent _ => exact h
  | grew _ _ _ => exact h
  | created _ _ _ => exact h.addNew _ _ _ _

end KeepsFds

/-- New containers have at least a chunk of a pool, or nothing. -/
def Chunked (cons : CapacityConstraints) (b : Books) : Prop :=
  ∀ n q, b.newCap n q = 0 ∨ (0 < b.newCap n q ∧ cons.minChunkSizeGiB ≤ b.newCap n q)

theorem Chunked.placeHost {fdValue : String} {share : Int} {node : String} {r : FdRun} (h : Chunked cons r.books) :
    Chunked cons (placeHost p existing cons fdValue share node r).books := by
  generalize hr : Planner.placeHost p existing cons fdValue share node r = r'
  rcases placeHost_inv hr with ⟨hb, -⟩ | ⟨ns, c, add, -, -, -, -, -, -, hb⟩ | ⟨ns, add, -, -, hpos, -, hchunk, -, hb⟩
  · exact hb ▸ h
  · exact hb ▸ h
  · intro n q
    rw [hb, newCap_setState, newCap_addNew]
    have hn := h n q
    split
    · rename_i e
      obtain ⟨rfl, rfl⟩ := e
      omega
    · simpa using hn

theorem Chunked.placeFd (names : (existing.map (·.name)).Nodup) (h : Chunked cons b) (g : FdGroup) :
    Chunked cons (placeFd p existing cons target b g) := by
  have hosts : ∀ (nodes : List String) (fd : String) (base rem hi : Int) (r : FdRun), Chunked cons r.books →
      Chunked cons (placeHosts p existing cons fd base rem nodes hi r).books := by
    intro nodes
    induction nodes with
    | nil => exact fun _ _ _ _ _ h => h
    | cons node nodes ih => exact fun fd base rem hi r h => ih fd base rem (hi + 1) _ h.placeHost
  unfold Planner.placeFd
  split
  · exact h
  dsimp only
  split
  · intro n q
    rw [((runFd_ran target (b.fdOf g.nodes) g.nodes b).rolledBack names).new n q]
    simpa using h n q
  · exact hosts _ _ _ _ _ _ h

end New

namespace Request
variable {r : Request} {targets : Int × Int}

/-- New containers are on free nodes of the inventory. -/
def Sited (r : Request) (b : Books) : Prop :=
  ∀ n x, b.newByNode.lookup n = some x → existingOnNode r.existingDrives n = none ∧
    ∃ nc ∈ r.inventory, nc.nodeName = n ∧ nc.ineligibleReason = "" ∧ x.fdValue = nc.fdValue

theorem opened_sited (h₀ : r.OnInventory b₀) (hb : r.OnInventory b)
    (hchosen : Chosen p r.existingDrives r.cons b₀ chosen) (hg : g ∈ chosen) (hn : b.newByNode.lookup n = none)
    (hx : (placeFd p r.existingDrives r.cons level b g).newByNode.lookup n = some x) :
    existingOnNode r.existingDrives n = none ∧
      ∃ ns, b.states.lookup n = some ns ∧ ns.nc.ineligibleReason = "" ∧ x.fdValue = ns.nc.fdValue := by
  have hfd := OpenedIn.placeFd level b g n x hn hx
  -- The record was opened by a move of this domain, on one of its hosts.
  have hhas := @placeFd_has p r.existingDrives r.cons level b g (.new n)
  rw [Books.has, hx, Option.isSome_some, Books.has, hn, Option.isSome_none, Bool.false_or, eq_comm, List.any_eq_true] at hhas
  obtain ⟨t, ht, hrec⟩ := hhas
  have taken := @fdTrace_taken p r.existingDrives r.cons level b g
  have hmove := List.mem_map_of_mem (f := (·.move)) ht
  have hcontainer := taken.container _ hmove
  have hnode : t.move.node ∈ g.nodes := taken.nodes.subset (List.mem_map_of_mem hmove)
  cases hm : t.move with
  | grew node add c => simp [hm, Move.record] at hrec
  | created node add base =>
    rw [hm] at hrec hcontainer hnode
    obtain rfl : node = n := by simpa [Move.record] using hrec
    simp only [Move.node, Move.container] at hcontainer hnode
    refine ⟨hcontainer, ?_⟩
    rcases hchosen.sited h₀.named hg with hex | ⟨fd, hfresh⟩
    · have := hex node hnode
      rw [hcontainer] at this
      cases this
    have known : ∀ k ∈ g.nodes, ∃ ns, b.states.lookup k = some ns ∧ ns.nc.ineligibleReason = "" ∧ ns.nc.fdValue = fd := by
      intro k hk
      obtain ⟨ns₀, hns₀, helig, hfd⟩ := hfresh k hk
      have hsame := (hb k).trans (h₀ k).symm
      rw [hns₀, Option.map_some] at hsame
      obtain ⟨ns, hns, hnc⟩ := Option.map_eq_some_iff.mp hsame
      exact ⟨ns, hns, hnc ▸ helig, hnc ▸ hfd⟩
    have hof : b.fdOf g.nodes = fd := by
      unfold Books.fdOf
      cases hns : g.nodes with
      | nil => rw [hns] at hnode; cases hnode
      | cons k ks =>
        obtain ⟨ns, hl, -, hfd⟩ := known k (hns ▸ List.mem_cons_self)
        rw [List.head?_cons, Option.bind_some, hl, Option.elim_some, hfd]
    obtain ⟨ns, hl, helig, hfd'⟩ := known node hnode
    exact ⟨ns, hl, helig, by rw [hfd, hof, hfd']⟩

theorem Sited.placeFd (h₀ : r.OnInventory b₀) (hb : r.OnInventory b) (h : r.Sited b)
    (hchosen : Chosen p r.existingDrives r.cons b₀ chosen) (hg : g ∈ chosen) :
    r.Sited (placeFd p r.existingDrives r.cons level b g) := by
  intro n x hx
  cases hn : b.newByNode.lookup n with
  | some x₀ =>
    obtain ⟨x', hx', hfd⟩ := KeepsFds.placeFd level b g n x₀ hn
    rw [hx] at hx'
    cases hx'
    rw [hfd]
    exact h n x₀ hn
  | none =>
    obtain ⟨hcontainer, ns, hl, helig, hfd⟩ := opened_sited h₀ hb hchosen hg hn hx
    obtain ⟨nc, hnc, hname, rfl⟩ := hb.lookup hl
    exact ⟨hcontainer, ns.nc, hnc, hname, helig, hfd⟩

/-- A move is positive, and of a known container. -/
structure Grounded (existing : List ExistingContainer) (m : Move) : Prop where
  pos : 0 < m.amount
  container : existingOnNode existing m.node = m.container

theorem trace_grounded {t : Placement} (h : t ∈ r.trace targets) : Grounded r.existingDrives t.move := by
  refine planned_trace_induct (P := fun trace _ => ∀ t ∈ trace, Grounded r.existingDrives t.move) ?_ (by simp) t h
  intro p o b₀ _ _ g _ trace b _ ih t ht
  rcases mem_append.mp ht with ht | ht
  · exact ih t ht
  · have taken := @fdTrace_taken p r.existingDrives r.cons o.level b g
    exact ⟨taken.pos _ (mem_map_of_mem ht), taken.container _ (mem_map_of_mem ht)⟩

theorem planned_sited : r.Sited (r.planned targets).books :=
  planned_trace_induct (P := fun _ b => r.Sited b)
    (fun _ _ _ h₀ ho _ hg _ _ hb h => h.placeFd h₀ hb (choosePool_chosen ho) hg) (fun _ _ h => (by cases h))

theorem planned_chunked (names : (r.existingDrives.map (·.name)).Nodup) : Chunked r.cons (r.planned targets).books :=
  planned_induct (fun _ _ _ g h _ => h.placeFd names g) (fun _ _ => .inl rfl) placementAny_false

/-- A failure domain that was taken back leaves an empty record. -/
def leavesEmptyRecord (r : Request) : Bool :=
  match r.targetFds with
  | .error _ => false
  | .ok targets => (r.trace targets).any fun t =>
      !(r.trace targets).any fun t' => t'.kept && decide (t'.move.record = t.move.record)

end Request

/-! ### Kept moves -/

section Kept
variable {existing : List ExistingContainer} {trace : List Placement} {b : Books}

theorem grownBy_nonneg (h : 0 < m.amount) (c : ExistingContainer) : 0 ≤ m.grownBy c := by
  cases m with
  | grew node add c' =>
    simp only [grownBy]
    split
    · exact le_of_lt h
    · exact le_refl 0
  | created node add base => exact le_refl 0

theorem createdOn_nonneg (h : 0 < m.amount) (n : String) : 0 ≤ m.createdOn n := by
  cases m with
  | grew node add c => exact le_refl 0
  | created node add base =>
    simp only [createdOn]
    split
    · exact le_of_lt h
    · exact le_refl 0

theorem sum_pos_iff_of_nonneg {α : Type} {f : α → Int} {l : List α} (h : ∀ a ∈ l, 0 ≤ f a) :
    0 < (l.map f).sum ↔ ∃ a ∈ l, 0 < f a := by
  induction l with
  | nil => simp
  | cons a l ih =>
    have ha := h a mem_cons_self
    have hl := ih fun x hx => h x (mem_cons_of_mem _ hx)
    have hnn : 0 ≤ (l.map f).sum := by
      refine sum_nonneg fun x hx => ?_
      obtain ⟨y, hy, rfl⟩ := mem_map.mp hx
      exact h y (mem_cons_of_mem _ hy)
    simp only [map_cons, sum_cons, mem_cons, exists_eq_or_imp, ← hl]
    omega

theorem grownBy_pos_iff (h : 0 < m.amount) : 0 < m.grownBy c ↔ m.container = some c := by
  cases m with
  | grew node add c' =>
    simp only [grownBy, container, some.injEq, eq_comm (a := c)]
    split
    · exact iff_of_true h ‹_›
    · exact iff_of_false (lt_irrefl 0) ‹_›
  | created node add base => simp [grownBy, container]

theorem createdOn_pos_iff (h : 0 < m.amount) : 0 < m.createdOn n ↔ m.record = .new n := by
  cases m with
  | grew node add c => simp [createdOn, record]
  | created node add base =>
    simp only [createdOn, record, Record.new.injEq, eq_comm (a := n)]
    split
    · exact iff_of_true h ‹_›
    · exact iff_of_false (lt_irrefl 0) ‹_›

variable (grounded : ∀ t ∈ trace, Request.Grounded existing t.move)
include grounded

theorem kept_pos {q : PoolKind} (h : m ∈ keptFor q trace) : 0 < m.amount :=
  (grounded _ (mem_keptFor.mp h)).pos

theorem Recorded.grows_iff (h : Recorded existing trace b) (names : (existing.map (·.name)).Nodup) (hc : c ∈ existing) :
    (∃ q, poolCap c q < finalPoolCap c b.growth q) ↔ ∃ t ∈ trace, t.kept = true ∧ t.move.record = .growth c.name := by
  have kept : ∀ q, poolCap c q < finalPoolCap c b.growth q ↔ ∃ m ∈ keptFor q trace, 0 < m.grownBy c := fun q => by
    rw [h.grown c hc q, lt_add_iff_pos_right, sum_pos_iff_of_nonneg]
    exact fun m hm => grownBy_nonneg (kept_pos grounded hm) c
  simp only [kept]
  constructor
  · rintro ⟨q, m, hm, hpos⟩
    have hcontainer := (grownBy_pos_iff (kept_pos grounded hm)).mp hpos
    refine ⟨_, mem_keptFor.mp hm, rfl, ?_⟩
    cases m with
    | created node add base => cases hcontainer
    | grew node add c' => exact congrArg (Record.growth ·.name) (some.inj hcontainer)
  · rintro ⟨⟨q, m, kept⟩, ht, rfl, hrec⟩
    refine ⟨q, m, mem_keptFor.mpr ht, (grownBy_pos_iff (kept_pos grounded (mem_keptFor.mpr ht))).mpr ?_⟩
    have hec := (grounded _ ht).container
    cases m with
    | created node add base => cases hrec
    | grew node add c' =>
      exact congrArg some (eq_of_name_eq names (mem_of_existingOnNode hec).1 hc (by simpa [record] using hrec))

theorem Recorded.carries_iff (h : Recorded existing trace b) (n : String) :
    (∃ q, 0 < b.newCap n q) ↔ ∃ t ∈ trace, t.kept = true ∧ t.move.record = .new n := by
  have kept : ∀ q, 0 < b.newCap n q ↔ ∃ m ∈ keptFor q trace, m.record = .new n := fun q => by
    rw [h.new n q, sum_pos_iff_of_nonneg fun m hm => createdOn_nonneg (kept_pos grounded hm) n]
    exact exists_congr fun m => and_congr_right fun hm => createdOn_pos_iff (kept_pos grounded hm)
  simp only [kept]
  constructor
  · rintro ⟨q, m, hm, hrec⟩
    exact ⟨_, mem_keptFor.mp hm, rfl, hrec⟩
  · rintro ⟨⟨q, m, kept⟩, ht, rfl, hrec⟩
    exact ⟨q, m, mem_keptFor.mpr ht, hrec⟩

end Kept

/-! ### Whole plans -/

/-- A new container is on an eligible node and has capacity. -/
structure NewContainer.WellFormed (n : NewContainer) (r : Request) : Prop where
  node : ∃ nc ∈ r.inventory, nc.nodeName = n.node ∧ nc.ineligibleReason = "" ∧ n.fdValue = nc.fdValue
  free : ∀ c ∈ r.existingDrives, c.node ≠ n.node
  carries : ∃ p, 0 < poolCapNew n p
  chunks : ∀ p, 0 < poolCapNew n p → r.cons.minChunkSizeGiB ≤ poolCapNew n p

/-- A growth is of a known container and adds capacity. -/
def ContainerGrowth.WellFormed (g : ContainerGrowth) (r : Request) : Prop :=
  ∃ c ∈ r.existingDrives, c.name = g.name ∧ (∀ p, poolCap c p ≤ poolCapGrown g p) ∧ ∃ p, poolCap c p < poolCapGrown g p

/-- All of them are, one a node and one a container. -/
structure CapacityPlan.WellFormed (plan : CapacityPlan) (r : Request) : Prop where
  nodes : (plan.create.map (·.node)).Nodup
  create : ∀ n ∈ plan.create, n.WellFormed r
  grow : ∀ g ∈ plan.grow, g.WellFormed r

namespace Request
variable {r : Request} {targets : Int × Int} {plan : CapacityPlan}

theorem Emitted.mem_create (h : r.Emitted b plan) (keyed : b.Keyed) {n' : NewContainer} (hn : n' ∈ plan.create) :
    ∃ n, b.newByNode.lookup n'.node = some n ∧ n'.fdValue = n.fdValue ∧
      ∀ q, poolCapNew n' q = b.newCap n'.node q := by
  obtain ⟨n, hmem, hem⟩ := forall₂_mem_right h.create hn
  obtain ⟨e, he, rfl⟩ := mem_map.mp ((newRecords_perm b).mem_iff.mp hmem)
  have hl := mem_entries_iff.mp he
  have hnode : n'.node = e.1 := hem.node.trans (keyed.new _ _ hl)
  refine ⟨e.2, hnode ▸ hl, hem.fdValue, fun q => ?_⟩
  rw [hem.poolCap, newCap, hnode, hl, elim_some]

theorem Emitted.mem_grow (h : r.Emitted b plan) (keyed : b.Keyed) {g' : ContainerGrowth} (hg : g' ∈ plan.grow) :
    ∃ g, b.growth.lookup g'.name = some g ∧ ∀ q, poolCapGrown g' q = poolCapGrown g q := by
  obtain ⟨g, hmem, hem⟩ := forall₂_mem_right h.grow hg
  obtain ⟨e, he, rfl⟩ := mem_map.mp ((growRecords_perm b).mem_iff.mp hmem)
  have hl := mem_entries_iff.mp he
  have hname : g'.name = e.1 := by rw [hem.record, ← keyed.growth _ _ hl]
  exact ⟨e.2, hname ▸ hl, hem.poolCap⟩

theorem growth_container (names : (r.existingDrives.map (·.name)).Nodup) {name : String} {g : ContainerGrowth}
    (h : (r.planned targets).books.growth.lookup name = some g) :
    ∃ c ∈ r.existingDrives, c.name = name ∧ (∀ q, poolCapGrown g q = finalPoolCap c (r.planned targets).books.growth q) ∧
      ∀ q, poolCap c q ≤ poolCapGrown g q := by
  have recorded : Recorded r.existingDrives (r.trace targets) (r.planned targets).books := planned_recorded names
  have hhas : (r.planned targets).books.has (.growth name) = true := by rw [has, h, Option.isSome_some]
  rw [recorded.has, List.any_eq_true] at hhas
  obtain ⟨t, ht, hrec⟩ := hhas
  cases hm : t.move with
  | created node add base => simp [hm, record] at hrec
  | grew node add c =>
    have hec := (trace_grounded ht).container
    rw [hm] at hec hrec
    have hname : c.name = name := by simpa [record] using hrec
    have hc := (mem_of_existingOnNode hec).1
    have hfinal : ∀ q, poolCapGrown g q = finalPoolCap c (r.planned targets).books.growth q := by
      intro q
      rw [finalPoolCap, hname, h, Option.elim_some]
    refine ⟨c, hc, hname, hfinal, fun q => ?_⟩
    rw [hfinal q, recorded.grown c hc q]
    have : 0 ≤ ((keptFor q (r.trace targets)).map (·.grownBy c)).sum := by
      refine List.sum_nonneg fun x hx => ?_
      obtain ⟨m, hm, rfl⟩ := List.mem_map.mp hx
      exact grownBy_nonneg (kept_pos (fun _ => trace_grounded) hm) c
    omega

theorem leavesEmptyRecord_eq_false (htargets : r.targetFds = .ok targets) : r.leavesEmptyRecord = false ↔
    ∀ t ∈ r.trace targets, ∃ t' ∈ r.trace targets, t'.kept = true ∧ t'.move.record = t.move.record := by
  unfold leavesEmptyRecord
  rw [htargets]
  simp

end Request

/-- A feasible plan is well formed if and only if every record the run opened was also written by a failure
    domain that reached its target. -/
theorem planCapacity_wellFormed_iff (r : Request) (names : (r.existingDrives.map (·.name)).Nodup)
    (scheduled : ∀ c ∈ r.existingDrives, c.unscheduled = false ∧ c.node ≠ "")
    (feasible : (planCapacity r).infeasible = "") :
    (planCapacity r).WellFormed r ↔ r.leavesEmptyRecord = false := by
  obtain ⟨targets, htargets, -, hem⟩ := planCapacity_feasible feasible
  have keyed : (r.planned targets).books.Keyed := planned_keyed
  have recorded : Recorded r.existingDrives (r.trace targets) (r.planned targets).books := planned_recorded names
  have chunked : Chunked r.cons (r.planned targets).books := planned_chunked names
  have grounded : ∀ t ∈ r.trace targets, Request.Grounded r.existingDrives t.move := fun _ => trace_grounded
  rw [leavesEmptyRecord_eq_false htargets]
  constructor
  · intro hplan t ht
    have hhas : (r.planned targets).books.has t.move.record = true := by
      rw [recorded.has, List.any_eq_true]
      exact ⟨t, ht, by simp⟩
    cases hrec : t.move.record with
    | new n =>
      rw [hrec, has, Option.isSome_iff_exists] at hhas
      obtain ⟨x, hx⟩ := hhas
      have hrel := hem.created keyed n
      rw [hx] at hrel
      cases hfind : (planCapacity r).create.find? fun n' => n'.node = n with
      | none => rw [hfind] at hrel; cases hrel
      | some n' =>
        have hnode : n'.node = n := by simpa using List.find?_some hfind
        have hmem := List.mem_of_find?_eq_some hfind
        obtain ⟨q, hq⟩ := (hplan.create n' hmem).carries
        obtain ⟨-, -, -, hcap⟩ := hem.mem_create keyed hmem
        rw [hcap, hnode] at hq
        exact (recorded.carries_iff grounded n).mp ⟨q, hq⟩
    | growth name =>
      rw [hrec, has, Option.isSome_iff_exists] at hhas
      obtain ⟨g, hg⟩ := hhas
      have hrel := hem.growth keyed name
      rw [hg] at hrel
      cases hfind : (planCapacity r).grow.find? fun g' => g'.name = name with
      | none => rw [hfind] at hrel; cases hrel
      | some g' =>
        have hname : g'.name = name := by simpa using List.find?_some hfind
        have hmem := List.mem_of_find?_eq_some hfind
        obtain ⟨c, hc, hcname, -, q, hq⟩ := hplan.grow g' hmem
        obtain ⟨g₀, hg₀, hcap⟩ := hem.mem_grow keyed hmem
        rw [hname] at hg₀ hcname
        rw [hcap] at hq
        have hfinal : poolCap c q < finalPoolCap c (r.planned targets).books.growth q := by
          rw [finalPoolCap, hcname, hg₀, Option.elim_some]
          exact hq
        rw [← hcname]
        exact (recorded.grows_iff grounded names hc).mp ⟨q, hfinal⟩
  · intro hall
    have kept : ∀ rec, (r.planned targets).books.has rec = true →
        ∃ t ∈ r.trace targets, t.kept = true ∧ t.move.record = rec := by
      intro rec hhas
      rw [recorded.has, List.any_eq_true] at hhas
      obtain ⟨t, ht, hrec⟩ := hhas
      obtain ⟨t', ht', hkept, hrec'⟩ := hall t ht
      exact ⟨t', ht', hkept, hrec'.trans (of_decide_eq_true hrec)⟩
    refine ⟨hem.createNodes keyed, fun n' hn => ?_, fun g' hg => ?_⟩
    · obtain ⟨n, hl, hfd, hcap⟩ := hem.mem_create keyed hn
      obtain ⟨hec, nc, hnc, hname, helig, hfd'⟩ := planned_sited n'.node n hl
      refine ⟨⟨nc, hnc, hname, helig, hfd.trans hfd'⟩, fun c hc hnode => ?_, ?_, fun q hq => ?_⟩
      · have hmem : c ∈ r.existingDrives.filter fun c => c.node ≠ "" && !c.unscheduled && c.node == n'.node := by
          refine List.mem_filter.mpr ⟨hc, ?_⟩
          simp only [(scheduled c hc).1, hnode, Bool.not_false, Bool.and_true, BEq.rfl, decide_eq_true_eq]
          exact hnode ▸ (scheduled c hc).2
        rw [existingOnNode, List.getLast?_eq_none_iff] at hec
        rw [hec] at hmem
        cases hmem
      · obtain ⟨q, hq⟩ := (recorded.carries_iff grounded n'.node).mpr
          (kept (.new n'.node) (by rw [has, hl, Option.isSome_some]))
        exact ⟨q, by rw [hcap]; exact hq⟩
      · rw [hcap] at hq ⊢
        have := chunked n'.node q
        omega
    · obtain ⟨g, hl, hcap⟩ := hem.mem_grow keyed hg
      obtain ⟨c, hc, hname, hfinal, hle⟩ := growth_container names hl
      refine ⟨c, hc, hname, fun q => by rw [hcap]; exact hle q, ?_⟩
      obtain ⟨q, hq⟩ := (recorded.grows_iff grounded names hc).mpr
        (kept (.growth c.name) (by rw [has, hname, hl, Option.isSome_some]))
      exact ⟨q, by rw [hcap, hfinal]; exact hq⟩

def unevenDomain : Request where
  desired := { tlcRawGiB := 6000, qlcRawGiB := 0 }
  scheme := ⟨3, 2, 0⟩
  existingDrives := []
  inventory := ["n1", "n2", "n3", "n4", "n5"].map (fun n =>
      { nodeName := n, fdValue := n, tlcGiB := 1000, allocatableCPU := 40, availableHugepagesMiB := 100000 }) ++
    [{ nodeName := "n6", fdValue := "f", tlcGiB := 700, allocatableCPU := 40, availableHugepagesMiB := 100000 },
      { nodeName := "n7", fdValue := "f", tlcGiB := 400, allocatableCPU := 40, availableHugepagesMiB := 100000 }]
  computeNodes := some (["n1", "n2", "n3", "n4", "n5"].foldl (fun m n => m.insert n true) ∅)
  cons := { tlcCapacityPerCoreGiB := 1000, qlcCapacityPerCoreGiB := 1000, minChunkSizeGiB := 384
            capacityDeadbandFraction := 1 / 5 }

/-- The sixth domain is rolled back and its two containers are created with no capacity. -/
theorem planCapacity_createsEmpty_unevenDomain : (planCapacity unevenDomain).infeasible = "" ∧
    (planCapacity unevenDomain).create.map (fun n => (n.node, n.tlcGiB, n.qlcGiB, n.numCores)) =
      [("n1", 1000, 0, 1), ("n2", 1000, 0, 1), ("n3", 1000, 0, 1), ("n4", 1000, 0, 1), ("n5", 1000, 0, 1),
        ("n6", 0, 0, 1), ("n7", 0, 0, 1)] := by
  decide +kernel

end WekaOperator.Planner
