import WekaOperator.Daemonset.Targets

/-! Several daemonset clusters on one node. Each plans alone, from a list of all drive containers on all nodes in which
    older foreign claims on the node are reserved and younger ones are not; once all have settled, the claims on the node
    add up along the age of the containers. -/

namespace WekaOperator.Daemonset
open List Lib Planner Allocator

/-- `olderThan`. -/
def olderThan (a b : Container) : Bool :=
  if a.creationTimestamp ≠ b.creationTimestamp then a.creationTimestamp < b.creationTimestamp else a.name < b.name

namespace Container
variable (c : Container)

/-- The drives of a container. -/
def serials : List String := c.drives.getD []

/-- The drives it asks for beyond those it holds. -/
def missing : Nat := c.numDrives - c.serials.length

/-- It is placed on the node, takes whole drives and stays. -/
def claims (name : String) : Bool := c.node = name && !c.usesDriveSharing && !c.leaving

end Container

/-! ### Free drives -/

/-- What `listFreeDrives` of one cluster reads: its own containers by namespace and name, and the drive containers of all
    clusters on all nodes. -/
structure ClusterView where
  input : DaemonsetInput
  own : List (String × String) := []
  list : List Container := []

namespace ClusterView
variable (v : ClusterView)

/-- The node may get a drive container. -/
def isCandidate (name : String) : Bool :=
  let n := v.input.node name
  n.entries ≠ [] && match v.input.liveOn .drive name with
    | none => n.driveRole && n.ineligible = "" && name ∉ v.input.deleting .drive
    | some c => c.serials.length = 0 || c.numDrives > c.serials.length || c.serials.length < n.entries.length

/-- Containers with whole drives. -/
def exclusive : List Container := v.list.filter fun c => c.node ≠ "" && !c.usesDriveSharing

/-- The container is the one on its node. -/
def isOurs (c : Container) : Bool :=
  (v.input.liveOn .drive c.node).any fun lc => lc.namespaced = c.namespaced && lc.name = c.name

/-- The drives of our containers. -/
def ownSerials : List String := (v.exclusive.filter v.isOurs).flatMap (·.serials)

/-- The drives of others. -/
def heldSerials : List String := (v.exclusive.filter (!v.isOurs ·)).flatMap (·.serials)

/-- A foreign container on the node that is older than the own one keeps the drives it is still missing. -/
def reserves (name : String) (c : Container) : Bool :=
  c.node = name && !v.own.contains (c.namespaced, c.name) && !c.leaving && (v.input.liveOn .drive name).all (olderThan c)

/-- Drives that others wait for. -/
def reserved (name : String) : Nat := ((v.exclusive.filter (v.reserves name)).map (·.missing)).sum

/-- The drives the own container may have: those it holds and the free ones, less the reserved. -/
def availGiB (name : String) : List Int :=
  let entries := (v.input.node name).entries
  let mine := entries.filter (·.serial ∈ v.ownSerials)
  let free := entries.filter fun d => d.serial ∉ v.ownSerials && d.serial ∉ v.heldSerials
  -- A container that has not claimed yet takes the largest ones.
  (mine.map (·.capacityGiB) ++ (free.map (·.capacityGiB)).drop (v.reserved name)).insertionSort (· ≥ ·)

/-- `listFreeDrives`. -/
def listFreeDrives : DaemonsetInput := { v.input with
  nodes := (v.input.nodes.keys.filter v.isCandidate).foldl
    (fun m name => m.insert name { v.input.node name with availGiB := some (v.availGiB name) }) v.input.nodes }

end ClusterView

/-- The drives of a container at its target. -/
def Container.raisedDrives (c : Container) (t : Target) : Nat :=
  if t.drivesFollowFree then t.numDrives else max c.numDrives t.numDrives

/-! ### Claims along an order -/

section Claims
variable {α κ : Type} [LinearOrder κ] (key : α → κ) (claim : α → Nat) (bare : α → Bool) (free : Nat)

/-- Nobody claims more than its turn leaves. -/
def Modest (l : List α) : Prop :=
  ∀ c ∈ l, claim c ≤ free - ((l.filter (key · < key c)).map claim).sum + if bare c then 1 else 0

variable {key claim bare free}
variable {l : List α}

theorem Modest.sorted (sorted : l.Pairwise (key · < key ·)) (h : Modest key claim bare free l) :
    (l.map claim).sum ≤ free + (l.filter bare).length := by
  induction l using reverseRecOn with
  | nil => exact Nat.zero_le _
  | append_singleton l c ih =>
    obtain ⟨sorted, -, last⟩ := pairwise_append.mp sorted
    have before : ∀ a ∈ l, key a < key c := fun a ha => last a ha c (mem_singleton_self c)
    have hrest : Modest key claim bare free l := by
      intro a ha
      have skip : (l ++ [c]).filter (key · < key a) = l.filter (key · < key a) := by
        simp [filter_append, (before a ha).not_gt]
      exact skip ▸ h a (mem_append_left _ ha)
    have hsum := ih sorted hrest
    have hlast := h c (mem_append_right _ (mem_singleton_self c))
    have all : (l ++ [c]).filter (key · < key c) = l := by
      rw [filter_append, filter_eq_self.mpr fun a ha => decide_eq_true (before a ha)]
      simp
    rw [all] at hlast
    rw [map_append, sum_append, filter_append, length_append, map_singleton, sum_singleton]
    cases hbare : bare c <;> simp only [hbare, filter_singleton, cond_true, cond_false, length_singleton,
      length_nil, if_true, Bool.false_eq_true, if_false] at hlast ⊢ <;> omega

theorem Modest.sum_le (keys : (l.map key).Nodup) (h : Modest key claim bare free l) :
    (l.map claim).sum ≤ free + (l.filter bare).length := by
  have hperm := perm_insertionSort (fun a b => key a ≤ key b) l
  have sorted : (l.insertionSort fun a b => key a ≤ key b).Pairwise (key · < key ·) := by
    have hle := pairwise_insertionSort (fun a b => key a ≤ key b) l
    have hne : (l.insertionSort fun a b => key a ≤ key b).Pairwise (key · ≠ key ·) :=
      pairwise_map.mp ((hperm.map key).nodup_iff.mpr keys)
    exact (hle.and hne).imp fun h => lt_of_le_of_ne h.1 h.2
  rw [← (hperm.map claim).sum_eq, ← (hperm.filter bare).length_eq]
  refine Modest.sorted sorted fun c hc => ?_
  rw [((hperm.filter _).map claim).sum_eq]
  exact h c (hperm.mem_iff.mp hc)

end Claims

/-! ### One node -/

/-- A node with signed drives on which each of several clusters has an exclusive drive container, in the view of each:
    the node is in its input, its own container is live there, and among what it lists, on any nodes, the containers that
    stay on this node are those. A serial names one drive: no container on another node holds one that is signed here. -/
structure SharedNode (name : String) (entries : List DriveEntry) (cs : List Container) (view : Container → ClusterView) :
    Prop where
  named : name ≠ ""
  serials : (entries.map (·.serial)).Nodup
  names : (cs.map (·.name)).Nodup
  onNode : ∀ c ∈ cs, c.node = name ∧ c.usesDriveSharing = false ∧ c.leaving = false
  held : ∀ c ∈ cs, c.serials.Nodup ∧ ∀ s ∈ c.serials, s ∈ entries.map (·.serial)
  apart : ∀ c ∈ cs, ∀ c' ∈ cs, c ≠ c' → ∀ s ∈ c.serials, s ∉ c'.serials
  list : ∀ c ∈ cs, ((view c).list.filter (·.claims name)).Perm cs
  objects : ∀ c ∈ cs, ∀ a ∈ (view c).list, a.namespaced = c.namespaced → a.name = c.name → a = c
  elsewhere : ∀ c ∈ cs, ∀ a ∈ (view c).list, a.node ≠ name → ∀ s ∈ a.serials, s ∉ entries.map (·.serial)
  own : ∀ c ∈ cs, ∀ c' ∈ cs, (c'.namespaced, c'.name) ∈ (view c).own ↔ c' = c
  live : ∀ c ∈ cs, (view c).input.liveOn .drive name = some c
  unpinned : ∀ c ∈ cs, (view c).input.numDrivesPin = 0
  node : ∀ c ∈ cs, name ∈ (view c).input.nodes.keys ∧ ((view c).input.node name).entries = entries

/-- The plan asks for no more drives. -/
def ClusterView.Settled (v : ClusterView) (c : Container) : Prop :=
  ∀ t ∈ v.listFreeDrives.planDaemonset.targets, t.mode = .drive → t.node = c.node → c.raisedDrives t = c.numDrives

/-- Drives of no container. -/
def heldByNobody (entries : List DriveEntry) (cs : List Container) : List DriveEntry :=
  entries.filter fun d => ∀ c ∈ cs, d.serial ∉ c.serials

/-- By creation, then by name. -/
def age (c : Container) : ℕ ×ₗ String := toLex (c.creationTimestamp, c.name)

theorem olderThan_iff {a b : Container} : olderThan a b = true ↔ age a < age b := by
  rw [age, age, Prod.Lex.toLex_lt_toLex]
  unfold olderThan
  split
  · rename_i hne
    simp [hne]
  · rename_i heq
    simp [not_not.mp heq]

section View
variable {name : String} {entries : List DriveEntry} {cs : List Container} {view : Container → ClusterView} {c : Container}

variable (h : SharedNode name entries cs view)
include h

theorem SharedNode.mem_exclusive (hc : c ∈ cs) {a : Container} (ha : a ∈ cs) : a ∈ (view c).exclusive := by
  have listed := (mem_filter.mp ((h.list c hc).mem_iff.mpr ha)).1
  obtain ⟨hnode, hsharing, -⟩ := h.onNode a ha
  exact mem_filter.mpr ⟨listed, by simp [hnode, hsharing, h.named]⟩

theorem SharedNode.isOurs (hc : c ∈ cs) {a : Container} (ha : a ∈ (view c).list) (hnode : a.node = name) :
    (view c).isOurs a = true ↔ a = c := by
  rw [ClusterView.isOurs, hnode, h.live c hc]
  simp only [Option.any_some, Bool.and_eq_true, decide_eq_true_eq]
  constructor
  · rintro ⟨hspace, hname⟩
    exact h.objects c hc a ha hspace.symm hname.symm
  · rintro rfl
    exact ⟨rfl, rfl⟩

variable {s : String}

theorem SharedNode.mem_ownSerials (hc : c ∈ cs) (signed : s ∈ entries.map (·.serial)) :
    s ∈ (view c).ownSerials ↔ s ∈ c.serials := by
  simp only [ClusterView.ownSerials, mem_flatMap, mem_filter]
  constructor
  · rintro ⟨a, ⟨ha, hours⟩, hs⟩
    have listed := (mem_filter.mp ha).1
    by_cases hnode : a.node = name
    · rwa [(h.isOurs hc listed hnode).mp hours] at hs
    · exact absurd signed (h.elsewhere c hc a listed hnode s hs)
  · intro hs
    have listed := h.mem_exclusive hc hc
    exact ⟨c, ⟨listed, (h.isOurs hc (mem_filter.mp listed).1 (h.onNode c hc).1).mpr rfl⟩, hs⟩

theorem SharedNode.mem_heldSerials (hc : c ∈ cs) {a : Container} (ha : a ∈ cs) (hne : a ≠ c) (hs : s ∈ a.serials) :
    s ∈ (view c).heldSerials := by
  have listed := h.mem_exclusive hc ha
  simp only [ClusterView.heldSerials, mem_flatMap, mem_filter, Bool.not_eq_true']
  refine ⟨a, ⟨listed, Bool.eq_false_iff.mpr fun hours => hne ?_⟩, hs⟩
  exact (h.isOurs hc (mem_filter.mp listed).1 (h.onNode a ha).1).mp hours

theorem SharedNode.reserved (hc : c ∈ cs) :
    (view c).reserved name = ((cs.filter (age · < age c)).map (·.missing)).sum := by
  -- what reserves is on this node and stays
  have here : (view c).exclusive.filter ((view c).reserves name) =
      ((view c).list.filter (·.claims name)).filter ((view c).reserves name) := by
    rw [ClusterView.exclusive, filter_filter, filter_filter]
    refine filter_congr fun a _ => ?_
    by_cases hr : (view c).reserves name a = true
    · simp only [hr, Bool.true_and]
      unfold ClusterView.reserves at hr
      simp only [Bool.and_eq_true, decide_eq_true_eq, Bool.not_eq_true'] at hr
      simp [Container.claims, hr.1.1.1, hr.1.2, h.named]
    · simp [hr]
  have same : cs.filter ((view c).reserves name) = cs.filter (age · < age c) := by
    refine filter_congr fun a ha => ?_
    obtain ⟨hnode, -, hstays⟩ := h.onNode a ha
    rw [ClusterView.reserves, h.live c hc, hnode, hstays, Bool.eq_iff_iff]
    simp only [decide_true, Bool.true_and, Bool.not_false, Bool.and_true, Option.all_some, Bool.and_eq_true, decide_eq_true_eq,
      Bool.not_eq_true', Bool.eq_false_iff, ne_eq, contains_iff_mem, h.own c hc a ha, olderThan_iff]
    refine ⟨fun h => h.2, fun hlt => ⟨?_, hlt⟩⟩
    rintro rfl
    exact lt_irrefl _ hlt
  rw [ClusterView.reserved, here, (((h.list c hc).filter _).map _).sum_eq, same]

theorem SharedNode.length_availGiB (hc : c ∈ cs) :
    ((view c).availGiB name).length ≤ c.serials.length + ((heldByNobody entries cs).length - (view c).reserved name) := by
  obtain ⟨nodup, signed⟩ := h.held c hc
  have hmine : (entries.filter fun d => d.serial ∈ (view c).ownSerials).length = c.serials.length := by
    have hmap : ((entries.filter fun d => d.serial ∈ (view c).ownSerials).map (·.serial)).Perm c.serials := by
      refine (perm_ext_iff_of_nodup ((filter_sublist.map _).nodup h.serials) nodup).mpr fun s => ?_
      simp only [mem_map, mem_filter, decide_eq_true_eq]
      constructor
      · rintro ⟨d, ⟨hd, own⟩, rfl⟩
        exact (h.mem_ownSerials hc (mem_map_of_mem hd)).mp own
      · intro hs
        obtain ⟨d, hd, rfl⟩ := mem_map.mp (signed s hs)
        exact ⟨d, ⟨hd, (h.mem_ownSerials hc (mem_map_of_mem hd)).mpr hs⟩, rfl⟩
    rw [← hmap.length_eq, length_map]
  have hfree : (entries.filter fun d => d.serial ∉ (view c).ownSerials && d.serial ∉ (view c).heldSerials).length ≤
      (heldByNobody entries cs).length := by
    rw [heldByNobody, ← countP_eq_length_filter, ← countP_eq_length_filter]
    refine countP_mono_left fun d hd free => ?_
    simp only [Bool.and_eq_true, decide_eq_true_eq] at free
    refine decide_eq_true fun a ha hs => ?_
    by_cases e : a = c
    · exact free.1 ((h.mem_ownSerials hc (mem_map_of_mem hd)).mpr (e ▸ hs))
    · exact free.2 (h.mem_heldSerials hc ha e hs)
  rw [ClusterView.availGiB, (h.node c hc).2, length_insertionSort, length_append, length_map, length_drop,
    length_map, hmine]
  omega

omit h in
theorem ClusterView.Settled.numDrives {v : ClusterView} (h : v.Settled c) (hlive : v.input.liveOn .drive c.node = some c) :
    (if (v.listFreeDrives.numDrives c.node (some c)).2 then (v.listFreeDrives.numDrives c.node (some c)).1
      else max c.numDrives (v.listFreeDrives.numDrives c.node (some c)).1) = c.numDrives := by
  have hname : c.node ∈ v.listFreeDrives.names := by
    rw [DaemonsetInput.names, mem_insertionSort, mem_dedup, mem_append, mem_append]
    refine .inl (.inr (AList.mem_keys.mp ?_))
    rw [← AList.lookup_isSome]
    exact Option.isSome_iff_exists.mpr ⟨c, hlive⟩
  have htarget := DaemonsetInput.driveTarget_of_live (i := v.listFreeDrives) hlive
  refine h { v.listFreeDrives.driveSizing c.node (some c) with paired := (v.listFreeDrives.computeTarget c.node).isSome } ?_ rfl rfl
  refine mem_append_left _ (mem_append_left _ (List.mem_filterMap.mpr ⟨c.node, hname, ?_⟩))
  rw [htarget]
  rfl

theorem SharedNode.modest (some_signed : entries ≠ [])
    (settled : ∀ c ∈ cs, (view c).Settled c) :
    Modest age (·.missing) (·.serials.isEmpty) (heldByNobody entries cs).length cs := by
  intro c hc
  obtain ⟨rfl, -⟩ := h.onNode c hc
  obtain ⟨hkey, hentries⟩ := h.node c hc
  have hnum := (settled c hc).numDrives (h.live c hc)
  rw [← h.reserved hc]
  cases hcand : (view c).isCandidate c.node with
  | false =>
    -- It holds every signed drive and asks for no more.
    rw [ClusterView.isCandidate, hentries, h.live c hc] at hcand
    simp only [some_signed, ne_eq, not_false_eq_true, decide_true, Bool.true_and, Bool.or_eq_false_iff, decide_eq_false_iff_not] at hcand
    have : c.missing = 0 := Nat.sub_eq_zero_of_le (not_lt.mp hcand.1.2)
    exact this.le.trans (Nat.zero_le _)
  | true =>
    have hnode : (view c).listFreeDrives.node c.node =
        { (view c).input.node c.node with availGiB := some ((view c).availGiB c.node) } := by
      have hlookup := lookup_foldl_insert id
        (fun name => { (view c).input.node name with availGiB := some ((view c).availGiB name) })
        (l := (view c).input.nodes.keys.filter (view c).isCandidate)
        (by rw [map_id]; exact filter_sublist.nodup (view c).input.nodes.keys_nodup)
        (view c).input.nodes (mem_filter.mpr ⟨hkey, hcand⟩)
      exact congrArg (·.getD {}) hlookup
    have hsigned : (heldCapacities c entries).2 = false := by
      rw [heldCapacities, any_eq_false]
      intro x hx
      obtain ⟨s, hs, rfl⟩ := mem_map.mp hx
      obtain ⟨d, hd, e⟩ := mem_map.mp ((h.held c hc).2 s hs)
      simp only [Option.isNone_iff_eq_none, find?_eq_none, not_forall, decide_eq_true_eq, not_not]
      exact ⟨d, hd, e⟩
    have hdrives : (view c).listFreeDrives.numDrives c.node (some c) = (max ((view c).availGiB c.node).length 1, true) := by
      have hpin : (view c).listFreeDrives.numDrivesPin = 0 := h.unpinned c hc
      rw [DaemonsetInput.numDrives, hnode, hpin]
      simp [hentries, hsigned]
    rw [hdrives] at hnum
    have hlen := h.length_availGiB hc
    have hmissing : c.missing = c.numDrives - c.serials.length := rfl
    rw [if_pos rfl] at hnum
    dsimp only at hnum ⊢
    split
    · omega
    · rename_i hbare
      have : c.serials.length ≠ 0 := fun hzero => hbare (isEmpty_iff_length_eq_zero.mpr hzero)
      omega

end View

def plainConstraints : CapacityConstraints := { tlcCapacityPerCoreGiB := 0, qlcCapacityPerCoreGiB := 0, minChunkSizeGiB := 0 }

/-- Two containers that stay on the node. -/
def twoHolders : List Container :=
  [{ name := "a", node := "node-1", numDrives := 2, drives := some ["s1"] },
    { name := "b", node := "node-1", creationTimestamp := 1, numDrives := 1, drives := some ["s3"] }]

def holderView (c : Container) : ClusterView where
  input := {
    nodes := AList.singleton "node-1"
      { driveRole := true, drivesGiB := [900, 800, 700], entries := [⟨"s1", 900⟩, ⟨"s2", 800⟩, ⟨"s3", 700⟩] }
    live := fun | .drive => AList.singleton "node-1" c | _ => ∅
    cons := plainConstraints }
  own := [("", c.name), ("", "old")]
  list := { name := "elsewhere", node := "node-2", numDrives := 7, drives := some ["s9"] } ::
    { name := "old", node := "node-1", numDrives := 3, leaving := true } :: twoHolders

end WekaOperator.Daemonset
