import WekaOperator.Ports.Cluster

/-! The ports of the containers on one node (`container_allocator.go`). -/

namespace WekaOperator.Ports

/-- Why a container gets no ports. -/
inductive PortError
  | noClusterRange (clusterName : String)
  | weka (cause : NoFreeRange)
  | agent (cause : NoFreeRange)
  deriving DecidableEq, Repr

/-- Its text. -/
def PortError.message : PortError → String
  | noClusterRange clusterName => s!"no port range allocated for cluster {clusterName}"
  | weka cause => "failed to find free weka port range: " ++ cause.message
  | agent cause => "failed to find free agent port: " ++ cause.message

/-- What a container asks for. -/
structure PortRequest where
  clusterName : String
  cluster : ClusterPorts
  flags : Option FeatureFlags
  allocateWeka : Bool
  allocateAgent : Bool

/-- The ranges on a node. -/
def aggregateNodePortsAllocations (containers : List (Option ContainerPorts)) (flags : Option FeatureFlags) : List Range :=
  aggregatePortRangesFromContainers containers (getPortsPerContainerFromFlags flags)

/-- The ports of a container. -/
def allocatePortRangesFromStatus (sorting : Sorting) (q : PortRequest) (allocatedRanges : List Range) :
    Except PortError ContainerPorts :=
  if q.cluster.basePort = 0 then .error (.noClusterRange q.clusterName)
  else
    let allocatedRanges := allocatedRanges ++ q.cluster.getClusterGlobalAllocatedRanges
    match (if q.allocateWeka then
        getFreeRange sorting q.cluster.getClusterRange allocatedRanges (getPortsPerContainerFromFlags q.flags)
      else .ok 0) with
    | .error e => .error (.weka e)
    | .ok wekaPort =>
      let allocatedRanges := if q.allocateWeka then sorting.sort allocatedRanges else allocatedRanges
      match (if q.allocateAgent then
          getFreeRangeWithOffset sorting q.cluster.getClusterRange allocatedRanges 1 (getSinglePortsOffsetFromFlags q.flags)
        else .ok 0) with
      | .error e => .error (.agent e)
      | .ok agentPort => .ok { wekaPort, agentPort }

/-! ### The node -/

/-- A container, and how many ports it was given. -/
structure NodeContainer where
  ports : Option ContainerPorts
  granted : Int
  deriving DecidableEq, Repr

/-- The ports it has. -/
def NodeContainer.owned (c : NodeContainer) : List Range := containerRanges c.granted c.ports

/-- The containers of a node. -/
abbrev NodeState := List NodeContainer

namespace NodeState

/-- The ranges as the allocator sees them. -/
def read (s : NodeState) (flags : Option FeatureFlags) : List Range := aggregateNodePortsAllocations (s.map (·.ports)) flags

/-- Adds a container. -/
def allocate (sorting : Sorting) (s : NodeState) (q : PortRequest) : NodeState :=
  match allocatePortRangesFromStatus sorting q (s.read q.flags) with
  | .error _ => s
  | .ok ports => s ++ [{ ports := some ports, granted := getPortsPerContainerFromFlags q.flags }]

/-- No port is in two containers. -/
def Apart (s : NodeState) : Prop :=
  s.Pairwise fun c d => ∀ r ∈ c.owned, ∀ r' ∈ d.owned, Disjoint r.ports r'.ports

end NodeState

namespace PortRequest
variable (q : PortRequest) (s : NodeState)

/-- The ranges the allocator avoids. -/
def ranges : List Range := s.read q.flags ++ q.cluster.getClusterGlobalAllocatedRanges

/-- Ranges that it finds are free. -/
def GapsFree (size offset : Int) : Prop :=
  ∀ r ∈ q.ranges s, FitsAfter q.cluster.getClusterRange (q.ranges s) size offset r →
    ∀ c ∈ s, ∀ own ∈ c.owned, own.base ≤ r.base → own.stop ≤ gapStart q.cluster.getClusterRange offset r

/-- What it does not see is not in the way. -/
def SeesOwned : Prop :=
  (q.allocateWeka = true → q.GapsFree s (getPortsPerContainerFromFlags q.flags) 0) ∧
    (q.allocateAgent = true → q.GapsFree s 1 (getSinglePortsOffsetFromFlags q.flags))

instance (size offset : Int) : Decidable (q.GapsFree s size offset) := inferInstanceAs (Decidable (∀ r ∈ q.ranges s, _ → ∀ c ∈ s, _))

instance : Decidable (q.SeesOwned s) := inferInstanceAs (Decidable (_ ∧ _))

end PortRequest

theorem portsPerContainer_pos (flags : Option FeatureFlags) : 0 < getPortsPerContainerFromFlags flags := by
  unfold getPortsPerContainerFromFlags
  split <;> omega

theorem mem_containerRanges {size : Int} {ports : Option ContainerPorts} {r : Range} :
    r ∈ containerRanges size ports ↔
      ∃ a, ports = some a ∧ ((0 < a.wekaPort ∧ r = ⟨a.wekaPort, size⟩) ∨ (0 < a.agentPort ∧ r = ⟨a.agentPort, 1⟩)) := by
  cases ports with
  | none => simp [containerRanges]
  | some a => simp [containerRanges]

variable {s : NodeState} {sorting : Sorting} {q : PortRequest}

theorem NodeState.exists_read {c : NodeContainer} {own : Range} (hc : c ∈ s) (hown : own ∈ c.owned)
    (flags : Option FeatureFlags) : ∃ r ∈ s.read flags, r.base = own.base := by
  obtain ⟨a, ha, h⟩ := mem_containerRanges.mp hown
  have mem : ∀ r, r ∈ containerRanges (getPortsPerContainerFromFlags flags) c.ports → r ∈ s.read flags := by
    intro r hr
    exact List.mem_flatMap.mpr ⟨c.ports, List.mem_map_of_mem hc, hr⟩
  rcases h with ⟨hpos, rfl⟩ | ⟨hpos, rfl⟩
  · exact ⟨_, mem _ (mem_containerRanges.mpr ⟨a, ha, .inl ⟨hpos, rfl⟩⟩), rfl⟩
  · exact ⟨_, mem _ (mem_containerRanges.mpr ⟨a, ha, .inr ⟨hpos, rfl⟩⟩), rfl⟩

theorem PortRequest.ranges_size : ∀ r ∈ q.ranges s, 0 ≤ r.size := by
  intro r hr
  rcases List.mem_append.mp hr with hr | hr
  · obtain ⟨ports, -, hr⟩ := List.mem_flatMap.mp hr
    obtain ⟨a, -, ⟨-, rfl⟩ | ⟨-, rfl⟩⟩ := mem_containerRanges.mp hr
    · exact (portsPerContainer_pos q.flags).le
    · exact Int.one_nonneg
  · obtain ⟨port, -, rfl⟩ := List.mem_map.mp hr
    exact Int.one_nonneg

theorem PortRequest.search_free {ranges : List Range} {size offset start : Int} (hranges : ranges.Perm (q.ranges s))
    (hsize : 0 < size) (free : q.GapsFree s size offset)
    (h : getFreeRangeWithOffset sorting q.cluster.getClusterRange ranges size offset = .ok start) :
    ∀ c ∈ s, ∀ own ∈ c.owned, Disjoint own.ports (Range.ports ⟨start, size⟩) := by
  intro c hc own hown
  obtain ⟨r, hr, hbase⟩ := NodeState.exists_read hc hown q.flags
  have hr : r ∈ ranges := hranges.mem_iff.mpr (List.mem_append_left _ hr)
  have above : Range.stop ⟨start, size⟩ ≤ own.base → Disjoint own.ports (Range.ports ⟨start, size⟩) := fun h =>
    (Range.disjoint_of_stop_le h).symm
  rcases getFreeRangeWithOffset_ok hsize (fun r hr => q.ranges_size r (hranges.mem_iff.mp hr)) h with first | ⟨g, hg, fits, rfl⟩
  · exact above (hbase ▸ first r hr)
  · rcases le_or_gt own.base g.base with hle | hlt
    · have fits' : FitsAfter q.cluster.getClusterRange (q.ranges s) size offset g := by
        simpa only [FitsAfter, hranges.mem_iff] using fits
      exact Range.disjoint_of_stop_le (free g (hranges.mem_iff.mp hg) fits' c hc own hown hle)
    · exact above (hbase ▸ fits.1 r hr (hbase ▸ hlt))

theorem allocatePortRangesFromStatus_ok {allocatedRanges : List Range} {ports : ContainerPorts}
    (h : allocatePortRangesFromStatus sorting q allocatedRanges = .ok ports) :
    ∃ ranges, ranges.Perm (allocatedRanges ++ q.cluster.getClusterGlobalAllocatedRanges) ∧
      (if q.allocateWeka then
        getFreeRange sorting q.cluster.getClusterRange (allocatedRanges ++ q.cluster.getClusterGlobalAllocatedRanges)
          (getPortsPerContainerFromFlags q.flags) = .ok ports.wekaPort
       else ports.wekaPort = 0) ∧
      (if q.allocateAgent then
        getFreeRangeWithOffset sorting q.cluster.getClusterRange ranges 1 (getSinglePortsOffsetFromFlags q.flags) =
          .ok ports.agentPort
       else ports.agentPort = 0) := by
  unfold allocatePortRangesFromStatus at h
  split at h
  · cases h
  simp only at h
  generalize hranges : (if q.allocateWeka = true then _ else _ : List Range) = ranges at h
  refine ⟨ranges, ?_, ?_⟩
  · rw [← hranges]
    split
    · exact sorting.perm _
    · exact .refl _
  split at h
  · cases h
  rename_i wekaPort hweka
  split at h
  · cases h
  rename_i agentPort hagent
  cases h
  constructor
  · split
    · rename_i hw
      rwa [if_pos hw] at hweka
    · rename_i hw
      rw [if_neg hw] at hweka
      exact (Except.ok.inj hweka).symm
  · split
    · rename_i ha
      rwa [if_pos ha] at hagent
    · rename_i ha
      rw [if_neg ha] at hagent
      exact (Except.ok.inj hagent).symm

theorem NodeState.Apart.allocate (h : s.Apart) (sees : q.SeesOwned s) : (s.allocate sorting q).Apart := by
  unfold NodeState.allocate
  split
  · exact h
  · rename_i ports hports
    obtain ⟨ranges, perm, hweka, hagent⟩ := allocatePortRangesFromStatus_ok hports
    refine List.pairwise_append.mpr ⟨h, List.pairwise_singleton _ _, ?_⟩
    intro c hc d hd own hown r hr
    rw [List.mem_singleton] at hd
    subst hd
    obtain ⟨a, ha, new⟩ := mem_containerRanges.mp hr
    cases ha
    rcases new with ⟨hpos, rfl⟩ | ⟨hpos, rfl⟩
    · split at hweka
      · rename_i hw
        exact PortRequest.search_free (.refl _) (portsPerContainer_pos q.flags) (sees.1 hw) hweka c hc own hown
      · omega
    · split at hagent
      · rename_i ha
        exact PortRequest.search_free perm Int.one_pos (sees.2 ha) hagent c hc own hown
      · omega

/-! ### Histories of a node -/

/-- The node after requests. -/
def nodeAfter (sorting : Sorting) (requests : List PortRequest) : NodeState := requests.foldl (NodeState.allocate sorting) []

/-- The same for each request in turn. -/
def SeesOwnedFrom (sorting : Sorting) (s : NodeState) : List PortRequest → Prop
  | [] => True
  | q :: rest => q.SeesOwned s ∧ SeesOwnedFrom sorting (s.allocate sorting q) rest

instance (sorting : Sorting) (requests : List PortRequest) (s : NodeState) : Decidable (SeesOwnedFrom sorting s requests) :=
  match requests with
  | [] => .isTrue trivial
  | q :: rest =>
    have : Decidable (SeesOwnedFrom sorting (s.allocate sorting q) rest) := instDecidableSeesOwnedFrom sorting rest _
    inferInstanceAs (Decidable (_ ∧ _))

theorem NodeState.Apart.run {requests : List PortRequest} (h : s.Apart) (sees : SeesOwnedFrom sorting s requests) :
    NodeState.Apart (requests.foldl (NodeState.allocate sorting) s) := by
  induction requests generalizing s with
  | nil => exact h
  | cons q rest ih =>
    obtain ⟨now, later⟩ := sees
    exact ih (h.allocate now) later

/-- The ports of the containers on a node stay apart as long as each allocation finds the gaps free that it may take. -/
theorem allocatePortRangesFromStatus_disjoint (sorting : Sorting) (requests : List PortRequest)
    (sees : SeesOwnedFrom sorting [] requests) : (nodeAfter sorting requests).Apart :=
  NodeState.Apart.run .nil sees

def samplePorts : ClusterPorts := { basePort := 35000, portRange := 500, lbPort := 35300, lbAdminPort := 35301, s3Port := 35302 }

def sampleRequest (reduced : Bool) : PortRequest :=
  { clusterName := "c", cluster := samplePorts, flags := some ⟨reduced⟩, allocateWeka := true, allocateAgent := true }

theorem allocatePortRangesFromStatus_disjoint_three :
    SeesOwnedFrom Sorting.stable [] (List.replicate 3 (sampleRequest false)) ∧
      (nodeAfter Sorting.stable (List.replicate 3 (sampleRequest false))).Apart :=
  have sees : SeesOwnedFrom Sorting.stable [] (List.replicate 3 (sampleRequest false)) := by decide
  ⟨sees, allocatePortRangesFromStatus_disjoint _ _ sees⟩

/-- A container of the old image keeps 100 ports; the next one, of an image with 60, takes them for 60. -/
theorem allocatePortRangesFromStatus_upgrade_overlap :
    nodeAfter Sorting.stable [sampleRequest false, sampleRequest true] =
      [⟨some ⟨35000, 35303⟩, 100⟩, ⟨some ⟨35060, 35240⟩, 60⟩] ∧
    ¬(nodeAfter Sorting.stable [sampleRequest false, sampleRequest true]).Apart := by
  have state : nodeAfter Sorting.stable [sampleRequest false, sampleRequest true] =
      [⟨some ⟨35000, 35303⟩, 100⟩, ⟨some ⟨35060, 35240⟩, 60⟩] := by decide
  refine ⟨state, ?_⟩
  rw [state]
  intro apart
  have disjoint := List.rel_of_pairwise_cons apart List.mem_cons_self ⟨35000, 100⟩ (by decide) ⟨35060, 60⟩ (by decide)
  -- port 35060 belongs to both
  have both : (35060 : Int) ∈ Range.ports ⟨35000, 100⟩ ∧ (35060 : Int) ∈ Range.ports ⟨35060, 60⟩ := by
    simp [Range.ports, Range.stop]
  exact Set.disjoint_left.mp disjoint both.1 both.2

end WekaOperator.Ports
