import WekaOperator.Ports.Ranges

/-! The port range of a cluster (`allocator.go`): a free range among those of all clusters, and in it the ports of the
    cluster's own services. Over all histories of calls the ranges stay apart, as long as no end of a requested range
    overflows. -/

namespace WekaOperator.Ports
open Lib

/-- The last port. -/
def maxPort : Int := 65535

/-- The flags of a weka version. -/
structure FeatureFlags where
  agentValidate60PortsPerContainer : Bool
  deriving DecidableEq, Repr

/-- Fewer ports a container. -/
def reducedPorts : Option FeatureFlags → Bool
  | some flags => flags.agentValidate60PortsPerContainer
  | none => false

/-- Ports of a container. -/
def getPortsPerContainerFromFlags (flags : Option FeatureFlags) : Int := if reducedPorts flags then 60 else 100

/-- Ports of a cluster. -/
def getClusterPortRangeFromFlags (flags : Option FeatureFlags) : Int := if reducedPorts flags then 260 else 500

/-- Where single ports start. -/
def getSinglePortsOffsetFromFlags (flags : Option FeatureFlags) : Int := if reducedPorts flags then 240 else 300

/-! ### Ports of containers -/

/-- The ports of a container. -/
structure ContainerPorts where
  wekaPort : Int
  agentPort : Int
  deriving DecidableEq, Repr

/-- The same as ranges. -/
def containerRanges (portsPerContainer : Int) : Option ContainerPorts → List Range
  | none => []
  | some a =>
    (if a.wekaPort > 0 then [⟨a.wekaPort, portsPerContainer⟩] else []) ++ (if a.agentPort > 0 then [⟨a.agentPort, 1⟩] else [])

/-- The ranges of containers. -/
def aggregatePortRangesFromContainers (containers : List (Option ContainerPorts)) (portsPerContainer : Int) : List Range :=
  containers.flatMap (containerRanges portsPerContainer)

/-- The containers by node, as far as listed. -/
abbrev Nodes := List (Option (List (Option ContainerPorts)))

/-- The ranges on all nodes. -/
def aggregateContainerPortAllocations (nodes : Except String Nodes) (flags : Option FeatureFlags) : Except String (List Range) :=
  match nodes with
  | .error cause => .error s!"failed to list nodes: {cause}"
  | .ok nodes =>
    .ok (nodes.flatMap fun containers =>
      aggregatePortRangesFromContainers (containers.getD []) (getPortsPerContainerFromFlags flags))

/-! ### Ports of the cluster's services -/

/-- The single ports of a cluster. -/
inductive GlobalPort
  | lb | lbAdmin | s3 | managementProxy
  deriving DecidableEq, Repr

/-- The name in keys. -/
def GlobalPort.name : GlobalPort → String
  | lb => "lb"
  | lbAdmin => "lbAdmin"
  | s3 => "s3"
  | managementProxy => "managementProxy"

/-- The name in errors. -/
def GlobalPort.title : GlobalPort → String
  | lb => "LB"
  | lbAdmin => "LB Admin"
  | s3 => "S3"
  | managementProxy => "management proxy"

/-- `Status.Ports` of a cluster, and the part of its spec with the same fields. -/
structure ClusterPorts where
  basePort : Int := 0
  portRange : Int := 0
  lbPort : Int := 0
  lbAdminPort : Int := 0
  s3Port : Int := 0
  managementProxyPort : Int := 0
  deriving DecidableEq, Repr

namespace ClusterPorts

/-- One of the ports. -/
def getClusterPortByName (ports : ClusterPorts) : GlobalPort → Int
  | .lb => ports.lbPort
  | .lbAdmin => ports.lbAdminPort
  | .s3 => ports.s3Port
  | .managementProxy => ports.managementProxyPort

/-- Sets one of the ports. -/
def setPort (ports : ClusterPorts) (port : Int) : GlobalPort → ClusterPorts
  | .lb => { ports with lbPort := port }
  | .lbAdmin => { ports with lbAdminPort := port }
  | .s3 => { ports with s3Port := port }
  | .managementProxy => { ports with managementProxyPort := port }

/-- The range of a cluster. -/
def getClusterRange (ports : ClusterPorts) : Range := ⟨ports.basePort, ports.portRange⟩

/-- Its single ports as ranges. -/
def getClusterGlobalAllocatedRanges (ports : ClusterPorts) : List Range :=
  ([ports.lbPort, ports.lbAdminPort, ports.s3Port, ports.managementProxyPort].filter (· > 0)).map (⟨·, 1⟩)

/-- The cluster has a range. -/
def Allocated (ports : ClusterPorts) : Prop := ports.basePort ≠ 0

instance (ports : ClusterPorts) : Decidable ports.Allocated := inferInstanceAs (Decidable (_ ≠ _))

@[simp] theorem setPort_range (ports : ClusterPorts) (port : Int) (p : GlobalPort) :
    (ports.setPort port p).getClusterRange = ports.getClusterRange := by cases p <;> rfl

end ClusterPorts

section Services
variable (sorting : Sorting)

/-- `EnsureSpecificGlobalRange`: the port the spec names. -/
def ensureSpecificGlobalRange (status : ClusterPorts) (p : GlobalPort) (target : Range) (nodePortClaims : List Range) :
    Except String Range :=
  let existing := status.getClusterPortByName p
  let name := p.name
  if existing ≠ 0 then
    if existing ≠ target.base then .error s!"range {name} is already allocated with different base {existing}"
    else if target.size ≠ 1 then .error s!"range {name} is already allocated with different size"
    else .ok ⟨existing, target.size⟩
  else
    let allocatedRanges := sorting.sort (status.getClusterGlobalAllocatedRanges ++ nodePortClaims)
    if isRangeAvailable status.getClusterRange allocatedRanges target then .ok target
    else .error s!"range {name} is not available"

/-- `EnsureGlobalRangeWithOffset`: the first free port behind the offset. -/
def ensureGlobalRangeWithOffset (status : ClusterPorts) (p : GlobalPort) (size offset : Int) (nodePortClaims : List Range) :
    Except String Range :=
  let existing := status.getClusterPortByName p
  if existing ≠ 0 then .ok ⟨existing, size⟩
  else
    let allocatedRanges := sorting.sort (status.getClusterGlobalAllocatedRanges ++ nodePortClaims)
    match getFreeRangeWithOffset sorting status.getClusterRange allocatedRanges size offset with
    | .ok base => .ok ⟨base, size⟩
    | .error e => .error e.message

/-- Finds one of the ports. -/
def ensureGlobalPort (spec status : ClusterPorts) (flags : Option FeatureFlags) (nodePortClaims : List Range) (p : GlobalPort) :
    Except String Range :=
  if spec.getClusterPortByName p ≠ 0 then
    ensureSpecificGlobalRange sorting status p ⟨spec.getClusterPortByName p, 1⟩ nodePortClaims
  else ensureGlobalRangeWithOffset sorting status p 1 (getSinglePortsOffsetFromFlags flags) nodePortClaims

/-- Finds all of them. -/
def ensureGlobalPorts (spec : ClusterPorts) (flags : Option FeatureFlags) (nodePortClaims : List Range) :
    List GlobalPort → ClusterPorts → Option String × ClusterPorts
  | [], status => (none, status)
  | p :: rest, status =>
    let title := p.title
    match ensureGlobalPort sorting spec status flags nodePortClaims p with
    | .error cause => (some s!"failed to allocate {title} port: {cause}", status)
    | .ok range => ensureGlobalPorts spec flags nodePortClaims rest (status.setPort range.base p)

/-- Finds the port of the management proxy. -/
def ensureManagementProxyPort (flags : Option FeatureFlags) (nodes : Except String Nodes) (status : ClusterPorts) :
    Option String × ClusterPorts :=
  match aggregateContainerPortAllocations nodes flags with
  | .error cause => (some s!"failed to aggregate container port allocations: {cause}", status)
  | .ok nodePortClaims => ensureGlobalPorts sorting {} flags nodePortClaims [.managementProxy] status

theorem ensureGlobalPorts_range (spec : ClusterPorts) (flags : Option FeatureFlags) (claims : List Range) (l : List GlobalPort)
    (status : ClusterPorts) : (ensureGlobalPorts sorting spec flags claims l status).2.getClusterRange = status.getClusterRange := by
  induction l generalizing status with
  | nil => rfl
  | cons p rest ih =>
    unfold ensureGlobalPorts
    simp only
    split
    · rfl
    · rw [ih, ClusterPorts.setPort_range]

theorem ensureManagementProxyPort_range (flags : Option FeatureFlags) (nodes : Except String Nodes) (status : ClusterPorts) :
    (ensureManagementProxyPort sorting flags nodes status).2.getClusterRange = status.getClusterRange := by
  unfold ensureManagementProxyPort
  split
  · rfl
  · exact ensureGlobalPorts_range ..

end Services

/-! ### The range of a cluster -/

/-- A cluster by name. -/
structure OwnerCluster where
  clusterName : String
  clusterNamespace : String
  deriving DecidableEq, Repr

/-- Its ports, asked for and given. -/
structure Cluster where
  spec : ClusterPorts
  status : ClusterPorts := {}
  deriving DecidableEq, Repr

/-- All clusters. -/
abbrev Clusters := AList fun _ : OwnerCluster => Cluster

/-- Their ranges. -/
def aggregateClusterPortRanges (clusters : Clusters) : List Range :=
  clusters.entries.filterMap fun c => if c.2.status.basePort > 0 then some c.2.status.getClusterRange else none

/-- Why there is no range. -/
inductive ClusterRangeError
  | failed (text : String)
  | notAvailable (range : Range)
  deriving DecidableEq, Repr

/-- Its text. -/
def ClusterRangeError.message : ClusterRangeError → String
  | failed text => text
  | notAvailable range =>
    let first := range.base
    let last := range.stop
    s!"range {first}-{last} is not available"

section Allocation
variable (sorting : Sorting) (startingPort : Int)

/-- The loop of `ClusterRanges.GetFreeRange` over the sorted ranges. -/
def scanFreeRange (size : Int) (l : List Range) (int : Int → Int := id) : Except String Int :=
  match l with
  | [] => .ok startingPort
  | [v] => if int (v.base + size) ≥ maxPort then .error s!"no free range available for size {size}" else .ok (int v.stop)
  | v :: next :: rest => if int (v.stop + size) ≤ next.base then .ok (int v.stop) else scanFreeRange size (next :: rest) int

/-- The first free range. -/
def getFreeClusterRange (ranges : List Range) (size : Int) (int : Int → Int := id) : Except String Int :=
  scanFreeRange startingPort size (sorting.sort ranges) int

/-- The range is free. -/
def isClusterRangeAvailable (ranges : List Range) (target : Range) (int : Int → Int := id) : Bool :=
  isRangeAvailable ⟨0, maxPort⟩ (sorting.sort ranges) target int

/-- The range asked for, or a free one. -/
def chooseClusterRange (ranges : List Range) (spec : ClusterPorts) (flags : Option FeatureFlags) (int : Int → Int := id) :
    Except ClusterRangeError Range :=
  let targetSize := if spec.portRange = 0 then getClusterPortRangeFromFlags flags else spec.portRange
  match (if spec.basePort = 0 then getFreeClusterRange sorting startingPort ranges targetSize int else .ok spec.basePort) with
  | .error text => .error (.failed text)
  | .ok targetPort =>
    if isClusterRangeAvailable sorting ranges ⟨targetPort, targetSize⟩ int then .ok ⟨targetPort, targetSize⟩
    else .error (.notAvailable ⟨targetPort, targetSize⟩)

/-- `AllocateClusterRange`: the error and the status in memory. -/
def allocateClusterRange (clusters : Except String Clusters) (nodes : Except String Nodes) (flags : Option FeatureFlags)
    (spec status : ClusterPorts) (int : Int → Int := id) : Option ClusterRangeError × ClusterPorts :=
  if spec.basePort ≠ 0 ∧ status.basePort ≠ 0 ∧ status.basePort ≠ spec.basePort then
    (some (.failed "updating base port is not supported"), status)
  else if spec.portRange ≠ 0 ∧ status.portRange ≠ 0 ∧ status.portRange ≠ spec.portRange then
    (some (.failed "updating port range is not supported"), status)
  else if status.basePort ≠ 0 then (none, status)
  else match clusters with
    | .error cause => (some (.failed s!"failed to list clusters: {cause}"), status)
    | .ok clusters =>
      match chooseClusterRange sorting startingPort (aggregateClusterPortRanges clusters) spec flags int with
      | .error e => (some e, status)
      | .ok range =>
        let status := { status with basePort := range.base, portRange := range.size }
        match aggregateContainerPortAllocations nodes flags with
        | .error cause => (some (.failed s!"failed to aggregate container port allocations: {cause}"), status)
        | .ok nodePortClaims =>
          let (err, status) := ensureGlobalPorts sorting spec flags nodePortClaims [.lb, .lbAdmin, .s3] status
          (err.map .failed, status)

/-- The size `AllocateClusterRange` looks for. -/
def targetSize (spec : ClusterPorts) (flags : Option FeatureFlags) : Int :=
  if spec.portRange = 0 then getClusterPortRangeFromFlags flags else spec.portRange

variable {sorting startingPort} {int : Int → Int}

theorem scanFreeRange_le {size port bound : Int} {l : List Range} (start : startingPort ≤ bound) (stop : ∀ r ∈ l, int r.stop ≤ bound)
    (h : scanFreeRange startingPort size l int = .ok port) : port ≤ bound := by
  fun_induction scanFreeRange startingPort size l int with
  | case1 =>
    cases h
    exact start
  | case2 => cases h
  | case3 v =>
    cases h
    exact stop v List.mem_cons_self
  | case4 v =>
    cases h
    exact stop v List.mem_cons_self
  | case5 v next rest _ ih => exact ih (fun r hr => stop r (List.mem_cons_of_mem _ hr)) h

theorem chooseClusterRange_ok {ranges : List Range} {spec : ClusterPorts} {flags : Option FeatureFlags} {range : Range}
    (h : chooseClusterRange sorting startingPort ranges spec flags int = .ok range) :
    isClusterRangeAvailable sorting ranges range int = true ∧ range.size = targetSize spec flags ∧
      if spec.basePort = 0 then getFreeClusterRange sorting startingPort ranges (targetSize spec flags) int = .ok range.base
      else range.base = spec.basePort := by
  unfold chooseClusterRange at h
  unfold targetSize
  simp only at h
  generalize (if spec.portRange = 0 then getClusterPortRangeFromFlags flags else spec.portRange) = size at h ⊢
  split at h
  · cases h
  · rename_i targetPort found
    split at h
    · rename_i available
      cases h
      refine ⟨available, rfl, ?_⟩
      split at found
      · rename_i auto
        rw [if_pos auto]
        exact found
      · rename_i named
        rw [if_neg named]
        injection found with found
        exact found.symm
    · cases h

theorem allocateClusterRange_range (clusters : Except String Clusters) (nodes : Except String Nodes) (flags : Option FeatureFlags)
    (spec status : ClusterPorts) :
    (allocateClusterRange sorting startingPort clusters nodes flags spec status int).2.getClusterRange = status.getClusterRange ∨
      ∃ cs, clusters = .ok cs ∧ status.basePort = 0 ∧
        chooseClusterRange sorting startingPort (aggregateClusterPortRanges cs) spec flags int =
          .ok (allocateClusterRange sorting startingPort clusters nodes flags spec status int).2.getClusterRange := by
  unfold allocateClusterRange
  by_cases hbase : spec.basePort ≠ 0 ∧ status.basePort ≠ 0 ∧ status.basePort ≠ spec.basePort
  · rw [if_pos hbase]
    exact Or.inl rfl
  rw [if_neg hbase]
  by_cases hrange : spec.portRange ≠ 0 ∧ status.portRange ≠ 0 ∧ status.portRange ≠ spec.portRange
  · rw [if_pos hrange]
    exact Or.inl rfl
  rw [if_neg hrange]
  by_cases hset : status.basePort ≠ 0
  · rw [if_pos hset]
    exact Or.inl rfl
  rw [if_neg hset]
  cases clusters with
  | error cause => exact Or.inl rfl
  | ok cs =>
    simp only
    split
    · exact Or.inl rfl
    · rename_i range hrange
      refine Or.inr ⟨cs, rfl, not_not.mp hset, hrange.trans ?_⟩
      split
      · rfl
      · rw [ensureGlobalPorts_range]
        rfl

end Allocation

/-! ### Histories -/

/-- Clusters come, go and get their ports. -/
inductive ClusterEvent
  | create (owner : OwnerCluster) (spec : ClusterPorts)
  | edit (owner : OwnerCluster) (spec : ClusterPorts)
  | allocate (owner : OwnerCluster) (listFails : Option String) (nodes : Except String Nodes) (flags : Option FeatureFlags)
  | managementProxy (owner : OwnerCluster) (nodes : Except String Nodes) (flags : Option FeatureFlags)
  | delete (owner : OwnerCluster)

variable {clusters : Clusters}

section Histories
variable (sorting : Sorting) (startingPort : Int)

/-- Changes a cluster. -/
def Clusters.update (clusters : Clusters) (owner : OwnerCluster) (f : Cluster → Cluster) : Clusters :=
  match clusters.lookup owner with
  | some c => clusters.insert owner (f c)
  | none => clusters

/-- One event; the listing sees every status written before. -/
def ClusterEvent.step (clusters : Clusters) (event : ClusterEvent) (int : Int → Int := id) : Clusters :=
  match event with
  | create owner spec => if owner ∈ clusters then clusters else clusters.insert owner { spec }
  | edit owner spec => clusters.update owner fun c => { c with spec }
  | allocate owner listFails nodes flags =>
    let listed := match listFails with
      | some cause => .error cause
      | none => .ok clusters
    clusters.update owner fun c =>
      { c with status := (allocateClusterRange sorting startingPort listed nodes flags c.spec c.status int).2 }
  | managementProxy owner nodes flags =>
    clusters.update owner fun c => { c with status := (ensureManagementProxyPort sorting flags nodes c.status).2 }
  | delete owner => clusters.erase owner

/-- The clusters after events. -/
def clustersAfter (events : List ClusterEvent) (int : Int → Int := id) : Clusters :=
  events.foldl (fun clusters event => event.step sorting startingPort clusters int) ∅

/-- A call that is to choose a range asks for a positive size, and the end of the range asked for does not overflow. -/
def ClusterEvent.endsInRange (clusters : Clusters) : ClusterEvent → Bool
  | allocate owner _ _ flags =>
    match clusters.lookup owner with
    | some c =>
      let base := if c.spec.basePort = 0 then max startingPort maxPort else c.spec.basePort
      decide (c.status.basePort ≠ 0) ||
        decide (0 < targetSize c.spec flags ∧ base + targetSize c.spec flags ≤ 9223372036854775808)
    | none => true
  | _ => true

/-- Every call of the history is such a call. -/
def endInRange : Clusters → List ClusterEvent → Bool
  | _, [] => true
  | clusters, event :: rest =>
    event.endsInRange startingPort clusters && endInRange (event.step sorting startingPort clusters int64) rest

/-- The allocated ranges lie among the ports and share none. -/
structure RangesApart (clusters : Clusters) : Prop where
  inside : ∀ owner c, clusters.lookup owner = some c → c.status.Allocated →
    0 < c.status.basePort ∧ 0 < c.status.portRange ∧ c.status.getClusterRange.stop ≤ maxPort
  apart : ∀ owner c owner' c', clusters.lookup owner = some c → clusters.lookup owner' = some c' → owner ≠ owner' →
    c.status.Allocated → c'.status.Allocated → Disjoint c.status.getClusterRange.ports c'.status.getClusterRange.ports

variable {sorting startingPort}

section
variable (h : RangesApart clusters)
include h

theorem RangesApart.mem_aggregate {owner : OwnerCluster} {c : Cluster} (hc : clusters.lookup owner = some c)
    (ha : c.status.Allocated) : c.status.getClusterRange ∈ aggregateClusterPortRanges clusters := by
  refine List.mem_filterMap.mpr ⟨⟨owner, c⟩, AList.mem_lookup_iff.mp hc, ?_⟩
  rw [if_pos (h.inside owner c hc ha).1]

theorem RangesApart.of_mem {r : Range} (hr : r ∈ aggregateClusterPortRanges clusters) :
    0 < r.base ∧ 0 < r.size ∧ r.stop ≤ maxPort := by
  obtain ⟨⟨owner, c⟩, hc, hr⟩ := List.mem_filterMap.mp hr
  split at hr
  · rename_i allocated
    cases hr
    exact h.inside owner c (AList.mem_lookup_iff.mpr hc) allocated.ne.symm
  · cases hr

/-- Without overflow a chosen range is what the availability test is meant to find. -/
theorem RangesApart.chosen {spec : ClusterPorts} {flags : Option FeatureFlags} {range : Range}
    (size : 0 < targetSize spec flags)
    (bound : (if spec.basePort = 0 then max startingPort maxPort else spec.basePort) + targetSize spec flags ≤ 9223372036854775808)
    (hr : chooseClusterRange sorting startingPort (aggregateClusterPortRanges clusters) spec flags int64 = .ok range) :
    0 ≤ range.base ∧ 0 < range.size ∧ range.stop ≤ maxPort ∧
      ∀ r ∈ aggregateClusterPortRanges clusters, Disjoint range.ports r.ports := by
  obtain ⟨available, hsize, hbase⟩ := chooseClusterRange_ok hr
  have low : 0 ≤ range.base := isRangeAvailable_low available
  have ports : ∀ r ∈ aggregateClusterPortRanges clusters, 0 < r.base ∧ 0 < r.size ∧ r.stop ≤ 65535 := fun r hr => h.of_mem hr
  have high : range.base + range.size ≤ 9223372036854775808 := by
    rw [hsize]
    split at hbase
    · rename_i auto
      rw [if_pos auto] at bound
      refine (Int.add_le_add_right (scanFreeRange_le (le_max_left _ _) (fun r hr => ?_) hbase) _).trans bound
      have := ports r (sorting.mem.mp hr)
      refine le_max_of_le_right ?_
      unfold Range.stop at *
      rw [int64_of_bounds (by omega) (by omega)]
      exact this.2.2
    · rename_i named
      rw [if_neg named] at bound
      rwa [hbase]
  have exactEnds : ∀ r ∈ (⟨0, maxPort⟩ : Range) :: range :: sorting.sort (aggregateClusterPortRanges clusters),
      int64 (r.base + r.size - 1) = r.base + r.size - 1 := by
    intro r hr
    rcases List.mem_cons.mp hr with rfl | hr
    · decide
    rcases List.mem_cons.mp hr with rfl | hr
    · exact int64_of_bounds (by omega) (by omega)
    · have := ports r (sorting.mem.mp hr)
      unfold Range.stop at this
      exact int64_of_bounds (by omega) (by omega)
  obtain ⟨inside, free⟩ := isRangeAvailable_spec exactEnds available
  refine ⟨low, hsize ▸ size, ?_, fun r hr => free r (sorting.mem.mpr hr)⟩
  simpa [Range.stop] using inside

theorem RangesApart.update (owner : OwnerCluster) {f : Cluster → Cluster}
    (hf : ∀ c, clusters.lookup owner = some c → (f c).status.getClusterRange = c.status.getClusterRange ∨
      (0 ≤ (f c).status.basePort ∧ 0 < (f c).status.portRange ∧ (f c).status.getClusterRange.stop ≤ maxPort ∧
        ∀ r ∈ aggregateClusterPortRanges clusters, Disjoint (f c).status.getClusterRange.ports r.ports)) :
    RangesApart (clusters.update owner f) := by
  unfold Clusters.update
  cases hc : clusters.lookup owner with
  | none => exact h
  | some c =>
    simp only
    -- what the stored range is against every other cluster's
    have stored : (f c).status.Allocated →
        (0 < (f c).status.basePort ∧ 0 < (f c).status.portRange ∧ (f c).status.getClusterRange.stop ≤ maxPort) ∧
        ∀ owner' c', owner' ≠ owner → clusters.lookup owner' = some c' → c'.status.Allocated →
          Disjoint (f c).status.getClusterRange.ports c'.status.getClusterRange.ports := by
      intro ha
      rcases hf c hc with same | ⟨low, size, inside, free⟩
      · have hbase : (f c).status.basePort = c.status.basePort := congrArg Range.base same
        have hsize : (f c).status.portRange = c.status.portRange := congrArg Range.size same
        have ha' : c.status.Allocated := by unfold ClusterPorts.Allocated at ha ⊢; rwa [hbase] at ha
        rw [same, hbase, hsize]
        exact ⟨h.inside owner c hc ha', fun owner' c' hne hc' hac' => h.apart owner c owner' c' hc hc' hne.symm ha' hac'⟩
      · exact ⟨⟨lt_of_le_of_ne low ha.symm, size, inside⟩, fun owner' c' _ hc' hac' => free _ (h.mem_aggregate hc' hac')⟩
    constructor
    · intro o d hd ha
      by_cases ho : o = owner
      · subst ho
        rw [AList.lookup_insert] at hd
        cases hd
        exact (stored ha).1
      · rw [AList.lookup_insert_ne ho] at hd
        exact h.inside o d hd ha
    · intro o d o' d' hd hd' hne ha ha'
      by_cases ho : o = owner
      · subst ho
        rw [AList.lookup_insert] at hd
        rw [AList.lookup_insert_ne hne.symm] at hd'
        cases hd
        exact (stored ha).2 o' d' hne.symm hd' ha'
      · rw [AList.lookup_insert_ne ho] at hd
        by_cases ho' : o' = owner
        · subst ho'
          rw [AList.lookup_insert] at hd'
          cases hd'
          exact ((stored ha').2 o d ho hd ha).symm
        · rw [AList.lookup_insert_ne ho'] at hd'
          exact h.apart o d o' d' hd hd' hne ha ha'

theorem RangesApart.mono {clusters' : Clusters}
    (old : ∀ o d, clusters'.lookup o = some d → d.status.Allocated → clusters.lookup o = some d) : RangesApart clusters' := by
  constructor
  · intro o d hd ha
    exact h.inside o d (old o d hd ha) ha
  · intro o d o' d' hd hd' hne ha ha'
    exact h.apart o d o' d' (old o d hd ha) (old o' d' hd' ha') hne ha ha'

theorem RangesApart.create (owner : OwnerCluster) (spec : ClusterPorts) :
    RangesApart (clusters.insert owner { spec }) := by
  refine h.mono fun o d hd ha => ?_
  by_cases ho : o = owner
  · -- a new cluster has no range
    subst ho
    rw [AList.lookup_insert] at hd
    cases hd
    exact absurd rfl ha
  · rwa [AList.lookup_insert_ne ho] at hd

theorem RangesApart.delete (owner : OwnerCluster) : RangesApart (clusters.erase owner) := by
  refine h.mono fun o d hd _ => ?_
  by_cases ho : o = owner
  · subst ho
    rw [AList.lookup_erase] at hd
    cases hd
  · rwa [AList.lookup_erase_ne ho] at hd

theorem RangesApart.step (event : ClusterEvent) (bounded : event.endsInRange startingPort clusters = true) :
    RangesApart (event.step sorting startingPort clusters int64) := by
  cases event with
  | create owner spec =>
    simp only [ClusterEvent.step]
    split
    · exact h
    · exact h.create owner spec
  | edit owner spec => exact h.update owner fun _ _ => Or.inl rfl
  | allocate owner listFails nodes flags =>
    refine h.update owner fun c hc => ?_
    cases listFails with
    | some cause =>
      rcases @allocateClusterRange_range sorting startingPort int64 (.error cause) nodes flags c.spec c.status with
        same | ⟨cs, hcs, -⟩
      · exact Or.inl same
      · cases hcs
    | none =>
      rcases @allocateClusterRange_range sorting startingPort int64 (.ok clusters) nodes flags c.spec c.status with
        same | ⟨cs, hcs, unset, chosen⟩
      · exact Or.inl same
      · cases hcs
        simp only [ClusterEvent.endsInRange, hc, unset, ne_eq, not_true_eq_false, decide_false, Bool.false_or,
          decide_eq_true_eq] at bounded
        exact Or.inr (h.chosen bounded.1 bounded.2 chosen)
  | managementProxy owner nodes flags =>
    exact h.update owner fun c _ => Or.inl (ensureManagementProxyPort_range ..)
  | delete owner => exact h.delete owner

theorem RangesApart.run {events : List ClusterEvent} (bounded : endInRange sorting startingPort clusters events = true) :
    RangesApart (events.foldl (fun clusters event => event.step sorting startingPort clusters int64) clusters) := by
  induction events generalizing clusters with
  | nil => exact h
  | cons event rest ih =>
    obtain ⟨first, later⟩ := (Bool.and_eq_true _ _).mp bounded
    exact ih (h.step event first) later

end

/-- Over every history of calls, edits and deletions in which no end overflows, the allocated ranges lie among the ports
    and share none. -/
theorem allocateClusterRange_disjoint (sorting : Sorting) (startingPort : Int) (events : List ClusterEvent)
    (bounded : endInRange sorting startingPort ∅ events = true) :
    (∀ owner c, (clustersAfter sorting startingPort events int64).lookup owner = some c → c.status.Allocated →
      Set.Ico c.status.basePort (c.status.basePort + c.status.portRange) ⊆ Set.Ico 0 maxPort) ∧
    ∀ owner c owner' c', (clustersAfter sorting startingPort events int64).lookup owner = some c →
      (clustersAfter sorting startingPort events int64).lookup owner' = some c' → owner ≠ owner' →
      c.status.Allocated → c'.status.Allocated →
      Disjoint (Set.Ico c.status.basePort (c.status.basePort + c.status.portRange))
        (Set.Ico c'.status.basePort (c'.status.basePort + c'.status.portRange)) := by
  have none : RangesApart ∅ := by
    constructor
    · intro owner c hc
      cases hc
    · intro owner c owner' c' hc
      cases hc
  have h := none.run bounded
  refine ⟨fun owner c hc ha => ?_, h.apart⟩
  obtain ⟨low, -, high⟩ := h.inside owner c hc ha
  exact Set.Ico_subset_Ico low.le high

/-- A cluster with an automatic range, then one with the given base port and port range. -/
def twoClusters (basePort portRange : Int) : List ClusterEvent :=
  [.create ⟨"a", "ns"⟩ {}, .allocate ⟨"a", "ns"⟩ none (.ok []) none, .create ⟨"b", "ns"⟩ { basePort, portRange },
    .allocate ⟨"b", "ns"⟩ none (.ok []) none]

/-- The second of two automatic ranges starts where the first stops. -/
theorem allocateClusterRange_disjoint_automatic :
    ((clustersAfter Sorting.stable 35000 (twoClusters 0 0) int64).lookup ⟨"b", "ns"⟩).map (·.status.getClusterRange) =
      some ⟨35500, 500⟩ ∧
    Disjoint (Set.Ico (35500 : Int) 36000) (Set.Ico 35000 35500) := by
  have b : (clustersAfter Sorting.stable 35000 (twoClusters 0 0) int64).lookup ⟨"b", "ns"⟩ =
      some { spec := {}, status := { basePort := 35500, portRange := 500, lbPort := 35800, lbAdminPort := 35801, s3Port := 35802 } } := by
    decide +kernel
  have a : (clustersAfter Sorting.stable 35000 (twoClusters 0 0) int64).lookup ⟨"a", "ns"⟩ =
      some { spec := {}, status := { basePort := 35000, portRange := 500, lbPort := 35300, lbAdminPort := 35301, s3Port := 35302 } } := by
    decide +kernel
  refine ⟨by rw [b]; rfl, ?_⟩
  exact (allocateClusterRange_disjoint Sorting.stable 35000 (twoClusters 0 0) (by decide +kernel)).2 _ _ _ _ b a (by decide)
    (by decide) (by decide)

/-- A port range of 2^63 - 1 from port 100 on is accepted beside the ports from 35000 to 35500: the end of the range
    overflows to a negative number. -/
theorem allocateClusterRange_overflow :
    ((clustersAfter Sorting.stable 35000 (twoClusters 100 9223372036854775807) int64).lookup ⟨"a", "ns"⟩).map
      (·.status.getClusterRange) = some ⟨35000, 500⟩ ∧
    ((clustersAfter Sorting.stable 35000 (twoClusters 100 9223372036854775807) int64).lookup ⟨"b", "ns"⟩).map
      (·.status.getClusterRange) = some ⟨100, 9223372036854775807⟩ ∧
    ¬Set.Ico (100 : Int) (100 + 9223372036854775807) ⊆ Set.Ico 0 maxPort ∧
    ¬Disjoint (Set.Ico (35000 : Int) (35000 + 500)) (Set.Ico 100 (100 + 9223372036854775807)) := by
  refine ⟨by decide +kernel, by decide +kernel, fun inside => ?_, fun apart => ?_⟩
  · have := @inside 70000 (by simp)
    exact absurd this.2 (by decide)
  · have shared : (35000 : Int) ∈ Set.Ico (35000 : Int) (35000 + 500) ∧ (35000 : Int) ∈ Set.Ico (100 : Int) (100 + 9223372036854775807) := by
      simp
    exact Set.disjoint_left.mp apart shared.1 shared.2

end Histories

end WekaOperator.Ports
