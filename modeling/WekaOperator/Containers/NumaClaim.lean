import WekaOperator.Containers.Pod

/-! The CPU claim of a container that is confined to a NUMA region through DRA (`funcs_numa_dra.go`), and the pod that
    is created on it. The claim's count and the pod's request come from the same cores; they part where the pod's
    request is not by cores, and where a claim that no longer fits the spec is kept because it is reserved. -/

namespace WekaOperator.Containers
open Lib Planner

/-- How a container is confined to a NUMA region. -/
inductive NumaMethod
  | unset | devicePlugin | dra | other
  deriving DecidableEq, Repr

/-- The NUMA settings of a container. -/
structure Numa where
  single : Bool := false
  region : Option Int := none
  method : NumaMethod := .unset
  deriving DecidableEq, Repr

/-- How many devices a request is for. -/
inductive DeviceAllocationMode
  | exactCount | other
  deriving DecidableEq, Repr

/-- A request for exactly so many devices. -/
structure ExactDeviceRequest where
  deviceClassName : String
  allocationMode : DeviceAllocationMode
  count : Int
  /-- The CEL expression of each selector that has one. -/
  selectors : List (Option String)
  /-- The capacities asked for, and among them the CPU in millicores. -/
  capacity : Option (Option Int)
  deriving DecidableEq, Repr

/-- A request of a claim. -/
structure DeviceRequest where
  name : String
  exactly : Option ExactDeviceRequest
  deriving DecidableEq, Repr

/-- A resource claim. -/
structure ResourceClaim where
  requests : List DeviceRequest
  /-- The consumers in the status. -/
  reservedFor : List String := []
  deriving DecidableEq, Repr

/-- The device class of CPUs. -/
def wekaDraDeviceClassName : String := "dra.cpu"

/-- The selector of a region. -/
def numaRegionCELExpression (region : Int) : String := s!"device.attributes[\"dra.cpu\"].numaNodeID == {region}"

/-- The claim for so many CPUs of a region. -/
def buildNumaResourceClaim (region cpuCount : Int) : ResourceClaim where
  requests := [{
    name := "cpus"
    exactly := some {
      deviceClassName := wekaDraDeviceClassName
      allocationMode := .exactCount
      count := 1
      selectors := [some (numaRegionCELExpression region)]
      capacity := some (some (1000 * cpuCount)) } }]

/-- The claim is not the one that would be built. -/
def claimNeedsRecreate (existing : ResourceClaim) (region cpuCount : Int) : Bool :=
  match existing.requests with
  | [⟨name, some exact⟩] =>
    name ≠ "cpus" || exact.deviceClassName ≠ wekaDraDeviceClassName || exact.allocationMode ≠ .exactCount ||
      exact.count ≠ 1 || exact.selectors ≠ [some (numaRegionCELExpression region)] ||
      exact.capacity ≠ some (some (1000 * cpuCount))
  | _ => true

/-- The CPU that a claim asks for. -/
def ResourceClaim.cpu (claim : ResourceClaim) : Option Int :=
  claim.requests.head?.bind fun request => request.exactly.bind fun exact => exact.capacity.bind id

/-- What the pass has at hand: the container and the claim of its name. -/
structure NumaState where
  name : String
  spec : Spec
  numa : Option Numa
  claim : Option ResourceClaim := none
  /-- For each pod created on a claim: the CPU of the claim and the CPU request of the pod. -/
  created : List (Option Int × Int) := []
  deriving DecidableEq, Repr

/-- What a deletion returns. -/
inductive DeletionReply
  | done | notFound | failed (err : String) (applied : Bool)
  deriving DecidableEq, Repr

/-- What a creation returns. -/
inductive CreationReply
  | done | alreadyExists | failed (err : String) (applied : Bool)
  deriving DecidableEq, Repr

/-- What the API server and the discovery of the node answer in one pass. -/
structure NumaReplies where
  /-- Nothing if the device class is there. -/
  deviceClass : Option String := none
  topology : Except String NodeCPUTopology
  claimRead : Option String := none
  claimDeletion : DeletionReply := .done
  claimCreation : CreationReply := .done
  /-- Everything that `ensurePod` does besides building the pod succeeds. -/
  podCreation : Bool := true

/-- The errors of the claim. -/
inductive NumaClaimError
  /-- invalid CPU policy: %s -/
  | invalidCPUPolicy (policy : CpuPolicy)
  /-- numa method "dra" requires a dedicated cpu policy (got %q): manual/shared cpu policies cannot mirror an exclusive-CPU
      resource claim -/
  | notDedicated (policy : CpuPolicy)
  | other (text : String)
  /-- failed to compute CPU count for NUMA DRA claim: %s -/
  | cpuCount (err : NumaClaimError)
  deriving DecidableEq, Repr

/-- The settings ask for a claim. -/
def Numa.needsDraClaim (numa : Option Numa) : Bool :=
  numa.any fun n => n.single && n.region.isSome && n.method = .dra

/-- The CPU policy, which has to be dedicated. -/
def resolveNumaClaimCPUPolicy (s : Spec) (isHt : Bool) : Except NumaClaimError CpuPolicy :=
  if !cpuPolicyIsValid s.cpuPolicy then .error (.invalidCPUPolicy s.cpuPolicy) else
  -- Core ids make it manual first, which the node's hyperthreading then overrides.
  let policy := if s.cpuPolicy = .auto then (if isHt then .dedicatedHT else .dedicated) else s.cpuPolicy
  if policy ≠ .dedicated ∧ policy ≠ .dedicatedHT then .error (.notDedicated policy) else .ok policy

/-- The CPUs to claim. -/
def numaClaimCPUCount (s : Spec) (topology : Except String NodeCPUTopology) : Except NumaClaimError Int :=
  if s.mode = .discovery then .error (.other "cannot run node discovery on a discovery container") else
  match topology with
  | .error e => .error (.other e)
  | .ok topo => (resolveNumaClaimCPUPolicy s topo.isHt).map fun policy =>
    cpuRequestCores { s.forCPU with cpuPolicy := policy } topo

section Steps
variable (r : NumaReplies) (w : NumaState)

/-- Deletes the claim to build it anew later. -/
def deleteClaim : Except NumaClaimError Unit × NumaState :=
  let name := w.name
  let gone := { w with claim := none }
  let waiting := .other s!"deleted stale {name} ResourceClaim, waiting for removal before recreating"
  match r.claimDeletion with
  | .done => (.error waiting, gone)
  | .notFound => (.error waiting, w)
  | .failed e applied => (.error (.other s!"failed to delete stale {name} ResourceClaim: {e}"), if applied then gone else w)

/-- Creates the claim. -/
def createClaim (region cpuCount : Int) : Except NumaClaimError Unit × NumaState :=
  let name := w.name
  let there := { w with claim := some (buildNumaResourceClaim region cpuCount) }
  match r.claimCreation with
  | .done => (.ok (), there)
  | .alreadyExists => (.error (.other s!"{name} ResourceClaim already exists (old object still terminating), retrying"), w)
  | .failed e applied =>
    (.error (.other s!"failed to create {name} ResourceClaim (resource.k8s.io/v1 API may be unavailable on this cluster): {e}"),
      if applied then there else w)

/-- Brings the claim to this number of CPUs. -/
def ensureNumaResourceClaimForCPUCount (cpuCount : Int) : Except NumaClaimError Unit × NumaState :=
  let name := w.name
  match w.numa.bind (·.region) with
  | none => (.ok (), w)
  | some region =>
    if cpuCount ≤ 0 then
      (.error (.other s!"computed {cpuCount} CPU cores for NUMA DRA claim on container {name}; check spec.cpuPolicy/resources"), w)
    else match r.claimRead with
    | some e =>
      (.error (.other s!"failed to check for existing {name} ResourceClaim (resource.k8s.io/v1 API may be unavailable on this cluster): {e}"), w)
    | none =>
      match w.claim with
      | none => createClaim r w region cpuCount
      | some existing =>
        if !claimNeedsRecreate existing region cpuCount then (.ok (), w)
        -- Reserved by a pod that is still terminating: left in place.
        else if existing.reservedFor.length > 0 then (.ok (), w)
        else deleteClaim r w

/-- The step of the claim. -/
def ensureNumaDraClaim : Except NumaClaimError Unit × NumaState :=
  match r.deviceClass with
  | some e => (.error (.other e), w)
  | none =>
    match numaClaimCPUCount w.spec r.topology with
    | .error e => (.error (.cpuCount e), w)
    | .ok cpuCount => ensureNumaResourceClaimForCPUCount r w cpuCount

/-- The step of the pod. -/
def ensurePod : NumaState :=
  match r.topology with
  | .error _ => w
  | .ok topo =>
    match setResources w.spec topo with
    | .error _ => w
    | .ok res => if r.podCreation then { w with created := w.created ++ [(w.claim.bind (·.cpu), res.requests.cpu)] } else w

/-- The two steps of a reconcile that finds no pod. -/
def reconcile : NumaState :=
  if !Numa.needsDraClaim w.numa then w else
  match ensureNumaDraClaim r w with
  | (.error _, w') => w'
  | (.ok _, w') => ensurePod r w'

end Steps

/-- A history: reconciles that find no pod, edits of the container, and what happens to the claim in between. -/
inductive NumaAction
  | reconcile (r : NumaReplies)
  | edit (spec : Spec) (numa : Option Numa)
  | reserve (consumers : List String)
  | claimGone

/-- One action of a history. -/
def NumaState.step (w : NumaState) : NumaAction → NumaState
  | .reconcile r => Containers.reconcile r w
  | .edit spec numa => { w with spec, numa }
  | .reserve consumers => { w with claim := w.claim.map ({ · with reservedFor := consumers }) }
  | .claimGone => { w with claim := none }

/-- A whole history. -/
def NumaState.run (w : NumaState) (history : List NumaAction) : NumaState := history.foldl .step w

/-! ### The condition -/

/-- The CPU of the pod that is not by its cores: what `spec.resources` names, or the mode's own figure. -/
def Spec.setCPU (s : Spec) : Option Int := (s.named (·.cpu)).or s.fixedCPU

/-- The claim is neither kept with another CPU than the pod's, nor is the pod's CPU set to another than the cores'. -/
def ClaimServes (s : Spec) (region cores : Int) (claim : Option ResourceClaim) : Prop :=
  match claim.filter fun c => claimNeedsRecreate c region cores && decide (c.reservedFor.length > 0) with
  | some kept => kept.cpu = some (s.setCPU.getD (1000 * cores))
  | none => ∀ cpu, s.setCPU = some cpu → cpu = 1000 * cores

/-- The condition on the state before a reconcile: where it gets as far as creating the pod, the claim serves it. -/
def NumaReplies.Serves (r : NumaReplies) (w : NumaState) : Prop :=
  ∀ cores region, Numa.needsDraClaim w.numa = true → (ensureNumaDraClaim r w).1 = .ok () → r.podCreation = true →
    numaClaimCPUCount w.spec r.topology = .ok cores → w.numa.bind (·.region) = some region →
    ClaimServes w.spec region cores w.claim

/-- Every reconcile of a history meets the condition. -/
def NumaState.Served (w : NumaState) : List NumaAction → Prop
  | [] => True
  | a :: rest => (∀ r, a = .reconcile r → r.Serves w) ∧ (w.step a).Served rest

/-! ### One reconcile -/

theorem claim_cpu_of_fitting {claim : ResourceClaim} {region cores : Int} (h : claimNeedsRecreate claim region cores = false) :
    claim.cpu = some (1000 * cores) := by
  obtain ⟨requests, _⟩ := claim
  unfold claimNeedsRecreate at h
  split at h
  · rename_i name exact hreq
    simp only [Bool.or_eq_false_iff, decide_eq_false_iff_not, not_not] at h
    dsimp only at hreq
    subst hreq
    simp [ResourceClaim.cpu, h.2]
  · cases h

section Pass
variable {r : NumaReplies} {w : NumaState} {topo : NodeCPUTopology} {cores region : Int}

theorem numaClaimCPUCount_ok (h : numaClaimCPUCount w.spec r.topology = .ok cores) :
    ∃ topo policy, r.topology = .ok topo ∧ (policy = .dedicated ∨ policy = .dedicatedHT) ∧
      policy = resolveCPUPolicy w.spec.cpuPolicy topo.isHt ∧ cpuPolicyIsValid w.spec.cpuPolicy = true ∧
      cores = cpuRequestCores { w.spec.forCPU with cpuPolicy := policy } topo := by
  unfold numaClaimCPUCount at h
  obtain ⟨-, h⟩ := ite_error_eq_ok.mp h
  cases htopo : r.topology with
  | error e =>
    rw [htopo] at h
    cases h
  | ok topo =>
    rw [htopo] at h
    dsimp only at h
    cases hpolicy : resolveNumaClaimCPUPolicy w.spec topo.isHt with
    | error e =>
      rw [hpolicy] at h
      cases h
    | ok policy =>
      rw [hpolicy] at h
      cases h
      unfold resolveNumaClaimCPUPolicy at hpolicy
      obtain ⟨hvalid, hpolicy⟩ := ite_error_eq_ok.mp hpolicy
      obtain ⟨hdedicated, hpolicy⟩ := ite_error_eq_ok.mp hpolicy
      cases hpolicy
      refine ⟨topo, _, rfl, or_iff_not_and_not.mpr hdedicated, ?_, by simpa using hvalid, rfl⟩
      revert hvalid
      cases w.spec.cpuPolicy <;> simp [cpuPolicyIsValid, resolveCPUPolicy]

/-- The pod of a container that gets a claim requests the CPU set for it, or that of the claim's cores. -/
theorem setResources_cpu (h : numaClaimCPUCount w.spec r.topology = .ok cores) (htopo : r.topology = .ok topo) :
    ∃ res, setResources w.spec topo = .ok res ∧ res.requests.cpu = w.spec.setCPU.getD (1000 * cores) := by
  obtain ⟨topo', policy, htopo', hdedicated, hpolicy, hvalid, rfl⟩ := numaClaimCPUCount_ok h
  cases htopo.symm.trans htopo'
  have hok : (setResources w.spec topo).isOk = true := by
    refine (setResources_isOk _ _).mpr ⟨hvalid, fun hmanual => ?_⟩
    rw [hmanual] at hpolicy
    rcases hdedicated with rfl | rfl <;> cases hpolicy
  cases hres : setResources w.spec topo with
  | error e =>
    rw [hres] at hok
    cases hok
  | ok res =>
    refine ⟨res, rfl, ?_⟩
    have hcores : (w.spec.cpuByPolicy policy topo).1 = 1000 * cpuRequestCores { w.spec.forCPU with cpuPolicy := policy } topo := by
      rcases hdedicated with rfl | rfl <;> rfl
    rw [(setResources_ok hres).cpu, ← hpolicy, hcores, Spec.setCPU]
    cases w.spec.named (·.cpu) <;> rfl

theorem createClaim_claim (h : (createClaim r w region cores).1 = .ok ()) : (createClaim r w region cores).2.spec = w.spec ∧
    (createClaim r w region cores).2.created = w.created ∧
    (createClaim r w region cores).2.claim = some (buildNumaResourceClaim region cores) := by
  unfold createClaim at h ⊢
  cases hcreate : r.claimCreation with
  | done => exact ⟨rfl, rfl, rfl⟩
  | alreadyExists =>
    rw [hcreate] at h
    cases h
  | failed e applied =>
    rw [hcreate] at h
    cases h

theorem deleteClaim_fails : (deleteClaim r w).1 ≠ .ok () := by
  intro h
  unfold deleteClaim at h
  split at h <;> cases h

/-- The claim after the step succeeded: a reserved one that no longer fits is as it was, any other has the cores. -/
theorem ensureNumaResourceClaimForCPUCount_claim (h : (ensureNumaResourceClaimForCPUCount r w cores).1 = .ok ())
    (hregion : w.numa.bind (·.region) = some region) :
    (ensureNumaResourceClaimForCPUCount r w cores).2.spec = w.spec ∧
      (ensureNumaResourceClaimForCPUCount r w cores).2.created = w.created ∧
      (ensureNumaResourceClaimForCPUCount r w cores).2.claim.bind (·.cpu) =
        match w.claim.filter fun c => claimNeedsRecreate c region cores && decide (c.reservedFor.length > 0) with
        | some kept => kept.cpu
        | none => some (1000 * cores) := by
  unfold ensureNumaResourceClaimForCPUCount at h ⊢
  rw [hregion] at h ⊢
  dsimp only at h ⊢
  split at h
  · cases h
  rename_i hpos
  rw [if_neg hpos]
  cases hread : r.claimRead with
  | some e =>
    rw [hread] at h
    cases h
  | none =>
    rw [hread] at h
    dsimp only at h ⊢
    cases hclaim : w.claim with
    | none =>
      rw [hclaim] at h
      obtain ⟨hspec, hcreated, hnew⟩ := createClaim_claim h
      refine ⟨hspec, hcreated, ?_⟩
      dsimp only
      rw [hnew]
      rfl
    | some existing =>
      rw [hclaim] at h
      dsimp only at h ⊢
      cases hneeds : claimNeedsRecreate existing region cores with
      | false =>
        rw [if_pos (show (!false) = true from rfl)]
        refine ⟨rfl, rfl, ?_⟩
        simp [hclaim, Option.filter, hneeds, claim_cpu_of_fitting hneeds]
      | true =>
        rw [hneeds, if_neg (by decide)] at h
        rw [if_neg (by decide)]
        split at h
        · rename_i hreserved
          rw [if_pos hreserved]
          refine ⟨rfl, rfl, ?_⟩
          simp [hclaim, Option.filter, hneeds, hreserved]
        · exact absurd h deleteClaim_fails

theorem ensureNumaDraClaim_eq (h : (ensureNumaDraClaim r w).1 = .ok ()) (hcount : numaClaimCPUCount w.spec r.topology = .ok cores) :
    ensureNumaDraClaim r w = ensureNumaResourceClaimForCPUCount r w cores := by
  unfold ensureNumaDraClaim at h ⊢
  cases hclass : r.deviceClass with
  | some e =>
    rw [hclass] at h
    cases h
  | none =>
    dsimp only
    rw [hcount]

theorem ensureNumaDraClaim_created : (ensureNumaDraClaim r w).2.created = w.created := by
  unfold ensureNumaDraClaim ensureNumaResourceClaimForCPUCount createClaim deleteClaim
  repeat' split
  all_goals rfl

theorem ensureNumaDraClaim_count (h : (ensureNumaDraClaim r w).1 = .ok ()) :
    ∃ cores, numaClaimCPUCount w.spec r.topology = .ok cores := by
  unfold ensureNumaDraClaim at h
  split at h
  · cases h
  split at h
  · cases h
  · rename_i cores hcount
    exact ⟨cores, hcount⟩

theorem Numa.exists_region {numa : Option Numa} (h : Numa.needsDraClaim numa = true) : ∃ region, numa.bind (·.region) = some region := by
  cases numa with
  | none => cases h
  | some n =>
    simp only [Numa.needsDraClaim, Option.any_some, Bool.and_eq_true] at h
    exact Option.isSome_iff_exists.mp h.1.2

theorem claimServes_iff (s : Spec) (claim : Option ResourceClaim) : ClaimServes s region cores claim ↔
    (match claim.filter fun c => claimNeedsRecreate c region cores && decide (c.reservedFor.length > 0) with
      | some kept => kept.cpu
      | none => some (1000 * cores)) = some (s.setCPU.getD (1000 * cores)) := by
  unfold ClaimServes
  split
  · rfl
  · cases s.setCPU <;> simp [eq_comm]

/-- A reconcile that creates the pod creates it with the CPU of its claim if and only if the claim serves it. -/
theorem reconcile_agrees_iff : (∀ e ∈ (reconcile r w).created, e.1 = some e.2) ↔
    (∀ e ∈ w.created, e.1 = some e.2) ∧ r.Serves w := by
  unfold reconcile
  cases hneeds : Numa.needsDraClaim w.numa with
  | false =>
    have vacuous : r.Serves w := by
      intro cores region h
      rw [hneeds] at h
      cases h
    rw [if_pos (show (!false) = true from rfl)]
    exact (and_iff_left vacuous).symm
  | true =>
    rw [if_neg (by decide)]
    obtain ⟨region, hregion⟩ := Numa.exists_region hneeds
    have hcreated := @ensureNumaDraClaim_created r w
    rcases hensure : ensureNumaDraClaim r w with ⟨result, w'⟩
    rw [hensure] at hcreated
    cases result with
    | error e =>
      have vacuous : r.Serves w := by
        intro cores region _ h
        rw [hensure] at h
        cases h
      dsimp only at hcreated ⊢
      rw [hcreated]
      exact (and_iff_left vacuous).symm
    | ok _ =>
      have hok : (ensureNumaDraClaim r w).1 = .ok () := by rw [hensure]
      obtain ⟨cores, hcount⟩ := ensureNumaDraClaim_count hok
      obtain ⟨topo, _, htopo, -⟩ := numaClaimCPUCount_ok hcount
      obtain ⟨res, hres, hcpu⟩ := setResources_cpu hcount htopo
      have heq := ensureNumaDraClaim_eq hok hcount
      obtain ⟨hspec, -, hclaim⟩ := ensureNumaResourceClaimForCPUCount_claim (heq ▸ hok) hregion
      rw [← heq, hensure] at hspec hclaim
      dsimp only at hspec hclaim hcreated ⊢
      unfold ensurePod
      rw [htopo]
      dsimp only
      rw [hspec, hres]
      dsimp only
      cases hpod : r.podCreation with
      | false =>
        have vacuous : r.Serves w := by
          intro cores region _ _ h
          rw [hpod] at h
          cases h
        rw [if_neg (by decide), hcreated]
        exact (and_iff_left vacuous).symm
      | true =>
        have serves : r.Serves w ↔ ClaimServes w.spec region cores w.claim := by
          refine ⟨fun h => h cores region hneeds hok hpod hcount hregion, fun h cores' region' _ _ _ hc hr => ?_⟩
          cases hc.symm.trans hcount
          cases hr.symm.trans hregion
          exact h
        rw [if_pos rfl, serves, claimServes_iff, ← hclaim, ← hcpu]
        dsimp only
        rw [hcreated, List.forall_mem_append, List.forall_mem_singleton]

end Pass

/-! ### Histories -/

/-- A drive container in region 0. -/
def confinedDrive (numCores : Int) : Spec := { mode := .drive, cpuPolicy := .dedicated, numCores }

def confined : Option Numa := some { single := true, region := some 0, method := .dra }

def onPlainNode : NumaAction := .reconcile { topology := .ok { isHt := false } }

def editedHistory : List NumaAction := [onPlainNode, .edit (confinedDrive 4) confined, .claimGone, onPlainNode]

end WekaOperator.Containers
