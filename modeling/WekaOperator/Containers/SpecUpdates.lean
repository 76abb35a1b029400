import WekaOperator.Containers.Cluster
import WekaOperator.Operations.Common

/-! How sizes in the cluster's spec reach its containers (`HandleSpecUpdates` of `funcs_upgrade.go`, with
    `GetContainerHugepages` of `templates.go`). -/

namespace WekaOperator.Containers
open Lib Planner Operations

/-! ### Hugepages of a role -/

/-- The hugepages of a role, and what of them the user set. -/
structure HugepagesInfo extends ContainerHugepages where
  mode : Mode
  hugepagesUserSet : Bool := false
  hugepagesOffsetUserSet : Bool := false
  dpdkBaseMemoryMb : Int := 0
  deriving DecidableEq, Repr

/-- Roles whose hugepages follow the template. -/
structure HugepagesUpdateConfig where
  compute : Bool := false
  drive : Bool := false

namespace HugepagesInfo
variable (update : HugepagesUpdateConfig) (hp : HugepagesInfo)

/-- Whether a figure is passed on to the containers. -/
def shouldPropagate (userSet : Bool) : Bool :=
  if userSet then true
  else if update.compute ∧ hp.mode = .compute then true
  else if update.drive ∧ hp.mode = .drive then true
  else if hp.mode ∈ [.drive, .compute] then false
  else true

/-- Whether hugepages are. -/
def shouldPropagateHugepages : Bool := hp.shouldPropagate update hp.hugepagesUserSet

/-- Whether their offset is. -/
def shouldPropagateHugepagesOffset : Bool := hp.shouldPropagate update hp.hugepagesOffsetUserSet

end HugepagesInfo

/-- Constraints without DPDK memory. -/
def noDpdkConstraints : CapacityConstraints where
  tlcCapacityPerCoreGiB := 0
  qlcCapacityPerCoreGiB := 0
  minChunkSizeGiB := 0
  hugepagesPerCoreMiB := hugepagesPerCoreMiB

/-- Hugepages of a drive container. -/
def calculateDriveHugepages (t : ClusterTemplate) : Int :=
  driveContainerHugepagesMiB t.cores.drive t.numDrives noDpdkConstraints

/-- Their offset. -/
def calculateDriveHugepagesOffset (t : ClusterTemplate) : Int :=
  driveContainerHugepagesOffsetMiB t.cores.drive t.numDrives noDpdkConstraints

/-- Both, with DPDK memory and what the user sets. -/
def getDriveHugepages (t : ClusterTemplate) (cluster : WekaCluster) : HugepagesInfo :=
  let dynamic := cluster.template
  let dpdkBaseMemoryMb := cluster.getDpdkBaseMemoryMbByRole .drive
  let dpdkTotalMemory := dpdkBaseMemoryMb * t.cores.drive
  { mode := .drive
    hugepages := if dynamic.driveHugepages > 0 then dynamic.driveHugepages else calculateDriveHugepages t + dpdkTotalMemory
    hugepagesUserSet := dynamic.driveHugepages > 0
    hugepagesOffset := if dynamic.driveHugepagesOffset > 0 then dynamic.driveHugepagesOffset
      else calculateDriveHugepagesOffset t + dpdkTotalMemory
    hugepagesOffsetUserSet := dynamic.driveHugepagesOffset > 0
    dpdkBaseMemoryMb }

/-! ### The updatable spec -/

/-- Why hugepages are not known. -/
inductive HugepagesError
  | driveAllocationPending
  | other (text : String)

/-- What a role's containers are updated to. -/
structure ContainerRoleSpec where
  extraCores : Int := 0
  numCores : Int := 0
  numDrives : Int := 0
  hugepagesInfo : HugepagesInfo
  hugepagesDeferred : Bool := false
  deriving DecidableEq, Repr

/-- The same for all roles. -/
structure UpdatableClusterSpec where
  compute : ContainerRoleSpec
  drive : ContainerRoleSpec
  s3 : ContainerRoleSpec
  nfs : ContainerRoleSpec
  dataServices : ContainerRoleSpec
  smbw : ContainerRoleSpec
  deriving DecidableEq, Repr

/-- No hugepages. -/
def noHugepages (role : Mode) : HugepagesInfo := { mode := role, hugepages := 0, hugepagesOffset := 0 }

/-- That of a role. -/
def UpdatableClusterSpec.forRole (s : UpdatableClusterSpec) : Mode → ContainerRoleSpec
  | .compute => s.compute
  | .drive => s.drive
  | .s3 => s.s3
  | .nfs => s.nfs
  | .dataServices => s.dataServices
  | .smbw => s.smbw
  | role => { hugepagesInfo := noHugepages role }

/-- Pending drives defer the hugepages of a role. -/
def deferPending (what : String) (role : Mode) : Except HugepagesError HugepagesInfo → Except String (HugepagesInfo × Bool)
  | .ok hp => .ok (hp, false)
  | .error .driveAllocationPending => .ok (noHugepages role, true)
  | .error (.other text) => .error s!"Cannot compute hugepages for {what} containers: {text}"

/-- An error of hugepages ends the update. -/
def orFailHugepages (what : String) : Except HugepagesError HugepagesInfo → Except String HugepagesInfo
  | .ok hp => .ok hp
  | .error .driveAllocationPending => .error s!"Cannot compute hugepages for {what} containers: drive allocation pending"
  | .error (.other text) => .error s!"Cannot compute hugepages for {what} containers: {text}"

section
variable (cfg : Config) (cluster : WekaCluster) (hugepagesOf : Mode → Except HugepagesError HugepagesInfo)

/-- What the containers of a cluster are updated to. -/
def newUpdatableClusterSpec : Except String UpdatableClusterSpec := do
  let tmpl := getWekaClusterTemplate cfg cluster.template
  let role (mode : Mode) (hp : HugepagesInfo) (deferred : Bool) : ContainerRoleSpec :=
    { extraCores := tmpl.extraCores.forRole 0 mode, numCores := tmpl.cores.forRole 0 mode
      hugepagesInfo := hp, hugepagesDeferred := deferred }
  let managed := cluster.template.isPlannerManaged
  let (compute, computeDeferred) ←
    if managed then pure (noHugepages .compute, false) else deferPending "compute" .compute (hugepagesOf .compute)
  let drive := if managed then noHugepages .drive else getDriveHugepages tmpl cluster
  let s3 ← orFailHugepages "s3" (hugepagesOf .s3)
  let nfs ← orFailHugepages "nfs" (hugepagesOf .nfs)
  let dataServices ← orFailHugepages "data services" (hugepagesOf .dataServices)
  let smbw ← orFailHugepages "smbw" (hugepagesOf .smbw)
  return {
    compute := role .compute compute computeDeferred
    -- the drive figure needs nothing that could be pending
    drive := { role .drive drive false with numDrives := tmpl.numDrives }
    s3 := role .s3 s3 false
    nfs := role .nfs nfs false
    dataServices := role .dataServices dataServices false
    smbw := role .smbw smbw false }

end

/-! ### One container -/

/-- A container, as far as updates go. -/
structure SizedContainer where
  name : String
  spec : Spec
  dpdkBaseMemoryMb : Int := 0
  lastAppliedSpec : String := ""
  deriving DecidableEq, Repr

/-- Keeps the larger figure where asked to. -/
def floorAt (keepLarger : Bool) (cur tmpl : Int) : Int := if keepLarger then max cur tmpl else tmpl

/-- A figure after it is passed on. -/
def follow (changed propagate keepLarger : Bool) (cur tmpl : Int) : Int :=
  let cur := if changed then floorAt keepLarger cur tmpl else cur
  if propagate then floorAt keepLarger cur tmpl else cur

/-- A container's sizes after an update. -/
def updateSizes (update : HugepagesUpdateConfig) (rv : ContainerRoleSpec) (c : SizedContainer) : SizedContainer :=
  let hp := rv.hugepagesInfo
  let coresUpdated : Bool := rv.numCores > c.spec.numCores
  let numCores := if coresUpdated then rv.numCores else c.spec.numCores
  let drivesUpdated : Bool := rv.numDrives > c.spec.numDrives
  let numDrives := if drivesUpdated then rv.numDrives else c.spec.numDrives
  let dpdkChanged : Bool := hp.dpdkBaseMemoryMb > 0 ∧ c.dpdkBaseMemoryMb ≠ hp.dpdkBaseMemoryMb
  -- compared with the counts already raised
  let keepLarger : Bool := (c.spec.mode = .drive ∨ c.spec.mode = .compute) ∧ (numCores > rv.numCores ∨ numDrives > rv.numDrives)
  let changed := coresUpdated || dpdkChanged || drivesUpdated
  { c with
    dpdkBaseMemoryMb := if dpdkChanged then hp.dpdkBaseMemoryMb else c.dpdkBaseMemoryMb
    spec := { c.spec with
      extraCores := rv.extraCores
      numCores
      numDrives
      hugepages := follow changed (hp.shouldPropagateHugepages update) keepLarger c.spec.hugepages hp.hugepages
      hugepagesOffset :=
        follow changed (hp.shouldPropagateHugepagesOffset update) keepLarger c.spec.hugepagesOffset hp.hugepagesOffset } }

/-- A container as listed and as stored, with the replies. -/
structure Update where
  listedSpec : String
  stored : SizedContainer
  get : Except ApiError Unit := .ok ()
  patch : Except ApiError Unit := .ok ()
  patchApplied : Bool := false
  reread : Except ApiError Unit := .ok ()
  statusPatch : Except ApiError Unit := .ok ()
  statusPatchApplied : Bool := false

section
variable (cluster : WekaCluster) (update : HugepagesUpdateConfig) (spec : UpdatableClusterSpec) (specHash : String)

/-- Updates one container unless it has this hash. -/
def handleContainerSpecUpdate (u : Update) : Option ApiError × SizedContainer :=
  if u.listedSpec = specHash then (none, u.stored)
  else
    match u.get with
    | .error .notFound => (none, u.stored)
    | .error e => (some e, u.stored)
    | .ok () =>
      let role := u.stored.spec.mode
      let rv := spec.forRole role
      let plannerManaged : Bool := cluster.template.isPlannerManaged ∧ (role = .drive ∨ role = .compute)
      let sizingDeferred : Bool := !plannerManaged && rv.hugepagesDeferred
      let sized := if !plannerManaged && !rv.hugepagesDeferred then updateSizes update rv u.stored else u.stored
      let written := if took u.patch u.patchApplied then sized else u.stored
      match u.patch with
      | .error e => (some e, written)
      | .ok () =>
        if sizingDeferred then (none, written)
        else
          match u.reread with
          | .error .notFound => (none, written)
          | .error e => (some e, written)
          | .ok () =>
            let recorded := if took u.statusPatch u.statusPatchApplied then { written with lastAppliedSpec := specHash } else written
            match u.statusPatch with
            | .error e => (some e, recorded)
            | .ok () => (none, recorded)

end

/-- Updates all containers. -/
def handleSpecUpdates (cfg : Config) (cluster : WekaCluster) (update : HugepagesUpdateConfig)
    (hugepagesOf : Mode → Except HugepagesError HugepagesInfo) (hashStruct : UpdatableClusterSpec → String)
    (updates : List Update) : Except String (List (Option ApiError × SizedContainer)) := do
  let spec ← (newUpdatableClusterSpec cfg cluster hugepagesOf).mapError fun e => s!"failed to create updatable cluster spec: {e}"
  return updates.map (handleContainerSpecUpdate cluster update spec (hashStruct spec))

/-! ### What an update does to a drive container -/

section Drive
variable {cfg : Config} {cluster : WekaCluster} {update : HugepagesUpdateConfig}
  {hugepagesOf : Mode → Except HugepagesError HugepagesInfo} {spec : UpdatableClusterSpec} {specHash : String}
  {rv : ContainerRoleSpec} {c : SizedContainer} {u : Update}

theorem updateSizes_numCores : (updateSizes update rv c).spec.numCores = max c.spec.numCores rv.numCores := by
  simp only [updateSizes, decide_eq_true_eq]
  omega

theorem updateSizes_numDrives : (updateSizes update rv c).spec.numDrives = max c.spec.numDrives rv.numDrives := by
  simp only [updateSizes, decide_eq_true_eq]
  omega

/-- The update changes what hugepages depend on. -/
def resizes (update : HugepagesUpdateConfig) (rv : ContainerRoleSpec) (c : SizedContainer) : Bool :=
  rv.numCores > c.spec.numCores || (rv.hugepagesInfo.dpdkBaseMemoryMb > 0 ∧ c.dpdkBaseMemoryMb ≠ rv.hugepagesInfo.dpdkBaseMemoryMb) ||
    rv.numDrives > c.spec.numDrives || rv.hugepagesInfo.shouldPropagateHugepages update

theorem follow_eq (changed propagate keepLarger : Bool) (cur tmpl : Int) :
    follow changed propagate keepLarger cur tmpl = if changed || propagate then floorAt keepLarger cur tmpl else cur := by
  cases changed <;> cases propagate <;> cases keepLarger <;> simp [follow, floorAt]

theorem updateSizes_hugepages (drive : c.spec.mode = .drive) : (updateSizes update rv c).spec.hugepages =
    if resizes update rv c then
      if c.spec.numCores ≤ rv.numCores ∧ c.spec.numDrives ≤ rv.numDrives then rv.hugepagesInfo.hugepages
      else max c.spec.hugepages rv.hugepagesInfo.hugepages
    else c.spec.hugepages := by
  have larger : ((c.spec.mode = .drive ∨ c.spec.mode = .compute) ∧
      ((if rv.numCores > c.spec.numCores then rv.numCores else c.spec.numCores) > rv.numCores ∨
        (if rv.numDrives > c.spec.numDrives then rv.numDrives else c.spec.numDrives) > rv.numDrives)) ↔
      ¬(c.spec.numCores ≤ rv.numCores ∧ c.spec.numDrives ≤ rv.numDrives) := by
    simp only [drive, true_or, true_and]
    omega
  simp only [updateSizes, decide_eq_true_eq, follow_eq, floorAt, larger, resizes, ite_not]
  congr

/-! ### Provisioned drive containers -/

/-- The hugepages cover cores and drives. -/
def Provisioned (cons : CapacityConstraints) (s : Spec) : Prop :=
  driveContainerHugepagesMiB s.numCores s.numDrives cons ≤ s.hugepages

theorem getDriveHugepages_hugepages (unpinned : cluster.template.driveHugepages ≤ 0) (t : ClusterTemplate) :
    (getDriveHugepages t cluster).hugepages =
      driveContainerHugepagesMiB t.cores.drive t.numDrives (constraintsForClusterSpec cfg cluster) := by
  simp only [getDriveHugepages, if_neg unpinned.not_gt, calculateDriveHugepages, driveContainerHugepagesMiB]
  split
  · simp only [noDpdkConstraints, constraintsForClusterSpec, applyClusterSpecOverrides]
    ring
  · simp only [CapacityConstraints.driveHugepagesPerCoreMiB, noDpdkConstraints, constraintsForClusterSpec,
      applyClusterSpecOverrides, capacityConstraintsFromConfig]
    ring

theorem newUpdatableClusterSpec_drive (explicit : cluster.template.isPlannerManaged = false)
    (made : newUpdatableClusterSpec cfg cluster hugepagesOf = .ok spec) :
    let tmpl := getWekaClusterTemplate cfg cluster.template
    spec.drive.numCores = tmpl.cores.drive ∧ spec.drive.numDrives = tmpl.numDrives ∧
      spec.drive.hugepagesInfo = getDriveHugepages tmpl cluster ∧ spec.drive.hugepagesDeferred = false := by
  unfold newUpdatableClusterSpec at made
  rw [explicit] at made
  obtain ⟨compute, -, made⟩ := bind_eq_ok made
  obtain ⟨s3, -, made⟩ := bind_eq_ok made
  obtain ⟨nfs, -, made⟩ := bind_eq_ok made
  obtain ⟨dataServices, -, made⟩ := bind_eq_ok made
  obtain ⟨smbw, -, made⟩ := bind_eq_ok made
  cases made
  exact ⟨rfl, rfl, rfl, rfl⟩

/-- The update took effect. -/
def Update.written (u : Update) (specHash : String) : Bool :=
  u.listedSpec ≠ specHash && u.get.isOk && took u.patch u.patchApplied

theorem handleContainerSpecUpdate_spec (explicit : cluster.template.isPlannerManaged = false)
    (drive : u.stored.spec.mode = .drive) (derived : spec.drive.hugepagesDeferred = false) :
    (handleContainerSpecUpdate cluster update spec specHash u).2.spec =
      if u.written specHash then (updateSizes update spec.drive u.stored).spec else u.stored.spec := by
  have role : spec.forRole u.stored.spec.mode = spec.drive := by rw [drive]; rfl
  unfold handleContainerSpecUpdate Update.written
  by_cases listed : u.listedSpec = specHash
  · simp [listed]
  cases hget : u.get with
  | error e => cases e <;> simp [listed, Except.isOk, Except.toBool]
  | ok _ =>
    simp only [if_neg listed, role, explicit, derived]
    cases hpatch : u.patch with
    | error e => cases applied : u.patchApplied <;> simp [took, listed, Except.isOk, Except.toBool]
    | ok _ =>
      cases hreread : u.reread with
      | error e => cases e <;> simp [took, listed, Except.isOk, Except.toBool]
      | ok _ =>
        cases hstatus : u.statusPatch with
        | error e => cases applied : u.statusPatchApplied <;> simp [took, listed, Except.isOk, Except.toBool]
        | ok _ => simp [took, listed, Except.isOk, Except.toBool]

/-- The larger of each figure is covered. -/
def JoinedCovered (cfg : Config) (cluster : WekaCluster) (s : Spec) : Prop :=
  let tmpl := getWekaClusterTemplate cfg cluster.template
  let needs (cores drives : Int) := driveContainerHugepagesMiB cores drives (constraintsForClusterSpec cfg cluster)
  let joined := needs (max s.numCores tmpl.cores.drive) (max s.numDrives tmpl.numDrives)
  (s.numCores ≤ tmpl.cores.drive ∧ s.numDrives ≤ tmpl.numDrives) ∨ joined ≤ s.hugepages ∨
    joined ≤ needs tmpl.cores.drive tmpl.numDrives

theorem updateSizes_provisioned_iff (explicit : cluster.template.isPlannerManaged = false)
    (unpinned : cluster.template.driveHugepages ≤ 0) (made : newUpdatableClusterSpec cfg cluster hugepagesOf = .ok spec)
    (drive : c.spec.mode = .drive) (provisioned : Provisioned (constraintsForClusterSpec cfg cluster) c.spec) :
    Provisioned (constraintsForClusterSpec cfg cluster) (updateSizes update spec.drive c).spec ↔ JoinedCovered cfg cluster c.spec := by
  obtain ⟨hcores, hdrives, hinfo, -⟩ := newUpdatableClusterSpec_drive explicit made
  have hfigure := @getDriveHugepages_hugepages cfg _ unpinned (getWekaClusterTemplate cfg cluster.template)
  simp only [Provisioned, JoinedCovered, updateSizes_numCores, updateSizes_numDrives, updateSizes_hugepages drive, hcores,
    hdrives, hinfo, hfigure]
  split
  · next resized =>
    split
    · next smaller => simp [smaller]
    · next larger => simp [larger]
  · next kept =>
    -- nothing is raised: the joined size is the container's own
    simp only [resizes, hcores, hdrives, Bool.or_eq_true, decide_eq_true_eq, not_or, not_lt] at kept
    rw [max_eq_left kept.1.1.1, max_eq_left kept.1.2]
    exact iff_of_true provisioned (.inr (.inl provisioned))

/-- With explicit sizing and no pinned hugepages, the update of a provisioned drive container lowers neither its cores nor
    its drives; it leaves the container provisioned exactly if it is not written, or the joined size is covered. -/
theorem handleSpecUpdates_provisioned_iff {hashStruct : UpdatableClusterSpec → String} {updates : List Update}
    {results : List (Option ApiError × SizedContainer)} (explicit : cluster.template.isPlannerManaged = false)
    (unpinned : cluster.template.driveHugepages ≤ 0)
    (done : handleSpecUpdates cfg cluster update hugepagesOf hashStruct updates = .ok results) :
    ∃ spec, newUpdatableClusterSpec cfg cluster hugepagesOf = .ok spec ∧ results.length = updates.length ∧
      ∀ (i : Nat) (u : Update) (result : Option ApiError × SizedContainer), updates[i]? = some u → results[i]? = some result →
        u.stored.spec.mode = .drive →
        Provisioned (constraintsForClusterSpec cfg cluster) u.stored.spec →
        ((u.stored.spec.numCores ≤ result.2.spec.numCores ∧ u.stored.spec.numDrives ≤ result.2.spec.numDrives ∧
            Provisioned (constraintsForClusterSpec cfg cluster) result.2.spec) ↔
          (u.written (hashStruct spec) = false ∨ JoinedCovered cfg cluster u.stored.spec)) := by
  obtain ⟨spec, made, done⟩ := bind_eq_ok done
  have made := mapError_eq_ok made
  obtain ⟨-, -, -, derived⟩ := newUpdatableClusterSpec_drive explicit made
  cases done
  refine ⟨spec, made, List.length_map _, ?_⟩
  intro i u result hu hresult drive provisioned
  rw [List.getElem?_map, hu, Option.map_some, Option.some.injEq] at hresult
  subst hresult
  rw [handleContainerSpecUpdate_spec explicit drive derived]
  cases u.written (hashStruct spec) with
  | false => simp [provisioned]
  | true =>
    simp only [if_true, updateSizes_numCores, updateSizes_numDrives, le_max_left, true_and, Bool.true_eq_false, false_or]
    exact updateSizes_provisioned_iff explicit unpinned made drive provisioned

end Drive

/-! ### A container with more drives and fewer cores than the template -/

namespace SizesExample

def cfg : Config where
  tlcCapacityPerCoreGiB := 1
  qlcCapacityPerCoreGiB := 1

def cluster : WekaCluster where
  name := "cl1"
  dynamicTemplate := some { driveContainers := 5, computeContainers := 5, numDrives := 6, cores := { PerWekaRole.all 0 with drive := 6 } }

def hugepagesOf (role : Mode) : Except HugepagesError HugepagesInfo := .ok (noHugepages role)

def container (cores drives hugepages : Int) : Update where
  listedSpec := ""
  stored := { name := "drive-1", dpdkBaseMemoryMb := 64
              spec := { mode := .drive, numCores := cores, numDrives := drives, hugepages } }

end SizesExample

open SizesExample in
/-- A container that is smaller in both is raised to the template and provisioned for it. -/
theorem handleSpecUpdates_provisioned_smaller :
    ∃ results, handleSpecUpdates cfg cluster {} hugepagesOf (fun _ => "new") [container 1 2 1864] = .ok results ∧
      ∀ result, results[0]? = some result → Provisioned (constraintsForClusterSpec cfg cluster) result.2.spec := by
  refine ⟨_, rfl, fun result hresult => ?_⟩
  have explicit : cluster.template.isPlannerManaged = false := rfl
  have smaller : JoinedCovered cfg cluster (container 1 2 1864).stored.spec := .inl (by decide)
  have provisioned : Provisioned (constraintsForClusterSpec cfg cluster) (container 1 2 1864).stored.spec := by
    unfold Provisioned
    decide
  obtain ⟨spec, -, -, iff⟩ := handleSpecUpdates_provisioned_iff explicit (by decide)
    (rfl : handleSpecUpdates cfg cluster {} hugepagesOf (fun _ => "new") [container 1 2 1864] = _)
  exact ((iff 0 _ result rfl hresult rfl provisioned).mpr (.inr smaller)).2.2

open SizesExample in
/-- One core and twelve drives become six and twelve, and the hugepages those of six and six. -/
theorem handleSpecUpdates_underprovisions :
    Provisioned (constraintsForClusterSpec cfg cluster) (container 1 12 3864).stored.spec ∧
      ∃ results, handleSpecUpdates cfg cluster {} hugepagesOf (fun _ => "new") [container 1 12 3864] = .ok results ∧
        results.map (fun result => (result.2.spec.numCores, result.2.spec.numDrives, result.2.spec.hugepages)) = [(6, 12, 9984)] ∧
        driveContainerHugepagesMiB 6 12 (constraintsForClusterSpec cfg cluster) = 11184 := by
  refine ⟨?_, _, rfl, ?_⟩
  · unfold Provisioned
    decide
  · decide

end WekaOperator.Containers
