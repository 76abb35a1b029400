import WekaOperator.Daemonset.FreeDrives
import WekaOperator.Lib.Rearrange

/-! Planning again after a part of the plan is applied. -/

namespace WekaOperator.Daemonset
open List Lib Planner DaemonsetInput

/-- The container at its target. -/
def Container.raise (c : Container) (t : Target) : Container := { c with
  numCores := max c.numCores t.cores
  numDrives := if t.mode = .drive then c.raisedDrives t else c.numDrives }

/-- The container after its target is applied. -/
inductive AppliedTo (t : Target) : Option Container → Container → Prop
  | raised (c : Container) : AppliedTo t (some c) (c.raise t)
  | created (c : Container) (drives : c.numDrives = t.numDrives) (cores : c.numCores = t.cores) (bare : c.drives = none) :
    AppliedTo t none c

/-- Some of the targets are applied. -/
def Applied (i : DaemonsetInput) (live : Mode → NameMap Container) : Prop :=
  ∀ mode name, mode ≠ .s3 → (live mode).lookup name = i.liveOn mode name ∨
    ∃ t ∈ i.planDaemonset.targets, t.mode = mode ∧ t.node = name ∧
      ∃ c, (live mode).lookup name = some c ∧ AppliedTo t (i.liveOn mode name) c

/-- The target without its hint. -/
def Target.sized (t : Target) : Target := { t with drivesFollowFree := false }

variable {d : Target} {o : Option Container} {c : Container}

section Again
variable {i : DaemonsetInput} {live : Mode → NameMap Container} {name : String}

theorem AppliedTo.unpaired {b : Bool} (h : AppliedTo { d with paired := b } o c) : AppliedTo d o c := by
  cases h with
  | raised c => exact .raised c
  | created c drives cores bare => exact .created c drives cores bare

theorem Applied.filtered {mode : Mode} {targets : List Target} (h : Applied i live) (hmode : mode ≠ .s3)
    (filtered : i.planDaemonset.targets.filter (·.mode = mode) = targets) (name : String) :
    (live mode).lookup name = i.liveOn mode name ∨ ∃ t ∈ targets, t.node = name ∧
      ∃ c, (live mode).lookup name = some c ∧ AppliedTo t (i.liveOn mode name) c := by
  rcases h mode name hmode with h | ⟨t, ht, is, h⟩
  · exact .inl h
  · exact .inr ⟨t, filtered ▸ List.mem_filter.mpr ⟨ht, decide_eq_true is⟩, h⟩

theorem Applied.drive (h : Applied i live) (name : String) : (live .drive).lookup name = i.liveOn .drive name ∨
    name ∈ i.names ∧ ∃ d c, i.driveTarget name = some d ∧ (live .drive).lookup name = some c ∧
      AppliedTo d (i.liveOn .drive name) c := by
  refine (h.filtered (by decide) (filter_targets i).1 name).imp_right ?_
  rintro ⟨t, ht, hnode, c, hc, happlied⟩
  obtain ⟨name', hname, htarget⟩ := List.mem_filterMap.mp ht
  obtain ⟨d, hd, rfl⟩ := Option.map_eq_some_iff.mp htarget
  obtain rfl : name' = name := (driveTarget_fits hd).1.symm.trans hnode
  exact ⟨hname, d, c, hd, hc, happlied.unpaired⟩

theorem Applied.compute (h : Applied i live) (name : String) : (live .compute).lookup name = i.liveOn .compute name ∨
    name ∈ i.names ∧ ∃ t c, i.computeTarget name = some t ∧ (live .compute).lookup name = some c ∧
      AppliedTo t (i.liveOn .compute name) c := by
  refine (h.filtered (by decide) (filter_targets i).2 name).imp_right ?_
  rintro ⟨t, ht, hnode, c, hc, happlied⟩
  obtain ⟨name', hname, htarget⟩ := List.mem_filterMap.mp ht
  obtain rfl : name' = name := (computeTarget_fits htarget).1.symm.trans hnode
  exact ⟨hname, t, c, htarget, hc, happlied⟩

/-- The input of the next plan. -/
def DaemonsetInput.again (i : DaemonsetInput) (live : Mode → NameMap Container) : DaemonsetInput := { i with live }

theorem mem_names : name ∈ i.names ↔
    (i.nodes.lookup name).isSome ∨ (i.liveOn .drive name).isSome ∨ (i.liveOn .compute name).isSome := by
  simp only [names, mem_insertionSort, mem_dedup, mem_append, liveOn,
    AList.lookup_isSome, AList.mem_keys, or_assoc]

theorem Applied.names (h : Applied i live) : (i.again live).names = i.names := by
  have mem : ∀ name, name ∈ (i.again live).names ↔ name ∈ i.names := by
    intro name
    have hdrive : (i.again live).liveOn .drive name = (live .drive).lookup name := rfl
    have hcompute : (i.again live).liveOn .compute name = (live .compute).lookup name := rfl
    have hnodes : (i.again live).nodes = i.nodes := rfl
    rw [mem_names, hdrive, hcompute, hnodes]
    rcases h.drive name with hd | ⟨hname, _, c, -, hc, -⟩
    · rcases h.compute name with hcomp | ⟨hname, _, c, -, hc, -⟩
      · rw [hd, hcomp, mem_names]
      · simp [hc, hname]
    · simp [hc, hname]
  refine insertionSort_eq_of_perm (fun a b => le_total a b) (fun _ _ _ => le_trans) ?_ fun a _ b _ => le_antisymm
  refine (perm_ext_iff_of_nodup (nodup_dedup _) (nodup_dedup _)).mpr fun name => ?_
  have := mem name
  rwa [DaemonsetInput.names, DaemonsetInput.names, mem_insertionSort, mem_insertionSort] at this

theorem max_eq_max_of_between {ex ex' x : Int} (h : ex ≤ ex') (h' : ex' ≤ max ex x) : max ex' x = max ex x := by
  omega

/-! ### Drive targets -/

theorem heldCapacities_bare (h : c.drives = none) (entries : List Allocator.DriveEntry) :
    heldCapacities c entries = ([], false) := by
  simp [heldCapacities, h]

theorem numDrives_applied (hopen : o = none → (i.numDrives name none).1 ≠ 0)
    (h : AppliedTo (i.driveSizing name o) o c) : (i.numDrives name (some c)).1 = (i.numDrives name o).1 := by
  cases h with
  | created _ drives _ bare =>
    have hsome := hopen rfl
    have hdrives : c.numDrives = (i.numDrives name none).1 := drives
    unfold numDrives at hsome hdrives ⊢
    dsimp only at hsome hdrives ⊢
    rw [heldCapacities_bare bare]
    by_cases hpin : i.numDrivesPin = 0
    · rw [if_neg (not_not.mpr hpin)] at hsome hdrives ⊢
      split <;> dsimp only <;> omega
    · rw [if_pos hpin] at hdrives ⊢
      rw [if_neg fun hfollow => hpin hfollow.2.1]
      omega
  | raised c₀ =>
    by_cases hfollow : (i.node name).availGiB.isSome ∧ i.numDrivesPin = 0 ∧ !(heldCapacities c₀ (i.node name).entries).2
    · have hbefore : i.numDrives name (some c₀) = (_, true) := if_pos hfollow
      have hafter : i.numDrives name (some (c₀.raise (i.driveSizing name (some c₀)))) = (_, true) := if_pos hfollow
      rw [hbefore, hafter]
    · have hbefore : i.numDrives name (some c₀) = (max c₀.numDrives i.numDrivesPin, false) := if_neg hfollow
      have hafter : i.numDrives name (some (c₀.raise (i.driveSizing name (some c₀)))) = (_, false) := if_neg hfollow
      have hraised : (c₀.raise (i.driveSizing name (some c₀))).numDrives = if (i.numDrives name (some c₀)).2 then
          (i.numDrives name (some c₀)).1 else max c₀.numDrives (i.numDrives name (some c₀)).1 := rfl
      rw [hbefore, if_neg Bool.false_ne_true] at hraised
      rw [hbefore, hafter]
      omega

theorem driveSizing_applied (hopen : o = none → (i.numDrives name none).1 ≠ 0)
    (h : AppliedTo (i.driveSizing name o) o c) : (i.driveSizing name (some c)).sized = (i.driveSizing name o).sized := by
  have hnum := numDrives_applied hopen h
  have hsized : ∀ o, (i.driveSizing name o).sized = i.driveSizedBy name (i.numDrives name o).1
      ((o.map fun c => (heldCapacities c (i.node name).entries).1).getD []) ((o.map (·.numCores)).getD 0) := fun _ => rfl
  -- The cores it has after are those of the target, which are a maximum with what is by drives.
  have again : ∀ drives held ex ex', ex ≤ ex' → ex' ≤ (i.driveSizedBy name drives held ex).cores →
      i.driveSizedBy name drives held ex' = i.driveSizedBy name drives held ex := by
    intro drives held ex ex' hle hle'
    unfold driveSizedBy at hle' ⊢
    dsimp only at hle' ⊢
    rw [max_eq_max_of_between hle hle']
  rw [hsized, hsized, hnum]
  cases h with
  | created _ _ cores bare =>
    simp only [Option.map_some, Option.getD_some, heldCapacities_bare bare]
    exact again _ _ _ _ (cores ▸ le_max_left _ _) cores.le
  | raised c₀ =>
    have hcores : c₀.numCores ≤ (i.driveSizing name (some c₀)).cores := le_max_left _ _
    exact again _ _ _ _ (le_max_left _ _) (max_le hcores le_rfl)

theorem Applied.driveTarget (h : Applied i live) (name : String) :
    ((i.again live).driveTarget name).map Target.sized = (i.driveTarget name).map Target.sized := by
  rcases h.drive name with hlive | ⟨-, d, c, hd, hc, happlied⟩
  · have hlive : (i.again live).liveOn .drive name = i.liveOn .drive name := hlive
    unfold DaemonsetInput.driveTarget
    rw [hlive]
    rfl
  · obtain ⟨rfl, hopen⟩ := driveTarget_eq_some hd
    have hc : (i.again live).liveOn .drive name = some c := hc
    rw [hd, driveTarget_of_live hc]
    refine congrArg some (driveSizing_applied (fun hnone => ?_) happlied)
    have hrefusal := hopen (by rw [hnone]; rfl)
    unfold driveRefusal at hrefusal
    dsimp only at hrefusal
    intro hzero
    have hzero : (i.numDrives name none).1 = 0 := hzero
    rw [if_pos hzero] at hrefusal
    repeat' split at hrefusal
    all_goals cases hrefusal

/-! ### Compute targets -/

theorem AppliedTo.cores {t : Target} (h : AppliedTo t o c)
    (hle : ∀ c₀, o = some c₀ → c₀.numCores ≤ t.cores) : c.numCores = t.cores := by
  cases h with
  | raised c₀ => exact max_eq_right (hle c₀ rfl)
  | created _ _ cores _ => exact cores

theorem pairedTarget_applied (h : AppliedTo (i.pairedTarget name o d) o c) :
    i.pairedTarget name (some c) d = i.pairedTarget name o d := by
  have hcores : c.numCores = (i.pairedTarget name o d).cores := h.cores fun c₀ e => by
    rw [e]
    exact le_max_left _ _
  unfold pairedTarget at hcores ⊢
  dsimp only at hcores ⊢
  rw [Option.map_some, Option.getD_some, hcores, max_eq_max_of_between (le_max_left _ _) le_rfl]

theorem onlyTarget_applied (h : AppliedTo (i.onlyTarget name o) o c) :
    i.onlyTarget name (some c) = i.onlyTarget name o := by
  have hcores : c.numCores = (i.onlyTarget name o).cores := h.cores fun c₀ e => by
    rw [e]
    exact le_max_left _ _
  unfold onlyTarget at hcores ⊢
  dsimp only [Option.elim_some] at hcores ⊢
  rw [hcores]
  cases o with
  | none => rw [Option.elim_none, max_self]
  | some c₀ => rw [Option.elim_some, max_eq_max_of_between (le_max_left _ _) le_rfl]

theorem isNone_of_sized {o o' : Option Target} (h : o.map Target.sized = o'.map Target.sized) : o.isNone = o'.isNone := by
  have := congrArg Option.isNone h
  rwa [Option.isNone_map, Option.isNone_map] at this

variable (h : Applied i live)
include h

theorem Applied.computeWithheld (name : String) :
    (i.again live).computeWithheld name = i.computeWithheld name := by
  have hdrive := isNone_of_sized (h.driveTarget name)
  rcases h.compute name with hlive | ⟨-, t, c, ht, hc, -⟩
  · have hlive : (i.again live).liveOn .compute name = i.liveOn .compute name := hlive
    unfold DaemonsetInput.computeWithheld
    rw [hlive, hdrive]
    rfl
  · have hc : (i.again live).liveOn .compute name = some c := hc
    rw [(DaemonsetInput.computeTarget_eq_some ht).1, DaemonsetInput.computeWithheld, hc]
    rfl

theorem Applied.computeNodes : (i.again live).computeNodes = i.computeNodes := by
  unfold DaemonsetInput.computeNodes
  rw [h.names]
  exact filter_congr fun name _ => by rw [h.computeWithheld]

theorem Applied.only : (i.again live).only = i.only := by
  unfold DaemonsetInput.only
  rw [h.computeNodes]
  exact filter_congr fun name _ => isNone_of_sized (h.driveTarget name)

theorem Applied.pairedTarget {d' : Target} (hd : i.driveTarget name = some d)
    (hd' : (i.again live).driveTarget name = some d') :
    (i.again live).pairedTarget name ((i.again live).liveOn .compute name) d' = i.pairedTarget name (i.liveOn .compute name) d := by
  have hsized := h.driveTarget name
  rw [hd, hd'] at hsized
  have hsame : ∀ o, (i.again live).pairedTarget name o d' = i.pairedTarget name o d := by
    intro o
    change i.pairedTarget name o d'.sized = i.pairedTarget name o d.sized
    rw [Option.some.inj hsized]
  rw [hsame]
  rcases h.compute name with hlive | ⟨-, t, c, ht, hc, happlied⟩
  · exact congrArg (i.pairedTarget name · d) hlive
  · obtain ⟨-, rfl⟩ := computeTarget_eq_some ht
    rw [hd] at happlied
    have hc : (i.again live).liveOn .compute name = some c := hc
    rw [hc]
    exact pairedTarget_applied happlied

theorem Applied.paired :
    (i.again live).paired.map (fun p => (p.1.sized, p.2)) = i.paired.map fun p => (p.1.sized, p.2) := by
  unfold DaemonsetInput.paired
  rw [h.computeNodes, map_filterMap, map_filterMap]
  refine filterMap_congr fun name _ => ?_
  have hsized := h.driveTarget name
  cases hd : i.driveTarget name with
  | none =>
    rw [hd] at hsized
    rw [Option.map_eq_none_iff.mp hsized]
    rfl
  | some d =>
    rw [hd] at hsized
    obtain ⟨d', hd', e⟩ := Option.map_eq_some_iff.mp hsized
    rw [hd']
    simp only [Option.map_some, h.pairedTarget hd hd', e]

theorem Applied.sum_drives (f : Target → Int) (hf : ∀ t, f t = f t.sized) :
    (((i.again live).names.filterMap (i.again live).driveTarget).map f).sum = ((i.names.filterMap i.driveTarget).map f).sum := by
  rw [h.names, map_filterMap, map_filterMap]
  refine congrArg List.sum (filterMap_congr fun name _ => ?_)
  have hsized : ∀ o : Option Target, o.map f = (o.map Target.sized).map f := by
    intro o
    rw [Option.map_map]
    exact congrArg (Option.map · o) (funext hf)
  rw [hsized, h.driveTarget, ← hsized]

theorem Applied.sum_paired (f : Target × Target → Int) (hf : ∀ p, f p = f (p.1.sized, p.2)) :
    ((i.again live).paired.map f).sum = (i.paired.map f).sum := by
  have hsized : ∀ l : List (Target × Target), l.map f = (l.map fun p => (p.1.sized, p.2)).map f := by
    intro l
    rw [map_map]
    exact map_congr_left fun p _ => hf p
  rw [hsized, h.paired, ← hsized]

theorem Applied.onlyTarget (o : Option Container) : (i.again live).onlyTarget name o = i.onlyTarget name o := by
  have hpaired : (i.again live).pairedCores = i.pairedCores := h.sum_paired (·.2.cores) fun _ => rfl
  have hdrives : (i.again live).driveCores = i.driveCores := h.sum_drives (·.cores) fun _ => rfl
  have htlc : (i.again live).driveTlc = i.driveTlc := h.sum_drives (·.tlcGiB) fun _ => rfl
  have hrest : ((i.again live).paired.map (·.1.tlcGiB)).sum = (i.paired.map (·.1.tlcGiB)).sum :=
    h.sum_paired (·.1.tlcGiB) fun _ => rfl
  have hwanted : (i.again live).onlyWanted = i.onlyWanted := by
    unfold onlyWanted
    rw [hpaired, hdrives, h.only]
    rfl
  unfold DaemonsetInput.onlyTarget
  rw [hwanted, htlc, hrest, h.only]
  rfl

theorem Applied.computeTarget (name : String) :
    (i.again live).computeTarget name = i.computeTarget name := by
  unfold DaemonsetInput.computeTarget
  rw [h.computeWithheld]
  cases hopen : i.computeWithheld name with
  | true => rfl
  | false =>
    refine congrArg some ?_
    have hsized := h.driveTarget name
    cases hd : i.driveTarget name with
    | none =>
      rw [hd] at hsized
      rw [Option.map_eq_none_iff.mp hsized, Option.elim_none, Option.elim_none, h.onlyTarget]
      rcases h.compute name with hlive | ⟨-, t, c, ht, hc, happlied⟩
      · exact congrArg (i.onlyTarget name) hlive
      · obtain ⟨-, rfl⟩ := computeTarget_eq_some ht
        rw [hd] at happlied
        have hc : (i.again live).liveOn .compute name = some c := hc
        rw [hc]
        exact onlyTarget_applied happlied
    | some d =>
      rw [hd] at hsized
      obtain ⟨d', hd', -⟩ := Option.map_eq_some_iff.mp hsized
      rw [hd', Option.elim_some, Option.elim_some, h.pairedTarget hd hd']

end Again

/-- Planning again after any part of the drive and compute targets is applied gives the same targets, but for the mark
    that the number of drives may go down. -/
theorem planDaemonset_again (i : DaemonsetInput) (live : Mode → NameMap Container) (h : Applied i live) :
    ((i.again live).planDaemonset.targets.filter (·.mode = .drive)).map Target.sized =
        (i.planDaemonset.targets.filter (·.mode = .drive)).map Target.sized ∧
      (i.again live).planDaemonset.targets.filter (·.mode = .compute) = i.planDaemonset.targets.filter (·.mode = .compute) := by
  rw [(filter_targets i).1, (filter_targets i).2, (filter_targets _).1, (filter_targets _).2, h.names]
  refine ⟨?_, filterMap_congr fun name _ => h.computeTarget name⟩
  rw [map_filterMap, map_filterMap]
  refine filterMap_congr fun name _ => ?_
  have hmark : ∀ (o : Option Target) (b : Bool), (o.map ({ · with paired := b })).map Target.sized =
      (o.map Target.sized).map ({ · with paired := b }) := by
    intro o b
    rw [Option.map_map, Option.map_map]
    rfl
  rw [hmark, hmark, h.driveTarget, h.computeTarget]

def freshNode : DaemonsetInput where
  nodes := AList.singleton "node-1"
    { driveRole := true, computeRole := true, drivesGiB := [900, 800], entries := [⟨"s1", 900⟩, ⟨"s2", 800⟩] }
  live := fun _ => ∅
  cons := plainConstraints

def driveCreated : Mode → NameMap Container
  | .drive => AList.singleton "node-1" { name := "drive-0", node := "node-1", numDrives := 2, numCores := 2 }
  | _ => ∅

theorem planDaemonset_again_driveCreated :
    ((freshNode.again driveCreated).planDaemonset.targets.filter (·.mode = .drive)).map Target.sized =
        (freshNode.planDaemonset.targets.filter (·.mode = .drive)).map Target.sized ∧
      (freshNode.again driveCreated).planDaemonset.targets.filter (·.mode = .compute) =
        freshNode.planDaemonset.targets.filter (·.mode = .compute) := by
  refine planDaemonset_again freshNode driveCreated fun mode name hmode => ?_
  cases mode with
  | s3 => exact absurd rfl hmode
  | compute => exact .inl rfl
  | drive =>
    by_cases hname : name = "node-1"
    · subst hname
      refine .inr ⟨{ node := "node-1", mode := .drive, paired := true, numDrives := 2, cores := 2, tlcGiB := 1700 },
        by decide +kernel, rfl, rfl, _, rfl, .created _ rfl rfl rfl⟩
    · refine .inl ?_
      have hout : name ∉ driveCreated .drive := by
        rw [AList.mem_keys]
        simpa [driveCreated, AList.keys_singleton] using hname
      rw [AList.lookup_eq_none.mpr hout]
      rfl

end WekaOperator.Daemonset
