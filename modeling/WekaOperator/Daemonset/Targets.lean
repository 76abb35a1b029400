import WekaOperator.Daemonset.Plan

/-! What the targets of a daemonset plan are: one for each node and mode, new ones only where the role allows them,
    never smaller than what runs, and with the compute cores that the drive cores require. -/

namespace WekaOperator.Daemonset
open Option List Lib Planner

/-- A container may be created. -/
def DaemonsetInput.Open (i : DaemonsetInput) (mode : Mode) (name : String) : Prop :=
  (i.node name).ineligible = "" ∧ name ∉ i.deleting mode ∧
    match mode with
    | .drive => (i.node name).driveRole = true ∧ (i.node name).drivesGiB ≠ []
    | .compute => (i.node name).computeRole = true
    | .s3 => (i.node name).s3Role = true

/-- The target is one the input allows. -/
structure Target.Fits (i : DaemonsetInput) (t : Target) : Prop where
  new : i.liveOn t.mode t.node = none → i.Open t.mode t.node
  cores : ∀ c, i.liveOn t.mode t.node = some c → c.numCores ≤ t.cores
  drives : t.mode = .drive → ∀ c, i.liveOn t.mode t.node = some c → t.numDrives < c.numDrives → t.drivesFollowFree = true

/-- Each node has one target a mode, and each fits. -/
structure DaemonsetPlan.WellFormed (i : DaemonsetInput) (p : DaemonsetPlan) : Prop where
  once : (p.targets.map fun t => (t.node, t.mode)).Nodup
  fits : ∀ t ∈ p.targets, t.Fits i
  supplied : (∃ t ∈ p.targets, t.mode = .compute ∧ t.paired = false) → i.computeCoresPin = 0 →
    (∀ r ∈ p.reports, r.isCapped = false) →
    requiredComputeCores ((p.targets.filter (·.mode = .drive)).map (·.cores)).sum 0 true i.cons ≤
      ((p.targets.filter (·.mode = .compute)).map (·.cores)).sum

namespace DaemonsetInput
variable {i : DaemonsetInput} {name : String} {t : Target}

/-! ### Single targets -/

theorem names_nodup : i.names.Nodup := (List.perm_insertionSort _ _).nodup_iff.mpr (List.nodup_dedup _)

theorem driveTarget_eq_some (h : i.driveTarget name = some t) :
    t = i.driveSizing name (i.liveOn .drive name) ∧ ((i.liveOn .drive name).isNone → i.driveRefusal name = none) := by
  unfold driveTarget at h
  split at h
  · cases h
  · rename_i hopen
    cases h
    refine ⟨rfl, fun hnone => ?_⟩
    rw [not_and, hnone] at hopen
    exact not_isSome_iff_eq_none.mp (hopen rfl)

theorem driveTarget_of_live {c : Container} (h : i.liveOn .drive name = some c) :
    i.driveTarget name = some (i.driveSizing name (some c)) := by
  unfold driveTarget
  rw [h]
  exact if_neg fun hnone => by cases hnone.1

theorem driveRefusal_eq_none (h : i.driveRefusal name = none) : i.Open .drive name := by
  unfold driveRefusal at h
  dsimp only at h
  split at h
  · cases h
  rename_i hrole
  split at h
  · cases h
  rename_i hsigned
  split at h
  · cases h
  rename_i heligible
  rw [not_or, Bool.not_eq_true, Bool.not_eq_false'] at hrole
  exact ⟨not_not.mp heligible, hrole.1, hrole.2, hsigned⟩

theorem le_numDrives (c : Container) :
    c.numDrives ≤ (i.numDrives name (some c)).1 ∨ (i.numDrives name (some c)).2 = true := by
  unfold numDrives
  dsimp only
  split
  · exact .inr rfl
  · exact .inl (le_max_left _ _)

theorem driveTarget_fits (h : i.driveTarget name = some t) : t.node = name ∧ t.mode = .drive ∧ t.Fits i := by
  obtain ⟨rfl, hopen⟩ := driveTarget_eq_some h
  refine ⟨rfl, rfl, fun hnone => ?_, fun c hc => ?_, fun _ c hc hless => ?_⟩
  · exact driveRefusal_eq_none (hopen (isNone_iff_eq_none.mpr hnone))
  · have hc : i.liveOn .drive name = some c := hc
    rw [hc]
    exact le_max_left _ _
  · have hc : i.liveOn .drive name = some c := hc
    rw [hc] at hless ⊢
    rcases le_numDrives (i := i) c with hle | hfollow
    · exact absurd hless (not_lt.mpr hle)
    · exact hfollow

theorem computeWithheld_eq_false (h : i.computeWithheld name = false) (hnone : i.liveOn .compute name = none) :
    i.Open .compute name := by
  simp only [computeWithheld, hnone, isNone_none, Bool.true_and, Bool.or_eq_false_iff, decide_eq_false_iff_not,
    not_not, Bool.not_eq_false'] at h
  exact ⟨h.1.2, h.1.1.1, h.1.1.2⟩

theorem computeTarget_eq_some (h : i.computeTarget name = some t) : i.computeWithheld name = false ∧
    t = (i.driveTarget name).elim (i.onlyTarget name (i.liveOn .compute name)) (i.pairedTarget name (i.liveOn .compute name)) := by
  unfold computeTarget at h
  split at h
  · cases h
  · rename_i hopen
    exact ⟨Bool.not_eq_true _ ▸ hopen, (some.inj h).symm⟩

theorem computeTarget_fits (h : i.computeTarget name = some t) : t.node = name ∧ t.mode = .compute ∧ t.Fits i := by
  obtain ⟨hopen, rfl⟩ := computeTarget_eq_some h
  cases i.driveTarget name with
  | none =>
    refine ⟨rfl, rfl, computeWithheld_eq_false hopen, fun c hc => ?_, nofun⟩
    have hc : i.liveOn .compute name = some c := hc
    dsimp only [elim_none]
    rw [hc]
    exact le_max_left _ _
  | some d =>
    refine ⟨rfl, rfl, computeWithheld_eq_false hopen, fun c hc => ?_, nofun⟩
    have hc : i.liveOn .compute name = some c := hc
    dsimp only [elim_some]
    rw [hc]
    exact le_max_left _ _

theorem s3Target_fits (hname : name ∈ i.s3Nodes) (h : i.s3Target name = some t) :
    t.node = name ∧ t.mode = .s3 ∧ t.Fits i := by
  unfold s3Target at h
  split at h
  · cases h
  · rename_i hopen
    cases h
    simp only [not_or, Bool.not_eq_true, isSome_eq_false_iff, isNone_iff_eq_none, not_not] at hopen
    obtain ⟨hnone, heligible, hstays⟩ := hopen
    refine ⟨rfl, rfl, fun _ => ⟨heligible, hstays, ?_⟩, fun c hc => ?_, nofun⟩
    · rw [s3Nodes, mem_insertionSort, mem_dedup, mem_append] at hname
      rcases hname with hname | hname
      · simpa using (mem_filter.mp hname).2
      · rw [liveOn, AList.lookup_eq_none] at hnone
        exact absurd (AList.mem_keys.mp hname) hnone
    · cases hnone.symm.trans hc

theorem targets_nodup {l : List String} (nodup : l.Nodup) {target : String → Option Target}
    (h : ∀ name ∈ l, ∀ t, target name = some t → t.node = name) :
    ((l.filterMap target).map fun t => (t.node, t.mode)).Nodup := by
  induction l with
  | nil => exact nodup_nil
  | cons name l ih =>
    obtain ⟨hname, nodup⟩ := nodup_cons.mp nodup
    have ih := ih nodup fun n hn => h n (mem_cons_of_mem _ hn)
    rw [filterMap_cons]
    cases ht : target name with
    | none => exact ih
    | some t =>
      rw [map_cons, nodup_cons]
      refine ⟨fun hmem => ?_, ih⟩
      obtain ⟨t', ht', e⟩ := mem_map.mp hmem
      obtain ⟨name', hname', htarget⟩ := mem_filterMap.mp ht'
      have hnode : t'.node = t.node := congrArg Prod.fst e
      rw [h name' (mem_cons_of_mem _ hname') t' htarget, h name mem_cons_self t ht] at hnode
      exact hname (hnode ▸ hname')

/-! ### Compute cores -/

theorem sum_computeTarget : ((i.names.filterMap i.computeTarget).map (·.cores)).sum =
    i.pairedCores + (i.only.map fun name => (i.onlyTarget name (i.liveOn .compute name)).cores).sum := by
  unfold pairedCores paired only computeNodes
  induction i.names with
  | nil => rfl
  | cons name names ih =>
    rw [filterMap_cons, computeTarget, filter_cons]
    cases hopen : i.computeWithheld name with
    | true => simpa using ih
    | false =>
      cases hdrive : i.driveTarget name with
      | none =>
        simp only [hdrive, Bool.false_eq_true, if_false, elim_none, map_cons, sum_cons, Bool.not_false, if_true,
          filterMap_cons, map_none, filter_cons, isNone_none, ih]
        omega
      | some d =>
        simp only [hdrive, Bool.false_eq_true, if_false, elim_some, map_cons, sum_cons, Bool.not_false, if_true,
          filterMap_cons, map_some, filter_cons, isNone_some, ih]
        omega

theorem le_mul_tdiv {a m : Int} (hm : 0 < m) : a ≤ m * max ((a + m - 1).tdiv m) 1 := by
  rcases le_or_gt a 0 with ha | ha
  · exact ha.trans (Int.mul_nonneg hm.le (by omega))
  · have hdiv : ceilDiv a m = (a + m - 1).tdiv m := by rw [ceilDiv, if_neg (by omega)]
    calc a ≤ ceilDiv a m * m := le_ceilDiv_mul a hm
      _ ≤ m * max ((a + m - 1).tdiv m) 1 := by
        rw [Int.mul_comm, hdiv]
        exact Int.mul_le_mul_of_nonneg_left (le_max_left _ _) hm.le

theorem onlyTarget_wanted (hpin : i.computeCoresPin = 0) (hcapped : ∀ r ∈ i.onlyReports, r.isCapped = false)
    (h : name ∈ i.only) : i.onlyWanted ≤ (i.onlyTarget name (i.liveOn .compute name)).cores := by
  by_contra hless
  have hmem : name ∈ i.only.filter fun name => i.computeCoresPin = 0 ∧ (i.onlyTarget name (i.liveOn .compute name)).cores < i.onlyWanted :=
    mem_filter.mpr ⟨h, by simpa [hpin] using hless⟩
  have hreport := hcapped (.capped _) (by
    rw [onlyReports, if_pos (length_pos_of_mem hmem)]
    exact mem_singleton_self _)
  cases hreport

theorem sum_only (hpin : i.computeCoresPin = 0) (hcapped : ∀ r ∈ i.onlyReports, r.isCapped = false) (h : i.only ≠ []) :
    requiredComputeCores i.driveCores 0 true i.cons ≤
      i.pairedCores + (i.only.map fun name => (i.onlyTarget name (i.liveOn .compute name)).cores).sum := by
  have hlen : (0 : Int) < i.only.length := by simpa using length_pos_iff.mpr h
  have hwant := le_mul_tdiv (a := requiredComputeCores i.driveCores 0 true i.cons - i.pairedCores) hlen
  have hsum := card_nsmul_le_sum (i.only.map fun name => (i.onlyTarget name (i.liveOn .compute name)).cores) i.onlyWanted (by
    intro x hx
    obtain ⟨name, hname, rfl⟩ := mem_map.mp hx
    exact onlyTarget_wanted hpin hcapped hname)
  rw [length_map, nsmul_eq_mul] at hsum
  unfold onlyWanted at hsum
  omega

end DaemonsetInput

section Plan
open DaemonsetInput
variable (i : DaemonsetInput)
variable {t : Target}

theorem mem_drives (h : t ∈ i.names.filterMap fun name =>
      (i.driveTarget name).map ({ · with paired := (i.computeTarget name).isSome })) : t.mode = .drive ∧ t.Fits i := by
  obtain ⟨name, -, ht⟩ := mem_filterMap.mp h
  obtain ⟨d, hd, rfl⟩ := map_eq_some_iff.mp ht
  obtain ⟨-, hmode, new, cores, drives⟩ := driveTarget_fits hd
  exact ⟨hmode, new, cores, drives⟩

theorem mem_computes (h : t ∈ i.names.filterMap i.computeTarget) : t.mode = .compute ∧ t.Fits i := by
  obtain ⟨name, -, ht⟩ := mem_filterMap.mp h
  exact (computeTarget_fits ht).2

theorem mem_s3s (h : t ∈ if i.s3 then i.s3Nodes.filterMap i.s3Target else []) : t.mode = .s3 ∧ t.Fits i := by
  split at h
  · obtain ⟨name, hname, ht⟩ := mem_filterMap.mp h
    exact (s3Target_fits hname ht).2
  · cases h

theorem filter_targets : i.planDaemonset.targets.filter (·.mode = .drive) =
      i.names.filterMap (fun name => (i.driveTarget name).map ({ · with paired := (i.computeTarget name).isSome })) ∧
    i.planDaemonset.targets.filter (·.mode = .compute) = i.names.filterMap i.computeTarget := by
  unfold planDaemonset
  refine ⟨?_, ?_⟩
  all_goals rw [filter_append, filter_append]
  · rw [filter_eq_self.mpr fun t ht => decide_eq_true (mem_drives i ht).1,
      filter_eq_nil_iff.mpr fun t ht => by simp [(mem_computes i ht).1],
      filter_eq_nil_iff.mpr fun t ht => by simp [(mem_s3s i ht).1], append_nil, append_nil]
  · rw [filter_eq_nil_iff.mpr fun t ht => by simp [(mem_drives i ht).1],
      filter_eq_self.mpr fun t ht => decide_eq_true (mem_computes i ht).1,
      filter_eq_nil_iff.mpr fun t ht => by simp [(mem_s3s i ht).1], nil_append, append_nil]

theorem targets_once : (i.planDaemonset.targets.map fun t => (t.node, t.mode)).Nodup := by
  have apart : ∀ {l l' : List Target} {m m' : Mode}, m ≠ m' → (∀ t ∈ l, t.mode = m) → (∀ t ∈ l', t.mode = m') →
      ∀ a ∈ l.map fun t => (t.node, t.mode), ∀ b ∈ l'.map fun t => (t.node, t.mode), a ≠ b := by
    intro l l' m m' hne hl hl' a ha b hb e
    obtain ⟨t, ht, rfl⟩ := mem_map.mp ha
    obtain ⟨t', ht', rfl⟩ := mem_map.mp hb
    rw [Prod.mk.injEq, hl t ht, hl' t' ht'] at e
    exact hne e.2
  unfold planDaemonset
  rw [map_append, map_append, nodup_append, nodup_append]
  refine ⟨⟨targets_nodup names_nodup fun name _ t h => ?_, targets_nodup names_nodup fun name _ t h => ?_,
    apart (by decide) (fun t ht => (mem_drives i ht).1) fun t ht => (mem_computes i ht).1⟩, ?_, ?_⟩
  · obtain ⟨d, hd, rfl⟩ := map_eq_some_iff.mp h
    exact (driveTarget_fits hd).1
  · exact (computeTarget_fits h).1
  · split
    · refine targets_nodup ((perm_insertionSort _ _).nodup_iff.mpr (nodup_dedup _)) fun name hname t h => ?_
      exact (s3Target_fits hname h).1
    · exact nodup_nil
  · rw [← map_append]
    intro a ha
    rw [map_append, mem_append] at ha
    rcases ha with ha | ha
    · exact apart (by decide) (fun t ht => (mem_drives i ht).1) (fun t ht => (mem_s3s i ht).1) a ha
    · exact apart (by decide) (fun t ht => (mem_computes i ht).1) (fun t ht => (mem_s3s i ht).1) a ha

end Plan

/-- Every plan is well formed. -/
theorem planDaemonset_wellFormed (i : DaemonsetInput) : i.planDaemonset.WellFormed i := by
  refine ⟨targets_once i, fun t ht => ?_, ?_⟩
  · rcases mem_append.mp ht with ht | ht
    · rcases mem_append.mp ht with ht | ht
      · exact (mem_drives i ht).2
      · exact (mem_computes i ht).2
    · exact (mem_s3s i ht).2
  · rintro ⟨t, ht, hmode, hunpaired⟩ hpin huncapped
    have hmem : t ∈ i.planDaemonset.targets.filter (·.mode = .compute) := mem_filter.mpr ⟨ht, decide_eq_true hmode⟩
    rw [(filter_targets i).2] at hmem ⊢
    rw [(filter_targets i).1, DaemonsetInput.sum_computeTarget]
    have hdrive : ((i.names.filterMap fun name => (i.driveTarget name).map
        ({ · with paired := (i.computeTarget name).isSome })).map (·.cores)).sum = i.driveCores := by
      rw [DaemonsetInput.driveCores, map_filterMap, map_filterMap]
      simp only [Option.map_map, Function.comp_def]
    rw [hdrive]
    refine DaemonsetInput.sum_only hpin (fun r hr => huncapped r ?_) ?_
    · exact mem_append_left _ (mem_append_right _ hr)
    · obtain ⟨name, hname, htarget⟩ := mem_filterMap.mp hmem
      obtain ⟨hopen, rfl⟩ := DaemonsetInput.computeTarget_eq_some htarget
      cases hd : i.driveTarget name with
      | none =>
        refine ne_nil_of_mem (a := name) (mem_filter.mpr ⟨mem_filter.mpr ⟨hname, ?_⟩, ?_⟩)
        · rw [hopen]
          rfl
        · rw [hd]
          rfl
      | some d =>
        rw [hd] at hunpaired
        cases hunpaired

end WekaOperator.Daemonset
