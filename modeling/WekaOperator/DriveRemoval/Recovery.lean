import WekaOperator.DriveRemoval.Accounted

/-! Passes all calls of which succeed.

Such a pass removes every blocked drive from the cluster and erases it, so that a drive that has left the status is erased
or a later pass erases it, unless nothing blocks it any more. -/

namespace WekaOperator.DriveRemoval
open List Lib Operations Containers
open Lib.Flow (Runs)

/-! ### What a pass takes away -/

/-- Removed drives are gone from the cluster, erased ones from the proxy. -/
def Reduced (w₀ : World) (removed erased pending : List String) (w : World) : Prop :=
  ∃ R S : List String, removed ⊆ R ∧ erased ⊆ S ∧ R ⊆ S ++ pending ∧
    w.cluster = w₀.cluster.filter (·.uuid ∉ R) ∧ w.proxy = w₀.proxy.filter (·.virtualUUID ∉ S)

section Reduced
variable {w₀ w w' : World} {removed erased pending vids : List String} {vid uuid : String}

theorem Reduced.refl : Reduced w [] [] [] w :=
  ⟨[], [], nil_subset _, nil_subset _, nil_subset _, by simp, by simp⟩

theorem Reduced.frame (h : Reduced w₀ removed erased pending w) (cluster : w'.cluster = w.cluster)
    (proxy : w'.proxy = w.proxy) : Reduced w₀ removed erased pending w' := by
  obtain ⟨R, S, hR, hS, hRS, hcluster, hproxy⟩ := h
  exact ⟨R, S, hR, hS, hRS, cluster.trans hcluster, proxy.trans hproxy⟩

theorem Reduced.removeDrive (h : Reduced w₀ removed erased [] w) :
    Reduced w₀ (uuid :: removed) erased [uuid] (w.removeDrive uuid) := by
  obtain ⟨R, S, hR, hS, hRS, hcluster, hproxy⟩ := h
  rw [append_nil] at hRS
  refine ⟨uuid :: R, S, cons_subset_cons _ hR, hS, ?_, ?_, hproxy⟩
  · exact cons_subset.mpr ⟨mem_append_right _ (mem_singleton_self _),
      List.Subset.trans hRS (subset_append_left _ _)⟩
  · simp only [World.removeDrive, hcluster, filter_filter]
    exact filter_congr fun d _ => by simp [not_or]

theorem Reduced.erase (h : Reduced w₀ removed erased pending w) (covered : pending ⊆ vids) :
    Reduced w₀ removed (vids ++ erased) [] (w.erase vids) := by
  obtain ⟨R, S, hR, hS, hRS, hcluster, hproxy⟩ := h
  refine ⟨R, vids ++ S, hR, ?_, ?_, hcluster, ?_⟩
  · exact append_subset.mpr ⟨subset_append_left _ _, List.Subset.trans hS (subset_append_right _ _)⟩
  · intro u hu
    rcases mem_append.mp (hRS hu) with hu | hu
    · simp [hu]
    · simp [covered hu]
  · simp only [World.erase, hproxy, filter_filter]
    exact filter_congr fun d _ => by simp [mem_append, not_or]

theorem World.erase_of_not_holds (h : w.holds vid = false) : w.erase [vid] = w := by
  have kept : w.proxy.filter (·.virtualUUID ∉ [vid]) = w.proxy := by
    refine filter_eq_self.mpr fun e he => decide_eq_true fun hv => ?_
    have := World.holds_iff.mpr ⟨e, he, mem_singleton.mp hv⟩
    rw [h] at this
    cases this
  unfold World.erase
  rw [kept]

section
variable (h : Reduced w₀ removed erased pending w)
include h

theorem Reduced.unheld (covered : pending ⊆ [vid]) (hv : w.holds vid = false) :
    Reduced w₀ removed (vid :: erased) [] w := World.erase_of_not_holds hv ▸ h.erase covered

theorem Reduced.gone (had : uuid ∈ w₀.cluster.map (·.uuid))
    (out : uuid ∉ w.cluster.map (·.uuid)) : Reduced w₀ (uuid :: removed) erased pending w := by
  obtain ⟨R, S, hR, hS, hRS, hcluster, hproxy⟩ := h
  refine ⟨R, S, cons_subset.mpr ⟨?_, hR⟩, hS, hRS, hcluster, hproxy⟩
  obtain ⟨d, hd, rfl⟩ := mem_map.mp had
  by_contra hin
  refine out (mem_map.mpr ⟨d, ?_, rfl⟩)
  rw [hcluster]
  exact mem_filter.mpr ⟨hd, decide_eq_true hin⟩

theorem Reduced.weaken {removed' erased' : List String}
    (hremoved : removed' ⊆ removed) (herased : erased' ⊆ erased) : Reduced w₀ removed' erased' pending w := by
  obtain ⟨R, S, hR, hS, hrest⟩ := h
  exact ⟨R, S, List.Subset.trans hremoved hR, List.Subset.trans herased hS, hrest⟩

end

theorem Reduced.held (h : Reduced w₀ removed erased [] w) (hv : w.holds vid = true) :
    vid ∉ removed ∧ vid ∉ erased ∧ physicalOf w.listed vid = physicalOf w₀.listed vid ∧
      ∀ d ∈ w₀.cluster, d.uuid = vid → d ∈ w.cluster := by
  obtain ⟨R, S, hR, hS, hRS, hcluster, hproxy⟩ := h
  rw [append_nil] at hRS
  have hout : vid ∉ S := by
    obtain ⟨e, he, rfl⟩ := World.holds_iff.mp hv
    rw [hproxy] at he
    exact of_decide_eq_true (mem_filter.mp he).2
  have hlisted : w.listed = (w₀.erase S).listed := by
    unfold World.listed
    rw [hproxy]
    rfl
  refine ⟨fun hin => hout (hRS (hR hin)), fun hin => hout (hS hin), ?_, ?_⟩
  · rw [hlisted, physicalOf_erase hout]
  · rintro d hd rfl
    rw [hcluster]
    exact mem_filter.mpr ⟨hd, decide_eq_true fun hin => hout (hRS hin)⟩

theorem Reduced.blocks {c : Container} (h : Reduced w₀ removed erased [] w) (hv : w.holds vid = true)
    (hb : w₀.blocks c vid = true) : w.blocks c vid = true := by
  obtain ⟨-, -, hphysical, hcluster⟩ := h.held hv
  obtain ⟨d, hd, hvid, hblocked⟩ := World.blocks_iff.mp hb
  exact World.blocks_iff.mpr ⟨d, hcluster d hd hvid, hvid, hphysical ▸ hblocked⟩

theorem Reduced.shorter (h : Reduced w₀ removed erased pending w) (hin : uuid ∈ removed)
    (had : uuid ∈ w₀.cluster.map (·.uuid)) : w.cluster.length < w₀.cluster.length := by
  obtain ⟨R, S, hR, hS, hRS, hcluster, hproxy⟩ := h
  obtain ⟨d, hd, rfl⟩ := mem_map.mp had
  rw [hcluster]
  refine length_filter_lt_length_iff_exists.mpr ⟨d, hd, ?_⟩
  simp [hR hin]

end Reduced

/-! ### The walk of a pass -/

/-- What holds while drives are removed. -/
structure Going (w₀ : World) (removed erased pending : List String) (m : Loop) (w : World) : Prop where
  node : m.nodeSet = true
  fresh : ∀ d, d ∈ m.status.addedDrives.map (fun a => ClusterDrive.mk a.uuid a.serialNumber) ↔ d ∈ w₀.cluster
  reduced : Reduced w₀ removed erased pending w

variable {P : Loop → World → Prop} {drives added : List Drive} {blocked : List String} {d : Drive}

section Walk
variable {c : Container} {w₀ : World} {removed erased pending : List String} {E : Loop → World → Prop}
  {m : Loop} {w : World}

/-- A container that shares drives and erases them. -/
structure Container.Shares (c : Container) : Prop where
  sharing : c.usesDriveSharing = true
  erases : c.skipVirtualDrivesRemoval = false
  node : c.nodeAffinity ≠ ""

/-- From `P`, with every call a success, the action ends in `Q`, or throws in `E`. -/
abbrev Walks {α : Type} (c : Container) (P : Loop → World → Prop) (x : M α) (Q : α → Loop → World → Prop)
    (E : Loop → World → Prop) : Prop := Runs (system c) () succeed P x Q E

/-- A part that keeps `P`. -/
abbrev WalksIn {α : Type} (c : Container) (P : Loop → World → Prop) (x : M α) (E : Loop → World → Prop) : Prop :=
  Walks c P x (fun _ => P) E

theorem Going.mono {removed' erased' pending' : List String} {w' : World} (h : Going w₀ removed erased pending m w)
    (hr : Reduced w₀ removed' erased' pending' w') : Going w₀ removed' erased' pending' m w' := ⟨h.node, h.fresh, hr⟩

theorem removeDriveFromCluster_runs (uuid ref noun : String) :
    Walks c (Going w₀ removed erased []) (removeDriveFromCluster uuid ref noun)
      (fun r m w => r = .removed ∧ Going w₀ (uuid :: removed) erased [uuid] m w ∨
        r = .notFound ∧ uuid ∉ w.cluster.map (·.uuid) ∧ Going w₀ removed erased [] m w) E := by
  refine .bind (Q := fun r m w => r = .ok "ACTIVE" ∧ Going w₀ removed erased [] m w ∨
    r = .error .notFound ∧ uuid ∉ w.cluster.map (·.uuid) ∧ Going w₀ removed erased [] m w) (.call fun m w h => ?_)
    fun r => .or (.fact fun hr => ?_) (.fact fun hr => ?_)
  · by_cases hin : uuid ∈ w.cluster.map (·.uuid)
    · have reply : succeed w (.getClusterDrive uuid) = .ok "ACTIVE" := if_pos hin
      rw [reply]
      exact ⟨w, if_pos hin, .inl ⟨rfl, h⟩⟩
    · have reply : succeed w (.getClusterDrive uuid) = .error .notFound := if_neg hin
      rw [reply]
      exact ⟨w, if_neg hin, .inr ⟨rfl, hin, h⟩⟩
  · subst hr
    refine .succeed_bind (Q := fun _ => Going w₀ removed erased []) (a := fun _ => ()) (fun m w h => ⟨rfl, w, rfl, h⟩)
      fun _ => ?_
    refine .succeed_bind (Q := fun _ => Going w₀ (uuid :: removed) erased [uuid]) (a := fun _ => ())
      (fun m w h => ⟨rfl, w.removeDrive uuid, rfl, h.mono h.reduced.removeDrive⟩) fun _ => ?_
    exact .pure fun m w h => .inl ⟨rfl, h⟩
  · subst hr
    exact .pure fun m w h => .inr ⟨rfl, h⟩

theorem proxyHolds_runs (vid : String) (text : ApiError → String) :
    Walks c P (proxyHolds vid text) (fun held m w => held = w.holds vid ∧ P m w) E := by
  refine .succeed_bind (Q := fun listed m w => listed = w.listed ∧ P m w) (a := World.listed)
    (fun m w h => ⟨rfl, w, if_pos rfl, rfl, h⟩) fun listed => ?_
  refine .pure fun m w h => ⟨?_, h.2⟩
  rw [h.1, World.listed, any_map]
  rfl

variable {vid : String} {listed : List ListedDrive}

theorem removeVirtualDriveViaProxy_runs (covered : pending ⊆ [vid]) :
    Walks c (Going w₀ removed erased pending) (removeVirtualDriveViaProxy vid)
      (fun _ => Going w₀ removed (vid :: erased) []) E := by
  refine .bind (proxyHolds_runs _ _) fun held => .ite (fun hheld => ?_) fun hheld => ?_
  · refine .succeed_bind (Q := fun _ m w => w.holds vid = false ∧ Going w₀ removed (vid :: erased) [] m w)
      (a := fun _ => ()) (fun m w h => ⟨rfl, w.erase [vid], rfl, ?_, h.2.mono (h.2.reduced.erase covered)⟩) fun _ => ?_
    · refine Bool.eq_false_iff.mpr fun hin => ?_
      exact (World.holds_erase.mp hin).1 (mem_singleton_self _)
    refine .bind (proxyHolds_runs _ _) fun still => .ite (fun hstill => ?_) fun _ => .pure fun m w h => h.2.2
    refine .of_some fun m w h => ?_
    rw [h.2.1, hstill] at h
    cases h.1
  · refine .pure fun m w h => h.2.mono (h.2.reduced.unheld covered ?_)
    rw [← h.1]
    exact Bool.eq_false_iff.mpr hheld

theorem proxyHandles_runs (hc : c.Shares) (proxy purpose : String) :
    WalksIn c P (proxyHandles c proxy purpose) E := by
  have handle : ∀ m w, P m w → (.ok () : Except ApiError Unit) = .ok () ∧ ∃ w', some w = some w' ∧ P m w' :=
    fun m w h => ⟨rfl, w, rfl, h⟩
  refine .bind (Q := fun _ => P) ?_ fun _ => ?_
  · unfold findSSDProxyOnNode
    rw [if_neg hc.node]
    exact .succeed (a := fun _ => ()) handle
  · exact .succeed_bind (Q := fun _ => P) (a := fun _ => ()) handle fun _ => .succeed (a := fun _ => ()) handle

theorem removeDriveFromWeka_runs (hc : c.Shares) {drive : Drive} (had : drive.uuid ∈ w₀.cluster.map (·.uuid)) :
    Walks c (Going w₀ removed erased []) (removeDriveFromWeka c drive)
      (fun _ => Going w₀ (drive.uuid :: removed) erased []) E := by
  refine .bind (removeDriveFromCluster_runs _ _ _) fun r => .or (.fact fun hr => ?_) (.fact fun hr => ?_)
  · subst hr
    simp only [hc.sharing, hc.erases, Bool.not_false, Bool.and_true, if_true, removeVirtualDrive, if_neg hc.node]
    refine .bind (proxyHandles_runs hc _ _) fun _ => ?_
    refine (removeVirtualDriveViaProxy_runs (List.Subset.refl _)).mono (fun _ m w h => ?_) fun _ _ h => h
    exact h.mono (h.reduced.weaken (List.Subset.refl _) (subset_cons_self _ _))
  · subst hr
    exact .pure fun m w h => h.2.mono (h.2.reduced.gone had h.1)

theorem removeEach_runs (hc : c.Shares) (had : ∀ d ∈ drives, d.uuid ∈ w₀.cluster.map (·.uuid)) :
    Walks c (Going w₀ removed erased []) (removeEach c drives)
      (fun _ => Going w₀ (drives.map (·.uuid) ++ removed) erased []) E := by
  induction drives generalizing removed with
  | nil => exact .pure fun m w h => h
  | cons d ds ih =>
    have one : Walks c (Going w₀ removed erased []) (removeDriveFromWeka c d)
        (fun _ => Going w₀ (d.uuid :: removed) erased []) (Going w₀ (d.uuid :: removed) erased []) :=
      removeDriveFromWeka_runs hc (had d mem_cons_self)
    refine .bind (.attempt one) fun err => ?_
    refine .bind (ih fun d' hd' => had d' (mem_cons_of_mem _ hd')) fun errs => .pure fun m w h => ?_
    refine h.mono (h.reduced.weaken (fun u hu => ?_) (List.Subset.refl _))
    simp only [map_cons, cons_append, mem_cons, mem_append] at hu ⊢
    tauto

theorem removeDrivesFromWeka_runs (hc : c.Shares) (had : ∀ d ∈ drives, d.uuid ∈ w₀.cluster.map (·.uuid)) :
    Walks c (Going w₀ removed erased []) (removeDrivesFromWeka c drives)
      (fun _ => Going w₀ (drives.map (·.uuid) ++ removed) erased []) E := by
  refine .bind (Q := fun ordered m w => ordered = drives ∧ Going w₀ removed erased [] m w)
    (.call fun m w h => ⟨w, if_pos (isPerm_iff.mpr (.refl _)), rfl, h⟩) fun ordered => .fact fun hr => ?_
  subst hr
  exact removeEach_runs hc had

/-! Deallocation leaves the added drives alone. -/

theorem updateStatus_runs {status : Status} {text : ApiError → String} (same : status.addedDrives = added) :
    Walks c (fun m w => added = m.status.addedDrives ∧ Going w₀ removed erased [] m w)
      (updateStatus status text) (fun _ => Going w₀ removed erased []) E := by
  refine .bind (Q := fun _ => Going w₀ removed erased []) (.modify fun m w h => ?_) fun _ => ?_
  · obtain ⟨hadded, h⟩ := h
    exact ⟨h.node, same.trans hadded ▸ h.fresh, h.reduced⟩
  · exact .succeed (a := fun _ => ()) fun m w h => ⟨rfl, w.write status, rfl, h.mono (h.reduced.frame rfl rfl)⟩

theorem mark_runs (which : Deallocation) {Q : Loop → Prop} :
    Walks c (fun m w => Q m ∧ Going w₀ removed erased [] m w) (mark which)
      (fun _ m w => Q m ∧ Going w₀ removed erased [] m w) E :=
  .call fun _ _ h => ⟨_, rfl, h.1, h.2.mono (h.2.reduced.frame rfl rfl)⟩

theorem deallocateVirtualDrives_runs (which : Deallocation) (matching : VirtualDrive → Bool) :
    WalksIn c (Going w₀ removed erased []) (deallocateVirtualDrives which matching) E := by
  refine .bind (Q := fun m₀ m w => m₀.status.addedDrives = m.status.addedDrives ∧ Going w₀ removed erased [] m w)
    (.get fun m w h => ⟨rfl, h⟩) fun m₀ => .ite (fun _ => ?_) fun _ => .pure fun m w h => h.2
  exact .bind (mark_runs which) fun _ => updateStatus_runs rfl

theorem deallocateDrivesBySerials_runs (blocked : List String) :
    WalksIn c (Going w₀ removed erased []) (deallocateDrivesBySerials blocked) E := by
  refine .bind (Q := fun m₀ m w => m₀.status.addedDrives = m.status.addedDrives ∧ Going w₀ removed erased [] m w)
    (.get fun m w h => ⟨rfl, h⟩) fun m₀ => .ite (fun _ => ?_) fun _ => .pure fun m w h => h.2
  exact .bind (mark_runs .bySerials) fun _ => updateStatus_runs rfl

theorem readNodeBlockedList_runs (key : String) (value : Except String (List String)) :
    Walks c (Going w₀ removed erased []) (readNodeBlockedList key value)
      (fun blocked m w => value = .ok blocked ∧ Going w₀ removed erased [] m w)
      (fun m w => value.toOption = none ∧ Going w₀ removed erased [] m w) := by
  refine .bind (Q := fun m₀ m w => m₀.nodeSet = true ∧ Going w₀ removed erased [] m w)
    (.get fun m w h => ⟨h.node, h⟩) fun m₀ => .fact fun hnode => ?_
  rw [if_pos hnode]
  cases value with
  | ok blocked => exact .pure fun m w h => ⟨rfl, h⟩
  | error e => exact .throw fun m w h => ⟨rfl, h⟩

theorem removeVirtualDriveFromWekaAndProxy_runs (hc : c.Shares) (vid : String) :
    WalksIn c (Going w₀ removed erased []) (removeVirtualDriveFromWekaAndProxy c vid) E := by
  have erased_after : ∀ {removed' pending'}, pending' ⊆ [vid] → removed ⊆ removed' →
      Walks c (Going w₀ removed' erased pending') (removeVirtualDriveViaProxy vid)
        (fun _ => Going w₀ removed erased []) E := by
    intro removed' pending' covered hsub
    refine (removeVirtualDriveViaProxy_runs covered).mono (fun _ m w h => ?_) fun _ _ h => h
    exact h.mono (h.reduced.weaken hsub (subset_cons_self _ _))
  refine .bind (removeDriveFromCluster_runs _ _ _) fun r => ?_
  simp only [hc.erases, Bool.false_eq_true, if_false]
  refine .wrapError _ (.or (.fact fun _ => ?_) (.fact fun _ => ?_))
  · exact erased_after (List.Subset.refl _) (subset_cons_self _ _)
  · exact (erased_after (nil_subset _) (List.Subset.refl _)).pre fun _ _ h => h.2

/-! ### The three functions -/

/-- A drive of the cluster was removed. -/
def Shrunk (w₀ : World) (removed : List String) : Prop := ∃ u ∈ removed, u ∈ w₀.cluster.map (·.uuid)

theorem mem_toRemoveBySerials (h : d ∈ toRemoveBySerials added blocked) : d ∈ added := by
  obtain ⟨s, -, hd⟩ := mem_filterMap.mp h
  exact (mem_filter.mp (mem_reverse.mp (mem_of_find?_eq_some hd))).1

theorem toRemoveBySerials_ne_nil (hd : d ∈ added)
    (hne : d.serialNumber ≠ "") (hb : d.serialNumber ∈ blocked) : toRemoveBySerials added blocked ≠ [] := by
  intro hnil
  have none := filterMap_eq_nil_iff.mp hnil d.serialNumber (mem_dedup.mpr hb)
  have := find?_eq_none.mp none d (mem_reverse.mpr (mem_filter.mpr ⟨hd, decide_eq_true hne⟩))
  exact this (decide_eq_true rfl)

theorem mem_toRemoveByPhysicalUuids (h : d ∈ toRemoveByPhysicalUuids added listed blocked) : d ∈ added := by
  obtain ⟨s, -, hd⟩ := mem_filterMap.mp h
  exact mem_reverse.mp (mem_of_find?_eq_some hd)

theorem toRemoveByPhysicalUuids_ne_nil {p : String} (hd : d ∈ added) (hp : physicalOf listed d.uuid = some p)
    (hb : p ∈ blocked) : toRemoveByPhysicalUuids added listed blocked ≠ [] := by
  intro hnil
  have none := filterMap_eq_nil_iff.mp hnil p (mem_dedup.mpr hb)
  exact find?_eq_none.mp none d (mem_reverse.mpr hd) (decide_eq_true hp)

theorem shrunk_of_ne_nil (hne : drives ≠ []) (had : ∀ d ∈ drives, d.uuid ∈ w₀.cluster.map (·.uuid)) :
    Shrunk w₀ (drives.map (·.uuid) ++ removed) := by
  obtain ⟨d, hd⟩ := exists_mem_of_ne_nil _ hne
  exact ⟨d.uuid, mem_append_left _ (mem_map.mpr ⟨d, hd, rfl⟩), had d hd⟩

theorem removeDrives_runs (hc : c.Shares) :
    let After : Loop → World → Prop := fun m w => ∃ removed,
      ((∃ d ∈ w₀.cluster, d.serialNumber ≠ "" ∧ d.serialNumber ∈ c.blockedSerials) → Shrunk w₀ removed) ∧
        Going w₀ removed [] [] m w
    Walks c (Going w₀ [] [] []) (removeDrives c) (fun _ => After) After := by
  intro After
  refine .bind (Q := fun blocked m w => c.blocked.serials = .ok blocked ∧ Going w₀ [] [] [] m w)
    (.wrapError _ ((readNodeBlockedList_runs _ _).mono (fun _ _ _ h => h) fun m w h => ?_))
    fun blocked => .fact fun hblocked => ?_
  · -- nothing is blocked by an annotation that does not parse
    refine ⟨[], ?_, h.2⟩
    rintro ⟨d, -, -, hd⟩
    rw [Container.blockedSerials, h.1] at hd
    cases hd
  refine .bind (Q := fun m₀ m w =>
      (∀ d, d ∈ m₀.status.addedDrives.map (fun a => ClusterDrive.mk a.uuid a.serialNumber) ↔ d ∈ w₀.cluster) ∧
        Going w₀ [] [] [] m w)
    (.get fun m w h => ⟨h.fresh, h⟩) fun m₀ => .fact fun hfresh => ?_
  have hserials : c.blockedSerials = blocked := by rw [Container.blockedSerials, hblocked]; rfl
  have had : ∀ d ∈ toRemoveBySerials m₀.status.addedDrives blocked, d.uuid ∈ w₀.cluster.map (·.uuid) := fun d hd =>
    mem_map.mpr ⟨_, (hfresh _).mp (mem_map.mpr ⟨d, mem_toRemoveBySerials hd, rfl⟩), rfl⟩
  refine .ite (fun hempty => .pure fun m w h => ⟨[], ?_, h⟩) fun hempty => ?_
  · rintro ⟨d, hd, hne, hb⟩
    obtain ⟨a, ha, rfl⟩ := mem_map.mp ((hfresh d).mpr hd)
    exact absurd (isEmpty_iff.mp hempty) (toRemoveBySerials_ne_nil ha hne (hserials ▸ hb))
  · have shrunk : Shrunk w₀ ((toRemoveBySerials m₀.status.addedDrives blocked).map (·.uuid) ++ []) :=
      shrunk_of_ne_nil (fun hnil => hempty (isEmpty_iff.mpr hnil)) had
    refine .bind (deallocateDrivesBySerials_runs _) fun _ => ?_
    refine .bind (removeDrivesFromWeka_runs hc had) fun errs => ?_
    cases errs with
    | nil => exact .pure fun m w h => ⟨_, fun _ => shrunk, h⟩
    | cons e errs => exact .throw fun m w h => ⟨_, fun _ => shrunk, h⟩

theorem proxyPhysicalUuids_runs (onProxy : Option (List String)) :
    WalksIn c P (proxyPhysicalUuids onProxy) E := by
  cases onProxy with
  | some physical => exact .pure fun m w h => h
  | none =>
    refine .succeed (a := fun w => w.proxy.map (·.physicalUUID)) fun m w h => ⟨rfl, w, if_pos ?_, h⟩
    exact all_eq_true.mpr fun e he => decide_eq_true (mem_map.mpr ⟨e, he, rfl⟩)

theorem removeVidByLabel_runs (onProxy : List String) (vd : VirtualDrive) :
    WalksIn c (Going w₀ removed erased []) (removeVidByLabel onProxy vd) E := by
  refine .ite (fun _ => .pure fun m w h => h) fun _ => ?_
  refine .succeed (a := fun _ => ()) fun m w h => ⟨rfl, w.erase (w.labelled vd.label vd.physicalUUID), rfl, ?_⟩
  exact h.mono ((h.reduced.erase (nil_subset _)).weaken (List.Subset.refl _) (subset_append_right _ _))

section
variable (hc : c.Shares)
include hc

theorem eraseUnadded_runs (blocked added : List String) (vds : List VirtualDrive) (onProxy : Option (List String)) :
    WalksIn c (Going w₀ removed erased []) (eraseUnadded c blocked added vds onProxy) E := by
  induction vds generalizing onProxy with
  | nil => exact .pure fun m w h => h
  | cons vd vds ih =>
    have rest : ∀ onProxy, Walks c (Going w₀ removed erased [])
        (do let _ ← eraseUnadded c blocked added vds onProxy; return true) (fun _ => Going w₀ removed erased []) E :=
      fun onProxy => .bind (ih onProxy) fun _ => .pure fun m w h => h
    unfold eraseUnadded
    refine .ite (fun _ => ih onProxy) fun _ => .ite (fun _ => ?_) fun _ => .ite (fun _ => ?_) fun _ => ih onProxy
    · simp only [hc.erases, Bool.false_eq_true, if_false]
      refine .bind (proxyPhysicalUuids_runs onProxy) fun physical => ?_
      exact .bind (.wrapError _ (removeVidByLabel_runs physical vd)) fun _ => rest _
    · exact .bind (.wrapError _ (removeVirtualDriveFromWekaAndProxy_runs hc _)) fun _ => rest _

theorem removeDrivesByPhysicalUuids_runs (had : vid ∈ w₀.cluster.map (·.uuid)) :
    let After : Loop → World → Prop := fun m w => ∃ s : List String × List String,
      (Shrunk w₀ removed ∨ (∃ p ∈ physicalOf w₀.listed vid, p ∈ c.blockedPhysicalUuids) →
        Shrunk w₀ s.1 ∨ vid ∈ s.2) ∧ Going w₀ s.1 s.2 [] m w
    Walks c (Going w₀ removed erased []) (removeDrivesByPhysicalUuids c) (fun _ => After) After := by
  intro After
  have unblocked : c.blockedPhysicalUuids = [] → ∀ m w, Going w₀ removed erased [] m w → After m w := by
    intro hnil m w h
    refine ⟨(removed, erased), ?_, h⟩
    rintro (hs | ⟨p, -, hp⟩)
    · exact .inl hs
    · rw [hnil] at hp
      cases hp
  refine .bind (Q := fun blocked m w => c.blocked.physicalUuids = .ok blocked ∧ Going w₀ removed erased [] m w)
    (.wrapError _ ((readNodeBlockedList_runs _ _).mono (fun _ _ _ h => h) fun m w h => ?_))
    fun blocked => .fact fun hblocked => ?_
  · exact unblocked (by rw [Container.blockedPhysicalUuids, h.1]; rfl) m w h.2
  have hphysical : c.blockedPhysicalUuids = blocked := by rw [Container.blockedPhysicalUuids, hblocked]; rfl
  refine .ite (fun hempty => .pure (unblocked (hphysical.trans (isEmpty_iff.mp hempty)))) fun _ => ?_
  refine .bind (proxyHandles_runs hc _ _) fun _ => ?_
  refine .succeed_bind (Q := fun listed m w =>
      physicalOf listed vid = physicalOf w₀.listed vid ∧ Going w₀ removed erased [] m w ∨
        Going w₀ removed (vid :: erased) [] m w)
    (a := World.listed) (fun m w h => ⟨rfl, w, if_pos rfl, ?_⟩) fun listed => ?_
  · cases hheld : w.holds vid with
    | true => exact .inl ⟨(h.reduced.held hheld).2.2.1, h⟩
    | false => exact .inr (h.mono (h.reduced.unheld (nil_subset _) hheld))
  -- the rest of the function, with what is known to be erased by now
  refine (fun rest : ∀ erased', (physicalOf listed vid = physicalOf w₀.listed vid ∨ vid ∈ erased') →
      Walks c (Going w₀ removed erased' []) _ (fun _ => After) After =>
    .or (.fact fun hlisted => rest erased (.inl hlisted)) (rest (vid :: erased) (.inr mem_cons_self))) ?_
  intro erased' hknown
  refine .bind (Q := fun m₀ m w =>
      (∀ d, d ∈ m₀.status.addedDrives.map (fun a => ClusterDrive.mk a.uuid a.serialNumber) ↔ d ∈ w₀.cluster) ∧
        Going w₀ removed erased' [] m w)
    (.get fun m w h => ⟨h.fresh, h⟩) fun m₀ => .fact fun hfresh => ?_
  have hadded : ∀ d ∈ toRemoveByPhysicalUuids m₀.status.addedDrives listed blocked, d.uuid ∈ w₀.cluster.map (·.uuid) :=
    fun d hd => mem_map.mpr ⟨_, (hfresh _).mp (mem_map.mpr ⟨d, mem_toRemoveByPhysicalUuids hd, rfl⟩), rfl⟩
  -- whatever is done with them, the drives to remove are there if the VID is on a blocked drive
  have after : ∀ m w, Going w₀ ((toRemoveByPhysicalUuids m₀.status.addedDrives listed blocked).map (·.uuid) ++ removed)
      erased' [] m w → After m w := by
    intro m w h
    refine ⟨(_, erased'), ?_, h⟩
    rintro (⟨u, hu, hin⟩ | ⟨p, hp, hb⟩)
    · exact .inl ⟨u, mem_append_right _ hu, hin⟩
    · rcases hknown with hknown | hin
      · obtain ⟨d, hd, rfl⟩ := mem_map.mp had
        obtain ⟨a, ha, rfl⟩ := mem_map.mp ((hfresh d).mpr hd)
        refine .inl (shrunk_of_ne_nil (toRemoveByPhysicalUuids_ne_nil ha ?_ (hphysical ▸ hb)) hadded)
        exact hknown.trans hp
      · exact .inr hin
  refine .bind (eraseUnadded_runs hc _ _ _ _) fun drops => .ite (fun hnone => .pure fun m w h => ?_) fun _ => ?_
  · have hnil := isEmpty_iff.mp (Bool.and_eq_true_iff.mp hnone).1
    exact after m w (by rw [hnil]; exact h)
  · refine .bind (deallocateVirtualDrives_runs _ _) fun _ => ?_
    refine .bind (removeDrivesFromWeka_runs hc hadded) fun errs => ?_
    cases errs with
    | nil => exact .pure after
    | cons e errs => exact .throw after

theorem ensureProxyReachable_runs : WalksIn c P (ensureProxyReachable c) E := by
  refine .ite (fun _ => .pure fun m w h => h) fun _ => .wrapError _ ?_
  refine .bind (proxyHandles_runs hc _ _) fun _ => ?_
  exact .succeed_bind (Q := fun _ => P) (a := World.listed) (fun m w h => ⟨rfl, w, if_pos rfl, h⟩) fun _ =>
    .pure fun m w h => h

theorem removeVids_runs (vids : List String) : WalksIn c (Going w₀ removed erased []) (removeVids c vids) E := by
  induction vids with
  | nil => exact .pure fun m w h => h
  | cons vid vids ih =>
    refine .bind (.attempt (removeVirtualDriveFromWekaAndProxy_runs hc vid)) fun err => .bind ih fun out => ?_
    cases err with
    | none => exact .pure fun m w h => h
    | some e => exact .pure fun m w h => h

theorem removeDrivesByVirtualUuids_runs :
    WalksIn c (Going w₀ removed erased []) (removeDrivesByVirtualUuids c) (Going w₀ removed erased []) := by
  refine .bind (Q := fun _ => Going w₀ removed erased [])
    (.wrapError _ ((readNodeBlockedList_runs _ _).mono (fun _ _ _ h => h.2) fun _ _ h => h.2)) fun blocked => ?_
  refine .bind (Q := fun _ => Going w₀ removed erased []) (.get fun m w h => h) fun m₀ => ?_
  refine .ite (fun _ => .pure fun m w h => h) fun _ => ?_
  refine .bind (ensureProxyReachable_runs hc) fun _ => .bind (removeVids_runs hc _) fun out => ?_
  have dealloc : WalksIn c (Going w₀ removed erased []) (deallocateRemoved out.1) (Going w₀ removed erased []) := by
    refine .ite (fun _ => .pure fun m w h => h) fun _ => ?_
    exact .bind (.attempt (deallocateVirtualDrives_runs _ _)) fun err => .pure fun m w h => h
  refine .bind dealloc fun errs' => ?_
  cases out.2 ++ errs' with
  | nil => exact .pure fun m w h => h
  | cons e all => exact .throw fun m w h => h

end

/-! ### A pass -/

theorem throttled_runs (step : Throttled) {Q : Unit → Loop → World → Prop} {run : M Unit}
    (h : Walks c P run Q E) : Walks c P (throttled step run) Q E := by
  refine .bind (Q := fun r m w => r = true ∧ P m w) (.call fun m w hP => ⟨w, rfl, rfl, hP⟩) fun r =>
    .fact fun hr => ?_
  subst hr
  exact h

/-- Nothing was removed yet. -/
def Begun (w₀ : World) (m : Loop) (w : World) : Prop :=
  m.health = ⟨"READY", none⟩ ∧ w.cluster = w₀.cluster ∧ w.proxy = w₀.proxy

theorem getNode_runs (hc : c.Shares) :
    Walks c (Begun w₀) (getNode c) (fun _ m w => m.nodeSet = true ∧ Begun w₀ m w) E := by
  unfold getNode
  rw [if_neg hc.node]
  refine .bind (Q := fun r m w => r = .ok () ∧ Begun w₀ m w) (.call fun m w h => ⟨w, rfl, rfl, h⟩) fun r =>
    .fact fun hr => ?_
  subst hr
  exact .modify fun m w h => ⟨rfl, h⟩

theorem updateWekaAddedDrives_runs :
    Walks c (fun m w => m.nodeSet = true ∧ Begun w₀ m w) updateWekaAddedDrives
      (fun _ => Going w₀ [] [] []) E := by
  have reduced : ∀ {m : Loop} {w w' : World}, Begun w₀ m w → w'.cluster = w.cluster → w'.proxy = w.proxy →
      Reduced w₀ [] [] [] w' := fun h hcluster hproxy => Reduced.refl.frame (hcluster.trans h.2.1) (hproxy.trans h.2.2)
  refine .succeed_bind (Q := fun listed m w =>
      (∀ d, d ∈ listed.map (fun a => ClusterDrive.mk a.uuid a.serialNumber) ↔ d ∈ w₀.cluster) ∧ m.nodeSet = true ∧ Begun w₀ m w)
    (a := fun w => w.cluster.map fun d => ⟨d.uuid, d.serialNumber, 1, "ACTIVE"⟩) (fun m w h => ⟨rfl, w, ?_, ?_, h⟩)
    fun listed => .fact fun hlisted => ?_
  · refine if_pos (isPerm_iff.mpr ?_)
    rw [map_map]
    exact .of_eq (map_id _)
  · intro d
    rw [map_map, ← h.2.2.1]
    exact iff_of_eq (congrArg (d ∈ ·) (map_id _))
  refine .bind (Q := fun m₀ m w => m = m₀ ∧ m.nodeSet = true ∧ Begun w₀ m w) (.get fun m w h => ⟨rfl, h⟩) fun m₀ =>
    .ite (fun hsame => .pure fun m w h => ?_) fun _ => ?_
  · obtain ⟨rfl, hnode, h⟩ := h
    have perm : m.status.addedDrives.Perm listed :=
      (perm_insertionSort _ _).symm.trans ((List.Perm.of_eq hsame).trans (perm_insertionSort _ _))
    exact ⟨hnode, fun d => (perm.map _).mem_iff.trans (hlisted d), reduced h rfl rfl⟩
  · refine .bind (Q := fun _ => Going w₀ [] [] []) (.modify fun m w h => ?_) fun _ => ?_
    · exact ⟨h.2.1, hlisted, reduced h.2.2 rfl rfl⟩
    · exact .succeed (a := fun _ => ()) fun m w h => ⟨rfl, World.write w _, rfl, h.mono (h.reduced.frame rfl rfl)⟩

theorem steps_run (hc : c.Shares) (hblocks : w₀.blocks c vid = true) :
    Walks c (Begun w₀) (Flow.runAll keeper (steps c))
      (fun _ m w => ∃ s : List String × List String, (Shrunk w₀ s.1 ∨ vid ∈ s.2) ∧ Going w₀ s.1 s.2 [] m w)
      fun _ _ => False := by
  obtain ⟨d, hd, rfl, hblocked⟩ := World.blocks_iff.mp hblocks
  have had : d.uuid ∈ w₀.cluster.map (·.uuid) := mem_map.mpr ⟨d, hd, rfl⟩
  have first : Walks c (Begun w₀) (Flow.Step.exec keeper { run := getNode c })
      (fun _ m w => m.nodeSet = true ∧ Begun w₀ m w) fun _ _ => False :=
    Flow.Step.exec_leads rfl (fun _ _ _ hskip => by cases hskip) (getNode_runs hc) (fun _ _ _ h => h) nofun
  have second : Walks c (fun m w => m.nodeSet = true ∧ Begun w₀ m w)
      (Flow.Step.exec keeper
        { run := updateWekaAddedDrives
          predicates := [(·.health.internalStatus = "READY"), needWekaDrivesListUpdate c] })
      (fun _ => Going w₀ [] [] []) fun _ _ => False := by
    refine Flow.Step.exec_leads rfl (fun m o h hskip w hw => ?_) updateWekaAddedDrives_runs (fun _ _ _ h => h) nofun
    -- without statistics the list is always updated
    obtain ⟨-, hhealth, -⟩ := h w hw
    simp [Flow.Step.skipped, needWekaDrivesListUpdate, allExpectedDrivesAreActive, hhealth] at hskip
  refine .bind first fun _ => .bind second fun _ => ?_
  refine .bind (Flow.Step.exec_lenient rfl rfl (fun _ _ _ hskip => by cases hskip)
    (throttled_runs _ (removeDrives_runs hc))) fun _ => ?_
  refine .exists fun removed => .fact fun hserial => ?_
  refine .bind (Flow.Step.exec_lenient rfl rfl (fun _ _ _ hskip => by simp [Flow.Step.skipped, hc.sharing] at hskip)
    (throttled_runs _ (removeDrivesByPhysicalUuids_runs hc had))) fun _ => ?_
  refine .exists fun s => .fact fun hs => ?_
  have done : Shrunk w₀ s.1 ∨ d.uuid ∈ s.2 := by
    rcases hblocked with ⟨hne, hin⟩ | hphysical
    · exact hs (.inl (hserial ⟨d, hd, hne, hin⟩))
    · exact hs (.inr hphysical)
  refine .bind (Q := fun _ => Going w₀ s.1 s.2 []) (Flow.Step.exec_lenient rfl rfl (fun _ _ h _ => h)
    (throttled_runs _ (removeDrivesByVirtualUuids_runs hc))) fun _ => ?_
  exact .pure fun m w h => ⟨s, done, h⟩

theorem completed_advances (hc : c.Shares) (hblocks : w.blocks c vid = true) :
    ∃ w', (system c).completed () succeed w = some w' ∧
      (w'.holds vid = true → w'.blocks c vid = true ∧ w'.cluster.length < w.cluster.length) := by
  have begun : Begun w { status := w.status, health := ⟨"READY", none⟩ } { w with dropping := [] } := ⟨rfl, rfl, rfl⟩
  obtain ⟨⟨out, m⟩, w', hrun, hout⟩ := (steps_run hc hblocks).complete begun
  cases out with
  | error e => exact absurd hout id
  | ok _ =>
    obtain ⟨⟨removed, erased⟩, hdone, hgoing⟩ := hout
    refine ⟨w', ?_, fun hheld => ⟨hgoing.reduced.blocks hheld hblocks, ?_⟩⟩
    · have pass : (system c).complete () succeed (reconcile c) { w with dropping := [] } =
          (system c).complete () succeed
            (do let _ ← Flow.runAll keeper (steps c) { status := w.status, health := ⟨"READY", none⟩ }; return ())
            { w with dropping := [] } := by
        change Option.bind (if w.status = w.status then _ else _) _ = _
        rw [if_pos rfl]
        rfl
      change Option.map _ ((system c).complete () succeed (reconcile c) { w with dropping := [] }) = _
      rw [pass, System.complete_bind, hrun]
      rfl
    · rcases hdone with ⟨u, hu, hin⟩ | hin
      · exact hgoing.reduced.shorter hu hin
      · exact absurd hin (hgoing.reduced.held hheld).2.1

theorem recovers_of_blocks (hc : c.Shares) (hblocks : w.blocks c vid = true) : w.Recovers c vid := by
  -- on the drives of the cluster: each pass leaves fewer
  induction hn : w.cluster.length using Nat.strong_induction_on generalizing w with
  | _ n ih =>
    obtain ⟨w', hrun, hw'⟩ := completed_advances hc hblocks
    cases hheld : w'.holds vid with
    | false => exact ⟨1, w', by simp [System.completedTimes, hrun], hheld⟩
    | true =>
      obtain ⟨hblocks', hshorter⟩ := hw' hheld
      obtain ⟨k, w'', hruns, hgone⟩ := ih _ (hn ▸ hshorter) hblocks' rfl
      exact ⟨k + 1, w'', by simp [System.completedTimes, hrun, hruns], hgone⟩

end Walk

/-! ### What leaves the allocations -/

/-- In every run that strands nothing, the proxy does not hold a VID that left the allocations, or reconciles all calls of
    which succeed remove it from there. -/
theorem departed_erased_or_recovers (c : Container) (sharing : c.usesDriveSharing = true)
    (erases : c.skipVirtualDrivesRemoval = false) (status : Status) (cluster : List ClusterDrive) (proxy : List ProxyDrive)
    {s : SysState World Unit Op Op.Reply}
    (h : (system c).Reachable (accounted c) (World.initial status cluster proxy) s) (idle : s.threads () = .ret ()) :
    ∀ vid ∈ s.world.departed, s.world.holds vid = false ∨ s.world.Recovers c vid := by
  intro vid hvid
  cases hheld : s.world.holds vid with
  | false => exact .inl rfl
  | true =>
    obtain ⟨hblocks, node⟩ := departed_blocked sharing erases h idle vid hvid hheld
    exact .inr (recovers_of_blocks ⟨sharing, erases, node⟩ hblocks)

def sharingContainer : Container where
  nodeAffinity := "node-1"
  usesDriveSharing := true
  skipVirtualDrivesRemoval := false
  blocked := { serials := .ok ["S1"] }

def virtualDrive (virtualUUID label : String) : VirtualDrive where
  virtualUUID := virtualUUID
  physicalUUID := "p1"
  capacityGiB := 100
  serial := "S1"
  type := some .tlc
  label := label

def halfRemoved (s : SysState World Unit Op Op.Reply) : Bool :=
  System.idleAt s () && s.world.departed = ["v1", "v2"] && s.world.holds "v1" && !s.world.holds "v2"

/-- Two virtual drives of one serial: a pass drops both records and removes one drive, and the next removes the other. -/
theorem departed_erased_or_recovers_run :
    ∃ s, (system sharingContainer).Reachable (accounted sharingContainer)
        (World.initial { virtualDrives := [virtualDrive "v1" "l1", virtualDrive "v2" "l2"] } [⟨"v1", "S1"⟩, ⟨"v2", "S1"⟩]
          [⟨"v1", "l1", "p1"⟩, ⟨"v2", "l2", "p1"⟩]) s ∧ halfRemoved s = true ∧
      ∀ vid ∈ s.world.departed, s.world.holds vid = false ∨ s.world.Recovers sharingContainer vid := by
  obtain ⟨s, hs, half⟩ : ∃ s, (system sharingContainer).Reachable (accounted sharingContainer)
      (World.initial { virtualDrives := [virtualDrive "v1" "l1", virtualDrive "v2" "l2"] } [⟨"v1", "S1"⟩, ⟨"v2", "S1"⟩]
        [⟨"v1", "l1", "p1"⟩, ⟨"v2", "l2", "p1"⟩]) s ∧ halfRemoved s = true :=
    System.Reachable.of_play [.pass () succeed 40] (by decide +kernel)
  have idle : s.threads () = .ret () := System.idleAt_iff.mp (by simp [halfRemoved] at half; exact half.1.1.1)
  exact ⟨s, hs, half, departed_erased_or_recovers sharingContainer rfl rfl _ _ _ hs idle⟩

def proxyNotFound (w : World) : (op : Op) → op.Reply
  | .getHandle .ssdProxyOnNode => .error (.other "no ssdproxy container on node-1")
  | op => succeed w op

def leaked : World where
  status := {}
  cluster := []
  proxy := [⟨"v1", "l1", "p1"⟩]
  departed := ["v1"]

/-- The record is dropped, the drive is removed from the cluster, and then the proxy is not found: no later reconcile
    knows of the drive. -/
theorem departed_leaked :
    ∃ s, (system sharingContainer).Reachable (fun _ _ => true)
        (World.initial { virtualDrives := [virtualDrive "v1" "l1"] } [⟨"v1", "S1"⟩] [⟨"v1", "l1", "p1"⟩]) s ∧
      s.threads () = .ret () ∧ ∃ vid ∈ s.world.departed,
        ¬(s.world.holds vid = false ∨ s.world.Recovers sharingContainer vid) := by
  obtain ⟨s, hs, idle, hworld⟩ : ∃ s, (system sharingContainer).Reachable (fun _ _ => true)
      (World.initial { virtualDrives := [virtualDrive "v1" "l1"] } [⟨"v1", "S1"⟩] [⟨"v1", "l1", "p1"⟩]) s ∧
        System.idleAt s () = true ∧ s.world = leaked :=
    System.Reachable.of_play [.pass () proxyNotFound 40, .pass () succeed 40] (by decide +kernel)
  have fixed : (system sharingContainer).completed () succeed leaked = some leaked := by decide +kernel
  refine ⟨s, hs, System.idleAt_iff.mp idle, "v1", ?_⟩
  rw [hworld]
  refine ⟨by decide, ?_⟩
  rintro (hheld | ⟨n, w', hrun, hheld⟩)
  · cases hheld
  · rw [System.completedTimes_of_fixed fixed n] at hrun
    cases hrun
    cases hheld

end WekaOperator.DriveRemoval
