import WekaOperator.StaleDrives.Ownership

/-! The reconcile of a container gives no allocation a VID that exists and that no allocation owns: a VID it records
    was made for the label of the entry, which was pending in the version the write replaces. -/

namespace WekaOperator.StaleDrives
open List Option Lib Operations

/-! ### What is known of the drives in memory -/

/-- The container was stored like that. -/
def Saw (name : String) (view : ContainerView) (w : World) : Prop := ⟨name, view.version, view.drives⟩ ∈ w.history

/-- The drive, or the same with the UUID that the proxy made for its label. -/
def Fills (w : World) (d d' : VirtualDrive) : Prop :=
  d' = d ∨ (vidPending d = true ∧ ∃ v, (d.label, v) ∈ w.made ∧ d' = { d with virtualUUID := v })

theorem Saw.grown {name : String} {view : ContainerView} {w w' : World} (h : Saw name view w) (hg : Grown w w') :
    Saw name view w' := hg.history h

theorem Fills.grown {w w' : World} {d d' : VirtualDrive} (h : Fills w d d') (hg : Grown w w') : Fills w' d d' := by
  rcases h with same | ⟨pending, v, made, eq⟩
  · exact .inl same
  · exact .inr ⟨pending, v, hg.made made, eq⟩

/-- The drives so far are filled. -/
structure Fill (view : ContainerView) (name : String) (done rest : List VirtualDrive) (a : Adding) (w : World) : Prop where
  saw : Saw name view w
  split : view.drives = done ++ rest
  fills : List.Forall₂ (Fills w) done a.drives

section Fill
variable {view : ContainerView} {name : String} {done rest : List VirtualDrive} {a : Adding} {d : VirtualDrive} {w w' : World}

theorem Fill.grown (h : Fill view name done rest a w) (hg : Grown w w') : Fill view name done rest a w' :=
  ⟨h.saw.grown hg, h.split, h.fills.imp fun _ _ f => f.grown hg⟩

theorem Fill.next (h : Fill view name done (d :: rest) a w) {a' : Adding} {d' : VirtualDrive}
    (drives : a'.drives = a.drives ++ [d']) (f : Fills w d d') : Fill view name (done ++ [d]) rest a' w := by
  refine ⟨h.saw, ?_, ?_⟩
  · rw [h.split, append_assoc]
    rfl
  · rw [drives]
    exact rel_append h.fills (.cons f .nil)

theorem Fill.known {digest : Digest} (hs : Sound digest w) (h : Fill view name done (d :: rest) a w) : Known w d := by
  refine hs.versioned.known _ h.saw d ?_
  rw [h.split]
  exact mem_append_right _ mem_cons_self

end Fill

/-! ### Recording the VIDs -/

section Record
variable {digest : Digest} {w : World} {d d' : VirtualDrive}

theorem Fills.known (hs : Sound digest w) (k : Known w d) (h : Fills w d d') : Known w d' := by
  rcases h with rfl | ⟨-, v, made, rfl⟩
  · exact k
  · obtain ⟨p, used, allocated⟩ := hs.placed.made _ _ made
    cases hs.placed.allocatedOnce _ _ _ k.allocated allocated
    exact ⟨k.labelled, k.allocated, fun _ => used⟩

theorem Fills.ownedBy (hs : Sound digest w) (h : Fills w d d') {v : String} (own : w.ownedBy v d' = true) :
    w.ownedBy v d = true := by
  rcases h with rfl | ⟨pending, v', made, rfl⟩
  · exact own
  · rcases ownedBy_iff.mp own with recorded | ⟨pending', -⟩
    · cases recorded
      exact ownedBy_iff.mpr (.inr ⟨pending, made⟩)
    · -- A VID that was made is not empty, so the filled entry is not pending.
      obtain ⟨p, used, -⟩ := hs.placed.made _ _ made
      have filled : v' ≠ "" := hs.placed.usedNonempty _ _ used
      simp [vidPending, filled] at pending'

theorem Sound.record (hs : Sound digest w) {name : String} {view : ContainerView} {drives : List VirtualDrive}
    (saw : Saw name view w) (fills : List.Forall₂ (Fills w) view.drives drives)
    (current : w.current name view.version = true) : Benign digest w (w.put name drives) := by
  obtain ⟨o, ho, -, version⟩ : ∃ o ∈ w.objects, o.name = name ∧ o.version = view.version := by
    simpa [World.current] using current
  have seen : o = ⟨name, view.version, view.drives⟩ := hs.versioned.once o (hs.versioned.current o ho) _ saw version
  have source : ∀ d' ∈ drives, ∃ d ∈ o.drives, Fills w d d' := by
    intro d' hd'
    rw [seen]
    exact forall₂_mem_right fills hd'
  refine hs.rewrite (fun d' hd' => ?_) (fun d' hd' v own => ?_)
  · obtain ⟨d, hd, f⟩ := source d' hd'
    exact f.known hs (hs.versioned.known o (hs.versioned.current o ho) d hd)
  · obtain ⟨d, hd, f⟩ := source d' hd'
    exact .inl (owned_iff.mpr ⟨o, ho, d, hd, ownedBy_iff.mp (f.ownedBy hs own)⟩)

end Record

/-! ### The program -/

section Program
variable {sorting : Sorting} {digest : Digest} {name : String} {view : ContainerView} {w : World}
variable {a : Adding}

theorem addOne_safely (c : AddContext) {done rest : List VirtualDrive} {d : VirtualDrive}
    (h : Fill view name done (d :: rest) a w) :
    Safely sorting digest (.container name) (Fill view name (done ++ [d]) rest) (addOne c d a) w := by
  have same : ∀ {a' : Adding} {w' : World}, a'.drives = a.drives ++ [d] → Grown w w' → Fill view name (done ++ [d]) rest a' w' :=
    fun drives hg => (h.grown hg).next drives (.inl rfl)
  unfold addOne
  split
  · exact .pure fun w' hg _ => same rfl hg
  split
  · rename_i pending
    refine .bind (Q := fun r w' => Fill view name done (d :: rest) a w' ∧ ∀ v, r = .ok v → (d.label, v) ∈ w'.made)
      (.call fun w' hg hs r applied w'' hp => ?_) fun r w' hs hr => ?_
    · have filled := h.grown hg
      cases r with
      | error e =>
        cases hp
        exact ⟨hs, rely_refl, fun v hv => ⟨filled.grown hv, fun _ eq => by cases eq⟩⟩
      | ok vid =>
        obtain ⟨may, eq⟩ := ite_none_right_eq_some.mp hp
        cases eq
        have made : (d.label, vid) ∈ (w'.make c.proxyUID d.label ⟨vid, d.physicalUUID, c.clusterUUID, d.capacityGiB⟩).made := by
          unfold World.make
          split
          · assumption
          · exact mem_cons_self
        have benign := hs.make c.proxyUID ⟨vid, d.physicalUUID, c.clusterUUID, d.capacityGiB⟩
          (filled.known hs).allocated may
        refine ⟨benign.sound, fun j _ => benign.rely j, fun v hv => ⟨filled.grown (benign.grown.trans hv), fun _ eq => ?_⟩⟩
        cases eq
        exact hv.made made
    · cases r with
      | error e => exact .pure fun v hg _ => (hr.1.grown hg).next rfl (.inl rfl)
      | ok vid =>
        exact .pure fun v hg _ => (hr.1.grown hg).next rfl (.inr ⟨pending, vid, hg.made (hr.2 vid rfl), rfl⟩)
  · rename_i unpending
    split
    · exact .pure fun w' hg _ => same rfl hg
    · refine .bind (Q := fun _ w' => Fill view name done (d :: rest) a w')
        (.call fun w' hg hs r applied w'' hp => ?_) fun r w' hs hr => ?_
      · have filled := h.grown hg
        have known := filled.known hs
        have resolved : d.virtualUUID ≠ "" := by
          intro empty
          exact unpending (by simp [vidPending, known.labelled, empty])
        cases hp
        split
        · have benign := hs.hold (x := ⟨c.proxyUID, d.virtualUUID, d.physicalUUID, c.clusterUUID, d.capacityGiB⟩)
            (known.used resolved)
          exact ⟨benign.sound, fun j _ => benign.rely j, fun v hv => filled.grown (benign.grown.trans hv)⟩
        · exact ⟨hs, rely_refl, fun v hv => filled.grown hv⟩
      · cases r with
        | error e => exact .pure fun v hg _ => (hr.grown hg).next rfl (.inl rfl)
        | ok _ => exact .pure fun v hg _ => (hr.grown hg).next rfl (.inl rfl)

theorem addAll_safely (c : AddContext) {done rest : List VirtualDrive} (h : Fill view name done rest a w) :
    Safely sorting digest (.container name) (Fill view name view.drives []) (addAll c rest a) w := by
  induction rest generalizing done a w with
  | nil =>
    have all : view.drives = done := by simpa using h.split
    refine .pure fun w' hg _ => ?_
    have end_ := h.grown hg
    rw [← all] at end_
    exact end_
  | cons d rest ih => exact .bind (addOne_safely c h) fun a' w' _ h' => ih h'

theorem persistVids_safely (h : Fill view name view.drives [] a w) :
    Safely sorting digest (.container name) (fun _ _ => True) (persistVids name view a) w := by
  unfold persistVids
  split
  · exact .done
  refine .bind (Q := fun _ _ => True) (.call fun w' hg hs r applied w'' hp => ?_) fun r w' _ _ => ?_
  · have filled := h.grown hg
    simp only [perform] at hp
    split at hp
    · obtain ⟨current, eq⟩ := ite_none_right_eq_some.mp hp
      cases eq
      have benign := hs.record filled.saw filled.fills current
      exact ⟨benign.sound, fun j _ => benign.rely j, fun _ _ => trivial⟩
    · cases hp
      exact ⟨hs, rely_refl, fun _ _ => trivial⟩
  · cases r <;> exact .done

theorem addMissing_safely (c : AddContext) (h : Saw name view w) :
    Safely sorting digest (.container name) (fun _ _ => True) (addMissing name view c) w := by
  unfold addMissing
  split
  · exact .done
  refine .bind (addAll_safely c ⟨h, rfl, .nil⟩) fun a w' _ filled => ?_
  refine .bind (persistVids_safely filled) fun errs w' _ _ => ?_
  split <;> exact .done

theorem addContext_safely (node clusterUUID : String) (h : Saw name view w) :
    Safely sorting digest (.container name) (fun _ w' => Saw name view w') (addContext node clusterUUID) w := by
  have stable : ∀ w w', rely (.container name) w w' → Saw name view w → Saw name view w' := fun _ _ hg hw => Saw.grown hw hg
  have stop : ∀ {w : World} {r : Except String AddContext}, Saw name view w →
      Safely sorting digest (.container name) (fun _ w' => Saw name view w') (Pure.pure r : P _) w :=
    fun hw => .pure fun _ hg _ => Saw.grown hw hg
  unfold addContext
  refine .bind (read_safely stable h) fun proxy w₁ _ h₁ => ?_
  cases proxy with
  | error e => exact stop h₁
  | ok proxyUID =>
    refine .bind (read_safely stable h₁) fun pod w₂ _ h₂ => ?_
    cases pod with
    | error e => exact stop h₂
    | ok _ =>
      refine .bind (read_safely stable h₂) fun token w₃ _ h₃ => ?_
      cases token with
      | error e => exact stop h₃
      | ok _ =>
        refine .bind (read_safely stable h₃) fun added w₄ _ h₄ => ?_
        cases added with
        | error e => exact stop h₄
        | ok added =>
          refine .bind (read_safely stable h₄) fun blockedVids w₅ _ h₅ => ?_
          refine .bind (read_safely stable h₅) fun blocked w₆ _ h₆ => ?_
          cases blocked with
          | error e => exact stop h₆
          | ok _ => exact stop h₆

theorem addVirtualDrives_safely :
    Safely sorting digest (.container name) (fun _ _ => True) (addVirtualDrives name) w := by
  unfold addVirtualDrives
  refine .bind (Q := fun r w' => ∀ view, r = .ok view → Saw name view w')
    (.call fun w' _ hs r applied w'' hp => ?_) fun r w' _ hr => ?_
  · cases r with
    | error e =>
      cases hp
      exact ⟨hs, rely_refl, fun _ _ _ eq => by cases eq⟩
    | ok view =>
      obtain ⟨saw, eq⟩ := ite_none_right_eq_some.mp hp
      cases eq
      refine ⟨hs, rely_refl, fun v hg view' eq => ?_⟩
      cases eq
      exact hg.history saw
  · cases r with
    | error e => exact .done
    | ok view =>
      have stable : ∀ w w', rely (.container name) w w' → Saw name view w → Saw name view w' := fun _ _ hg hw => Saw.grown hw hg
      dsimp only
      split
      · exact .done
      split
      · exact .done
      split
      · exact .done
      refine .bind (read_safely stable (hr view rfl)) fun cluster w₁ _ h₁ => ?_
      cases cluster with
      | error e => exact .done
      | ok clusterUUID =>
        dsimp only
        split
        · exact .done
        refine .bind (addContext_safely view.node clusterUUID h₁) fun c w₂ _ h₂ => ?_
        cases c with
        | error e => exact .done
        | ok c => exact addMissing_safely c h₂

end Program

end WekaOperator.StaleDrives
