import WekaOperator.StaleDrives.World
import WekaOperator.Lib.Collections

/-! Who owns a virtual drive.

The contract between the cleanup and the containers: labels and UUIDs are used once, a drive in use gets no new owner,
and nothing that a container was told is forgotten. -/

namespace WekaOperator.StaleDrives
open List Option Lib Operations World

variable {vid : String} {d : VirtualDrive}

theorem ownedBy_iff {w : World} : w.ownedBy vid d = true ↔
    d.virtualUUID = vid ∨ (vidPending d = true ∧ (d.label, vid) ∈ w.made) := by
  simp [ownedBy]

theorem owned_iff {w : World} : w.owned vid = true ↔
    ∃ o ∈ w.objects, ∃ d ∈ o.drives, d.virtualUUID = vid ∨ (vidPending d = true ∧ (d.label, vid) ∈ w.made) := by
  simp [owned, ownedBy]

/-! ### The invariant -/

/-- Every UUID is on one physical drive. -/
structure Placed (w : World) : Prop where
  usedOnce : ∀ v p p', (v, p) ∈ w.used → (v, p') ∈ w.used → p = p'
  usedNonempty : ∀ v p, (v, p) ∈ w.used → v ≠ ""
  allocatedOnce : ∀ l p p', (l, p) ∈ w.allocated → (l, p') ∈ w.allocated → p = p'
  made : ∀ l v, (l, v) ∈ w.made → ∃ p, (v, p) ∈ w.used ∧ (l, p) ∈ w.allocated
  held : ∀ h ∈ w.held, (h.drive.virtualUUID, h.drive.physicalUUID) ∈ w.used

/-- The drive was allocated under its label. -/
structure Known (w : World) (d : VirtualDrive) : Prop where
  labelled : d.label ≠ ""
  allocated : (d.label, d.physicalUUID) ∈ w.allocated
  used : d.virtualUUID ≠ "" → (d.virtualUUID, d.physicalUUID) ∈ w.used

/-- Every stored version has known drives. -/
structure Versioned (w : World) : Prop where
  known : ∀ o ∈ w.history, ∀ d ∈ o.drives, Known w d
  current : ∀ o ∈ w.objects, o ∈ w.history
  bound : ∀ o ∈ w.history, o.version ≤ w.clock
  once : ∀ o ∈ w.history, ∀ o' ∈ w.history, o.version = o'.version → o = o'

/-- The result is of the last recorded scan. -/
def Recalls (digest : Digest) (scans : List ScanRecord) (result : Option Result) : Prop :=
  ∀ r, result = some r → ∃ a, scans.find? (·.recorded) = some a ∧ r.fingerprint = fingerprintStaleVids digest a.stale

/-- The invariant of the world. -/
structure Sound (digest : Digest) (w : World) : Prop where
  placed : Placed w
  versioned : Versioned w
  recalls : Recalls digest w.scans w.result
  removals : ∀ r ∈ w.removals, r.owned = false ∧ r.confirmed = true

theorem sound_initial (digest : Digest) : Sound digest World.initial where
  placed := by constructor <;> simp [initial]
  versioned := by constructor <;> simp [initial]
  recalls := by
    intro r hr
    cases hr
  removals := by simp [initial]

/-! ### What the actors rely on -/

/-- Nothing is forgotten. -/
structure Grown (w w' : World) : Prop where
  used : w.used ⊆ w'.used
  made : w.made ⊆ w'.made
  allocated : w.allocated ⊆ w'.allocated
  history : w.history ⊆ w'.history

/-- A UUID in use gets no owner that it did not have. -/
structure Spared (w w' : World) : Prop where
  used : w.used ⊆ w'.used
  owned : ∀ v p, (v, p) ∈ w.used → w'.owned v = true → w.owned v = true
  scans : w'.scans = w.scans

theorem Grown.refl (w : World) : Grown w w := ⟨fun _ h => h, fun _ h => h, fun _ h => h, fun _ h => h⟩

variable {w' : World}

theorem Grown.trans {w w'' : World} (h : Grown w w') (h' : Grown w' w'') : Grown w w'' :=
  ⟨fun _ m => h'.used (h.used m), fun _ m => h'.made (h.made m), fun _ m => h'.allocated (h.allocated m),
    fun _ m => h'.history (h.history m)⟩

theorem Spared.refl (w : World) : Spared w w := ⟨fun _ h => h, fun _ _ _ h => h, rfl⟩

theorem Spared.trans {w w'' : World} (h : Spared w w') (h' : Spared w' w'') : Spared w w'' :=
  ⟨fun _ m => h'.used (h.used m), fun v p m o => h.owned v p m (h'.owned v p (h.used m) o), h'.scans.trans h.scans⟩

theorem Known.grown {w : World} (h : Known w d) (hg : Grown w w') : Known w' d :=
  ⟨h.labelled, hg.allocated h.allocated, fun hne => hg.used (h.used hne)⟩

/-- A step that all parties can rely on. -/
structure Benign (digest : Digest) (w w' : World) : Prop where
  sound : Sound digest w'
  spared : Spared w w'
  grown : Grown w w'

variable {label name : String} {drives : List VirtualDrive}

section Steps
variable {digest : Digest} {w : World}

theorem Sound.shrink (h : Sound digest w) {objects : List Object} {held : List Held} {result : Option Result}
    (ho : objects ⊆ w.objects) (hh : held ⊆ w.held) (hr : result = none ∨ result = w.result) :
    Benign digest w { w with objects := objects, held := held, result := result } where
  sound :=
    { placed := ⟨h.placed.usedOnce, h.placed.usedNonempty, h.placed.allocatedOnce, h.placed.made,
        fun x hx => h.placed.held x (hh hx)⟩
      versioned := ⟨fun o ho' d hd => ⟨(h.versioned.known o ho' d hd).1, (h.versioned.known o ho' d hd).2,
        (h.versioned.known o ho' d hd).3⟩, fun o ho' => h.versioned.current o (ho ho'), h.versioned.bound, h.versioned.once⟩
      recalls := by
        rcases hr with rfl | rfl
        · intro r hr
          cases hr
        · exact h.recalls
      removals := h.removals }
  spared := by
    refine ⟨fun _ m => m, fun v p _ hv => ?_, rfl⟩
    obtain ⟨o, ho', d, hd, own⟩ := owned_iff.mp hv
    exact owned_iff.mpr ⟨o, ho ho', d, hd, own⟩
  grown := ⟨fun _ m => m, fun _ m => m, fun _ m => m, fun _ m => m⟩

/-! ### The proxy -/

theorem Sound.hold (h : Sound digest w) {x : Held} (hx : (x.drive.virtualUUID, x.drive.physicalUUID) ∈ w.used) :
    Benign digest w (w.hold x) where
  sound :=
    { placed := by
        refine ⟨h.placed.usedOnce, h.placed.usedNonempty, h.placed.allocatedOnce, h.placed.made, fun y hy => ?_⟩
        rcases mem_cons.mp hy with rfl | old
        · exact hx
        · exact h.placed.held y (mem_of_mem_filter old)
      versioned := ⟨fun o ho d hd => ⟨(h.versioned.known o ho d hd).1, (h.versioned.known o ho d hd).2,
        (h.versioned.known o ho d hd).3⟩, h.versioned.current, h.versioned.bound, h.versioned.once⟩
      recalls := h.recalls
      removals := h.removals }
  spared := ⟨fun _ m => m, fun _ _ _ o => o, rfl⟩
  grown := ⟨fun _ m => m, fun _ m => m, fun _ m => m, fun _ m => m⟩

theorem mayMake_cases (h : w.mayMake label vid = true) :
    (label, vid) ∈ w.made ∨ w.freshVid vid = true := by
  simp only [World.mayMake, decide_eq_true_eq] at h
  rcases h with active | ⟨-, made | fresh⟩
  · simp only [World.active, List.mem_map, List.mem_filter] at active
    obtain ⟨⟨l, v⟩, ⟨hm, hc⟩, rfl⟩ := active
    simp only [decide_eq_true_eq] at hc
    obtain ⟨rfl, -⟩ := hc
    exact .inl hm
  · exact .inl made
  · exact .inr fresh

theorem freshVid_iff : w.freshVid vid = true ↔ vid ≠ "" ∧ ∀ p, (vid, p) ∉ w.used := by
  simp [freshVid]

theorem Sound.make (h : Sound digest w) (proxyUID : String) (drive : ProxyDrive)
    (hl : (label, drive.physicalUUID) ∈ w.allocated) (hm : w.mayMake label drive.virtualUUID = true) :
    Benign digest w (w.make proxyUID label drive) := by
  unfold World.make
  split
  · rename_i made
    obtain ⟨p, used, allocated⟩ := h.placed.made _ _ made
    cases h.placed.allocatedOnce _ _ _ hl allocated
    exact h.hold used
  · rename_i unmade
    obtain ⟨nonempty, fresh⟩ := freshVid_iff.mp ((mayMake_cases hm).resolve_left unmade)
    have grown : Grown w { w.hold ⟨proxyUID, drive⟩ with
        used := (drive.virtualUUID, drive.physicalUUID) :: w.used, made := (label, drive.virtualUUID) :: w.made } :=
      ⟨subset_cons_self _ _, subset_cons_self _ _, fun _ m => m, fun _ m => m⟩
    refine ⟨⟨⟨?_, ?_, h.placed.allocatedOnce, ?_, ?_⟩,
      ⟨fun o ho d hd => (h.versioned.known o ho d hd).grown grown, h.versioned.current, h.versioned.bound, h.versioned.once⟩,
      h.recalls, h.removals⟩, ⟨grown.used, ?_, rfl⟩, grown⟩
    · intro v p p' hp hp'
      rcases mem_cons.mp hp with new | old <;> rcases mem_cons.mp hp' with new' | old'
      · cases new
        cases new'
        rfl
      · cases new
        exact absurd old' (fresh _)
      · cases new'
        exact absurd old (fresh _)
      · exact h.placed.usedOnce v p p' old old'
    · intro v p hp
      rcases mem_cons.mp hp with new | old
      · cases new
        exact nonempty
      · exact h.placed.usedNonempty v p old
    · intro l v hlv
      rcases mem_cons.mp hlv with new | old
      · cases new
        exact ⟨_, mem_cons_self, hl⟩
      · obtain ⟨p, used, allocated⟩ := h.placed.made l v old
        exact ⟨p, mem_cons_of_mem _ used, allocated⟩
    · intro x hx
      rcases mem_cons.mp hx with rfl | old
      · exact mem_cons_self
      · exact mem_cons_of_mem _ (h.placed.held x (mem_of_mem_filter old))
    · -- The label owns the new VID only, and an existing VID is not new.
      intro v p hv own
      obtain ⟨o, ho, d, hd, recorded | ⟨pending, made⟩⟩ := owned_iff.mp own
      · exact owned_iff.mpr ⟨o, ho, d, hd, .inl recorded⟩
      · rcases mem_cons.mp made with new | old
        · cases new
          exact absurd hv (fresh p)
        · exact owned_iff.mpr ⟨o, ho, d, hd, .inr ⟨pending, old⟩⟩

/-! ### Versioned writes -/

theorem Versioned.put (h : Versioned w) (hd : ∀ d ∈ drives, Known w d) :
    Versioned (w.put name drives) := by
  have stamp : ∀ o ∈ w.history, o.version ≠ w.clock + 1 := by
    intro o ho eq
    have := h.bound o ho
    omega
  have keep : ∀ {d : VirtualDrive}, Known w d → Known (w.put name drives) d := fun k => ⟨k.1, k.2, k.3⟩
  refine ⟨fun o ho d hd' => ?_, fun o ho => ?_, fun o ho => ?_, fun o ho o' ho' same => ?_⟩
  · rcases mem_cons.mp ho with rfl | old
    · exact keep (hd d hd')
    · exact keep (h.known o old d hd')
  · rcases mem_cons.mp ho with rfl | old
    · exact mem_cons_self
    · exact mem_cons_of_mem _ (h.current o (mem_of_mem_filter old))
  · rcases mem_cons.mp ho with rfl | old
    · exact le_refl _
    · exact le_trans (h.bound o old) (Nat.le_succ _)
  · rcases mem_cons.mp ho with rfl | old <;> rcases mem_cons.mp ho' with rfl | old'
    · rfl
    · exact absurd same.symm (stamp o' old')
    · exact absurd same (stamp o old)
    · exact h.once o old o' old' same

variable {v : String}

theorem owned_put (own : (w.put name drives).owned v = true) :
    (∃ d ∈ drives, w.ownedBy v d = true) ∨ w.owned v = true := by
  obtain ⟨o, ho, d, hd, owner⟩ := owned_iff.mp own
  rcases mem_cons.mp ho with rfl | old
  · exact .inl ⟨d, hd, ownedBy_iff.mpr owner⟩
  · exact .inr (owned_iff.mpr ⟨o, mem_of_mem_filter old, d, hd, owner⟩)

theorem Sound.put (h : Sound digest w) (name : String) (hd : ∀ d ∈ drives, Known w d) :
    Sound digest (w.put name drives) where
  placed := ⟨h.placed.usedOnce, h.placed.usedNonempty, h.placed.allocatedOnce, h.placed.made, h.placed.held⟩
  versioned := h.versioned.put hd
  recalls := h.recalls
  removals := h.removals

theorem Sound.rewrite (h : Sound digest w) (hd : ∀ d ∈ drives, Known w d)
    (own : ∀ d ∈ drives, ∀ v, w.ownedBy v d = true → w.owned v = true ∨ v = "") :
    Benign digest w (w.put name drives) where
  sound := h.put name hd
  spared := by
    refine ⟨fun _ m => m, fun v p hv owned => ?_, rfl⟩
    rcases owned_put owned with ⟨d, hd, owner⟩ | old
    · exact (own d hd v owner).resolve_right (h.placed.usedNonempty v p hv)
    · exact old
  grown := ⟨fun _ m => m, fun _ m => m, fun _ m => m, subset_cons_self _ _⟩

theorem mem_drivesOf (hd : d ∈ w.drivesOf name) : ∃ o ∈ w.objects, d ∈ o.drives := by
  unfold drivesOf at hd
  cases hf : w.objects.find? (·.name = name) with
  | none =>
    rw [hf] at hd
    cases hd
  | some o =>
    rw [hf] at hd
    exact ⟨o, mem_of_find?_eq_some hf, hd⟩

theorem Sound.known_drivesOf (h : Sound digest w) (hd : d ∈ w.drivesOf name) :
    Known w d := by
  obtain ⟨o, ho, hd⟩ := mem_drivesOf hd
  exact h.versioned.known o (h.versioned.current o ho) d hd

theorem owned_of_drivesOf (hd : d ∈ w.drivesOf name) (own : w.ownedBy v d = true) : w.owned v = true := by
  obtain ⟨o, ho, hd⟩ := mem_drivesOf hd
  exact owned_iff.mpr ⟨o, ho, d, hd, ownedBy_iff.mp own⟩

section
variable (h : Sound digest w)
include h

theorem Sound.release {keep : List VirtualDrive} (sub : keep.Sublist (w.drivesOf name)) : Benign digest w (w.put name keep) :=
  h.rewrite (fun _ hd => h.known_drivesOf (sub.subset hd)) fun _ hd _ own => .inl (owned_of_drivesOf (sub.subset hd) own)

theorem Sound.register (physicalUUID : String) (labelAdd : Bool) (fresh : w.freshLabel label = true) :
    Benign digest w { w with
      allocated := (label, physicalUUID) :: w.allocated
      used := if labelAdd then w.used else (label, physicalUUID) :: w.used } := by
  obtain ⟨nonempty, unallocated, unused⟩ :
      label ≠ "" ∧ (∀ p, (label, p) ∉ w.allocated) ∧ ∀ p, (label, p) ∉ w.used := by
    simpa [freshLabel] using fresh
  have usedCases : ∀ {x : String × String}, x ∈ (if labelAdd then w.used else (label, physicalUUID) :: w.used) →
      x = (label, physicalUUID) ∨ x ∈ w.used := by
    intro x hx
    cases labelAdd with
    | true => exact .inr hx
    | false => exact mem_cons.mp hx
  have usedGrows : w.used ⊆ (if labelAdd then w.used else (label, physicalUUID) :: w.used) := by
    cases labelAdd with
    | true => exact fun _ m => m
    | false => exact subset_cons_self _ _
  have grown : Grown w { w with
      allocated := (label, physicalUUID) :: w.allocated
      used := if labelAdd then w.used else (label, physicalUUID) :: w.used } :=
    ⟨usedGrows, fun _ m => m, subset_cons_self _ _, fun _ m => m⟩
  refine ⟨⟨⟨?_, ?_, ?_, ?_, fun x hx => usedGrows (h.placed.held x hx)⟩,
    ⟨fun o ho d hd => (h.versioned.known o ho d hd).grown grown, h.versioned.current, h.versioned.bound, h.versioned.once⟩,
    h.recalls, h.removals⟩, ⟨usedGrows, fun _ _ _ own => own, rfl⟩, grown⟩
  · intro v p p' hp hp'
    rcases usedCases hp with new | old <;> rcases usedCases hp' with new' | old'
    · cases new
      cases new'
      rfl
    · cases new
      exact absurd old' (unused _)
    · cases new'
      exact absurd old (unused _)
    · exact h.placed.usedOnce v p p' old old'
  · intro v p hp
    rcases usedCases hp with new | old
    · cases new
      exact nonempty
    · exact h.placed.usedNonempty v p old
  · intro l p p' hp hp'
    rcases mem_cons.mp hp with new | old <;> rcases mem_cons.mp hp' with new' | old'
    · cases new
      cases new'
      rfl
    · cases new
      exact absurd old' (unallocated _)
    · cases new'
      exact absurd old (unallocated _)
    · exact h.placed.allocatedOnce l p p' old old'
  · intro l v hlv
    obtain ⟨p, used, allocated⟩ := h.placed.made l v hlv
    exact ⟨p, usedGrows used, mem_cons_of_mem _ allocated⟩

theorem Sound.allocate {physicalUUID : String} {capacityGiB : Int} (labelAdd : Bool) (fresh : w.freshLabel label = true) :
    Benign digest w (w.allocate name label physicalUUID capacityGiB labelAdd) := by
  have registered := h.register physicalUUID labelAdd fresh
  obtain ⟨nonempty, unallocated, unused⟩ :
      label ≠ "" ∧ (∀ p, (label, p) ∉ w.allocated) ∧ ∀ p, (label, p) ∉ w.used := by
    simpa [freshLabel] using fresh
  refine ⟨registered.sound.put name fun d hd => ?_, ⟨registered.spared.used, fun v p hv owned => ?_, rfl⟩,
    ⟨registered.grown.used, fun _ m => m, registered.grown.allocated, subset_cons_self _ _⟩⟩
  · rcases mem_append.mp hd with old | new
    · exact (h.known_drivesOf old).grown registered.grown
    · cases mem_singleton.mp new
      refine ⟨nonempty, mem_cons_self, fun hne => ?_⟩
      cases labelAdd with
      | true => exact absurd rfl hne
      | false => exact mem_cons_self
  · rcases owned_put (w := w) owned with ⟨d, hd, owner⟩ | old
    · rcases mem_append.mp hd with current | new
      · exact owned_of_drivesOf current owner
      · -- The new entry owns its own label at most, which is no existing VID.
        cases mem_singleton.mp new
        rcases ownedBy_iff.mp owner with recorded | ⟨-, made⟩
        · cases labelAdd with
          | true =>
            cases recorded
            exact absurd rfl (h.placed.usedNonempty _ p hv)
          | false =>
            cases recorded
            exact absurd hv (unused p)
        · obtain ⟨q, -, allocated⟩ := h.placed.made _ _ made
          exact absurd allocated (unallocated q)
    · exact old

theorem env_benign {e : EnvEvent} (he : env w e = some w') : Benign digest w w' := by
  cases e with
  | allocate name label physicalUUID capacityGiB labelAdd =>
    obtain ⟨fresh, eq⟩ := ite_none_right_eq_some.mp he
    cases eq
    exact h.allocate labelAdd fresh
  | release name keep =>
    obtain ⟨sub, eq⟩ := ite_none_right_eq_some.mp he
    cases eq
    exact h.release sub
  | delete name =>
    cases he
    exact h.shrink (fun _ m => mem_of_mem_filter m) (fun _ m => m) (.inr rfl)
  | lateAdd proxyUID label drive =>
    obtain ⟨⟨allocated, may⟩, eq⟩ := ite_none_right_eq_some.mp he
    cases eq
    exact h.make proxyUID drive allocated may
  | proxyLoses x =>
    cases he
    exact h.shrink (fun _ m => m) (fun _ m => mem_of_mem_filter m) (.inr rfl)
  | resultLost =>
    cases he
    exact h.shrink (fun _ m => m) (fun _ m => m) (.inl rfl)

end

end Steps

/-! ### The contract -/

/-- What each party relies on. -/
def rely : Actor → World → World → Prop
  | .cleanup => Spared
  | .container _ => Grown

/-- The contract of the parties. -/
def contract (digest : Digest) : Contract World Actor where
  inv := Sound digest
  rely := rely
  refl
    | .cleanup => Spared.refl
    | .container _ => Grown.refl
  trans
    | .cleanup => fun _ _ _ => Spared.trans
    | .container _ => fun _ _ _ => Grown.trans

theorem rely_refl {i : Actor} {w : World} : ∀ j, j ≠ i → rely j w w
  | .cleanup, _ => Spared.refl _
  | .container _, _ => Grown.refl _

theorem Benign.rely {digest : Digest} {w : World} (h : Benign digest w w') : ∀ i, rely i w w'
  | .cleanup => h.spared
  | .container _ => h.grown

/-- A part that keeps the contract. -/
def Safely (sorting : Sorting) (digest : Digest) (i : Actor) {α : Type} (Q : α → World → Prop) (p : P α) (w : World) : Prop :=
  Safe (system sorting digest) always (contract digest) i Q p w

section Rules
variable {sorting : Sorting} {digest : Digest} {i : Actor} {α β : Type} {Q : α → World → Prop} {Q' : β → World → Prop}
  {w : World}

theorem Safely.bind {p : P α} {f : α → P β} (h : Safely sorting digest i Q p w)
    (hf : ∀ a w', Sound digest w' → Q a w' → Safely sorting digest i Q' (f a) w') :
    Safely sorting digest i Q' (p >>= f) w := Safe.bind h hf

theorem Safely.pure {a : α} (h : ∀ w', rely i w w' → Sound digest w' → Q a w') :
    Safely sorting digest i Q (Pure.pure a) w := Safe.pure h

theorem Safely.done {a : α} : Safely sorting digest i (fun _ _ => True) (Pure.pure a : P α) w :=
  Safely.pure fun _ _ _ => trivial

theorem Safely.call {op : Op} {R : op.Reply → World → Prop}
    (h : ∀ w', rely i w w' → Sound digest w' → ∀ r applied w'', perform w' op r applied = some w'' →
      Sound digest w'' ∧ (∀ j, j ≠ i → rely j w' w'') ∧ ∀ v, rely i w'' v → R r v) :
    Safely sorting digest i R (call op) w := by
  intro w' hk hi r applied w'' _ hp
  obtain ⟨hi', hg, hr⟩ := h w' hk hi r applied w'' hp
  exact ⟨hi', hg, fun v hv _ => hr v hv⟩

variable {I : World → Prop}

theorem quiet_safely {op : Op} (quiet : ∀ w r applied w', perform w op r applied = some w' → w' = w)
    (stable : ∀ w w', rely i w w' → I w → I w') (hw : I w) :
    Safely sorting digest i (fun _ w' => I w') (StaleDrives.call op) w := by
  refine Safely.call fun w' hk hi r applied w'' hp => ?_
  cases quiet w' r applied w'' hp
  exact ⟨hi, rely_refl, fun v hv => stable _ _ hv (stable _ _ hk hw)⟩

theorem read_safely {q : Read} (stable : ∀ w w', rely i w w' → I w → I w') (hw : I w) :
    Safely sorting digest i (fun _ w' => I w') (read q) w := by
  have quiet : ∀ w r applied w', perform w (.read q) r applied = some w' → w' = w := by
    intro w r applied w' hp
    cases hp
    rfl
  exact quiet_safely quiet stable hw

end Rules

end WekaOperator.StaleDrives
