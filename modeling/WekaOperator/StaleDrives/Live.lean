import WekaOperator.StaleDrives.Containers

/-! The cleanup removes no live drive.

Both parties keep the contract of `Ownership`, so that in every run each drive the cleanup removes has no owner then, was
in the scan before the removal and in the last one on record, and every UUID stays on one physical drive. -/

namespace WekaOperator.StaleDrives
open List Option Lib Operations

/-! ### The scan -/

theorem mem_computeStaleVids {sorting : Sorting} {scanned : List ScannedVID} {claims : Claims} {liveGUIDs : List String}
    {onlyNonExisting : Bool} {i : StaleInfo} (hi : i ∈ (computeStaleVids sorting scanned claims liveGUIDs onlyNonExisting).1) :
    ∃ s ∈ scanned, i.virtualUUID = s.vd.virtualUUID ∧ i.physicalUUID = s.vd.physicalUUID := by
  have kept := (sorting.perm _).mem_iff.mp hi
  obtain ⟨s, hs, rfl⟩ := mem_map.mp (mem_of_mem_filter kept)
  exact ⟨s, mem_of_mem_filter hs, rfl, rfl⟩

theorem vids_of_fingerprint {digest : Digest} {a b : List StaleInfo}
    (same : fingerprintStaleVids digest a = fingerprintStaleVids digest b) (nonempty : fingerprintStaleVids digest a ≠ "") :
    a.map (·.virtualUUID) = b.map (·.virtualUUID) := by
  unfold fingerprintStaleVids at same nonempty
  split at same
  · rename_i empty
    rw [if_pos empty] at nonempty
    exact absurd rfl nonempty
  split at same
  · exact absurd same (digest.nonempty _)
  have keys := congrArg (List.map fun k : String × String × String => k.2.1) (digest.injective same)
  rw [List.map_map, List.map_map] at keys
  exact keys

theorem Sound.unowned {digest : Digest} {w : World} (h : Sound digest w) {allocations : List (List VirtualDrive)}
    (listed : allocations.Perm (w.objects.map (·.drives))) {v p : String} (hv : (v, p) ∈ w.used)
    (spared : (buildClaimedSet allocations).unclaimed v p = true) : w.owned v = false := by
  obtain ⟨unclaimed, unpending⟩ : v ∉ _ ∧ p ∉ _ := by simpa [Claims.unclaimed] using spared
  rw [← Bool.not_eq_true]
  intro own
  obtain ⟨o, ho, d, hd, owner⟩ := owned_iff.mp own
  have mem : d ∈ allocations.flatten :=
    mem_flatten.mpr ⟨o.drives, listed.mem_iff.mpr (mem_map.mpr ⟨o, ho, rfl⟩), hd⟩
  rcases owner with rfl | ⟨pending, made⟩
  · have recorded : d.virtualUUID ≠ "" := h.placed.usedNonempty _ _ hv
    exact unclaimed (mem_map.mpr ⟨d, mem_filter.mpr ⟨mem, by simpa using recorded⟩, rfl⟩)
  · -- The VID lies on the physical drive of the pending entry.
    obtain ⟨q, used, allocated⟩ := h.placed.made _ _ made
    cases h.placed.usedOnce _ _ _ hv used
    have known := h.versioned.known o (h.versioned.current o ho) d hd
    cases h.placed.allocatedOnce _ _ _ known.allocated allocated
    have empty : d.virtualUUID = "" := (of_decide_eq_true pending).2
    exact unpending (mem_map.mpr ⟨d, mem_filter.mpr ⟨mem, by simpa using empty⟩, rfl⟩)

/-! ### What the cleanup knows -/

/-- The proxies had the scanned drives. -/
def Listed (s : Scanned) (w : World) : Prop := ∀ x ∈ s.vids, (x.vd.virtualUUID, x.vd.physicalUUID) ∈ w.used

/-- The scan is noted, and the result is of it. -/
structure Noted (digest : Digest) (owner : Owner) (r : Result) (w : World) : Prop where
  scans : ∃ older, w.scans = ⟨r.staleVids, false⟩ :: older ∧ Recalls digest older owner.result
  fingerprint : r.fingerprint = fingerprintStaleVids digest r.staleVids
  exist : ∀ s ∈ r.staleVids, (s.virtualUUID, s.physicalUUID) ∈ w.used

/-- No unclaimed drive of the result has an owner. -/
def Clear (claims : Claims) (r : Result) (w : World) : Prop :=
  ∀ s ∈ r.staleVids, claims.unclaimed s.virtualUUID s.physicalUUID = true → w.owned s.virtualUUID = false

variable {s : StaleInfo}

section Knowledge
variable {digest : Digest} {owner : Owner} {r r' : Result} {claims : Claims} {scanned : Scanned} {w w' : World}

theorem Listed.spared (h : Listed scanned w) (hk : Spared w w') : Listed scanned w' := fun x hx => hk.used (h x hx)

theorem Noted.spared (h : Noted digest owner r w) (hk : Spared w w') : Noted digest owner r w' where
  scans := by
    rw [hk.scans]
    exact h.scans
  fingerprint := h.fingerprint
  exist s hs := hk.used (h.exist s hs)

theorem Noted.congr (h : Noted digest owner r w) (stale : r'.staleVids = r.staleVids) (fp : r'.fingerprint = r.fingerprint) :
    Noted digest owner r' w where
  scans := by
    rw [stale]
    exact h.scans
  fingerprint := by
    rw [fp, stale]
    exact h.fingerprint
  exist := by
    rw [stale]
    exact h.exist

theorem Clear.spared (hn : Noted digest owner r w) (h : Clear claims r w) (hk : Spared w w') : Clear claims r w' := by
  intro s hs unclaimed
  rw [← Bool.not_eq_true]
  intro own
  have := h s hs unclaimed
  rw [hk.owned _ _ (hn.exist s hs) own] at this
  cases this

/-! ### Effects of the cleanup's calls -/

/-- Nothing changes about the drives. -/
structure SameDrives (w w' : World) : Prop where
  objects : w'.objects = w.objects
  history : w'.history = w.history
  clock : w'.clock = w.clock
  used : w'.used = w.used
  made : w'.made = w.made
  allocated : w'.allocated = w.allocated
  held : w'.held ⊆ w.held

theorem SameDrives.grown (h : SameDrives w w') : Grown w w' where
  used := h.used ▸ fun _ m => m
  made := h.made ▸ fun _ m => m
  allocated := h.allocated ▸ fun _ m => m
  history := h.history ▸ fun _ m => m

theorem SameDrives.others (h : SameDrives w w') : ∀ j, j ≠ .cleanup → rely j w w'
  | .cleanup, hj => absurd rfl hj
  | .container _, _ => h.grown

theorem SameDrives.sound (h : SameDrives w w') (hs : Sound digest w) (recalls : Recalls digest w'.scans w'.result)
    (removals : ∀ x ∈ w'.removals, x.owned = false ∧ x.confirmed = true) : Sound digest w' where
  placed := by
    constructor
    · rw [h.used]
      exact hs.placed.usedOnce
    · rw [h.used]
      exact hs.placed.usedNonempty
    · rw [h.allocated]
      exact hs.placed.allocatedOnce
    · rw [h.made, h.used, h.allocated]
      exact hs.placed.made
    · rw [h.used]
      exact fun x hx => hs.placed.held x (h.held hx)
  versioned := by
    constructor
    · rw [h.history]
      exact fun o ho d hd => (hs.versioned.known o ho d hd).grown h.grown
    · rw [h.objects, h.history]
      exact hs.versioned.current
    · rw [h.history, h.clock]
      exact hs.versioned.bound
    · rw [h.history]
      exact hs.versioned.once
  recalls := recalls
  removals := removals

theorem sameDrives_noteScan (stale : List StaleInfo) : SameDrives w (w.noteScan stale) :=
  ⟨rfl, rfl, rfl, rfl, rfl, rfl, fun _ m => m⟩

theorem sameDrives_write (status : OwnerStatus) (r : Result) : SameDrives w (w.write status r) :=
  ⟨rfl, rfl, rfl, rfl, rfl, rfl, fun _ m => m⟩

theorem sameDrives_remove (proxyUID vid : String) : SameDrives w (w.remove proxyUID vid) :=
  ⟨rfl, rfl, rfl, rfl, rfl, rfl, fun _ m => mem_of_mem_filter m⟩

theorem Sound.noteScan (h : Sound digest w) (stale : List StaleInfo) : Sound digest (w.noteScan stale) :=
  (sameDrives_noteScan stale).sound h h.recalls h.removals

theorem Sound.write (h : Sound digest w) (hn : Noted digest owner r w) (status : OwnerStatus) :
    Sound digest (w.write status r) := by
  refine (sameDrives_write status r).sound h ?_ h.removals
  obtain ⟨older, scans, -⟩ := hn.scans
  intro r' hr'
  cases hr'
  refine ⟨⟨r.staleVids, true⟩, ?_, hn.fingerprint⟩
  simp only [World.write, scans]
  rfl

theorem Sound.remove (h : Sound digest w) {proxyUID vid : String} (unowned : w.owned vid = false)
    (confirmed : (Removal.mk vid (w.owned vid) w.scans).confirmed = true) : Sound digest (w.remove proxyUID vid) := by
  refine (sameDrives_remove proxyUID vid).sound h h.recalls fun x hx => ?_
  rcases mem_cons.mp hx with rfl | old
  · exact ⟨unowned, confirmed⟩
  · exact h.removals x old

theorem Noted.confirmed (h : Noted digest owner r w)
    (eligible : deletionEligible r.staleCount r.fingerprint ((owner.result.map (·.fingerprint)).getD "") = true)
    (hs : s ∈ r.staleVids) (owned : Bool) : (Removal.mk s.virtualUUID owned w.scans).confirmed = true := by
  obtain ⟨older, scans, recalls⟩ := h.scans
  obtain ⟨-, nonempty, same⟩ := of_decide_eq_true eligible
  cases hr : owner.result with
  | none =>
    rw [hr] at same
    exact absurd same nonempty
  | some previous =>
    rw [hr] at same
    obtain ⟨a, found, fp⟩ := recalls previous hr
    have same : r.fingerprint = previous.fingerprint := same
    rw [fp, h.fingerprint] at same
    rw [h.fingerprint] at nonempty
    have now : s.virtualUUID ∈ r.staleVids.map (·.virtualUUID) := mem_map.mpr ⟨s, hs, rfl⟩
    have before : s.virtualUUID ∈ a.vids := by
      unfold ScanRecord.vids
      rw [← vids_of_fingerprint same nonempty]
      exact now
    simp only [Removal.confirmed, scans, found, any_some, decide_eq_true_eq]
    exact ⟨now, before⟩

end Knowledge

/-! ### The program -/

section Program
variable {sorting : Sorting} {digest : Digest} {owner : Owner} {w : World}
variable {I : World → Prop} {w' : World}

theorem scanTargets_safely (stable : ∀ w w', Spared w w' → I w → I w') (targets : List ListedProxy) {acc : Scanned}
    (h : I w) (hl : Listed acc w) :
    Safely sorting digest .cleanup (fun s w' => I w' ∧ Listed s w') (scanTargets targets acc) w := by
  have keep : ∀ {acc : Scanned} (w w' : World), Spared w w' → I w ∧ Listed acc w → I w' ∧ Listed acc w' :=
    fun _ _ hk hi => ⟨stable _ _ hk hi.1, hi.2.spared hk⟩
  induction targets generalizing acc w with
  | nil => exact .pure fun w' hk _ => keep w w' hk ⟨h, hl⟩
  | cons t targets ih =>
    refine .bind (read_safely keep ⟨h, hl⟩) fun pod w₁ _ h₁ => ?_
    cases pod with
    | error e => exact ih h₁.1 h₁.2
    | ok _ =>
      refine .bind (Q := fun r w' => (I w' ∧ Listed acc w') ∧
          ∀ vids, r = .ok vids → ∀ v ∈ vids, (v.virtualUUID, v.physicalUUID) ∈ w'.used)
        (.call fun w' hk hs r applied w'' hp => ?_) fun r w₂ _ h₂ => ?_
      · have known := keep _ _ hk h₁
        cases r with
        | error e =>
          cases hp
          exact ⟨hs, rely_refl, fun v hv => ⟨keep _ _ hv known, fun _ eq => by cases eq⟩⟩
        | ok vids =>
          obtain ⟨listed, eq⟩ := ite_none_right_eq_some.mp hp
          cases eq
          refine ⟨hs, rely_refl, fun v hv => ⟨keep _ _ hv known, fun _ eq x hx => ?_⟩⟩
          cases eq
          have held := (isPerm_iff.mp listed).mem_iff.mp hx
          obtain ⟨y, hy, rfl⟩ := mem_map.mp held
          exact hv.used (hs.placed.held y (mem_of_mem_filter hy))
      · cases r with
        | error e => exact ih h₂.1.1 h₂.1.2
        | ok vids =>
          refine ih h₂.1.1 fun x hx => ?_
          rcases mem_append.mp hx with old | new
          · exact h₂.1.2 x old
          · obtain ⟨v, hv, rfl⟩ := mem_map.mp new
            exact h₂.2 vids rfl v hv

theorem listAllocations_safely (stable : ∀ w w', Spared w w' → I w → I w') (h : I w)
    {R : List (List VirtualDrive) → World → Prop} (hR : ∀ l w w', Spared w w' → I w → R l w → R l w')
    (tells : ∀ w l, Sound digest w → I w → l.Perm (w.objects.map (·.drives)) → R l w) :
    Safely sorting digest .cleanup (fun r w' => I w' ∧ ∀ l, r = .ok l → R l w') (call .listAllocations) w := by
  refine .call fun w' hk hs r applied w'' hp => ?_
  have known := stable _ _ hk h
  cases r with
  | error e =>
    cases hp
    exact ⟨hs, rely_refl, fun v hv => ⟨stable _ _ hv known, fun _ eq => by cases eq⟩⟩
  | ok l =>
    obtain ⟨listed, eq⟩ := ite_none_right_eq_some.mp hp
    cases eq
    refine ⟨hs, rely_refl, fun v hv => ⟨stable _ _ hv known, fun _ eq => ?_⟩⟩
    cases eq
    exact hR l _ _ hv known (tells _ l hs known (isPerm_iff.mp listed))

/-- The result loaded is of the last recorded scan. -/
def Loaded (digest : Digest) (owner : Owner) (w : World) : Prop := Recalls digest w.scans owner.result

theorem Loaded.spared (h : Loaded digest owner w) (hk : Spared w w') : Loaded digest owner w' := by
  unfold Loaded
  rw [hk.scans]
  exact h

theorem scan_safely (payload : Payload) (h : Loaded digest owner w) :
    Safely sorting digest .cleanup (fun r w' => ∀ s, r = .ok s → Noted digest owner s.result w')
      (scan sorting digest payload) w := by
  have stable : ∀ w w', Spared w w' → Loaded digest owner w → Loaded digest owner w' := fun _ _ hk hw => hw.spared hk
  have stop : ∀ {w : World} {e : String}, Safely sorting digest .cleanup
      (fun r w' => ∀ s, r = .ok s → Noted digest owner s.result w') (Pure.pure (.error e) : P (Except String ScanResult)) w :=
    .pure fun _ _ _ _ eq => by cases eq
  unfold scan
  refine .bind (read_safely stable h) fun targets w₁ _ h₁ => ?_
  cases targets with
  | error e => exact stop
  | ok observed =>
    refine .bind (listAllocations_safely stable h₁ (R := fun _ _ => True) (fun _ _ _ _ _ _ => trivial)
      fun _ _ _ _ _ => trivial) fun allocations w₂ _ h₂ => ?_
    cases allocations with
    | error e => exact stop
    | ok allocations =>
      refine .bind (read_safely stable h₂.1) fun guids w₃ _ h₃ => ?_
      cases guids with
      | error e => exact stop
      | ok guids =>
        refine .bind (read_safely stable h₃) fun token w₄ _ h₄ => ?_
        cases token with
        | error e => exact stop
        | ok _ =>
          refine .bind (scanTargets_safely stable (resolveTargetProxies observed) h₄ fun x hx => by cases hx)
            fun scanned w₅ _ h₅ => ?_
          refine .bind (Q := fun _ w' => Noted digest owner
              (scanResult sorting digest payload scanned (buildClaimedSet allocations) (guids.filter (· ≠ ""))) w')
            (.call fun w' hk hs r applied w'' hp => ?_) fun _ w₆ _ h₆ => ?_
          · cases hp
            have same := sameDrives_noteScan (w := w')
              (scanResult sorting digest payload scanned (buildClaimedSet allocations) (guids.filter (· ≠ ""))).staleVids
            refine ⟨hs.noteScan _, same.others, fun v hv => Noted.spared ⟨⟨w'.scans, rfl, h₅.1.spared hk⟩, rfl, ?_⟩ hv⟩
            intro s hs
            obtain ⟨x, hx, vid, physical⟩ := mem_computeStaleVids hs
            rw [vid, physical]
            exact hk.used (h₅.2 x hx)
          · refine .pure fun v hv _ s eq => ?_
            cases eq
            exact h₆.spared hv

/-! ### Removing -/

/-- What holds while drives are removed. -/
structure Removing (digest : Digest) (owner : Owner) (r : Result) (claims : Claims) (w : World) : Prop where
  noted : Noted digest owner r w
  clear : Clear claims r w

theorem Removing.spared {r : Result} {claims : Claims} (h : Removing digest owner r claims w) (hk : Spared w w') :
    Removing digest owner r claims w' := ⟨h.noted.spared hk, h.clear.spared h.noted hk⟩

theorem spared_remove (proxyUID vid : String) : Spared w (w.remove proxyUID vid) :=
  ⟨fun _ m => m, fun _ _ _ own => own, rfl⟩

section Removal
variable {r : Result} {claims : Claims}

section
variable (eligible : deletionEligible r.staleCount r.fingerprint ((owner.result.map (·.fingerprint)).getD "") = true)
include eligible

theorem removeOne_safely (scanned : Scanned) (hs : s ∈ r.staleVids)
    (unclaimed : claims.unclaimed s.virtualUUID s.physicalUUID = true) (acc : Removed)
    (h : Removing digest owner r claims w) :
    Safely sorting digest .cleanup (fun _ w' => Removing digest owner r claims w') (removeOne scanned s acc) w := by
  have stable : ∀ w w', Spared w w' → Removing digest owner r claims w → Removing digest owner r claims w' :=
    fun _ _ hk hw => hw.spared hk
  have stop : ∀ {α : Type} {a : α} {w : World}, Removing digest owner r claims w →
      Safely sorting digest .cleanup (fun _ w' => Removing digest owner r claims w') (Pure.pure a : P α) w :=
    fun hw => .pure fun _ hk _ => hw.spared hk
  unfold removeOne
  dsimp only
  split
  · exact stop h
  refine .bind (Q := fun _ w' => Removing digest owner r claims w') ?_ fun agent w₁ _ h₁ => ?_
  · unfold resolveAgent
    split
    · exact stop h
    refine .bind (read_safely stable h) fun pod w' _ h' => ?_
    cases pod <;> exact stop h'
  cases agent with
  | error e => exact stop h₁
  | ok acc =>
    refine .bind (Q := fun _ w' => Removing digest owner r claims w')
      (.call fun w' hk hi reply applied w'' hp => ?_) fun reply w₂ _ h₂ => ?_
    · have known := h₁.spared hk
      cases hp
      split
      · have unowned := known.clear s hs unclaimed
        exact ⟨hi.remove unowned (known.noted.confirmed eligible hs _), (sameDrives_remove _ _).others,
          fun v hv => (known.spared (spared_remove _ _)).spared hv⟩
      · exact ⟨hi, rely_refl, fun v hv => known.spared hv⟩
    · cases reply <;> exact stop h₂

theorem removeAll_safely (scanned : Scanned) {stale : List StaleInfo} (sub : ∀ s ∈ stale, s ∈ r.staleVids)
    (acc : Removed) (h : Removing digest owner r claims w) :
    Safely sorting digest .cleanup (fun _ w' => Removing digest owner r claims w') (removeAll scanned claims stale acc) w := by
  induction stale generalizing acc w with
  | nil => exact .pure fun _ hk _ => h.spared hk
  | cons s stale ih =>
    have rest : ∀ x ∈ stale, x ∈ r.staleVids := fun x hx => sub x (mem_cons_of_mem _ hx)
    unfold removeAll
    split
    · rename_i unclaimed
      exact .bind (removeOne_safely eligible scanned (sub s mem_cons_self) unclaimed acc h)
        fun acc' w' _ h' => ih rest acc' h'
    · exact ih rest acc h

end

end Removal

/-! ### The reconcile -/

variable {r : Result}

theorem evaluateStability_eligible (complete : (evaluateStability owner r).err = "")
    (eligible : (evaluateStability owner r).deletionEligible = true) :
    deletionEligible (evaluateStability owner r).staleCount (evaluateStability owner r).fingerprint
      ((owner.result.map (·.fingerprint)).getD "") = true := by
  unfold evaluateStability at *
  split at complete
  · rename_i failed
    exact absurd complete failed
  · rename_i clean
    rw [if_neg clean] at eligible ⊢
    exact eligible

theorem Noted.evaluated (h : Noted digest owner r w) : Noted digest owner (evaluateStability owner r) w := by
  unfold evaluateStability
  split
  · exact h
  · exact h.congr rfl rfl

theorem maybeDelete_safely {scanned : Scanned} (h : Noted digest owner (evaluateStability owner r) w) :
    Safely sorting digest .cleanup (fun out w' => ∀ r', out = .ok r' → Noted digest owner r' w')
      (maybeDelete owner ⟨scanned, evaluateStability owner r⟩) w := by
  have stable : ∀ w w', Spared w w' → Noted digest owner (evaluateStability owner r) w →
      Noted digest owner (evaluateStability owner r) w' := fun _ _ hk hw => hw.spared hk
  have keep : ∀ {w : World}, Noted digest owner (evaluateStability owner r) w → Safely sorting digest .cleanup
      (fun out w' => ∀ r', out = .ok r' → Noted digest owner r' w') (Pure.pure (.ok (evaluateStability owner r)) : P (Except Outcome Result)) w := by
    intro w hw
    refine .pure fun v hk _ r' eq => ?_
    cases eq
    exact hw.spared hk
  have stop : ∀ {w : World} {o : Outcome}, Safely sorting digest .cleanup
      (fun out w' => ∀ r', out = .ok r' → Noted digest owner r' w') (Pure.pure (.error o) : P (Except Outcome Result)) w :=
    .pure fun _ _ _ _ eq => by cases eq
  unfold maybeDelete
  dsimp only
  split
  · exact keep h
  rename_i enabled
  split
  · split
    · refine .bind (Q := fun _ _ => True) (.call fun w' hk hi reply applied w'' hp => ?_) fun reply w₁ _ _ => ?_
      · cases hp
        split
        · exact ⟨hi.write (h.spared hk) _, (sameDrives_write _ _).others, fun _ _ => trivial⟩
        · exact ⟨hi, rely_refl, fun _ _ => trivial⟩
      · cases reply <;> exact stop
    · exact keep h
  rename_i stable'
  have complete : (evaluateStability owner r).err = "" := by
    by_contra failed
    exact enabled (by simp [failed])
  have eligible := evaluateStability_eligible complete (by simpa using stable')
  refine .bind (listAllocations_safely stable h
    (R := fun l w => Clear (buildClaimedSet l) (evaluateStability owner r) w)
    (fun l _ _ hk hn hc => hc.spared hn hk)
    fun w l hi hn listed s hs unclaimed => hi.unowned listed (hn.exist s hs) unclaimed) fun allocations w₁ _ h₁ => ?_
  cases allocations with
  | error e => exact stop
  | ok allocations =>
    have removing : Removing digest owner (evaluateStability owner r) (buildClaimedSet allocations) w₁ :=
      ⟨h₁.1, h₁.2 allocations rfl⟩
    refine .bind (read_safely (fun _ _ hk hw => Removing.spared hw hk) removing) fun token w₂ _ h₂ => ?_
    cases token with
    | error e => exact stop
    | ok _ =>
      refine .bind (removeAll_safely eligible scanned (fun _ hs => hs) {} h₂) fun removed w₃ _ h₃ => ?_
      refine .pure fun v hk _ r' eq => ?_
      cases eq
      exact (h₃.noted.spared hk).congr rfl rfl

theorem operation_safely (h : Loaded digest owner w) :
    Safely sorting digest .cleanup (fun _ _ => True) (operation sorting digest owner) w := by
  unfold operation
  split
  · exact .done
  refine .bind (scan_safely owner.payload h) fun scanned w₁ _ h₁ => ?_
  cases scanned with
  | error e => exact .done
  | ok s =>
    refine .bind (maybeDelete_safely (h₁ s rfl).evaluated) fun out w₂ _ h₂ => ?_
    cases out with
    | error outcome => exact .done
    | ok r =>
      refine .bind (Q := fun _ _ => True) (.call fun w' hk hi reply applied w'' hp => ?_) fun reply w₃ _ _ => ?_
      · cases hp
        split
        · exact ⟨hi.write ((h₂ r rfl).spared hk) _, (sameDrives_write _ _).others, fun _ _ => trivial⟩
        · exact ⟨hi, rely_refl, fun _ _ => trivial⟩
      · cases reply <;> exact .done

theorem cycle_safely : Safely sorting digest .cleanup (fun _ _ => True) (cycle sorting digest) w := by
  unfold cycle
  refine .bind (Q := fun r w' => ∀ owner, r = .ok owner → Loaded digest owner w')
    (.call fun w' _ hi r applied w'' hp => ?_) fun r w₁ _ h₁ => ?_
  · cases r with
    | error e =>
      cases hp
      exact ⟨hi, rely_refl, fun _ _ _ eq => by cases eq⟩
    | ok owner =>
      obtain ⟨⟨-, result⟩, eq⟩ := ite_none_right_eq_some.mp hp
      cases eq
      refine ⟨hi, rely_refl, fun v hv owner' eq => ?_⟩
      cases eq
      refine Loaded.spared ?_ hv
      unfold Loaded
      rw [result]
      exact hi.recalls
  · cases r with
    | error e => exact .done
    | ok owner =>
      have loaded := h₁ owner rfl
      dsimp only
      split
      · refine .bind (Q := fun _ w' => Loaded digest owner w') (.call fun w' hk hi reply applied w'' hp => ?_)
          fun reply w₂ _ h₂ => ?_
        · have known := loaded.spared hk
          have same : SameDrives w' { w' with status := .running } := ⟨rfl, rfl, rfl, rfl, rfl, rfl, fun _ m => m⟩
          have running : Loaded digest owner { w' with status := .running } := known
          cases hp
          split
          · exact ⟨same.sound hi hi.recalls hi.removals, same.others, fun v hv => running.spared hv⟩
          · exact ⟨hi, rely_refl, fun v hv => known.spared hv⟩
        · cases reply with
          | error e => exact .done
          | ok _ => exact operation_safely h₂
      · exact operation_safely loaded

/-! ### Every run -/

theorem body_safely (i : Actor) : Safely sorting digest i (fun _ _ => True) (body sorting digest i) w := by
  cases i with
  | cleanup => exact .bind cycle_safely fun _ _ _ _ => .done
  | container name => exact .bind addVirtualDrives_safely fun _ _ _ _ => .done

theorem sound_of_reachable {s : SysState World Actor Op Op.Reply}
    (h : (system sorting digest).Reachable always World.initial s) : Sound digest s.world := by
  refine safe_of_reach (c := contract digest) h (sound_initial digest) (fun i w hi _ => ?_) fun w e w' hi _ he => ?_
  · exact ⟨hi, rely_refl, body_safely i⟩
  · have benign := env_benign hi he
    exact ⟨benign.sound, benign.rely⟩

/-- At the moment the cleanup removes a VID no allocation owns it, and both the newest scan and the last scan before
    it whose result was written found it stale. -/
theorem cleanup_removesUnowned {s : SysState World Actor Op Op.Reply}
    (h : (system sorting digest).Reachable always World.initial s) :
    ∀ r ∈ s.world.removals, r.owned = false ∧ r.confirmed = true := (sound_of_reachable h).removals

/-- All records of a VID and all proxies that hold it name one physical drive. -/
def OnePhysical (w : World) : Prop :=
  ∃ physical : String → String,
    (∀ o ∈ w.objects, ∀ d ∈ o.drives, d.virtualUUID ≠ "" → d.physicalUUID = physical d.virtualUUID) ∧
      ∀ x ∈ w.held, x.drive.physicalUUID = physical x.drive.virtualUUID

theorem vids_onePhysical {s : SysState World Actor Op Op.Reply}
    (h : (system sorting digest).Reachable always World.initial s) : OnePhysical s.world := by
  obtain ⟨placed, versioned, -, -⟩ := sound_of_reachable h
  have unique : ∀ v, ∃ p, ∀ p', (v, p') ∈ s.world.used → p' = p := by
    intro v
    by_cases hv : ∃ p, (v, p) ∈ s.world.used
    · exact hv.imp fun p hp p' hp' => placed.usedOnce _ _ _ hp' hp
    · exact ⟨"", fun p hp => absurd ⟨p, hp⟩ hv⟩
  choose physical only using unique
  refine ⟨physical, fun o ho d hd named => only _ _ ?_, fun x hx => only _ _ (placed.held x hx)⟩
  exact (versioned.known o (versioned.current o ho) d hd).used named

end Program

/-! ### Two runs -/

def frame : List Char → List Char
  | [] => ['b']
  | c :: cs => 'a' :: c :: frame cs

theorem frame_append_inj {s t x y : List Char} (h : frame s ++ x = frame t ++ y) : s = t ∧ x = y := by
  induction s generalizing t with
  | nil =>
    cases t with
    | nil => exact ⟨rfl, by simpa [frame] using h⟩
    | cons c cs => simp [frame] at h
  | cons c cs ih =>
    cases t with
    | nil => simp [frame] at h
    | cons d ds =>
      simp only [frame, cons_append, List.cons.injEq, true_and] at h
      obtain ⟨rfl, h⟩ := h
      obtain ⟨rfl, rfl⟩ := ih h
      exact ⟨rfl, rfl⟩

def frames : List (String × String × String) → List Char
  | [] => []
  | k :: ks => frame k.1.toList ++ (frame k.2.1.toList ++ (frame k.2.2.toList ++ frames ks))

theorem frames_injective : Function.Injective frames := by
  intro a
  induction a with
  | nil =>
    intro b h
    cases b with
    | nil => rfl
    | cons k ks => cases hk : k.1.toList <;> simp [frames, frame, hk] at h
  | cons k ks ih =>
    intro b h
    cases b with
    | nil => cases hk : k.1.toList <;> simp [frames, frame, hk] at h
    | cons k' ks' =>
      obtain ⟨first, h⟩ := frame_append_inj h
      obtain ⟨second, h⟩ := frame_append_inj h
      obtain ⟨third, h⟩ := frame_append_inj h
      rw [ih h]
      congr 1
      exact Prod.ext (String.toList_injective first) (Prod.ext (String.toList_injective second) (String.toList_injective third))

def plainDigest : Digest where
  sum l := String.ofList ('c' :: frames l)
  injective := fun a b h => frames_injective (List.cons.inj (String.ofList_injective h)).2
  nonempty l h := by
    have := congrArg String.toList h
    simp at this

def insertion : Sorting where
  sort := List.insertionSort staleOrder
  perm := List.perm_insertionSort staleOrder
  sorted l := by
    have total : Std.Total staleOrder := ⟨fun a b => by
      unfold staleOrder
      rcases lt_trichotomy a.node b.node with lt | eq | gt
      · exact .inl (.inl lt)
      · rcases le_total a.virtualUUID b.virtualUUID with le | ge
        · exact .inl (.inr ⟨eq, le⟩)
        · exact .inr (.inr ⟨eq.symm, ge⟩)
      · exact .inr (.inl gt)⟩
    have trans : IsTrans StaleInfo staleOrder := ⟨fun a b c => by
      unfold staleOrder
      rintro (lt | ⟨eq, le⟩) (lt' | ⟨eq', le'⟩)
      · exact .inl (lt_trans lt lt')
      · exact .inl (eq' ▸ lt)
      · exact .inl (eq ▸ lt')
      · exact .inr ⟨eq.trans eq', le_trans le le'⟩⟩
    exact List.pairwise_insertionSort staleOrder l

def replies (final : Except ApiError Unit) (w : World) : (op : Op) → op.Reply
  | .read (.targets _) => .ok { proxies := [⟨"proxy-a", "uid-a", "node-a", ""⟩], nodes := none }
  | .read .clusterGUIDs => .ok []
  | .read .agentToken => .ok ()
  | .read (.agentPod _) => .ok ()
  | .read .ownerClusterID => .ok "guid-0"
  | .read (.ssdProxyUID _) => .ok "uid-a"
  | .read (.addedVids _) => .ok []
  | .read .blockedVids => []
  | .read .blockedPhysical => .ok []
  | .loadOwner => .ok { manual := true, payload := { deleteStaleVids := true }, status := w.status, result := w.result }
  | .markRunning => .ok ()
  | .listAllocations => .ok (w.objects.map (·.drives))
  | .listVirtualDrives proxyUID => .ok (w.drivesOn proxyUID)
  | .noteScan _ => ()
  | .removeVirtualDrive _ _ => .ok ()
  | .progress _ => .ok ()
  | .succeed _ => final
  | .loadContainer name =>
    .ok ⟨true, "guid-0", "node-a", ((w.objects.find? (·.name = name)).map (·.version)).getD 0, w.drivesOf name⟩
  | .addByLabel _ _ _ _ _ => .ok "vid-1"
  | .addByVid _ _ _ _ _ => .ok ()
  | .updateStatus _ _ _ => .ok ()

abbrev RunScene := System.Scene World Actor Op EnvEvent Op.Reply

def firstScan : List RunScene :=
  [.event (.env (.allocate "drive-0" "label-1" "ssd-0" 1024 true)), .pass (.container "drive-0") (replies (.ok ())) 20,
   .event (.env (.delete "drive-0")), .pass .cleanup (replies (.ok ())) 20]

def secondScan : List RunScene := firstScan ++ [.pass .cleanup (replies (.ok ())) 20]

theorem cleanup_removesUnowned_twice : ∃ s : SysState World Actor Op Op.Reply,
    (system insertion plainDigest).Reachable always World.initial s ∧ s.world.removals.map (·.vid) = ["vid-1"] ∧
    ∀ r ∈ s.world.removals, r.owned = false ∧ r.confirmed = true :=
  System.Reachable.of_play_and secondScan (by decide +kernel) cleanup_removesUnowned

theorem vids_onePhysical_added : ∃ s : SysState World Actor Op Op.Reply,
    (system insertion plainDigest).Reachable always World.initial s ∧ s.world.held.length = 1 ∧ OnePhysical s.world :=
  System.Reachable.of_play_and (firstScan.take 2) (by decide +kernel) vids_onePhysical

def sparedScan : List RunScene :=
  firstScan ++ [.event (.env (.allocate "drive-1" "label-2" "ssd-0" 1024 true)),
    .pass .cleanup (replies (.error (.other "conflict"))) 20, .event (.env (.delete "drive-1")),
    .pass .cleanup (replies (.ok ())) 20]

/-- A VID is removed that the scan before did not find stale. -/
theorem cleanup_removesSpared : ∃ s : SysState World Actor Op Op.Reply,
    (system insertion plainDigest).Reachable always World.initial s ∧ ∃ r ∈ s.world.removals, r.vid = "vid-1" ∧
      r.scans.map (·.vids) = [["vid-1"], [], ["vid-1"]] ∧ r.successive = false :=
  System.Reachable.of_play sparedScan (by decide +kernel)

end WekaOperator.StaleDrives
