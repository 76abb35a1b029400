import WekaOperator.DriveRemoval.Protocol

/-! The VIDs that left the allocations, over whole runs: as long as nothing strands one, each VID that the proxy still
    holds is a blocked drive of the cluster, or the one that is being removed. -/

namespace WekaOperator.DriveRemoval
open List Option Lib Operations Containers

/-! ### The world -/

section World
variable {c : Container} {w : World} {vid uuid : String} {vids : List String}

theorem World.holds_iff : w.holds vid = true ↔ ∃ e ∈ w.proxy, e.virtualUUID = vid := by
  simp [World.holds]

theorem World.holds_erase : (w.erase vids).holds vid = true ↔ vid ∉ vids ∧ w.holds vid = true := by
  simp only [World.holds_iff, World.erase, mem_filter, decide_eq_true_eq]
  constructor
  · rintro ⟨e, ⟨he, hv⟩, rfl⟩
    exact ⟨hv, e, he, rfl⟩
  · rintro ⟨hv, e, he, rfl⟩
    exact ⟨e, ⟨he, hv⟩, rfl⟩

theorem physicalOf_erase (h : vid ∉ vids) : physicalOf (w.erase vids).listed vid = physicalOf w.listed vid := by
  have listed : (w.erase vids).listed = w.listed.filter (·.virtualUUID ∉ vids) := by
    simp only [World.listed, World.erase, List.filter_map]
    rfl
  unfold physicalOf
  rw [listed, ← List.filter_reverse, List.find?_filter]
  congr 2
  funext e
  by_cases he : e.virtualUUID = vid
  · simp [he, h]
  · simp [he]

theorem World.blocks_erase (h : vid ∉ vids) : (w.erase vids).blocks c vid = w.blocks c vid := by
  simp only [World.blocks, physicalOf_erase h]
  rfl

theorem World.blocks_iff : w.blocks c vid = true ↔ ∃ d ∈ w.cluster, d.uuid = vid ∧
    (d.serialNumber ≠ "" ∧ d.serialNumber ∈ c.blockedSerials ∨ ∃ p ∈ physicalOf w.listed vid, p ∈ c.blockedPhysicalUuids) := by
  simp only [World.blocks, List.any_eq_true, decide_eq_true_eq, Option.any_eq_true, Option.mem_def]

theorem World.blocks_removeDrive (h : vid ≠ uuid) (hb : w.blocks c vid = true) : (w.removeDrive uuid).blocks c vid = true := by
  obtain ⟨d, hd, rfl, hblocked⟩ := World.blocks_iff.mp hb
  exact World.blocks_iff.mpr ⟨d, mem_filter.mpr ⟨hd, decide_eq_true h⟩, rfl, hblocked⟩

end World

/-! ### Runs -/

/-- What the stage knows holds in the world. -/
structure Inv (c : Container) (w : World) (st : Stage) : Prop where
  base : ∀ base, st.base = some base → ∀ vd ∈ w.status.virtualDrives, vd ∈ base
  added : ∀ added, st.added = some added → w.status.addedDrives = added
  dropping : ∀ which ∈ st.dropping, which ∈ w.dropping
  gone : ∀ e ∈ w.proxy, ¬st.gone e
  node : st.dropping ≠ [] ∨ w.departed ≠ [] → c.nodeAffinity ≠ ""
  safe : ∀ vid ∈ w.departed, w.holds vid = true → w.blocks c vid = true ∨ st.pending = some vid

section Runs
variable {c : Container} {w w' : World} {st : Stage}

theorem Inv.learn (h : Inv c w st) {more : ProxyDrive → Prop} (fresh : ∀ e ∈ w.proxy, ¬more e) : Inv c w (st.learn more) :=
  ⟨h.base, h.added, h.dropping, fun e he hgone => hgone.elim (h.gone e he) (fresh e he), h.node, h.safe⟩

theorem Inv.erase (h : Inv c w st) (vids : List String) : Inv c (w.erase vids) st := by
  refine ⟨h.base, h.added, h.dropping, fun e he => h.gone e (mem_filter.mp he).1, h.node, fun vid hvid hheld => ?_⟩
  obtain ⟨hout, hheld⟩ := World.holds_erase.mp hheld
  rw [World.blocks_erase hout]
  exact h.safe vid hvid hheld

theorem Inv.unpend (h : Inv c w st) (safe : w.stranded c = false) : Inv c w { st with pending := none } := by
  refine ⟨h.base, h.added, h.dropping, h.gone, h.node, fun vid hvid hheld => .inl ?_⟩
  by_contra hb
  have : w.stranded c = true := any_eq_true.mpr ⟨vid, hvid, by simp [hheld, hb]⟩
  rw [safe] at this
  cases this

variable {status : Status} {uuid : String}

section
variable (h : Inv c w st)
include h

theorem Inv.write (allowed : st.allowed c (.updateStatus status)) (ok : w.dropsBlocked c = true)
    {added' : Option (List Drive)} (hadded' : ∀ a, added' = some a → status.addedDrives = a) :
    Inv c (w.write status) { st with added := added' } := by
  obtain ⟨b, a, hbase, hadded, hsub, hall⟩ := allowed
  -- a virtual drive that leaves with a VID on the proxy was dropped without an erase
  have leaving : ∀ vd ∈ w.status.virtualDrives, vd ∉ status.virtualDrives → ∀ vid ∈ w.vidsOf vd,
      w.blocks c vid = true ∧ c.nodeAffinity ≠ "" := by
    intro vd hvd hout vid hvid
    obtain ⟨e, he, rfl⟩ := mem_map.mp hvid
    obtain ⟨hmem, hof⟩ := mem_filter.mp he
    rcases hall vd (h.base b hbase vd hvd) with hin | ⟨which, hwhich, hun⟩ | hgone
    · exact absurd hin hout
    · rw [hadded, getD_some, ← h.added a hadded] at hun
      have all := all_eq_true.mp (all_eq_true.mp ok which (h.dropping which hwhich)) vd hvd
      simp only [hun, Bool.not_true, Bool.false_or] at all
      exact ⟨all_eq_true.mp all _ hvid, h.node (.inl (ne_nil_of_mem hwhich))⟩
    · exact absurd (hgone e hof) (h.gone e hmem)
  have departed : ∀ vid ∈ (w.write status).departed, vid ∈ w.departed ∨ w.blocks c vid = true ∧ c.nodeAffinity ≠ "" := by
    intro vid hvid
    rcases mem_append.mp hvid with hvid | hvid
    · exact .inl hvid
    · obtain ⟨vd, hvd, hvid⟩ := mem_flatMap.mp hvid
      obtain ⟨hvd, hout⟩ := mem_filter.mp hvd
      exact .inr (leaving vd hvd (of_decide_eq_true hout) vid hvid)
  refine ⟨?_, hadded', h.dropping, h.gone, ?_, fun vid hvid hheld => ?_⟩
  · intro base' hbase' vd hvd
    obtain rfl : b = base' := some.inj (hbase.symm.trans hbase')
    exact hsub vd hvd
  · rintro (hdropping | hdeparted)
    · exact h.node (.inl hdropping)
    · obtain ⟨vid, hvid⟩ := exists_mem_of_ne_nil _ hdeparted
      rcases departed vid hvid with hvid | hvid
      · exact h.node (.inr (ne_nil_of_mem hvid))
      · exact hvid.2
  · rcases departed vid hvid with hvid | hvid
    · exact h.safe vid hvid hheld
    · exact .inl hvid.1

theorem Inv.removeDrive (settled : st.Settled) : Inv c (w.removeDrive uuid) { st with pending := some uuid } := by
  refine ⟨h.base, h.added, h.dropping, h.gone, h.node, fun vid hvid hheld => ?_⟩
  by_cases hv : vid = uuid
  · exact .inr (congrArg some hv.symm)
  · rcases h.safe vid hvid hheld with hb | hp
    · exact .inl (World.blocks_removeDrive hv hb)
    · obtain ⟨e, he, hid⟩ := World.holds_iff.mp hheld
      exact absurd (settled vid hp e hid) (h.gone e he)

theorem Inv.removeDrive_failed (ok : ¬(uuid ∈ w.departed ∧ w.holds uuid = true)) : Inv c (w.removeDrive uuid) st := by
  refine ⟨h.base, h.added, h.dropping, h.gone, h.node, fun vid hvid hheld => ?_⟩
  have hv : vid ≠ uuid := by
    rintro rfl
    exact ok ⟨hvid, hheld⟩
  exact (h.safe vid hvid hheld).imp_left (World.blocks_removeDrive hv)

theorem perform_inv {op : Op} {r : op.Reply} {applied : Bool} (hallowed : st.allowed c op)
    (hok : accounted c w (.reply () op r applied) = true) (hp : w.perform op r applied = some w') :
    Inv c w' (st.next op r) := by
  have unpend : (!w.stranded c) = true → Inv c w { st with pending := none } := fun hs =>
    h.unpend (by simpa using hs)
  cases op with
  | load =>
    rcases r with e | ⟨status, health⟩
    · cases hp
      exact h
    · simp only [World.perform] at hp
      split at hp
      · rename_i same
        cases hp
        subst same
        refine ⟨?_, ?_, nofun, fun _ _ => id, fun hd => h.node (.inr (hd.elim (absurd rfl) id)), fun vid hvid hheld => ?_⟩
        · rintro _ ⟨⟩ vd hvd
          exact hvd
        · rintro _ ⟨⟩
          rfl
        · refine (h.safe vid hvid hheld).imp_right fun hpend => ?_
          rw [show st.pending = none from hallowed] at hpend
          cases hpend
      · cases hp
  | updateStatus status =>
    simp only [World.perform, some.injEq] at hp
    subst hp
    -- a failed write may have been applied
    have write : took r applied = true → ∀ added', (∀ a, added' = some a → status.addedDrives = a) →
        Inv c (w.write status) { st with added := added' } := by
      intro ht added' hadded'
      exact h.write hallowed (by simpa [accounted, ht] using hok) hadded'
    cases r with
    | ok _ => exact write rfl _ fun a ha => some.inj ha
    | error e =>
      have kept : ∀ a, (if st.added = some status.addedDrives then st.added else none) = some a →
          st.added = some a ∧ status.addedDrives = a := by
        intro a ha
        split at ha
        · rename_i same
          exact ⟨ha, some.inj (same.symm.trans ha)⟩
        · cases ha
      cases applied with
      | true => exact write rfl _ fun a ha => (kept a ha).2
      | false => exact ⟨h.base, fun a ha => h.added a (kept a ha).1, h.dropping, h.gone, h.node, h.safe⟩
  | removeDrive uuid =>
    simp only [World.perform, some.injEq] at hp
    subst hp
    cases r with
    | ok _ => exact h.removeDrive hallowed
    | error e =>
      cases applied with
      | true =>
        refine h.removeDrive_failed fun ⟨hd, hh⟩ => ?_
        simp [accounted, hd, hh] at hok
      | false => exact h
  | listVirtualDrives =>
    cases r with
    | error e =>
      cases hp
      exact unpend hok
    | ok vds =>
      obtain ⟨rfl, rfl⟩ := ite_some_none_eq_some.mp hp
      refine h.learn fun e he hout => hout ?_
      exact mem_map.mpr ⟨⟨e.virtualUUID, e.physicalUUID⟩, mem_map.mpr ⟨e, he, rfl⟩, rfl⟩
  | listPhysicalDrives =>
    cases r with
    | error e =>
      cases hp
      exact h
    | ok physical =>
      obtain ⟨all, rfl⟩ := ite_some_none_eq_some.mp hp
      exact h.learn fun e he hout => hout (of_decide_eq_true (all_eq_true.mp all e he))
  | removeVirtualDrive vid =>
    simp only [World.perform, some.injEq] at hp
    subst hp
    cases r with
    | ok _ =>
      refine (h.erase [vid]).learn fun e he hid => ?_
      exact of_decide_eq_true (mem_filter.mp he).2 (mem_singleton.mpr hid)
    | error e =>
      cases applied with
      | false => exact unpend hok
      | true =>
        -- what waited for the erase is gone
        have erased := h.erase [vid]
        refine ⟨erased.base, erased.added, erased.dropping, erased.gone, erased.node, fun v hv hheld => .inl ?_⟩
        rcases erased.safe v hv hheld with hb | hp
        · exact hb
        exfalso
        obtain ⟨e, he, rfl⟩ := World.holds_iff.mp hheld
        rcases hallowed with settled | hvid
        · exact erased.gone e he (settled e.virtualUUID hp e rfl)
        · have same : vid = e.virtualUUID := some.inj (hvid.symm.trans hp)
          exact of_decide_eq_true (mem_filter.mp he).2 (mem_singleton.mpr same.symm)
  | removeVirtualDriveByLabel label physical =>
    simp only [World.perform, some.injEq] at hp
    subst hp
    cases r with
    | ok _ =>
      refine (h.erase _).learn fun e he hid => ?_
      obtain ⟨hmem, hout⟩ := mem_filter.mp he
      exact of_decide_eq_true hout (mem_map.mpr ⟨e, mem_filter.mpr ⟨hmem, decide_eq_true hid⟩, rfl⟩)
    | error e =>
      cases applied with
      | true => exact h.erase _
      | false => exact h
  | getHandle handle =>
    cases hp
    cases r with
    | ok _ => exact h
    | error e => exact unpend hok
  | deallocating which =>
    cases hp
    refine ⟨h.base, h.added, fun which' hw => ?_, h.gone, fun _ => hallowed, h.safe⟩
    rcases mem_cons.mp hw with rfl | hw
    · exact mem_cons_self
    · exact mem_cons_of_mem _ (h.dropping which' hw)
  | listContainerDrives =>
    have same : w' = w := by
      cases r with
      | error e =>
        cases hp
        rfl
      | ok drives =>
        simp only [World.perform] at hp
        split at hp <;> cases hp
        rfl
    rw [same]
    exact h
  | getClusterDrive uuid =>
    have same : w' = w := by
      rcases r with ⟨_ | e⟩ | status
      · simp only [World.perform] at hp
        split at hp <;> cases hp
        rfl
      · cases hp
        rfl
      · simp only [World.perform] at hp
        split at hp <;> cases hp
        rfl
    rw [same]
    exact h
  | mapOrder drives =>
    simp only [World.perform] at hp
    split at hp <;> cases hp
    exact h
  | getNode | shouldRun step | deactivateDrive uuid =>
    cases hp
    exact h

theorem Inv.blocked (settled : st.Settled) : ∀ vid ∈ w.departed, w.holds vid = true → w.blocks c vid = true := by
  intro vid hvid hheld
  rcases h.safe vid hvid hheld with hb | hp
  · exact hb
  · obtain ⟨e, he, hid⟩ := World.holds_iff.mp hheld
    exact absurd (settled vid hp e hid) (h.gone e he)

theorem Inv.fresh (blocked : ∀ vid ∈ w.departed, w.holds vid = true → w.blocks c vid = true)
    (dropping : List Deallocation) : Inv c { w with dropping := dropping } {} := by
  refine ⟨?_, ?_, ?_, fun _ _ => id, ?_, fun vid hvid hheld => .inl (blocked vid hvid hheld)⟩
  · rintro _ ⟨⟩
  · rintro _ ⟨⟩
  · rintro _ ⟨⟩
  · rintro (hd | hd)
    · exact absurd rfl hd
    · exact h.node (.inr hd)

end

theorem settled_fresh : ({} : Stage).Settled := by
  rintro _ ⟨⟩

theorem departed_blocked (sharing : c.usesDriveSharing = true) (erases : c.skipVirtualDrivesRemoval = false)
    {cluster : List ClusterDrive} {proxy : List ProxyDrive} {s : SysState World Unit Op Op.Reply}
    (h : (system c).Reachable (accounted c) (World.initial status cluster proxy) s) (idle : s.threads () = .ret ()) :
    ∀ vid ∈ s.world.departed, s.world.holds vid = true → s.world.blocks c vid = true ∧ c.nodeAffinity ≠ "" := by
  have reached : ∃ st : Unit → Stage, Inv c s.world (st ()) ∧ ∀ i, (s.threads i).Conforms (protocol c) (fun _ st => st.Settled) (st i) := by
    refine conforms_of_reach (fun _ => protocol c) (fun w st => Inv c w (st ())) (fun _ => reconcile_conforms sharing erases)
      (fun _ => settled_fresh) ?_ ?_ ?_ ?_ nofun h
    · refine ⟨?_, ?_, ?_, fun _ _ => id, ?_, ?_⟩
      · rintro _ ⟨⟩
      · rintro _ ⟨⟩
      · rintro _ ⟨⟩
      · rintro (hd | hd) <;> exact absurd rfl hd
      · rintro _ ⟨⟩
    · intro i w st hinv settled _
      rw [Function.update_self]
      exact hinv.fresh (hinv.blocked settled) []
    · intro i w st hinv hok
      refine ⟨{}, settled_fresh, ?_⟩
      rw [Function.update_self]
      refine hinv.fresh (hinv.unpend (by simpa [accounted] using hok) |>.blocked ?_) w.dropping
      rintro _ ⟨⟩
    · intro i w st op r applied w' hinv hallowed hok hp
      rw [Function.update_self]
      exact ⟨trivial, perform_inv hinv hallowed hok hp⟩
  obtain ⟨st, inv, conforms⟩ := reached
  have settled := conforms ()
  rw [idle] at settled
  intro vid hvid hheld
  exact ⟨inv.blocked settled vid hvid hheld, inv.node (.inr (ne_nil_of_mem hvid))⟩

end Runs

end WekaOperator.DriveRemoval
