import WekaOperator.Allocator.Protocol

/-! No drive is given away twice as long as new allocations are written only while the list they were made from is
    still the latest. -/

namespace WekaOperator.Allocator
open List Bool Lib Planner Containers Operations World Function

/-! ### What containers hold -/

theorem claimedOn_flatMap {α : Type} (uuid : String) (l : List α) (f : α → List VirtualDrive) :
    claimedOn uuid (l.flatMap f) = (l.map fun a => claimedOn uuid (f a)).sum := by
  induction l with
  | nil => rfl
  | cons a l ih => rw [flatMap_cons, claimedOn_append, ih, map_cons, sum_cons]

theorem virtualDrivesOf_eq (containers : List WekaContainer) :
    virtualDrivesOf containers = (containers.map (·.allocations)).flatMap fun a => (a.getD {}).virtualDrives := by
  unfold virtualDrivesOf
  rw [flatMap_map]
  congr 1
  funext c
  cases c.allocations <;> rfl

theorem Adds.congr {node : AllocatorNodeInfo} {containers containers' : List WekaContainer} {held new : Allocations}
    (h : Adds node containers held new) (same : containers.map (·.allocations) = containers'.map (·.allocations)) :
    Adds node containers' held new := by
  obtain ⟨vds, hvds, hfits⟩ := h.shared
  refine ⟨fun serial hs => (h.drives serial hs).imp_right fun hfree c hc hmem => ?_, vds, hvds, ?_⟩
  · have ha : c.allocations ∈ containers.map (·.allocations) := same ▸ mem_map_of_mem hc
    obtain ⟨c', hc', heq⟩ := mem_map.mp ha
    exact hfree c' hc' (heq ▸ hmem)
  · unfold FitsOn at hfits ⊢
    rwa [virtualDrivesOf_eq, same, ← virtualDrivesOf_eq] at hfits

namespace World
variable {n : Nat} {node : AllocatorNodeInfo} {w : World n} {i : Fin n}

theorem list_allocations (w : World n) : w.list.map (·.allocations) = (List.finRange n).map w.allocations := by
  rw [list, map_map]
  rfl

theorem claimedOn_list (w : World n) (uuid : String) :
    claimedOn uuid (virtualDrivesOf w.list) = ∑ j, claimedOn uuid (w.held j).virtualDrives := by
  rw [virtualDrivesOf_eq, list_allocations, flatMap_map, claimedOn_flatMap, Fin.sum_univ_def]
  rfl

theorem allocations_write (leased : Bool) (a : Option Allocations) :
    (w.write i leased a).allocations = Function.update w.allocations i a := by
  funext j
  unfold allocations write
  by_cases hj : j = i
  · subst hj
    simp
  · simp [update_of_ne hj]

theorem version_write (leased : Bool) (a : Option Allocations) (j : Fin n) :
    (w.write i leased a).version j = if j = i then w.version i + 1 else w.version j := by
  unfold version write
  by_cases hj : j = i
  · subst hj
    simp [version]
  · simp [hj]

theorem held_write (leased : Bool) (a : Option Allocations) :
    (w.write i leased a).held = Function.update w.held i (a.getD {}) := by
  funext j
  unfold held
  rw [allocations_write]
  by_cases hj : j = i
  · subst hj
    simp
  · simp [update_of_ne hj]

theorem allocations_setSpec (i : Fin n) (spec : Spec) : (w.setSpec i spec).allocations = w.allocations := by
  funext j
  unfold allocations setSpec
  by_cases hj : j = i
  · subst hj
    simp
  · simp [update_of_ne hj]

theorem Exclusive.of_held {w' : World n} (h : w.Exclusive node) (same : w'.held = w.held) : w'.Exclusive node :=
  ⟨same ▸ h.drives, same ▸ h.shared⟩

theorem Exclusive.write (h : w.Exclusive node) {new : Allocations} (adds : Adds node w.list (w.held i) new) (leased : Bool) :
    (w.write i leased (some new)).Exclusive node := by
  have free : ∀ j, j ≠ i → ∀ serial ∈ new.drives, serial ∉ (w.held j).drives := by
    intro j hj serial hs hmem
    rcases adds.drives serial hs with hown | hfree
    · exact h.drives i j hj.symm serial hown hmem
    · exact hfree _ (mem_map_of_mem (mem_finRange j)) hmem
  refine ⟨fun j k hjk serial hj hk => ?_, fun d hd => ?_⟩
  · rw [held_write] at hj hk
    by_cases hji : j = i
    · subst hji
      rw [update_self] at hj
      rw [update_of_ne hjk.symm] at hk
      exact free k hjk.symm serial hj hk
    rw [update_of_ne hji] at hj
    by_cases hki : k = i
    · subst hki
      rw [update_self] at hk
      exact free j hji serial hk hj
    · rw [update_of_ne hki] at hk
      exact h.drives j k hjk serial hj hk
  · obtain ⟨vds, hvds, hfits⟩ := adds.shared
    have hsum := hfits d hd (by rw [claimedOn_list]; exact h.shared d hd)
    rw [claimedOn_list] at hsum
    have hclaimed : ∀ j, claimedOn d.physicalUUID ((w.write i leased (some new)).held j).virtualDrives =
        update (fun j => claimedOn d.physicalUUID (w.held j).virtualDrives) i
          (claimedOn d.physicalUUID new.virtualDrives) j := by
      intro j
      rw [held_write]
      by_cases hj : j = i
      · subst hj
        simp
      · simp [update_of_ne hj]
    rw [Finset.sum_congr rfl fun j _ => hclaimed j, Finset.sum_update_of_mem (Finset.mem_univ i),
      Finset.sdiff_singleton_eq_erase, hvds, claimedOn_append]
    rw [← Finset.add_sum_erase _ _ (Finset.mem_univ i)] at hsum
    omega

end World

/-! ### What a container relies on -/

/-- Nothing changes that container `j` relies on, unless its version or its missed writes show it. -/
structure Kept {n : Nat} (j : Fin n) (w w' : World n) : Prop where
  version : w.version j ≤ w'.version j
  own : w'.version j = w.version j → w'.allocations j = w.allocations j
  listed : w'.version j = w.version j → w'.missed j = [] → w.missed j = [] ∧ w'.allocations = w.allocations
  apart : w'.lease = some j → w.lease = some j ∧ (true ∈ w'.missed j → true ∈ w.missed j)

/-- What a container was told holds as long as its version is the latest and no write was missed. -/
structure Follows {n : Nat} (w : World n) (j : Fin n) (st : Stage) : Prop where
  bound : ∀ v, st.version = some v → v ≤ w.version j
  base : st.version = some (w.version j) → w.allocations j = st.base
  listed : ∀ cs, st.listed = some cs → st.version = some (w.version j) → w.missed j = [] →
    cs.map (·.allocations) = w.list.map (·.allocations)
  apart : st.leased = true → st.listed.isSome → w.lease = some j → true ∉ w.missed j

variable {leased : Bool} {s : Stage}

section Kept
variable {n : Nat} {i j : Fin n} {w w' : World n} {st : Stage}

theorem Kept.refl (j : Fin n) (w : World n) : Kept j w w := ⟨le_rfl, fun _ => rfl, fun _ h => ⟨h, rfl⟩, fun h => ⟨h, id⟩⟩

theorem Follows.kept (h : Follows w j st) (k : Kept j w w') : Follows w' j st := by
  have current : st.version = some (w'.version j) → w'.version j = w.version j := fun hv =>
    le_antisymm (h.bound _ hv) k.version
  refine ⟨fun v hv => (h.bound v hv).trans k.version, fun hv => ?_, fun cs hcs hv hm => ?_, fun hl hs hlease hmem => ?_⟩
  · rw [k.own (current hv)]
    exact h.base (current hv ▸ hv)
  · obtain ⟨hmissed, hsame⟩ := k.listed (current hv) hm
    rw [h.listed cs hcs (current hv ▸ hv) hmissed, list_allocations, list_allocations, hsame]
  · obtain ⟨hlease', hmissed⟩ := k.apart hlease
    exact h.apart hl hs hlease' (hmissed hmem)

theorem Kept.write (lease : leased = true → w.lease = some i) (a : Option Allocations) (j : Fin n) :
    Kept j w (w.write i leased a) := by
  by_cases hj : j = i
  · subst hj
    have hv : (w.write j leased a).version j = w.version j + 1 := by simp [version_write]
    have hm : (w.write j leased a).missed j = w.missed j := by simp [write]
    refine ⟨by omega, fun e => by omega, fun e => by omega, fun hl => ⟨hl, fun h => hm ▸ h⟩⟩
  · have hv : (w.write i leased a).version j = w.version j := by simp [version_write, hj]
    refine ⟨hv.ge, fun _ => ?_, fun _ hm => ?_, fun hl => ⟨hl, fun h => ?_⟩⟩
    · rw [allocations_write, update_of_ne hj]
    · by_cases ha : a = w.allocations i
      · refine ⟨by simpa [World.write, ha] using hm, ?_⟩
        rw [allocations_write, ha, update_eq_self]
      · simp [World.write, hj, ha] at hm
    · by_cases ha : a = w.allocations i
      · simpa [World.write, ha] using h
      · -- The lease is this container's, so the other write was not made under it.
        cases leased with
        | false => simpa [write, hj, ha] using h
        | true =>
          have hi := lease rfl
          have hl' : w.lease = some j := hl
          rw [hi, Option.some.injEq] at hl'
          exact absurd hl'.symm hj

theorem Kept.setSpec (spec : Spec) (j : Fin n) : Kept j w (w.setSpec i spec) := by
  have hall := World.allocations_setSpec (w := w) i spec
  refine ⟨?_, fun _ => by rw [hall], fun _ hm => ⟨hm, hall⟩, fun hl => ⟨hl, id⟩⟩
  unfold World.version World.setSpec
  by_cases hj : j = i
  · subst hj
    simp [World.version]
  · simp [Function.update_of_ne hj]

theorem Kept.lease {lease : Option (Fin n)} (h : lease = some j → w.lease = some j) : Kept j w { w with lease := lease } :=
  ⟨le_rfl, fun _ => rfl, fun _ hm => ⟨hm, rfl⟩, fun hl => ⟨h hl, id⟩⟩

end Kept

/-! ### Steps -/

/-- The invariant of the node's world. -/
structure Inv {n : Nat} (node : AllocatorNodeInfo) (w : World n) (st : Fin n → Stage) : Prop where
  exclusive : w.Exclusive node
  follows : ∀ j, Follows w j (st j)

section Steps
variable {n : Nat} {node : AllocatorNodeInfo} {i : Fin n} {w w' : World n} {st : Fin n → Stage}

theorem Inv.step (h : Inv node w st) (exclusive : w'.Exclusive node) (kept : ∀ j, j ≠ i → Kept j w w')
    (own : Follows w' i s) : Inv node w' (Function.update st i s) := by
  refine ⟨exclusive, fun j => ?_⟩
  by_cases hj : j = i
  · subst hj
    simpa using own
  · rw [update_of_ne hj]
    exact (h.follows j).kept (kept j hj)

theorem Inv.still (h : Inv node w st) (own : Follows w i s) : Inv node w (Function.update st i s) :=
  h.step h.exclusive (fun j _ => .refl j w) own

theorem Follows.fresh (w : World n) (j : Fin n) : Follows w j {} := ⟨nofun, nofun, nofun, nofun⟩

theorem eq_nil_of_bool {l : List Bool} (htrue : true ∉ l) (hfalse : false ∉ l) : l = [] := by
  refine eq_nil_iff_forall_not_mem.mpr fun b => ?_
  cases b
  · exact hfalse
  · exact htrue

theorem covered_iff : w.covered i leased = true ↔ leased = true ∧ w.lease = some i := by
  simp [covered]

theorem write_exclusive (h : Inv node w st) {version : Nat} {a : Option Allocations}
    (allowed : (st i).allowed node (.update leased version a)) (accepted : version = w.version i)
    (latest : a = w.allocations i ∨ if w.covered i leased then false ∉ w.missed i else w.missed i = []) (flag : Bool) :
    (w.write i flag a).Exclusive node := by
  obtain ⟨hversion, hleased, hoffers⟩ := allowed
  subst accepted
  have hbase := (h.follows i).base hversion
  have same : a = w.allocations i → (w.write i flag a).Exclusive node := by
    rintro rfl
    refine h.exclusive.of_held ?_
    rw [held_write]
    exact update_eq_self i w.held
  rcases hoffers with hoffers | ⟨containers, new, hlisted, rfl, hadds⟩
  · exact same (hoffers.trans hbase.symm)
  rcases latest with hlatest | hlatest
  · exact same hlatest
  have hmissed : w.missed i = [] := by
    by_cases hcovered : w.covered i leased = true
    · obtain ⟨hunder, hown⟩ := covered_iff.mp hcovered
      have hapart := (h.follows i).apart (hleased hunder) (by rw [hlisted]; rfl) hown
      exact eq_nil_of_bool hapart (by simpa [hcovered] using hlatest)
    · simpa [hcovered] using hlatest
  have hlist := (h.follows i).listed containers hlisted hversion hmissed
  have hheld : (st i).base.getD {} = w.held i := by rw [← hbase]; rfl
  exact h.exclusive.write (hheld ▸ hadds.congr hlist) flag

/-- The lease changes hands, and the list made before it is forgotten. -/
theorem Inv.acquire (h : Inv node w st) {r : Op.acquire.Reply} {applied : Bool}
    (hp : perform i w .acquire r applied = some w') : Inv node w' (Function.update st i ((st i).next .acquire r)) := by
  have follows := h.follows i
  have other : ∀ {lease : Option (Fin n)}, lease = w.lease ∨ lease = some i →
      ∀ j, j ≠ i → Kept j w { w with lease := lease } := by
    rintro lease hlease j hj
    refine .lease fun hl => ?_
    rcases hlease with rfl | rfl
    · exact hl
    · exact absurd (Option.some.inj hl).symm hj
  have forget : ∀ (lease : Option (Fin n)) (leased : Bool),
      Follows { w with lease := lease } i { st i with leased := leased, listed := none } :=
    fun lease leased => ⟨follows.bound, follows.base, nofun, nofun⟩
  simp only [perform] at hp
  have hnext : ∃ leased, (st i).next .acquire r = { st i with leased := leased, listed := none } := by
    cases r with
    | error e => exact ⟨false, rfl⟩
    | ok _ => exact ⟨true, rfl⟩
  obtain ⟨leased, hnext⟩ := hnext
  rw [hnext]
  split at hp
  · split at hp
    · cases hp
      have hex : World.Exclusive node { w with lease := some i } := h.exclusive.of_held rfl
      exact h.step hex (other (.inr rfl)) (forget _ _)
    · cases hp
  · cases hp
    exact h.step h.exclusive (other (.inl rfl)) (forget _ _)

theorem Inv.release (h : Inv node w st) {r : Op.release.Reply} {applied : Bool}
    (hp : perform i w .release r applied = some w') : Inv node w' (Function.update st i ((st i).next .release r)) := by
  have follows := h.follows i
  have own : ∀ w₁ : World n, Follows w₁ i (st i) → Follows w₁ i { st i with leased := false } :=
    fun w₁ h₁ => ⟨h₁.bound, h₁.base, h₁.listed, nofun⟩
  simp only [perform, Option.some.injEq] at hp
  split at hp
  · subst hp
    have released : ∀ j, Kept j w { w with lease := none } := fun j => .lease nofun
    have hex : World.Exclusive node { w with lease := none } := h.exclusive.of_held rfl
    exact h.step hex (fun j _ => released j) (own _ (follows.kept (released i)))
  · subst hp
    exact h.still (own _ follows)

theorem Inv.list (h : Inv node w st) {r : Op.list.Reply} {applied : Bool}
    (hp : perform i w .list r applied = some w') : Inv node w' (Function.update st i ((st i).next .list r)) := by
  have follows := h.follows i
  cases r with
  | error e =>
    cases hp
    exact h.still follows
  | ok containers =>
    obtain ⟨hlist, rfl⟩ := Option.ite_some_none_eq_some.mp hp
    have hex : World.Exclusive node { w with missed := update w.missed i [] } := h.exclusive.of_held rfl
    refine h.step hex (fun j hj => ?_) ⟨follows.bound, follows.base, ?_, ?_⟩
    · refine ⟨le_rfl, fun _ => rfl, fun _ hm => ⟨?_, rfl⟩, fun hl => ⟨hl, fun hm => ?_⟩⟩
      · simpa [update_of_ne hj] using hm
      · simpa [update_of_ne hj] using hm
    · rintro cs ⟨⟩ - -
      rw [hlist]
      rfl
    · intro _ _ _
      simp

theorem Inv.update (h : Inv node w st) {version : Nat} {a : Option Allocations} {r : (Op.update leased version a).Reply}
    {applied : Bool} (allowed : (st i).allowed node (.update leased version a))
    (guard : listedLatest w (.reply i (.update leased version a) r applied) = true)
    (hp : perform i w (.update leased version a) r applied = some w') :
    Inv node w' (Function.update st i ((st i).next (.update leased version a) r)) := by
  have follows := h.follows i
  have lease : w.covered i leased = true → w.lease = some i := fun hcovered => (covered_iff.mp hcovered).2
  cases r with
  | ok version' =>
    obtain ⟨⟨hacc, rfl⟩, rfl⟩ := Option.ite_some_none_eq_some.mp hp
    have latest : a = w.allocations i ∨ if w.covered i leased then false ∉ w.missed i else w.missed i = [] := by
      simpa [listedLatest, wrote, Except.isOk, Except.toBool] using guard
    have hv : (w.write i (w.covered i leased) a).version i = version + 1 := by
      rw [version_write, if_pos rfl, hacc]
    refine h.step (write_exclusive h allowed hacc latest _) (fun j _ => .write lease a j) ⟨?_, ?_, nofun, nofun⟩
    · rintro v ⟨⟩
      exact hv.ge
    · intro _
      rw [allocations_write, update_self]
      rfl
  | error e =>
    simp only [perform] at hp
    split at hp
    · split at hp
      · cases hp
        rename_i happlied hacc
        have latest : a = w.allocations i ∨ if w.covered i leased then false ∉ w.missed i else w.missed i = [] := by
          simpa [listedLatest, wrote, Except.isOk, Except.toBool, happlied] using guard
        refine h.step (write_exclusive h allowed hacc latest _) (fun j _ => .write lease a j) ?_
        exact follows.kept (.write lease a i)
      · cases hp
    · cases hp
      exact h.still follows

theorem perform_inv (h : Inv node w st) {op : Op} {r : op.Reply} {applied : Bool} (allowed : (st i).allowed node op)
    (guard : listedLatest w (.reply i op r applied) = true) (hp : perform i w op r applied = some w') :
    Inv node w' (Function.update st i ((st i).next op r)) := by
  have follows := h.follows i
  cases op with
  | get =>
    cases r with
    | error e =>
      cases hp
      exact h.still (.fresh w i)
    | ok read =>
      obtain ⟨container, version⟩ := read
      obtain ⟨hread, rfl⟩ := Option.ite_some_none_eq_some.mp hp
      have hle : version ≤ w.version i ∧ (version = w.version i → w.allocations i = container.allocations) := by
        rcases hread with hlt | heq
        · exact ⟨hlt.le, fun e => absurd e hlt.ne⟩
        · rw [World.version, World.allocations, heq]
          exact ⟨le_rfl, fun _ => rfl⟩
      refine h.still ⟨?_, fun hv => hle.2 (Option.some.inj hv), nofun, nofun⟩
      rintro v ⟨⟩
      exact hle.1
  | acquire => exact h.acquire hp
  | release => exact h.release hp
  | surroundings =>
    cases hp
    exact h.still follows
  | list => exact h.list hp
  | ports =>
    cases hp
    exact h.still follows
  | update leased version a => exact h.update allowed guard hp

end Steps

/-- In every run of the containers of a node in which new allocations are written only while the list they were made
    from is the latest, no drive is given away twice. -/
theorem allocations_exclusive {n : Nat} (node : AllocatorNodeInfo) (scaling : Bool) (writes : Nat)
    (containers : Fin n → WekaContainer) (uuids : (node.sharedDrives.map (·.physicalUUID)).Nodup)
    (capacities : ∀ d ∈ node.sharedDrives, 0 ≤ d.capacityGiB) {s : SysState (World n) (Fin n) Op Op.Reply}
    (h : (system n node scaling writes).Reachable listedLatest (World.initial containers) s) : s.world.Exclusive node := by
  have initial : (initial containers).Exclusive node := by
    refine ⟨fun _ _ _ serial hs => (by cases hs), fun d hd => ?_⟩
    have hzero : ∀ j, claimedOn d.physicalUUID ((initial containers).held j).virtualDrives = 0 := fun _ => rfl
    rw [Finset.sum_congr rfl fun j _ => hzero j, Finset.sum_const_zero]
    exact capacities d hd
  have env : ∀ (w : World n) st e w', Inv node w st → listedLatest w (.env e) = true →
      (system n node scaling writes).env w e = some w' → Inv node w' st := by
    intro w st e w' hinv _ he
    cases e with
    | setSpec i spec =>
      cases he
      refine ⟨hinv.exclusive.of_held ?_, fun j => (hinv.follows j).kept (.setSpec spec j)⟩
      funext j
      unfold held
      rw [allocations_setSpec]
    | expire =>
      cases he
      have hex : World.Exclusive node { w with lease := none } := hinv.exclusive.of_held rfl
      exact ⟨hex, fun j => (hinv.follows j).kept (.lease nofun)⟩
  obtain ⟨st, hinv⟩ := invariant_of_conforms (fun _ => protocol node) (Inv node) (fun _ => reconcile_conforms uuids scaling writes)
    ⟨initial, fun j => .fresh _ j⟩ (fun i w st hinv _ => hinv.still (.fresh w i))
    (fun i w st op r applied w' hinv hallowed hok hp => ⟨trivial, perform_inv hinv hallowed hok hp⟩) env h
  exact hinv.exclusive

/-! ### Two runs -/

def threeDrives : AllocatorNodeInfo :=
  { nodeName := "node-1", availableDrives := [⟨"S1", 100⟩, ⟨"S2", 100⟩, ⟨"S3", 100⟩] }

def asking (numDrives : Int) : Spec := { mode := .drive, numCores := 1, numDrives }

def pair (i : Fin 2) : WekaContainer :=
  { name := if i = 0 then "drive-0" else "drive-1", spec := asking 1, nodeAffinity := "node-1" }

def answer (i : Fin 2) (w : World 2) : (op : Op) → op.Reply
  | .get => .ok ((w.records i).container, w.version i)
  | .acquire => .ok ()
  | .release => .ok ()
  | .surroundings => .ok { uuid := fun _ => "" }
  | .list => .ok w.list
  | .ports => .ok ()
  | .update _ version _ => .ok (version + 1)

/-- Both containers get a drive, and the first one grows by another. -/
theorem allocations_exclusive_grown : ∃ s, (system 2 threeDrives false 1).Reachable listedLatest (World.initial pair) s ∧
    (s.world.held 0).drives = ["S1", "S3"] ∧ (s.world.held 1).drives = ["S2"] ∧ s.world.Exclusive threeDrives := by
  obtain ⟨s, hs, h0, h1⟩ : ∃ s, (system 2 threeDrives false 1).Reachable listedLatest (initial pair) s ∧
      (s.world.held 0).drives = ["S1", "S3"] ∧ (s.world.held 1).drives = ["S2"] :=
    System.Reachable.of_play [.pass 0 (answer 0) 20, .pass 1 (answer 1) 20, .event (.env (.setSpec 0 (asking 2))),
      .pass 0 (answer 0) 20] (by decide +kernel)
  exact ⟨s, hs, h0, h1, allocations_exclusive threeDrives false 1 pair (by decide) (fun _ hd => (by cases hd)) hs⟩

/-- The first container lists while it grows, the second one gets its drive, and the first one writes the same drive. -/
theorem allocations_overlap : ∃ s, (system 2 threeDrives false 1).Reachable (fun _ _ => true) (World.initial pair) s ∧
    (s.world.held 0).drives = ["S1", "S2"] ∧ (s.world.held 1).drives = ["S2"] ∧ ¬s.world.Exclusive threeDrives := by
  obtain ⟨s, hs, h0, h1⟩ : ∃ s, (system 2 threeDrives false 1).Reachable (fun _ _ => true) (initial pair) s ∧
      (s.world.held 0).drives = ["S1", "S2"] ∧ (s.world.held 1).drives = ["S2"] :=
    System.Reachable.of_play [.pass 0 (answer 0) 20, .event (.env (.setSpec 0 (asking 2))), .pass 0 (answer 0) 3,
      .pass 1 (answer 1) 20, .event (.reply 0 (.update false 4 (some { drives := ["S1", "S2"] })) (.ok 5) false)]
      (by decide +kernel)
  refine ⟨s, hs, h0, h1, fun hex => ?_⟩
  exact hex.drives 0 1 (by decide) "S2" (by rw [h0]; decide) (by rw [h1]; decide)

end WekaOperator.Allocator
