import Mathlib

/-! Collections as the source language uses them: grouping in first-seen order, a map whose iteration order is
    unspecified, integer ranges, and sums over the values of a map. -/

namespace WekaOperator.Lib

open List

/-! ### Grouping -/

section Grouping
variable {α κ : Type} [DecidableEq κ] (key : α → κ)

/-- Puts an element into the group of its key, or opens one at the end. -/
def groupInsert (a : α) : List (κ × List α) → List (κ × List α)
  | [] => [(key a, [a])]
  | g :: rest => if g.1 = key a then (g.1, g.2 ++ [a]) :: rest else g :: groupInsert a rest

/-- Groups a list by a key, in the order in which the keys first occur. -/
def groupBy (l : List α) : List (κ × List α) := l.foldl (fun acc a => groupInsert key a acc) []

theorem groupInsert_keys (a : α) (gs : List (κ × List α)) :
    (groupInsert key a gs).map Prod.fst = if key a ∈ gs.map Prod.fst then gs.map Prod.fst else gs.map Prod.fst ++ [key a] := by
  induction gs with
  | nil => simp [groupInsert]
  | cons g rest ih =>
    by_cases h : g.1 = key a
    · simp [groupInsert, h]
    · have h' : key a ≠ g.1 := fun e => h e.symm
      simp only [groupInsert, h, if_false, map_cons, ih, mem_cons, h', false_or]
      split <;> simp

variable {g : κ × List α}

theorem mem_groupInsert {a : α} {gs : List (κ × List α)} (h : g ∈ groupInsert key a gs) :
    ∀ x ∈ g.2, (x = a ∧ g.1 = key a) ∨ ∃ g' ∈ gs, g'.1 = g.1 ∧ x ∈ g'.2 := by
  induction gs with
  | nil =>
    simp only [groupInsert, mem_singleton] at h
    subst h
    intro x hx
    exact .inl ⟨mem_singleton.mp hx, rfl⟩
  | cons g₀ rest ih =>
    unfold groupInsert at h
    split at h
    · rename_i hk
      rcases mem_cons.mp h with rfl | h
      · intro x hx
        rcases mem_append.mp hx with hx | hx
        · exact .inr ⟨g₀, mem_cons_self, rfl, hx⟩
        · exact .inl ⟨mem_singleton.mp hx, hk⟩
      · intro x hx
        exact .inr ⟨g, mem_cons_of_mem _ h, rfl, hx⟩
    · rcases mem_cons.mp h with rfl | h
      · intro x hx
        exact .inr ⟨g, mem_cons_self, rfl, hx⟩
      · intro x hx
        rcases ih h x hx with hx | ⟨g', hg', hk, hx⟩
        · exact .inl hx
        · exact .inr ⟨g', mem_cons_of_mem _ hg', hk, hx⟩

theorem groupBy_snoc (l : List α) (a : α) : groupBy key (l ++ [a]) = groupInsert key a (groupBy key l) := by
  simp [groupBy]

theorem groupBy_keys (l : List α) :
    ((groupBy key l).map Prod.fst).Nodup ∧ ∀ k, k ∈ (groupBy key l).map Prod.fst ↔ k ∈ l.map key := by
  induction l using reverseRecOn with
  | nil => simp [groupBy]
  | append_singleton l a ih =>
    obtain ⟨nodup, mem⟩ := ih
    rw [groupBy_snoc, groupInsert_keys]
    split
    · rename_i h
      refine ⟨nodup, fun k => ?_⟩
      rw [mem k, map_append, mem_append]
      constructor
      · exact .inl
      · rintro (hk | hk)
        · exact hk
        · rw [map_singleton, mem_singleton] at hk
          rw [hk, ← mem]
          exact h
    · rename_i h
      refine ⟨nodup_append.mpr ⟨nodup, by simp, ?_⟩, fun k => ?_⟩
      · intro x hx y hy hxy
        rw [mem_singleton] at hy
        subst hy hxy
        exact h hx
      · rw [map_append, mem_append, mem_append, mem k]
        simp

theorem groupBy_length (l : List α) : (groupBy key l).length = (l.map key).toFinset.card := by
  obtain ⟨nodup, mem⟩ := groupBy_keys key l
  rw [← length_map (f := Prod.fst), ← toFinset_card_of_nodup nodup]
  congr 1
  ext k
  rw [mem_toFinset, mem_toFinset, mem k]

theorem mem_groupBy {l : List α} (h : g ∈ groupBy key l) : ∀ x ∈ g.2, x ∈ l ∧ g.1 = key x := by
  induction l using reverseRecOn generalizing g with
  | nil => simp [groupBy] at h
  | append_singleton l a ih =>
    rw [groupBy_snoc] at h
    intro x hx
    rcases mem_groupInsert key h x hx with ⟨rfl, hk⟩ | ⟨g', hg', hk, hx'⟩
    · exact ⟨by simp, hk⟩
    · obtain ⟨hl, hk'⟩ := ih hg' x hx'
      exact ⟨mem_append_left _ hl, hk ▸ hk'⟩

theorem groupInsert_members (a : α) (gs : List (κ × List α)) :
    ((groupInsert key a gs).flatMap (·.2)).Perm (a :: gs.flatMap (·.2)) := by
  induction gs with
  | nil => exact .refl _
  | cons g rest ih =>
    unfold groupInsert
    split
    · rw [flatMap_cons, flatMap_cons, append_assoc]
      exact perm_middle
    · rw [flatMap_cons, flatMap_cons]
      exact (ih.append_left _).trans perm_middle

theorem groupBy_members (l : List α) : ((groupBy key l).flatMap (·.2)).Perm l := by
  induction l using reverseRecOn with
  | nil => exact .refl _
  | append_singleton l a ih =>
    rw [groupBy_snoc]
    exact ((groupInsert_members key a _).trans (ih.cons a)).trans (perm_append_singleton a l).symm

theorem filter_classes_perm (f : α → κ) (p : α → Bool) (l : List α) (ks : List κ) (nodup : ks.Nodup) :
    (ks.flatMap fun k => l.filter fun a => p a && decide (f a = k)).Perm (l.filter fun a => p a && decide (f a ∈ ks)) := by
  induction ks with
  | nil => simp
  | cons k ks ih =>
    rw [nodup_cons] at nodup
    have split := filter_append_perm (fun a => decide (f a = k)) (l.filter fun a => p a && decide (f a ∈ k :: ks))
    rw [filter_filter, filter_filter] at split
    refine (List.Perm.append ?_ ((ih nodup.2).trans ?_)).trans split
    · refine .of_eq (filter_congr fun a _ => ?_)
      by_cases h : f a = k <;> simp [h]
    · refine .of_eq (filter_congr fun a _ => ?_)
      by_cases h : f a = k
      · simp [h, nodup.1]
      · simp [h]

end Grouping

/-! ### Columns -/

theorem filterMap_getElem?_range {α : Type} (l : List α) {n : Nat} (h : l.length ≤ n) :
    (List.range n).filterMap (l[·]?) = l := by
  induction l generalizing n with
  | nil => simp
  | cons a l ih =>
    cases n with
    | zero => cases h
    | succ n =>
      rw [range_succ_eq_map, filterMap_cons, filterMap_map]
      simp only [getElem?_cons_zero]
      congr 1
      exact ih (Nat.le_of_succ_le_succ h)

theorem columns_perm {α : Type} (ls : List (List α)) {n : Nat} (h : ∀ l ∈ ls, l.length ≤ n) :
    ((List.range n).flatMap fun i => ls.filterMap (·[i]?)).Perm ls.flatten := by
  induction ls with
  | nil => simp
  | cons l ls ih =>
    have hcons : ∀ i : Nat, (l :: ls).filterMap (·[i]?) = (l[i]?).toList ++ ls.filterMap (·[i]?) := by
      intro i
      rw [filterMap_cons]
      cases l[i]? <;> rfl
    have hl : (range n).flatMap (fun i => (l[i]?).toList) = l := by
      rw [← filterMap_eq_flatMap_toList]
      exact filterMap_getElem?_range l (h l mem_cons_self)
    simp only [hcons]
    refine (flatMap_append_perm _ _ _).symm.trans ?_
    rw [hl, flatten_cons]
    exact (ih fun l' hl' => h l' (mem_cons_of_mem _ hl')).append_left l

/-! ### Maps -/

variable {β κ ε : Type} {idx : Nat}

section Maps
variable {κ α : Type} [DecidableEq κ]

theorem lookup_insert_eq (m : AList fun _ : κ => α) (k j : κ) (v : α) :
    (m.insert k v).lookup j = if j = k then some v else m.lookup j := by
  split
  · rename_i h
    subst h
    exact AList.lookup_insert m
  · rename_i h
    exact AList.lookup_insert_ne h

theorem lookup_foldl_insert_of_notMem (key : β → κ) (val : β → α) (l : List β) (m : AList fun _ : κ => α) {k : κ}
    (h : k ∉ l.map key) : (l.foldl (fun m a => m.insert (key a) (val a)) m).lookup k = m.lookup k := by
  induction l generalizing m with
  | nil => rfl
  | cons a l ih =>
    rw [map_cons, mem_cons, not_or] at h
    rw [foldl_cons, ih _ h.2, lookup_insert_eq, if_neg h.1]

theorem lookup_foldl_insert (key : β → κ) (val : β → α) {l : List β} (nodup : (l.map key).Nodup)
    (m : AList fun _ : κ => α) {b : β} (hb : b ∈ l) :
    (l.foldl (fun m a => m.insert (key a) (val a)) m).lookup (key b) = some (val b) := by
  induction l generalizing m with
  | nil => cases hb
  | cons a l ih =>
    rw [map_cons, nodup_cons] at nodup
    rw [foldl_cons]
    rcases mem_cons.mp hb with rfl | hb
    · rw [lookup_foldl_insert_of_notMem key val l _ nodup.1, AList.lookup_insert]
    · exact ih nodup.2 _ hb

theorem lookup_foldl_insert_cases (key : β → κ) (val : β → α) (l : List β) (m : AList fun _ : κ => α) {k : κ} {v : α}
    (h : (l.foldl (fun m a => m.insert (key a) (val a)) m).lookup k = some v) :
    m.lookup k = some v ∨ ∃ a ∈ l, key a = k ∧ val a = v := by
  induction l generalizing m with
  | nil => exact .inl h
  | cons a l ih =>
    rcases ih _ h with h | ⟨b, hb, hrest⟩
    · rw [lookup_insert_eq] at h
      split at h
      · rename_i e
        cases h
        exact .inr ⟨a, mem_cons_self, e.symm, rfl⟩
      · exact .inl h
    · exact .inr ⟨b, mem_cons_of_mem _ hb, hrest⟩

theorem isSome_lookup_foldl_insert (key : β → κ) (val : β → α) (l : List β) (m : AList fun _ : κ => α) (k : κ) :
    ((l.foldl (fun m b => m.insert (key b) (val b)) m).lookup k).isSome =
      ((m.lookup k).isSome || decide (k ∈ l.map key)) := by
  induction l generalizing m with
  | nil => simp
  | cons b l ih =>
    rw [foldl_cons, ih, lookup_insert_eq]
    by_cases h : k = key b <;> simp [h]

theorem lookup_foldl_insert_eq (key : α → κ) {l : List α} (nodup : (l.map key).Nodup) (m : AList fun _ : κ => α) (k : κ) :
    (l.foldl (fun m a => m.insert (key a) a) m).lookup k = (l.find? fun a => key a = k).or (m.lookup k) := by
  cases hf : l.find? fun a => key a = k with
  | none =>
    rw [Option.none_or]
    refine lookup_foldl_insert_of_notMem key id l m fun hk => ?_
    obtain ⟨a, ha, hak⟩ := mem_map.mp hk
    exact find?_eq_none.mp hf a ha (decide_eq_true hak)
  | some a =>
    have hk : key a = k := by simpa using find?_some hf
    rw [← hk, Option.some_or]
    exact lookup_foldl_insert key id nodup m (mem_of_find?_eq_some hf)

variable {m : AList fun _ : κ => α} {name : α → κ}

theorem mem_entries_iff {e : Sigma fun _ : κ => α} : e ∈ m.entries ↔ m.lookup e.1 = some e.2 :=
  AList.mem_lookup_iff.symm

/-- The sum of a figure over the values of a map. -/
def valueSum (f : α → Int) (m : AList fun _ : κ => α) : Int := (m.entries.map fun e => f e.2).sum

theorem valueSum_eq_sum (f : α → Int) (m : AList fun _ : κ => α) (s : Finset κ) (hs : m.keys.toFinset ⊆ s) :
    valueSum f m = ∑ k ∈ s, (m.lookup k).elim 0 f := by
  have hkeys : valueSum f m = (m.keys.map fun k => (m.lookup k).elim 0 f).sum := by
    unfold valueSum AList.keys keys
    rw [map_map]
    congr 1
    apply map_congr_left
    intro e he
    rw [Function.comp_apply, mem_entries_iff.mp he]
    rfl
  rw [hkeys, ← sum_toFinset _ m.keys_nodup]
  apply Finset.sum_subset hs
  intro k _ hk
  rw [mem_toFinset, ← AList.mem_keys] at hk
  rw [AList.lookup_eq_none.mpr hk]
  rfl

theorem valueSum_congr {f g : α → Int} {m' : AList fun _ : κ => α}
    (h : ∀ k, (m.lookup k).elim 0 f = (m'.lookup k).elim 0 g) : valueSum f m = valueSum g m' := by
  rw [valueSum_eq_sum f m (m.keys.toFinset ∪ m'.keys.toFinset) Finset.subset_union_left,
    valueSum_eq_sum g m' (m.keys.toFinset ∪ m'.keys.toFinset) Finset.subset_union_right]
  exact Finset.sum_congr rfl fun k _ => h k

theorem find?_values (keyed : ∀ k v, m.lookup k = some v → name v = k) {l : List α} (h : l.Perm (m.entries.map (·.2)))
    (k : κ) : (l.find? fun v => name v = k) = m.lookup k := by
  have mem : ∀ v, v ∈ l ↔ m.lookup (name v) = some v := by
    intro v
    rw [h.mem_iff, mem_map]
    constructor
    · rintro ⟨e, he, rfl⟩
      have hl := mem_entries_iff.mp he
      rw [keyed _ _ hl, hl]
    · intro hl
      exact ⟨⟨name v, v⟩, mem_entries_iff.mpr hl, rfl⟩
  cases hl : m.lookup k with
  | none =>
    rw [find?_eq_none]
    intro v hv hk
    rw [decide_eq_true_eq] at hk
    rw [mem, hk, hl] at hv
    cases hv
  | some v =>
    have hv : v ∈ l := by rw [mem, keyed k v hl, hl]
    cases hf : l.find? fun v => name v = k with
    | none =>
      rw [find?_eq_none] at hf
      exact absurd (decide_eq_true (keyed k v hl)) (hf v hv)
    | some x =>
      have hk : name x = k := by simpa using find?_some hf
      have hx := (mem x).mp (mem_of_find?_eq_some hf)
      rw [hk, hl] at hx
      exact hx.symm

theorem values_perm {l : List α} (nodup : (l.map name).Nodup) (h : ∀ k, m.lookup k = l.find? fun v => name v = k) :
    (m.entries.map (·.2)).Perm l := by
  have keyed : ∀ e ∈ m.entries, name e.2 = e.1 := by
    intro e he
    have hl := mem_entries_iff.mp he
    rw [h] at hl
    simpa using find?_some hl
  have keys : (m.entries.map (·.2)).map name = m.keys := by
    rw [map_map]
    exact map_congr_left keyed
  refine (perm_ext_iff_of_nodup (.of_map name (keys ▸ m.keys_nodup)) (.of_map name nodup)).mpr ?_
  intro v
  rw [mem_map]
  constructor
  · rintro ⟨e, he, rfl⟩
    have hl := mem_entries_iff.mp he
    rw [h] at hl
    exact mem_of_find?_eq_some hl
  · intro hv
    refine ⟨⟨name v, v⟩, mem_entries_iff.mpr ?_, rfl⟩
    rw [h]
    cases hf : l.find? fun x => name x = name v with
    | none => exact absurd (decide_eq_true rfl) (find?_eq_none.mp hf v hv)
    | some x =>
      have hx : name x = name v := by simpa using find?_some hf
      rw [inj_on_of_nodup_map nodup (mem_of_find?_eq_some hf) hv hx]

end Maps

variable {α : Type}

variable {l known : List α} {R : α → β → Prop} {key : α → κ} {a a' b : α} {l' : List β} {x : Except ε α}
  {p q : α → Bool} {k : κ}

theorem forall₂_mem_left (h : List.Forall₂ R l l') (ha : a ∈ l) : ∃ b ∈ l', R a b := by
  induction h with
  | nil => cases ha
  | cons hr _ ih =>
    rcases mem_cons.mp ha with rfl | ha
    · exact ⟨_, mem_cons_self, hr⟩
    · obtain ⟨b, hb, hr⟩ := ih ha
      exact ⟨b, mem_cons_of_mem _ hb, hr⟩

theorem forall₂_mem_right (h : List.Forall₂ R l l') {b : β} (hb : b ∈ l') : ∃ a ∈ l, R a b :=
  forall₂_mem_left h.flip hb

theorem forall₂_set {R : α → α → Prop} (refl : ∀ a, R a a) {i : Nat} (ha : l[i]? = some a) (hr : R a a') :
    List.Forall₂ R l (l.set i a') := by
  induction l generalizing i with
  | nil => exact .nil
  | cons b l ih =>
    cases i with
    | zero =>
      cases ha
      exact .cons hr (forall₂_same.mpr fun b _ => refl b)
    | succ i => exact .cons (refl b) (ih ha)

theorem eq_of_length_le_one (h : l.length ≤ 1) (ha : a ∈ l) (hb : b ∈ l) : a = b := by
  obtain ⟨i, hi, rfl⟩ := mem_iff_getElem.mp ha
  obtain ⟨j, hj, rfl⟩ := mem_iff_getElem.mp hb
  have same : i = j := by omega
  subst same
  rfl

theorem length_filter_le_of_forall₂ {q : β → Bool} (passes : ∀ a b, R a b → q b = true → p a = true)
    (h : List.Forall₂ R l l') : (l'.filter q).length ≤ (l.filter p).length := by
  induction h with
  | nil => exact le_rfl
  | @cons a b _ _ hab _ ih =>
    by_cases hq : q b = true
    · rw [filter_cons_of_pos hq, filter_cons_of_pos (passes a b hab hq)]
      exact Nat.succ_le_succ ih
    · rw [filter_cons_of_neg hq, filter_cons]
      split
      · exact ih.trans (Nat.le_succ _)
      · exact ih

theorem filter_set_eq_singleton (none : ∀ b ∈ l, p b = false) (ha : l[idx]? = some a) (ha' : p a' = true) :
    (l.set idx a').filter p = [a'] := by
  induction l generalizing idx with
  | nil => cases ha
  | cons b l ih =>
    have rest : ∀ x ∈ l, p x = false := fun x hx => none x (mem_cons_of_mem _ hx)
    cases idx with
    | zero =>
      rw [set_cons_zero, filter_cons_of_pos ha', filter_eq_nil_iff.mpr (by simpa using rest)]
    | succ idx =>
      rw [set_cons_succ, filter_cons_of_neg (by simp [none b mem_cons_self])]
      exact ih rest ha

theorem mem_set_of_ne (ha : l[idx]? = some a) (hb : b ∈ l) (hne : b ≠ a) : b ∈ l.set idx a' := by
  obtain ⟨j, hj⟩ := mem_iff_getElem?.mp hb
  refine mem_iff_getElem?.mpr ⟨j, ?_⟩
  rw [getElem?_set_ne]
  · exact hj
  · rintro rfl
    rw [ha] at hj
    exact hne (Option.some.inj hj).symm

theorem find?_forall₂ {pa : α → Bool} {pb : β → Bool} (agree : ∀ a b, R a b → pb b = pa a) (h : List.Forall₂ R l l') :
    Option.Rel R (l.find? pa) (l'.find? pb) := by
  induction h with
  | nil => exact .none
  | @cons a b _ _ hab _ ih =>
    rw [find?_cons, find?_cons, agree a b hab]
    cases pa a with
    | true => exact .some hab
    | false => exact ih

theorem countP_or_of_disjoint (h : ∀ a ∈ l, p a = true → q a = true → False) :
    (l.countP fun a => p a || q a) = l.countP p + l.countP q := by
  induction l with
  | nil => rfl
  | cons a l ih =>
    have here := h a mem_cons_self
    rw [countP_cons, countP_cons, countP_cons, ih fun b mem => h b (mem_cons_of_mem _ mem)]
    cases hp : p a <;> cases hq : q a
    · simp
    · simp [add_assoc]
    · simp [add_right_comm]
    · exact (here hp hq).elim

theorem map_filter_eq_map_filter_iff {f : α → β} (more : ∀ a ∈ l, q a = true → p a = true) :
    (l.filter p).map f = (l.filter q).map f ↔ ∀ a ∈ l, p a = true → q a = true := by
  constructor
  · intro same a mem hp
    have again : (l.filter p).filter q = l.filter q := by
      rw [filter_filter]
      refine filter_congr fun a mem => ?_
      cases hq : q a with
      | true => simp [more a mem hq]
      | false => rfl
    have sub : (l.filter q).Sublist (l.filter p) := again ▸ filter_sublist
    have eq : l.filter q = l.filter p := sub.eq_of_length (by simpa using (congrArg length same).symm)
    have mem : a ∈ l.filter q := eq.symm ▸ mem_filter.mpr ⟨mem, hp⟩
    exact (mem_filter.mp mem).2
  · intro less
    rw [filter_congr fun a mem => Bool.eq_iff_iff.mpr ⟨less a mem, more a mem⟩]

/-! ### Texts -/

theorem toString_self (s : String) : toString s = s := rfl

/-! ### Keyed lists -/

/-- Replaces the element with the same key, or appends. -/
def upsert {α κ : Type} [DecidableEq κ] (key : α → κ) (a : α) : List α → List α
  | [] => [a]
  | b :: l => if key b = key a then a :: l else b :: upsert key a l

theorem upsert_keys [DecidableEq κ] (key : α → κ) (a : α) (l : List α) :
    (upsert key a l).map key = if key a ∈ l.map key then l.map key else l.map key ++ [key a] := by
  induction l with
  | nil => simp [upsert]
  | cons b l ih =>
    rw [upsert]
    split_ifs with hb hmem hmem
    · rw [map_cons, map_cons, hb]
    · exact absurd (hb ▸ mem_cons_self) hmem
    · have hl : key a ∈ l.map key := (mem_cons.mp hmem).resolve_left (Ne.symm hb)
      rw [map_cons, ih, if_pos hl, map_cons]
    · have hl : key a ∉ l.map key := fun h => hmem (mem_cons_of_mem _ h)
      rw [map_cons, ih, if_neg hl, map_cons, cons_append]

theorem mem_upsert_keys [DecidableEq κ] : k ∈ (upsert key a l).map key ↔ k ∈ l.map key ∨ k = key a := by
  rw [upsert_keys]
  split_ifs with h
  · exact ⟨.inl, fun hk => hk.elim id fun e => e ▸ h⟩
  · rw [mem_append, mem_singleton]

theorem nodup_upsert_keys [DecidableEq κ] (h : (l.map key).Nodup) : ((upsert key a l).map key).Nodup := by
  rw [upsert_keys]
  split_ifs with ha
  · exact h
  · exact nodup_append.mpr ⟨h, nodup_singleton _, fun k hk j hj e => ha (mem_singleton.mp hj ▸ e ▸ hk)⟩

theorem mem_foldl_upsert_keys [DecidableEq κ] :
    k ∈ (l.foldl (fun known a => upsert key a known) known).map key ↔ k ∈ known.map key ∨ k ∈ l.map key := by
  induction l generalizing known with
  | nil => simp
  | cons a l ih => rw [foldl_cons, ih, mem_upsert_keys, map_cons, mem_cons, or_assoc]

theorem nodup_foldl_upsert_keys [DecidableEq κ] (l : List α) (h : (known.map key).Nodup) :
    ((l.foldl (fun known a => upsert key a known) known).map key).Nodup := by
  induction l generalizing known with
  | nil => exact h
  | cons a l ih => exact ih (nodup_upsert_keys h)

/-- Appends those elements that are not there yet. -/
def appendNew {α : Type} [DecidableEq α] (acc l : List α) : List α :=
  l.foldl (fun acc a => if a ∈ acc then acc else acc ++ [a]) acc

theorem mem_appendNew [DecidableEq α] {acc : List α} : a ∈ appendNew acc l ↔ a ∈ acc ∨ a ∈ l := by
  unfold appendNew
  induction l generalizing acc with
  | nil => simp
  | cons b l ih =>
    rw [foldl_cons, ih, mem_cons]
    split_ifs with hb
    · exact ⟨fun h => h.imp_right .inr, fun h => h.elim .inl (.elim · (fun e => .inl (e ▸ hb)) .inr)⟩
    · rw [mem_append, mem_singleton, or_assoc]

/-! ### Iteration order -/

/-- An order in which a Go map may be iterated. -/
structure MapOrder (α : Type) where
  arrange : List α → List α
  perm : ∀ l, (arrange l).Perm l

/-- The order of the list itself. -/
def MapOrder.asListed {α : Type} : MapOrder α := ⟨id, fun l => List.Perm.refl l⟩

/-! ### Results -/

theorem ite_error_eq_ok {c : Prop} [Decidable c] {e : ε} : (if c then .error e else x) = .ok a ↔ ¬c ∧ x = .ok a := by
  split <;> simp [*]

theorem map_eq_of_forall₂ {γ : Type} {f : α → γ} {g : β → γ} (h : Forall₂ R l l') (eq : ∀ a b, R a b → g b = f a) :
    l'.map g = l.map f := by
  induction h with
  | nil => rfl
  | cons h _ ih => rw [map_cons, map_cons, ih, eq _ _ h]

theorem bind_eq_ok {f : α → Except ε β} {b : β} (h : x >>= f = .ok b) : ∃ a, x = .ok a ∧ f a = .ok b := by
  cases x with
  | error e => cases h
  | ok a => exact ⟨a, rfl, h⟩

theorem mapError_eq_ok {ε' : Type} {f : ε → ε'} (h : x.mapError f = .ok a) : x = .ok a := by
  cases x with
  | error e => cases h
  | ok b => exact congrArg Except.ok (Except.ok.inj h)

/-! ### Ranges -/

/-- The integers from `lo` to `hi`. -/
def intRange (lo hi : Int) : List Int := (List.range (hi - lo + 1).toNat).map fun i : Nat => lo + (i : Int)

theorem mem_intRange {lo hi k : Int} : k ∈ intRange lo hi ↔ lo ≤ k ∧ k ≤ hi := by
  simp only [intRange, mem_map, mem_range]
  constructor
  · rintro ⟨i, hi', rfl⟩
    omega
  · rintro ⟨h1, h2⟩
    exact ⟨(k - lo).toNat, by omega, by omega⟩

end WekaOperator.Lib
