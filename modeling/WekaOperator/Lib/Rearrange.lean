import WekaOperator.Lib.Collections

/-! What does not depend on the order of a list or of a map: a sort that no two elements tie in, what is made of the
    groups of a list, and whatever is read from a map by its keys. -/

namespace WekaOperator.Lib

open List

/-! ### Sorting -/

theorem insertionSort_eq_of_perm {α : Type} {r : α → α → Prop} [DecidableRel r] (total : ∀ a b, r a b ∨ r b a)
    (trans : ∀ a b c, r a b → r b c → r a c) {l l' : List α} (h : l.Perm l')
    (anti : ∀ a ∈ l, ∀ b ∈ l, r a b → r b a → a = b) : l.insertionSort r = l'.insertionSort r := by
  have : Std.Total r := ⟨total⟩
  have : IsTrans α r := ⟨trans⟩
  have hperm : (l.insertionSort r).Perm (l'.insertionSort r) :=
    (perm_insertionSort r l).trans (h.trans (perm_insertionSort r l').symm)
  refine List.Perm.eq_of_pairwise ?_ (pairwise_insertionSort r l) (pairwise_insertionSort r l') hperm
  intro a b ha hb
  exact anti a ((mem_insertionSort r).mp ha) b (h.mem_iff.mpr ((mem_insertionSort r).mp hb))

theorem insertionSort_key_eq {α κ : Type} [LinearOrder κ] (key : α → κ) {r : α → α → Prop} [DecidableRel r]
    (hr : ∀ a b, r a b ↔ key a ≤ key b) {l l' : List α} (h : l.Perm l') (nodup : (l.map key).Nodup) :
    l.insertionSort r = l'.insertionSort r := by
  refine insertionSort_eq_of_perm (fun a b => ?_) (fun a b c hab hbc => ?_) h fun a ha b hb hab hba => ?_
  · rw [hr, hr]
    exact le_total _ _
  · rw [hr] at hab hbc ⊢
    exact hab.trans hbc
  · rw [hr] at hab hba
    exact inj_on_of_nodup_map nodup ha hb (le_antisymm hab hba)

theorem eq_of_perm_of_length_le_one {α : Type} {l l' : List α} (h : l.Perm l') (hle : l.length ≤ 1) : l' = l := by
  cases l with
  | nil => exact h.nil_eq.symm
  | cons a rest =>
    have hrest : rest = [] := length_eq_zero_iff.mp (by rw [length_cons] at hle; omega)
    subst hrest
    exact perm_singleton.mp h.symm

/-! ### Groups -/

section Groups
variable {α κ : Type} [DecidableEq κ] {key : α → κ}
variable {g : κ × List α} {l : List α}

theorem groupBy_filter (hg : g ∈ groupBy key l) : g.2 = l.filter fun a => key a = g.1 := by
  have insert : ∀ (l : List α) (a : α) (gs : List (κ × List α)), (gs.map Prod.fst).Nodup →
      (∀ g ∈ gs, g.2 = l.filter fun a => key a = g.1) →
      (key a ∉ gs.map Prod.fst → l.filter (fun x => key x = key a) = []) →
      ∀ g ∈ groupInsert key a gs, g.2 = (l ++ [a]).filter fun x => key x = g.1 := by
    intro l a gs nodup hgs hnew g hg
    induction gs with
    | nil =>
      obtain rfl := mem_singleton.mp hg
      rw [filter_append, hnew (by simp), nil_append]
      simp
    | cons g₀ gs ih =>
      rw [map_cons, nodup_cons] at nodup
      unfold groupInsert at hg
      split at hg
      · rename_i hkey
        rcases mem_cons.mp hg with rfl | hg
        · rw [filter_append, ← hgs g₀ mem_cons_self]
          simp [hkey]
        · have hne : key a ≠ g.1 := fun e => nodup.1 (hkey.trans e ▸ mem_map_of_mem hg)
          rw [filter_append, ← hgs g (mem_cons_of_mem _ hg)]
          simp [hne]
      · rename_i hkey
        rcases mem_cons.mp hg with rfl | hg
        · rw [filter_append, ← hgs g mem_cons_self]
          simp [Ne.symm hkey]
        · refine ih nodup.2 (fun g' hg' => hgs g' (mem_cons_of_mem _ hg')) (fun hno => hnew ?_) hg
          rw [map_cons, mem_cons, not_or]
          exact ⟨Ne.symm hkey, hno⟩
  induction l using List.reverseRecOn generalizing g with
  | nil => cases hg
  | append_singleton l a ih =>
    rw [groupBy_snoc] at hg
    obtain ⟨nodup, mem⟩ := groupBy_keys key l
    refine insert l a _ nodup (fun g' hg' => ih hg') (fun hno => ?_) g hg
    rw [filter_eq_nil_iff]
    intro x hx hkey
    exact hno ((mem (key a)).mpr (mem_map.mpr ⟨x, hx, by simpa using hkey⟩))

theorem groupBy_ne_nil (hg : g ∈ groupBy key l) : g.2 ≠ [] := by
  obtain ⟨a, ha, hkey⟩ := mem_map.mp (((groupBy_keys key l).2 g.1).mp (mem_map_of_mem hg))
  rw [groupBy_filter hg]
  exact ne_nil_of_mem (mem_filter.mpr ⟨ha, decide_eq_true hkey⟩)

theorem groupBy_map_perm {β : Type} {f : κ × List α → β} (inv : ∀ k l l', l.Perm l' → f (k, l) = f (k, l')) {l l' : List α}
    (h : l.Perm l') : ((groupBy key l).map f).Perm ((groupBy key l').map f) := by
  have byKey : ∀ l : List α, (groupBy key l).map f =
      ((groupBy key l).map Prod.fst).map fun k => f (k, l.filter fun a => key a = k) := by
    intro l
    rw [map_map]
    refine map_congr_left fun g hg => ?_
    rw [Function.comp_apply, ← groupBy_filter hg]
  obtain ⟨nodup, mem⟩ := groupBy_keys key l
  obtain ⟨nodup', mem'⟩ := groupBy_keys key l'
  have hkeys : ((groupBy key l).map Prod.fst).Perm ((groupBy key l').map Prod.fst) := by
    rw [perm_ext_iff_of_nodup nodup nodup']
    intro k
    rw [mem, mem', (h.map key).mem_iff]
  have hsame : (fun k => f (k, l.filter fun a => key a = k)) = fun k => f (k, l'.filter fun a => key a = k) :=
    funext fun k => inv k _ _ (h.filter _)
  rw [byKey l, byKey l', hsame]
  exact hkeys.map _

end Groups

section Maps
variable {κ α : Type} [DecidableEq κ]

theorem entries_perm {m m' : AList fun _ : κ => α} (h : ∀ k, m'.lookup k = m.lookup k) : m.entries.Perm m'.entries :=
  lookup_ext m.nodupKeys m'.nodupKeys fun k v => by
    have := h k
    unfold AList.lookup at this
    rw [this]

theorem lookup_foldl_insert_perm {β : Type} (key : β → κ) (val : β → α) {l l' : List β} (h : l.Perm l')
    (nodup : (l.map key).Nodup) (k : κ) :
    (l'.foldl (fun m a => m.insert (key a) (val a)) (∅ : AList fun _ : κ => α)).lookup k =
      (l.foldl (fun m a => m.insert (key a) (val a)) (∅ : AList fun _ : κ => α)).lookup k := by
  have nodup' : (l'.map key).Nodup := (h.map key).nodup_iff.mp nodup
  by_cases hk : k ∈ l.map key
  · obtain ⟨b, hb, rfl⟩ := mem_map.mp hk
    rw [lookup_foldl_insert key val nodup _ hb, lookup_foldl_insert key val nodup' _ (h.mem_iff.mp hb)]
  · rw [lookup_foldl_insert_of_notMem key val l _ hk,
      lookup_foldl_insert_of_notMem key val l' _ fun hk' => hk ((h.map key).mem_iff.mpr hk')]

end Maps
/-- The distinct keys of a prefix, where the keys outside `c` come first and once each. -/
theorem card_take_spread {κ : Type} [DecidableEq κ] {c first rest : List κ} (nodup : first.Nodup) (fresh : ∀ k ∈ first, k ∉ c)
    (old : ∀ k ∈ rest, k ∈ c ++ first) (n : Nat) : (c ++ (first ++ rest).take n).toFinset.card =
      min (c.toFinset.card + n) (c ++ (first ++ rest)).toFinset.card := by
  have taken : ∀ n, (c ++ (first ++ rest).take n).toFinset.card = c.toFinset.card + min n first.length := by
    intro n
    have same : (c ++ (first ++ rest).take n).toFinset = (c ++ first.take n).toFinset := by
      rw [take_append, ← append_assoc, toFinset_append, Finset.union_eq_left]
      intro k hk
      rw [mem_toFinset] at hk ⊢
      have far : first.length < n := by
        by_contra near
        simp [Nat.sub_eq_zero_of_le (not_lt.mp near)] at hk
      rw [take_of_length_le far.le]
      exact old k (mem_of_mem_take hk)
    rw [same, toFinset_append, Finset.card_union_of_disjoint, toFinset_card_of_nodup (nodup.sublist (take_sublist ..)), length_take]
    rw [disjoint_toFinset_iff_disjoint]
    exact fun k hc hf => fresh k (mem_of_mem_take hf) hc
  have all := taken (first ++ rest).length
  rw [take_length, length_append] at all
  rw [taken, all]
  omega

end WekaOperator.Lib
