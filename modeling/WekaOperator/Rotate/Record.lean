import WekaOperator.Rotate.World

/-! What may be persisted of a rotation, what is known of its record in memory, and how merging the observed proxies
    keeps it: the entries name every unverified proxy in flight. -/

namespace WekaOperator.Rotate
open List Lib Operations

/-! ### The persisted record -/

/-- A record that may be stored: one in flight, and no patched proxy without it. -/
structure Writable (w : World) (l : List NodeState) (image : String) : Prop where
  single : (l.filter (·.phase = .inFlight)).length ≤ 1
  held : w.unverified ≠ [] → ∃ n ∈ l, n.phase = .inFlight
  image : (∃ n ∈ l, n.phase = .inFlight) → image ≠ ""

/-- The stored record is such, and so was every patch. -/
structure Sound (w : World) : Prop where
  record : Writable w w.entries (w.result.getD {}).targetImage
  patches : ∀ p ∈ w.patches, p.pendingOthers = []

/-- Nothing new is unverified. -/
structure Kept (w w' : World) : Prop where
  result : w'.result = w.result
  unverified : ∀ q ∈ w'.unverified, q ∈ w.unverified

variable {w w' : World}

theorem Kept.entries (h : Kept w w') : w'.entries = w.entries := by
  unfold World.entries
  rw [h.result]

theorem Kept.record (h : Kept w w') : w'.result.getD {} = w.result.getD {} := by
  rw [h.result]

theorem Kept.unverified_ne_nil (h : Kept w w') (hne : w'.unverified ≠ []) : w.unverified ≠ [] := by
  obtain ⟨q, hq⟩ := exists_mem_of_ne_nil _ hne
  exact ne_nil_of_mem (h.unverified q hq)

/-! ### What is known of the record in memory -/

/-- The entry in flight is that of the unverified proxy. -/
structure Tracks (w : World) (l : List NodeState) : Prop where
  single : (l.filter (·.phase = .inFlight)).length ≤ 1
  named : ∀ q ∈ w.unverified, ∃ n ∈ l, n.phase = .inFlight ∧ n.proxyName = q
  lands : (∃ n ∈ l, n.phase = .inFlight) → ∃ n ∈ w.entries, n.phase = .inFlight

variable {l : List NodeState}

theorem Tracks.kept (h : Tracks w l) (hk : Kept w w') : Tracks w' l where
  single := h.single
  named q hq := h.named q (hk.unverified q hq)
  lands hn := hk.entries ▸ h.lands hn

variable {image : String}

theorem Writable.kept (h : Writable w l image) (hk : Kept w w') :
    Writable w' l image := ⟨h.single, fun hne => h.held (hk.unverified_ne_nil hne), h.image⟩

theorem Tracks.writable (h : Tracks w l) (hi : image ≠ "") :
    Writable w l image := by
  refine ⟨h.single, fun hne => ?_, fun _ => hi⟩
  obtain ⟨q, hq⟩ := exists_mem_of_ne_nil _ hne
  obtain ⟨n, hn, flying, -⟩ := h.named q hq
  exact ⟨n, hn, flying⟩

theorem Tracks.alike {l' : List NodeState} (h : Tracks w l)
    (alike : List.Forall₂ (fun a b : NodeState => b.phase = a.phase ∧ b.proxyName = a.proxyName) l l') : Tracks w l' := by
  refine ⟨le_trans (length_filter_le_of_forall₂ (fun a b hab => ?_) alike) h.single, fun q hq => ?_, fun hn => ?_⟩
  · rw [hab.1]
    exact id
  · obtain ⟨a, ha, flying, name⟩ := h.named q hq
    obtain ⟨b, hb, phase', name'⟩ := forall₂_mem_left alike ha
    exact ⟨b, hb, phase'.trans flying, name'.trans name⟩
  · obtain ⟨b, hb, flying⟩ := hn
    obtain ⟨a, ha, phase', -⟩ := forall₂_mem_right alike hb
    exact h.lands ⟨a, ha, phase'.symm.trans flying⟩

variable {n : NodeState}

theorem eq_of_inFlight (single : (l.filter (·.phase = .inFlight)).length ≤ 1) {m : NodeState}
    (hn : n ∈ l) (hm : m ∈ l) (flying : n.phase = .inFlight) (flying' : m.phase = .inFlight) : n = m := by
  have hn' : n ∈ l.filter (·.phase = .inFlight) := mem_filter.mpr ⟨hn, by simpa using flying⟩
  have hm' : m ∈ l.filter (·.phase = .inFlight) := mem_filter.mpr ⟨hm, by simpa using flying'⟩
  exact eq_of_length_le_one single hn' hm'

theorem Tracks.unverified_eq (h : Tracks w l) (hn : n ∈ l)
    (flying : n.phase = .inFlight) : ∀ q ∈ w.unverified, q = n.proxyName := by
  intro q hq
  obtain ⟨m, hm, flying', rfl⟩ := h.named q hq
  rw [eq_of_inFlight h.single hm hn flying' flying]

theorem Tracks.unverified_nil (h : Tracks w l) (idle : ∀ n ∈ l, n.phase ≠ .inFlight) :
    w.unverified = [] := by
  rw [eq_nil_iff_forall_not_mem]
  intro q hq
  obtain ⟨n, hn, flying, -⟩ := h.named q hq
  exact idle n hn flying

/-! ### Merging the observed proxies -/

variable {previous : List NodeState}

theorem priorByNode_mem {node : String} (h : priorByNode previous node = some n) :
    n ∈ previous ∧ n.node = node := by
  obtain ⟨hn, same⟩ := mem_filter.mp (mem_of_getLast? h)
  exact ⟨hn, of_decide_eq_true same⟩

variable {t : ListedProxy}

theorem mergeTarget_inFlight (h : (mergeTarget previous image t).phase = .inFlight) :
    ∃ n ∈ previous, n.node = t.node ∧ n.phase = .inFlight := by
  unfold mergeTarget at h
  dsimp only at h
  split at h
  · cases h
  split at h
  · cases h
  cases hp : priorByNode previous t.node with
  | none =>
    rw [hp] at h
    cases h
  | some n =>
    rw [hp] at h
    obtain ⟨hn, same⟩ := priorByNode_mem hp
    exact ⟨n, hn, same, h⟩

theorem mergeTarget_kept (prior : priorByNode previous t.node = some n) (flying : n.phase = .inFlight)
    (patched : t.image ≠ image ∨ n.previousImage ≠ "") :
    (mergeTarget previous image t).phase = .inFlight ∧ (mergeTarget previous image t).proxyName = t.name := by
  unfold mergeTarget
  rw [prior, Option.getD_some]
  rw [if_neg, if_neg]
  · exact ⟨flying, rfl⟩
  · rw [flying]
    nofun
  · rintro ⟨image', never⟩
    rcases patched with h | h
    · exact h image'
    · exact h never

theorem sortNodes_perm (order : MapOrder NodeState) (l : List NodeState) : (sortNodes order l).Perm l :=
  (perm_insertionSort _ _).trans (order.perm l)

variable {targets : List ListedProxy}

theorem merge_single (sound : Sound w) (keeps : keepsInFlight w targets = true) (image : String) :
    ((mergeCampaignNodes w.entries targets image).filter (·.phase = .inFlight)).length ≤ 1 := by
  unfold mergeCampaignNodes
  rw [filter_map, length_map]
  set flies : ListedProxy → Bool := (fun n : NodeState => decide (n.phase = .inFlight)) ∘ mergeTarget w.entries image
    with hflies
  rcases hl : targets.filter flies with _ | ⟨t, rest⟩
  · exact Nat.zero_le _
  have ht : flies t = true := (mem_filter.mp (hl ▸ mem_cons_self : t ∈ targets.filter flies)).2
  obtain ⟨n, hn, node, flying⟩ := mergeTarget_inFlight (of_decide_eq_true ht)
  have here : ∀ t', flies t' = true → decide (t'.node = n.node) = true := by
    intro t' ht'
    obtain ⟨m, hm, node', flying'⟩ := mergeTarget_inFlight (of_decide_eq_true ht')
    rw [decide_eq_true_eq, ← node', eq_of_inFlight sound.record.single hm hn flying' flying]
  have few : (targets.filter (·.node = n.node)).length ≤ 1 := by
    have := all_eq_true.mp keeps n (mem_filter.mpr ⟨hn, by simpa using flying⟩)
    exact (of_decide_eq_true this).1
  rw [← hl]
  exact (monotone_filter_right targets here).length_le.trans few

theorem Tracks.merge (sound : Sound w) (keeps : keepsInFlight w targets = true) (order : MapOrder NodeState)
    (same : (w.result.getD {}).targetImage ≠ "" → image = (w.result.getD {}).targetImage) :
    Tracks w (sortNodes order (mergeCampaignNodes w.entries targets image)) := by
  have perm := sortNodes_perm order (mergeCampaignNodes w.entries targets image)
  refine ⟨?_, fun q hq => ?_, ?_⟩
  · rw [(perm.filter _).length_eq]
    exact merge_single sound keeps image
  · obtain ⟨n, hn, flying⟩ := sound.record.held (ne_nil_of_mem hq)
    have kept := (of_decide_eq_true (all_eq_true.mp keeps n (mem_filter.mpr ⟨hn, by simpa using flying⟩))).2
    obtain ⟨prior, found⟩ := of_decide_eq_true (all_eq_true.mp kept q hq)
    obtain ⟨t, ht, facts⟩ := any_eq_true.mp found
    obtain ⟨node, name, patched⟩ := of_decide_eq_true facts
    rw [← same (sound.record.image ⟨n, hn, flying⟩)] at patched
    rw [← node] at prior
    obtain ⟨phase, name'⟩ := mergeTarget_kept prior flying patched
    exact ⟨_, perm.mem_iff.mpr (mem_map_of_mem ht), phase, name'.trans name⟩
  · rintro ⟨m, hm, flying⟩
    obtain ⟨t, -, rfl⟩ := mem_map.mp (perm.mem_iff.mp hm)
    obtain ⟨n, hn, -, flying⟩ := mergeTarget_inFlight flying
    exact ⟨n, hn, flying⟩

end WekaOperator.Rotate
