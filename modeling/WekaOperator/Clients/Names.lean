import WekaOperator.Lib.Collections
import WekaOperator.Lib.Reconciler
import WekaOperator.Planner.Types

/-! The names of the WekaClients' containers, which one namespace shares. -/

namespace WekaOperator.Clients
open Lib Planner

/-- A node by name and UID. -/
structure Node where
  name : String
  uid : String

variable (get : String → Except String Node) (labels : String → NameMap String)

/-- What the last `%s-%s` joins. -/
def nameParts (client nodeName : String) : Except String (String × String) :=
  if (client ++ "-" ++ nodeName).length ≤ 63 then .ok (client, nodeName) else
  match get nodeName with
  | .error err => .error ("failed to get node: " ++ err)
  | .ok nodeObj =>
    if nodeObj.name = "" then .error "node not found"
    else if (client ++ "-" ++ nodeObj.uid).length ≤ 63 then .ok (client, nodeObj.uid)
    -- a negative bound of the slice panics
    else if 62 < nodeObj.uid.length then .error "slice bounds out of range"
    else .ok (String.ofList (client.toList.take (62 - nodeObj.uid.length)), nodeObj.uid)

/-- The name of a client's container on a node. -/
def getClientContainerName (client nodeName : String) : Except String String :=
  (nameParts get client nodeName).map fun p => p.1 ++ "-" ++ p.2

/-! ### Containers -/

/-- A container and what it was created for. -/
structure Container where
  client : String
  node : String
  labels : NameMap String

/-- Entries of the new map that the old one does not have. -/
def mapMissingItems (original new : NameMap String) : List (Sigma fun _ : String => String) :=
  new.entries.filter fun e => (original.lookup e.1).isNone

/-- Adds the labels that are missing. -/
def updateClientLabels (expected : NameMap String) (found : Container) : Container :=
  { found with labels := (mapMissingItems found.labels expected).foldl (fun m e => m.insert e.1 e.2) found.labels }

/-- A container is ensured or deleted. -/
inductive Event
  | ensure (client node : String) (written : Bool)
  | delete (name : String)

/-- The containers after an event. -/
def step (s : NameMap Container) : Event → Option (NameMap Container)
  | .ensure client node written =>
    match getClientContainerName get client node with
    | .error _ => some s
    | .ok name =>
      if written = false then some s else
      match s.lookup name with
      | none => some (s.insert name { client, node, labels := labels client })
      | some found => some (s.insert name (updateClientLabels (labels client) found))
  | .delete name => some (s.erase name)

/-! ### Collisions -/

/-- Two pairs are cut apart at different hyphens of one name. -/
def Overlap (p q : String × String) : Prop :=
  p = q ∨ (∃ x, q.1 = p.1 ++ "-" ++ x ∧ p.2 = x ++ "-" ++ q.2) ∨ ∃ x, p.1 = q.1 ++ "-" ++ x ∧ q.2 = x ++ "-" ++ p.2

/-- The containers have different names. -/
def NamesDiffer (c n c' n' : String) : Prop :=
  ∀ name, getClientContainerName get c n = .ok name → getClientContainerName get c' n' ≠ .ok name

/-- The parts of the names do not overlap. -/
def Separate (c n c' n' : String) : Prop :=
  ∀ p q, nameParts get c n = .ok p → nameParts get c' n' = .ok q → ¬Overlap p q

theorem overlap_of_split {p q : String × String} {x : List Char} (h : q.1.toList = p.1.toList ++ x)
    (h' : '-' :: p.2.toList = x ++ '-' :: q.2.toList) :
    p = q ∨ ∃ x, q.1 = p.1 ++ "-" ++ x ∧ p.2 = x ++ "-" ++ q.2 := by
  cases x with
  | nil =>
    simp only [List.append_nil, List.nil_append, List.cons.injEq, true_and] at h h'
    exact .inl (Prod.ext (String.toList_inj.mp h.symm) (String.toList_inj.mp h'))
  | cons c x =>
    simp only [List.cons_append, List.cons.injEq] at h'
    obtain ⟨rfl, h'⟩ := h'
    exact .inr ⟨String.ofList x, String.toList_inj.mp (by simp [h]), String.toList_inj.mp (by simp [h'])⟩

theorem join_eq_iff {p q : String × String} : p.1 ++ "-" ++ p.2 = q.1 ++ "-" ++ q.2 ↔ Overlap p q := by
  constructor
  · intro h
    have chars : p.1.toList ++ '-' :: p.2.toList = q.1.toList ++ '-' :: q.2.toList := by
      simpa using congrArg String.toList h
    rcases List.append_eq_append_iff.mp chars with ⟨x, hx, hrest⟩ | ⟨x, hx, hrest⟩
    · exact (overlap_of_split hx hrest).imp_right .inl
    · exact (overlap_of_split hx hrest).imp Eq.symm .inr
  · rintro (rfl | ⟨x, hx, hrest⟩ | ⟨x, hx, hrest⟩)
    · rfl
    · simp only [hx, hrest, String.append_assoc]
    · simp only [hx, hrest, String.append_assoc]

variable {get labels}

theorem getClientContainerName_ok {c n name : String} : getClientContainerName get c n = .ok name ↔
    ∃ p, nameParts get c n = .ok p ∧ p.1 ++ "-" ++ p.2 = name := by
  unfold getClientContainerName
  cases nameParts get c n with
  | error err => simp [Except.map]
  | ok p => simp [Except.map]

theorem namesDiffer_iff {c n c' n' : String} : NamesDiffer get c n c' n' ↔ Separate get c n c' n' := by
  constructor
  · intro h p q hp hq overlap
    exact h _ (getClientContainerName_ok.mpr ⟨p, hp, rfl⟩)
      (getClientContainerName_ok.mpr ⟨q, hq, (join_eq_iff.mpr overlap).symm⟩)
  · intro h name hname hname'
    obtain ⟨p, hp, rfl⟩ := getClientContainerName_ok.mp hname
    obtain ⟨q, hq, same⟩ := getClientContainerName_ok.mp hname'
    exact h p q hp hq (join_eq_iff.mp same.symm)

/-- Every container stands under the name of the client and the node that it was created for. -/
def Named (get : String → Except String Node) (s : NameMap Container) : Prop :=
  ∀ name found, s.lookup name = some found → getClientContainerName get found.client found.node = .ok name

theorem Named.insert {s : NameMap Container} (h : Named get s) {name : String} {c : Container}
    (hc : getClientContainerName get c.client c.node = .ok name) : Named get (s.insert name c) := by
  intro k found hk
  rw [lookup_insert_eq] at hk
  split at hk
  · rename_i e
    cases hk
    rw [e]
    exact hc
  · exact h k found hk

theorem Named.step {s s' : NameMap Container} (h : Named get s) {e : Event} (hs : step get labels s e = some s') :
    Named get s' := by
  cases e with
  | delete name =>
    cases hs
    intro k found hk
    by_cases e : k = name
    · subst e
      rw [AList.lookup_erase] at hk
      cases hk
    · rw [AList.lookup_erase_ne e] at hk
      exact h k found hk
  | ensure client node written =>
    simp only [Clients.step] at hs
    split at hs
    · cases hs
      exact h
    rename_i name hname
    split at hs
    · cases hs
      exact h
    split at hs
    · cases hs
      exact h.insert hname
    · rename_i found hfound
      cases hs
      exact h.insert (h name found hfound)

/-- Names differ iff their parts do not overlap, and a client that overlaps with no container finds only its own. -/
theorem clients_apart (get : String → Except String Node) (labels : String → NameMap String) :
    (∀ c n c' n', NamesDiffer get c n c' n' ↔ Separate get c n c' n') ∧
      ∀ s, Reach (step get labels) (· = ∅) s → ∀ c n,
        (∀ k found, s.lookup k = some found → (found.client, found.node) ≠ (c, n) →
          Separate get c n found.client found.node) →
        ∀ name found, getClientContainerName get c n = .ok name → s.lookup name = some found →
          found.client = c ∧ found.node = n := by
  refine ⟨fun _ _ _ _ => namesDiffer_iff, fun s hs c n separate name found hname hfound => ?_⟩
  have named : Named get s := hs.invariant (fun _ e k found hk => by rw [e] at hk; cases hk) fun _ _ _ h => h.step
  by_contra other
  refine namesDiffer_iff.mpr (separate name found hfound fun e => other ?_) name hname (named name found hfound)
  simpa using e

def twoClients : NameMap Container :=
  ((∅ : NameMap Container).insert "a-n1" ⟨"a", "n1", ∅⟩).insert "b-n2" ⟨"b", "n2", ∅⟩

theorem clients_apart_two : let get := fun _ => Except.error "not found"
    Reach (step get fun _ => ∅) (· = ∅) twoClients ∧ Separate get "b" "n2" "a" "n1" ∧
      ∀ name found, getClientContainerName get "b" "n2" = .ok name → twoClients.lookup name = some found →
        found.client = "b" ∧ found.node = "n2" := by
  intro get
  have separate : Separate get "b" "n2" "a" "n1" := by
    rintro _ _ ⟨⟩ ⟨⟩ (same | ⟨x, longer, -⟩ | ⟨x, longer, -⟩)
    · simp at same
    all_goals simp [← String.toList_inj] at longer
  have reached : Reach (step get fun _ => ∅) (· = ∅) twoClients :=
    .step (.step (.init rfl) (.ensure "a" "n1" true) rfl) (.ensure "b" "n2" true) rfl
  refine ⟨reached, separate, (clients_apart get fun _ => ∅).2 _ reached "b" "n2" fun k found hk other => ?_⟩
  rw [twoClients, lookup_insert_eq, lookup_insert_eq] at hk
  split at hk
  · cases hk
    exact absurd rfl other
  split at hk
  · cases hk
    exact separate
  · cases hk

/-- The client `a-b` on the node `c` finds the container of the client `a` on the node `b-c`. -/
theorem clients_collide : let get := fun _ => Except.error "not found"
    ∃ s found, runEvents (step get fun _ => ∅) [.ensure "a" "b-c" true] ∅ = some s ∧
      getClientContainerName get "a-b" "c" = .ok "a-b-c" ∧ s.lookup "a-b-c" = some found ∧ found.client = "a" :=
  ⟨_, _, rfl, rfl, rfl, rfl⟩

end WekaOperator.Clients
