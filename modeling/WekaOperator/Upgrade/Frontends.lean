import WekaOperator.Containers.Spec
import WekaOperator.Lib.Reconciler

/-! The frontend containers of one node, each moving its pod to the image of its spec (`funcs_image_upgrade.go`,
    `ensurePod` and `handleImageMismatch` of `funcs_pod_ensure.go`, `applyCurrentImage`). -/

namespace WekaOperator.Frontends
open Option Lib Containers

/-- The pod of a container. -/
structure Pod where
  image : String
  terminating : Bool := false
  deriving DecidableEq, Repr

/-- A container on a node with frontends. -/
structure Frontend where
  name : String
  mode : Mode
  dataServicesFeCores : Int := 0
  image : String
  lastAppliedImage : String
  allowHotUpgrade : Bool := false
  upgradeForceReplace : Bool := false
  manualPolicy : Bool := false
  joined : Bool := true
  skipActiveMountsCheck : Bool := false
  activeMounts : Except String (Option Int) := .ok none
  pod : Option Pod
  deriving DecidableEq, Repr

namespace Frontend
variable (c : Frontend)

/-- The container has a frontend process. -/
def hasFrontend : Bool :=
  if c.mode = .dataServices then c.dataServicesFeCores > 0 else c.mode ∈ [.s3, .client, .nfs, .smbw]

/-- It serves a protocol. -/
def isProtocolContainer : Bool := c.mode ∈ [.s3, .nfs, .smbw, .dataServices]

/-- Its image is to be changed. -/
def isNotAlignedImage : Bool := c.lastAppliedImage ≠ c.image

/-- Active mounts do not hold it back. -/
def noActiveMountsRestriction : Except String Bool :=
  if c.isProtocolContainer then .ok true
  else if !c.joined then .ok true
  else if c.skipActiveMountsCheck then .ok true
  else
    match c.activeMounts with
    | .error e => .error e
    | .ok none => .ok true
    | .ok (some mounts) => if mounts ≠ 0 then .error s!"{mounts} mounts are still active" else .ok true

end Frontend

/-- The modes that are looked up. -/
def containerModesWithFrontend : List Mode := [.nfs, .s3, .client, .smbw]

/-- A node and its containers. -/
structure Node (n : Nat) where
  name : String
  frontends : Fin n → Frontend

namespace Node
variable {n : Nat} (w : Node n)

/-- The pods that are found. -/
def getFrontendPodsOnNode : List (Fin n × Pod) :=
  (List.finRange n).filterMap fun j =>
    if (w.frontends j).mode ∈ containerModesWithFrontend then (w.frontends j).pod.map (j, ·) else none

/-- Whether the container may be upgraded now. -/
def upgradeConditionsPass (i : Fin n) : Except String Bool :=
  let c := w.frontends i
  if !c.hasFrontend then .ok true
  else if c.lastAppliedImage = "" then .ok true
  else if c.allowHotUpgrade then .ok true
  else
    match c.noActiveMountsRestriction with
    | .error e => .error e
    | .ok false => .ok false
    | .ok true =>
      match w.getFrontendPodsOnNode.find? fun (j, pod) => j ≠ i ∧ pod.image ≠ c.image with
      | some (j, pod) =>
        let other := (w.frontends j).name
        let node := w.name
        let image := pod.image
        .error s!"pod {other} on same node {node} has different image {image}"
      | none => .ok true

/-- The image of a new pod. -/
def newPodImage (i : Fin n) : String :=
  let c := w.frontends i
  if c.isNotAlignedImage && !c.upgradeForceReplace then
    match w.upgradeConditionsPass i with
    | .ok true => c.image
    | _ => c.lastAppliedImage
  else c.image

/-- What becomes of the pod. -/
inductive Verdict
  | keep
  | deletePod
  deriving DecidableEq, Repr

/-- Why weka is not prepared. -/
inductive PrepareError
  | noWekaFsDriverFound
  | other (text : String)

/-- Handles a change of the image. -/
def handleImageUpdate (i : Fin n) (pod : Pod) (prepare : Except PrepareError Unit) : Except String Verdict :=
  let c := w.frontends i
  if !c.isNotAlignedImage then .ok .keep
  else if c.upgradeForceReplace then
    if pod.terminating then .error "Pod is being deleted, waiting"
    else if pod.image = c.image then .ok .keep
    else .ok .deletePod
  else
    match w.upgradeConditionsPass i with
    | .error e => .error s!"cannot upgrade: {e}"
    | .ok false => .error "cannot upgrade: %!w(<nil>)"
    | .ok true =>
      if pod.image ≠ c.image then
        match (if c.hasFrontend then prepare else .ok ()) with
        | .error .noWekaFsDriverFound => .ok .deletePod
        | .error (.other e) => .error e
        | .ok () => if c.mode = .client ∧ c.manualPolicy then .ok .keep else .ok .deletePod
      else if pod.terminating then .error "Pod is being deleted, waiting"
      else .ok .keep

/-- Handles a pod of another image. -/
def handleImageMismatch (i : Fin n) (pod : Pod) (prepare : Except PrepareError Unit) : Except String Verdict :=
  if (w.frontends i).lastAppliedImage ≠ "" ∧ (w.frontends i).isNotAlignedImage then w.handleImageUpdate i pod prepare
  else .ok .keep

/-! ### Runs -/

/-- What happens on a node. -/
inductive Event (n : Nat)
  | handleImageMismatch (i : Fin n) (prepare : Except PrepareError Unit)
  | ensurePod (i : Fin n)
  | applyCurrentImage (i : Fin n)
  | podGone (i : Fin n)
  | deleteByUser (i : Fin n)

/-- Replaces a container. -/
def set (i : Fin n) (c : Frontend) : Node n := { w with frontends := Function.update w.frontends i c }

/-- Replaces a pod. -/
def setPod (i : Fin n) (pod : Option Pod) : Node n := w.set i { w.frontends i with pod }

/-- Every container has a pod that stays. -/
def allPodsUp : Bool := decide (∀ i, (w.frontends i).pod.any (!·.terminating) = true)

/-- The node after an event. -/
def step : Event n → Option (Node n)
  | .handleImageMismatch i prepare =>
    (w.frontends i).pod.map fun pod =>
      match w.handleImageMismatch i pod prepare with
      | .ok .deletePod => w.setPod i (some { pod with terminating := true })
      | _ => w
  | .ensurePod i =>
    match (w.frontends i).pod with
    | some _ => none
    | none => some (w.setPod i (some { image := w.newPodImage i }))
  | .applyCurrentImage i =>
    match (w.frontends i).pod with
    | none => none
    | some pod =>
      if (w.frontends i).isNotAlignedImage ∧ pod.image = (w.frontends i).image then
        some (w.set i { w.frontends i with lastAppliedImage := (w.frontends i).image })
      else some w
  | .podGone i => if (w.frontends i).pod.any (·.terminating) then some (w.setPod i none) else none
  | .deleteByUser i =>
    if w.allPodsUp then
      (w.frontends i).pod.map fun pod => w.setPod i (some { pod with terminating := true })
    else none

/-! ### Waiting for each other -/

/-- The container is upgraded to the image, in the normal way. -/
structure Upgrading (image : String) (c : Frontend) : Prop where
  frontend : c.hasFrontend = true
  image : c.image = image
  notHot : c.allowHotUpgrade = false
  notForced : c.upgradeForceReplace = false
  unmounted : c.activeMounts = .ok none ∨ c.activeMounts = .ok (some 0)

/-- Its pod has another image. -/
def behind (i : Fin n) : Bool := (w.frontends i).pod.any (·.image ≠ (w.frontends i).image)

/-- Its pod is looked up. -/
def seen (i : Fin n) : Bool := (w.frontends i).mode ∈ containerModesWithFrontend

/-- If a pod is behind, one of those may be upgraded. -/
def Unblocked : Prop := (∃ i, w.behind i = true) → ∃ i, w.behind i = true ∧ w.upgradeConditionsPass i = .ok true

variable {image : String} {e : Event n}

theorem upgradeConditionsPass_iff {w : Node n} (up : ∀ i, Upgrading image (w.frontends i)) (i : Fin n) :
    w.upgradeConditionsPass i = .ok true ↔
      (w.frontends i).lastAppliedImage = "" ∨ ∀ j, j ≠ i → w.seen j = true → w.behind j = false := by
  have mounts : (w.frontends i).noActiveMountsRestriction = .ok true := by
    unfold Frontend.noActiveMountsRestriction
    rcases (up i).unmounted with none | zero
    · simp [none]
    · simp [zero]
  have others : (w.getFrontendPodsOnNode.find? fun x => x.1 ≠ i ∧ x.2.image ≠ (w.frontends i).image) = none ↔
      ∀ j, j ≠ i → w.seen j = true → w.behind j = false := by
    simp only [List.find?_eq_none, getFrontendPodsOnNode, List.mem_filterMap, Prod.forall, seen, behind, decide_eq_true_eq]
    constructor
    · intro h j hne hseen
      rw [any_eq_false]
      intro pod hpod
      rw [decide_eq_false_iff_not, (up j).image, ← (up i).image]
      exact fun differs => h j pod ⟨j, List.mem_finRange j, by simp [hseen, hpod]⟩ ⟨hne, differs⟩
    · rintro h j pod ⟨j', -, hpod⟩ ⟨hne, differs⟩
      split at hpod
      · next hseen =>
        obtain ⟨pod', hpod', heq⟩ := map_eq_some_iff.mp hpod
        cases heq
        have := h j hne hseen
        rw [hpod', any_some, (up j).image, ← (up i).image] at this
        simp [differs] at this
      · cases hpod
  unfold upgradeConditionsPass
  simp only [(up i).frontend, (up i).notHot, mounts, Bool.not_true, Bool.false_eq_true, if_false]
  split
  · next fresh => simp [fresh]
  · next applied =>
    simp only [applied, false_or, ← others]
    split
    · next found => simp only [found, reduceCtorEq]
    · next found => simp only [found]

theorem step_cases {w w' : Node n} (h : w.step e = some w') :
    w' = w ∨ ∃ i pod lastAppliedImage, w' = w.set i { w.frontends i with pod, lastAppliedImage } := by
  cases e with
  | handleImageMismatch i prepare =>
    obtain ⟨pod, -, rfl⟩ := map_eq_some_iff.mp h
    split
    · exact .inr ⟨i, _, _, rfl⟩
    · exact .inl rfl
  | ensurePod i =>
    simp only [step] at h
    split at h
    · cases h
    · exact .inr ⟨i, _, _, (some.inj h).symm⟩
  | applyCurrentImage i =>
    simp only [step] at h
    split at h
    · cases h
    · split at h
      · exact .inr ⟨i, (w.frontends i).pod, _, (some.inj h).symm⟩
      · exact .inl (some.inj h).symm
  | podGone i =>
    obtain ⟨-, h⟩ := ite_none_right_eq_some.mp h
    exact .inr ⟨i, _, _, (some.inj h).symm⟩
  | deleteByUser i =>
    obtain ⟨-, h⟩ := ite_none_right_eq_some.mp h
    obtain ⟨pod, -, rfl⟩ := map_eq_some_iff.mp h
    exact .inr ⟨i, _, _, rfl⟩

theorem step_upgrading {w w' : Node n} (up : ∀ i, Upgrading image (w.frontends i)) (h : w.step e = some w') :
    ∀ i, Upgrading image (w'.frontends i) := by
  rcases step_cases h with rfl | ⟨i, pod, last, rfl⟩
  · exact up
  · refine (Function.forall_update_iff w.frontends fun _ c => Upgrading image c).mpr ⟨?_, fun j _ => up j⟩
    exact { up i with }

/-- In every reachable state some frontend that is behind may go on, exactly if none is behind, or one that is behind has
    no image applied yet or is the only one behind among those whose pods are looked at. -/
theorem unblocked_iff {image : String} {start w : Node n} (up : ∀ i, Upgrading image (start.frontends i))
    (reached : Reach step (· = start) w) :
    w.Unblocked ↔ (∀ i, w.behind i = false) ∨
      ∃ i, w.behind i = true ∧ ((w.frontends i).lastAppliedImage = "" ∨ ∀ j, j ≠ i → w.seen j = true → w.behind j = false) := by
  have up : ∀ i, Upgrading image (w.frontends i) := by
    refine Reach.invariant (P := fun w => ∀ i, Upgrading image (w.frontends i)) ?_ ?_ reached
    · rintro _ rfl
      exact up
    · exact fun _ _ _ up h => step_upgrading up h
  simp only [Unblocked, upgradeConditionsPass_iff up]
  constructor
  · intro unblocked
    by_cases some : ∃ i, w.behind i = true
    · exact .inr (unblocked some)
    · exact .inl fun i => Bool.eq_false_iff.mpr fun h => some ⟨i, h⟩
  · rintro (none | found) ⟨i, hi⟩
    · rw [none i] at hi
      cases hi
    · exact found

/-! ### Frontends that wait for ever -/

/-- Steps without the user's deletions. -/
def reconcileStep (w : Node n) (e : Event n) : Option (Node n) :=
  match e with
  | .deleteByUser _ => none
  | e => w.step e

/-- All pods are up and none that is behind may be upgraded. -/
structure Stuck (image : String) (w : Node n) : Prop where
  up : ∀ i, Upgrading image (w.frontends i)
  pods : w.allPodsUp = true
  waits : ∀ i, w.behind i = true → w.upgradeConditionsPass i ≠ .ok true

theorem pod_of_allPodsUp {w : Node n} (h : w.allPodsUp = true) (i : Fin n) :
    ∃ pod, (w.frontends i).pod = some pod ∧ pod.terminating = false := by
  have := of_decide_eq_true h i
  simpa [any_eq_true] using this

theorem Stuck.handleImageMismatch {w : Node n} (stuck : Stuck image w) {i : Fin n} {pod : Pod}
    (hpod : (w.frontends i).pod = some pod) (prepare : Except PrepareError Unit) :
    w.handleImageMismatch i pod prepare ≠ .ok .deletePod := by
  have behind : w.behind i = decide (pod.image ≠ (w.frontends i).image) := by rw [Node.behind, hpod, any_some]
  unfold Node.handleImageMismatch handleImageUpdate
  split
  · next mismatch =>
    simp only [mismatch.2, (stuck.up i).notForced, Bool.not_true, Bool.false_eq_true, if_false]
    split
    · nofun
    · nofun
    · next passes =>
      have current : ¬pod.image ≠ (w.frontends i).image := fun differs =>
        stuck.waits i (behind.trans (decide_eq_true differs)) passes
      rw [if_neg current]
      split <;> nofun
  · nofun

theorem Stuck.applied {w w' : Node n} (stuck : Stuck image w) (up : ∀ i, Upgrading image (w'.frontends i))
    (same : ∀ j, ∃ last, w'.frontends j = { w.frontends j with lastAppliedImage := last } ∧
      (w.behind j = true → last = (w.frontends j).lastAppliedImage)) :
    Stuck image w' ∧ ∀ i, (w'.frontends i).pod = (w.frontends i).pod := by
  choose last frontend unchanged using same
  have behind : ∀ j, w'.behind j = w.behind j := fun j => by simp only [Node.behind, frontend j]
  have pods := of_decide_eq_true stuck.pods
  refine ⟨⟨up, decide_eq_true fun j => ?_, fun j hj => ?_⟩, fun j => by rw [frontend j]⟩
  · rw [frontend j]
    exact pods j
  · rw [behind j] at hj
    have waits := stuck.waits j hj
    rw [ne_eq, upgradeConditionsPass_iff stuck.up] at waits
    rw [ne_eq, upgradeConditionsPass_iff up]
    simpa only [behind, seen, frontend, unchanged j hj] using waits

theorem Stuck.reconcileStep {w w' : Node n} (stuck : Stuck image w) (h : w.reconcileStep e = some w') :
    Stuck image w' ∧ ∀ i, (w'.frontends i).pod = (w.frontends i).pod := by
  cases e with
  | handleImageMismatch i prepare =>
    obtain ⟨pod, hpod, rfl⟩ := map_eq_some_iff.mp h
    split
    · next deleted => exact absurd deleted (stuck.handleImageMismatch hpod prepare)
    · exact ⟨stuck, fun _ => rfl⟩
  | ensurePod i =>
    obtain ⟨pod, hpod, -⟩ := pod_of_allPodsUp stuck.pods i
    simp [Node.reconcileStep, step, hpod] at h
  | podGone i =>
    obtain ⟨pod, hpod, running⟩ := pod_of_allPodsUp stuck.pods i
    simp [Node.reconcileStep, step, hpod, running] at h
  | deleteByUser i => cases h
  | applyCurrentImage i =>
    have up := step_upgrading stuck.up (e := .applyCurrentImage i) h
    simp only [Node.reconcileStep, step] at h
    split at h
    · cases h
    next pod hpod =>
    split at h
    · next applied =>
      obtain rfl := some.inj h
      refine stuck.applied up <| (Function.forall_update_iff w.frontends fun j c => ∃ last,
        c = { w.frontends j with lastAppliedImage := last } ∧
          (w.behind j = true → last = (w.frontends j).lastAppliedImage)).mpr ⟨⟨_, rfl, fun behind => ?_⟩, fun j _ => ⟨_, rfl, fun _ => rfl⟩⟩
      simp [Node.behind, hpod, applied.2] at behind
    · obtain rfl := some.inj h
      exact ⟨stuck, fun _ => rfl⟩

theorem Stuck.forever {start w : Node n} (stuck : Stuck image start) (reached : Reach Node.reconcileStep (· = start) w) :
    Stuck image w ∧ ∀ i, (w.frontends i).pod = (start.frontends i).pod := by
  refine Reach.invariant (P := fun w => Stuck image w ∧ ∀ i, (w.frontends i).pod = (start.frontends i).pod) ?_ ?_ reached
  · rintro _ rfl
    exact ⟨stuck, fun _ => rfl⟩
  · rintro w e w' ⟨stuck, pods⟩ h
    obtain ⟨stuck', pods'⟩ := stuck.reconcileStep h
    exact ⟨stuck', fun i => (pods' i).trans (pods i)⟩

end Node

def twoOld : Node 2 where
  name := "n1"
  frontends i := {
    name := if i.val = 0 then "s3" else "nfs"
    mode := if i.val = 0 then .s3 else .nfs
    image := "v2"
    lastAppliedImage := "v1"
    pod := some { image := "v1" } }

/-- Once a user has deleted the pod of the first, the second goes on. -/
theorem unblocked_of_one_behind : ∃ w, runEvents Node.step [.deleteByUser 0, .podGone 0] twoOld = some w ∧
    Reach Node.step (· = twoOld) w ∧ w.behind 1 = true ∧ w.Unblocked := by
  have up : ∀ i, Node.Upgrading "v2" (twoOld.frontends i) :=
    Fin.forall_fin_two.mpr ⟨⟨rfl, rfl, rfl, rfl, .inl rfl⟩, ⟨rfl, rfl, rfl, rfl, .inl rfl⟩⟩
  have reached : Reach Node.step (· = twoOld) ((twoOld.setPod 0 (some { image := "v1", terminating := true })).setPod 0 none) :=
    .step (.step (.init rfl) (.deleteByUser 0) rfl) (.podGone 0) rfl
  exact ⟨_, rfl, reached, by decide, (Node.unblocked_iff up reached).mpr (.inr ⟨1, by decide, by decide⟩)⟩

/-- Each waits for the other, and no reconcile changes that. -/
theorem twoOld_blocked_forever : (∀ i, Node.Upgrading "v2" (twoOld.frontends i)) ∧
    ∀ w, Reach Node.reconcileStep (· = twoOld) w → ¬w.Unblocked := by
  have up : ∀ i, Node.Upgrading "v2" (twoOld.frontends i) :=
    Fin.forall_fin_two.mpr ⟨⟨rfl, rfl, rfl, rfl, .inl rfl⟩, ⟨rfl, rfl, rfl, rfl, .inl rfl⟩⟩
  refine ⟨up, fun w reached unblocked => ?_⟩
  have stuck : Node.Stuck "v2" twoOld := ⟨up, by decide, by decide⟩
  obtain ⟨stuck, pods⟩ := stuck.forever reached
  have behind : w.behind 0 = true := by
    rw [Node.behind, (stuck.up 0).image, pods 0]
    decide
  obtain ⟨i, behind, passes⟩ := unblocked ⟨0, behind⟩
  exact stuck.waits i behind passes

end WekaOperator.Frontends
