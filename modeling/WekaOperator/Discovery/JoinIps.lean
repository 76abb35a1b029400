import WekaOperator.Containers.Spec
import WekaOperator.Lib.Collections

/-! The containers that a join goes through. A shuffle is an order of the list, and all of them are possible. -/

namespace WekaOperator.Discovery
open List Lib Containers

/-- What discovery reads of a container's allocations. -/
structure Allocations where
  wekaPort : Int
  failureDomain : Option String := none
  deriving DecidableEq

/-- What discovery reads of a container. -/
structure Container where
  mode : Mode
  port : Int := 0
  clusterContainerID : Option Int := none
  internalStatus : String := ""
  managementIPs : Option (List String) := none
  managementIP : String := ""
  allocations : Option Allocations := none
  status : ContainerStatus
  deriving DecidableEq

namespace Container

/-- An empty list counts as set. -/
def getManagementIps (c : Container) : List String :=
  match c.managementIPs with
  | some ips => ips
  | none => if c.managementIP ≠ "" then [c.managementIP] else []

/-- The port of a container. -/
def getPort (c : Container) : Int :=
  match c.allocations with
  | none => c.port
  | some a => if a.wekaPort = 0 then c.port else a.wekaPort

/-- The container is in the cluster and ready. -/
def isContainerOperational (c : Container) : Bool :=
  c.clusterContainerID.isSome && c.internalStatus = "READY" && !c.getManagementIps.isEmpty &&
    (match c.allocations with
      | none => false
      | some a => a.wekaPort ≠ 0) &&
    c.status ∉ [ContainerStatus.podNotRunning, .stopped, .starting, .destroying, .deleting, .paused]

end Container

/-! ### Selection -/

/-- Drive and compute, unless given. -/
def defaultRoles (roles : List Mode) : List Mode := if roles.isEmpty then [.drive, .compute] else roles

/-- It is not stopped. -/
def notStopped (c : Container) : Bool := c.status ∉ [ContainerStatus.podNotRunning, .stopped]

/-- The second pass: the roles and the health are not looked at. -/
def selectNotStopped (numContainers : Nat) : List Container → List Container → List Container
  | [], selected => selected
  | c :: cs, selected =>
    let selected := if notStopped c then selected ++ [c] else selected
    if numContainers ≤ selected.length then selected else selectNotStopped numContainers cs selected

/-- The first pass: it does not stop at the limit. -/
def selectRunning (containers : List Container) (roles : List Mode) : List Container :=
  let firstPassSuitable := containers.filter fun c => (defaultRoles roles).contains c.mode && c.isContainerOperational
  firstPassSuitable.filter (·.status = .running)

/-- The containers to join through. -/
def selectOperationalContainers (first second : MapOrder Container) (containers : List Container) (numContainers : Nat)
    (roles : List Mode) : List Container :=
  let containers := first.arrange containers
  let selected := selectRunning containers roles
  if selected.isEmpty then selectNotStopped numContainers (second.arrange containers) selected else selected

/-- An entry, written as the IP and the port of the container. -/
structure JoinIp where
  container : Container
  ip : String

/-- Its failure domain. -/
def Container.failureDomain (c : Container) : String := (c.allocations.bind (·.failureDomain)).getD ""

/-- Its addresses. -/
def Container.joinIps (c : Container) : List JoinIp := c.getManagementIps.map (⟨c, ·⟩)

/-- The addresses by failure domain. -/
def joinIpsByFD (selected : List Container) : List (String × List JoinIp) :=
  (groupBy Container.failureDomain selected).map fun g => (g.1, g.2.flatMap Container.joinIps)

/-- The same, or the error. -/
def selectJoinIps (first second : MapOrder Container) (containers : List Container) :
    Except String (List (String × List JoinIp)) :=
  let byFD := joinIpsByFD (selectOperationalContainers first second containers 12 [])
  if byFD.isEmpty then .error "No join IP port pairs found" else .ok byFD

/-- The selection keeps to the roles and to the limit, whatever the shuffles. -/
def Selects (containers : List Container) (n : Nat) (roles : List Mode) : Prop :=
  ∀ first second, (∀ c ∈ selectOperationalContainers first second containers n roles, c.mode ∈ defaultRoles roles) ∧
    (selectOperationalContainers first second containers n roles).length ≤ n

/-- Every entry that a join may be given has a port and an operational container. -/
def JoinsOperational (containers : List Container) : Prop :=
  ∀ first second byFD, selectJoinIps first second containers = .ok byFD → ∀ g ∈ byFD, ∀ e ∈ g.2,
    0 < e.container.getPort ∧ e.container.isContainerOperational = true

/-! ### What is selected -/

variable {first second : MapOrder Container} {containers : List Container} {n : Nat} {roles : List Mode} {c : Container}

theorem selectNotStopped_eq (cs selected : List Container) (room : selected.length < n) :
    selectNotStopped n cs selected = selected ++ (cs.filter notStopped).take (n - selected.length) := by
  induction cs generalizing selected with
  | nil => simp [selectNotStopped]
  | cons c cs ih =>
    unfold selectNotStopped
    by_cases hc : notStopped c = true
    · obtain ⟨k, hk⟩ : ∃ k, n - selected.length = k + 1 := ⟨n - selected.length - 1, by omega⟩
      simp only [hc, if_true, filter_cons_of_pos, hk, take_succ_cons, length_append, length_singleton]
      split
      · obtain rfl : k = 0 := by omega
        simp
      · rw [ih _ (by simp; omega), length_append, length_singleton, append_assoc, singleton_append]
        congr 3
        omega
    · simp only [filter_cons_of_neg hc, if_neg hc, if_neg (not_le.mpr room)]
      exact ih _ room

theorem selectRunning_perm : (selectRunning (first.arrange containers) roles).Perm (selectRunning containers roles) :=
  ((first.perm containers).filter _).filter _

theorem selectOperationalContainers_running (h : selectRunning containers roles ≠ []) :
    (selectOperationalContainers first second containers n roles).Perm (selectRunning containers roles) := by
  unfold selectOperationalContainers
  rw [if_neg]
  · exact selectRunning_perm
  · rw [List.isEmpty_iff]
    have same : (selectRunning (first.arrange containers) roles).Perm (selectRunning containers roles) := selectRunning_perm
    exact fun e => h ((e ▸ same).nil_eq).symm

theorem selectOperationalContainers_fallback (hn : 0 < n) (h : selectRunning containers roles = []) :
    selectOperationalContainers first second containers n roles =
      ((second.arrange (first.arrange containers)).filter notStopped).take n := by
  have same : (selectRunning (first.arrange containers) roles).Perm (selectRunning containers roles) := selectRunning_perm
  have none : selectRunning (first.arrange containers) roles = [] := (h ▸ same).eq_nil
  unfold selectOperationalContainers
  simp only [none, isEmpty_nil, if_true]
  exact selectNotStopped_eq _ [] hn

/-- The shuffle that brings a container to the front. -/
def toFront (c : Container) : MapOrder Container where
  arrange l := if c ∈ l then c :: l.erase c else l
  perm l := by
    split
    · exact (perm_cons_erase ‹_›).symm
    · exact .refl l

theorem selectOperationalContainers_forall (hn : 0 < n) (P : Container → Prop) :
    (∀ first second, ∀ c ∈ selectOperationalContainers first second containers n roles, P c) ↔
      (∀ c ∈ selectRunning containers roles, P c) ∧
        (selectRunning containers roles = [] → ∀ c ∈ containers, notStopped c = true → P c) := by
  by_cases h : selectRunning containers roles = []
  · simp only [selectOperationalContainers_fallback hn h, h, not_mem_nil, IsEmpty.forall_iff, implies_true, true_and,
      forall_const]
    constructor
    · intro hall c hc up
      refine hall .asListed (toFront c) c ?_
      obtain ⟨k, rfl⟩ : ∃ k, n = k + 1 := ⟨n - 1, by omega⟩
      have front : (toFront c).arrange (MapOrder.asListed.arrange containers) = c :: containers.erase c := if_pos hc
      rw [front, filter_cons_of_pos up, take_succ_cons]
      exact mem_cons_self
    · intro hall first second c hc
      obtain ⟨hmem, up⟩ := mem_filter.mp (mem_of_mem_take hc)
      exact hall c ((first.perm _).mem_iff.mp ((second.perm _).mem_iff.mp hmem)) up
  · simp only [(selectOperationalContainers_running h).mem_iff, h, IsEmpty.forall_iff, and_true]
    exact ⟨fun hall => hall .asListed .asListed, fun hall _ _ => hall⟩

theorem joinsOperational_iff : JoinsOperational containers ↔
    ∀ first second, ∀ c ∈ selectOperationalContainers first second containers 12 [], c.getManagementIps ≠ [] →
      0 < c.getPort ∧ c.isContainerOperational = true := by
  have members : ∀ first second c, c ∈ (groupBy Container.failureDomain
      (selectOperationalContainers first second containers 12 [])).flatMap (·.2) ↔
      c ∈ selectOperationalContainers first second containers 12 [] :=
    fun first second c => (groupBy_members Container.failureDomain _).mem_iff
  refine forall₂_congr fun first second => ?_
  constructor
  · intro h c hc hips
    obtain ⟨ip, hip⟩ := exists_mem_of_ne_nil _ hips
    obtain ⟨g, hg, hcg⟩ := mem_flatMap.mp ((members first second c).mpr hc)
    refine h _ (if_neg ?_) _ (mem_map_of_mem hg) ⟨c, ip⟩ (mem_flatMap.mpr ⟨c, hcg, mem_map_of_mem hip⟩)
    rw [List.isEmpty_iff]
    exact ne_nil_of_mem (mem_map_of_mem hg)
  · intro h byFD hok g hg e he
    simp only [selectJoinIps] at hok
    split at hok
    · cases hok
    cases hok
    obtain ⟨g, hg', rfl⟩ := mem_map.mp hg
    obtain ⟨c, hc, hec⟩ := mem_flatMap.mp he
    obtain ⟨ip, hip, rfl⟩ := mem_map.mp hec
    exact h c ((members first second c).mp (mem_flatMap.mpr ⟨g, hg', hc⟩)) (ne_nil_of_mem hip)

/-- With a running container of the roles the limit is not applied, and without one neither roles nor health are. -/
theorem selects_and_joins_iff (containers : List Container) (n : Nat) (roles : List Mode) (hn : 0 < n) :
    (Selects containers n roles ∧ JoinsOperational containers) ↔
      ((selectRunning containers roles = [] → ∀ c ∈ containers, notStopped c = true → c.mode ∈ defaultRoles roles) ∧
        (selectRunning containers roles).length ≤ n) ∧
      (∀ c ∈ selectRunning containers [], 0 < c.getPort) ∧
        (selectRunning containers [] = [] → ∀ c ∈ containers, notStopped c = true → c.getManagementIps ≠ [] →
          0 < c.getPort ∧ c.isContainerOperational = true) := by
  have running : ∀ roles, ∀ c ∈ selectRunning containers roles,
      c.mode ∈ defaultRoles roles ∧ c.isContainerOperational = true := fun roles c hc => by
    simpa using (mem_filter.mp (mem_filter.mp hc).1).2
  refine and_congr ?_ ?_
  · have length : ∀ first second, (selectOperationalContainers first second containers n roles).length ≤ n ↔
        (selectRunning containers roles).length ≤ n := fun first second => by
      by_cases h : selectRunning containers roles = []
      · simp [selectOperationalContainers_fallback hn h, h]
      · rw [(selectOperationalContainers_running h).length_eq]
    simp only [Selects, length, forall_and, selectOperationalContainers_forall hn (·.mode ∈ defaultRoles roles)]
    exact and_congr (and_iff_right fun c hc => (running roles c hc).1) ⟨fun h => h .asListed .asListed, fun h _ _ => h⟩
  · rw [joinsOperational_iff, selectOperationalContainers_forall (by decide)]
    refine and_congr_left' (forall₂_congr fun c hc => ?_)
    have operational := (running [] c hc).2
    have ips : c.getManagementIps ≠ [] := by
      intro e
      simp [Container.isContainerOperational, e] at operational
    simp [operational, ips]

/-- An S3 container alone, with its pod up. -/
def lone : List Container := [{ mode := .s3, status := .podRunning }]

theorem selects_and_joins_lone : ¬(Selects lone 1 [] ∧ JoinsOperational lone) := by
  intro h
  have s3 := (h.1 .asListed .asListed).1 _ mem_cons_self
  revert s3
  decide

def joined : Container where
  mode := .drive
  clusterContainerID := some 0
  internalStatus := "READY"
  managementIP := "10.0.0.1"
  allocations := some { wekaPort := 14000 }
  status := .running

theorem selects_and_joins_joined : Selects [joined] 1 [] ∧ JoinsOperational [joined] :=
  (selects_and_joins_iff [joined] 1 [] (by decide)).mpr (by decide)

end WekaOperator.Discovery
