import WekaOperator.Lib.Collections

/-! The ports of a container in an NFS interface group. -/

namespace WekaOperator.Nfs

/-- A port of the group with its owner, which either CLI schema names. -/
structure InterfaceGroupPort where
  container : Int
  port : String
  deriving DecidableEq

/-- Whether the change got to its end. -/
inductive Outcome
  | done | interrupted
  | failed (err : String)
  deriving DecidableEq

variable (groupName : String) (containerId : Int)

/-- The ports of a container in the group. -/
def containerPorts (group : List InterfaceGroupPort) : List String :=
  (group.filter (·.container = containerId)).map (·.port)

/-! ### Weka

A host has at most one port in a group. -/

/-- What adding a port returns. -/
inductive AddReply
  | added (group : List InterfaceGroupPort)
  | alreadyPart
  | refused (stderr : String)

/-- Adds a port; weka takes at most one a container. -/
def portAdd (group : List InterfaceGroupPort) (port : String) : AddReply :=
  match containerPorts containerId group with
  | [] => .added (group ++ [⟨containerId, port⟩])
  | current :: ports =>
    if port ∈ current :: ports then .alreadyPart
    else .refused <| "error: A host can't be added more than once to the same interface group. " ++
      s!"The host {containerId} is already part of group {groupName}, but with port {current}."

/-- Deletes a port. -/
def portDelete (group : List InterfaceGroupPort) (port : String) : List InterfaceGroupPort :=
  group.filter (· ≠ ⟨containerId, port⟩)

/-! ### The operator

`n` commands are run before the call is interrupted. -/

/-- Removes ports, with a bound on the calls. -/
def removePorts : Nat → List String → List InterfaceGroupPort → Outcome × List InterfaceGroupPort
  | _, [], group => (.done, group)
  | 0, _ :: _, group => (.interrupted, group)
  -- a port that is not part of the group is passed over
  | n + 1, port :: ports, group => removePorts n ports (portDelete containerId group port)

/-- Adds ports and then removes others. -/
def addPorts (toRemove : List String) : Nat → List String → List InterfaceGroupPort → Outcome × List InterfaceGroupPort
  | n, [], group => removePorts containerId n toRemove group
  | 0, _ :: _, group => (.interrupted, group)
  | n + 1, port :: ports, group =>
    match portAdd groupName containerId group port with
    | .added group => addPorts toRemove n ports group
    | .alreadyPart => addPorts toRemove n ports group
    | .refused stderr => (.failed <| "NFS interface group constraint violation: " ++
        s!"host {containerId} already has a different interface in group {groupName}. " ++
        s!"Weka only allows one interface per host in an NFS interface group. Error: {stderr}", group)

/-- What is in `a` and not in `b`. -/
def diffStringSlices (a b : List String) : List String := a.filter (· ∉ b)

/-- Brings the container's ports to the targets. -/
def ensureNfsInterfaceGroupPorts (n : Nat) (group : List InterfaceGroupPort) (targets : List String) : Outcome × List InterfaceGroupPort :=
  let current := containerPorts containerId group
  addPorts groupName containerId (diffStringSlices current targets) n (diffStringSlices targets current) group

/-! ### Convergence -/

/-- A call with all its commands, two at the most, returns nil and leaves exactly the target. -/
def Settles (group : List InterfaceGroupPort) (target : String) : Prop :=
  ∀ n, (ensureNfsInterfaceGroupPorts groupName containerId (n + 2) group [target]).1 = .done ∧
    containerPorts containerId (ensureNfsInterfaceGroupPorts groupName containerId (n + 2) group [target]).2 = [target]

variable {groupName containerId} {group : List InterfaceGroupPort} {target : String}

theorem ensureNfsInterfaceGroupPorts_target (h : containerPorts containerId group = [target]) (n : Nat) :
    ensureNfsInterfaceGroupPorts groupName containerId n group [target] = (.done, group) := by
  simp [ensureNfsInterfaceGroupPorts, h, diffStringSlices, addPorts, removePorts]

theorem ensureNfsInterfaceGroupPorts_none (h : containerPorts containerId group = []) (n : Nat) :
    ensureNfsInterfaceGroupPorts groupName containerId (n + 1) group [target] = (.done, group ++ [⟨containerId, target⟩]) := by
  simp [ensureNfsInterfaceGroupPorts, h, diffStringSlices, addPorts, removePorts, portAdd]

theorem ensureNfsInterfaceGroupPorts_other {port : String} (h : containerPorts containerId group = [port]) (ne : port ≠ target) (n : Nat) :
    (ensureNfsInterfaceGroupPorts groupName containerId (n + 1) group [target]).1 ≠ .done := by
  simp [ensureNfsInterfaceGroupPorts, h, diffStringSlices, addPorts, portAdd, ne.symm]

theorem Settles.of_target (h : containerPorts containerId group = [target]) : Settles groupName containerId group target := by
  intro n
  rw [ensureNfsInterfaceGroupPorts_target h]
  exact ⟨rfl, h⟩

theorem containerPorts_added (h : containerPorts containerId group = []) :
    containerPorts containerId (group ++ [⟨containerId, target⟩]) = [target] := by
  unfold containerPorts at h ⊢
  rw [List.filter_append, List.map_append, h]
  simp

theorem Settles.of_none (h : containerPorts containerId group = []) : Settles groupName containerId group target := by
  intro n
  rw [ensureNfsInterfaceGroupPorts_none h]
  exact ⟨rfl, containerPorts_added h⟩

/-- The ports converge, also after an interruption, iff the container has no other port before. -/
theorem ports_settle_iff (groupName : String) (containerId : Int) (group : List InterfaceGroupPort) (target : String)
    (one : (containerPorts containerId group).length ≤ 1) :
    (Settles groupName containerId group target ∧
        ∀ n, Settles groupName containerId (ensureNfsInterfaceGroupPorts groupName containerId n group [target]).2 target) ↔
      containerPorts containerId group = [] ∨ containerPorts containerId group = [target] := by
  constructor
  · intro h
    cases hports : containerPorts containerId group with
    | nil => exact .inl rfl
    | cons port ports =>
      obtain rfl : ports = [] := by simpa [hports] using one
      by_cases same : port = target
      · exact .inr (congrArg (fun p => [p]) same)
      · exact absurd (h.1 0).1 (ensureNfsInterfaceGroupPorts_other hports same 1)
  · rintro (hnone | htarget)
    · refine ⟨.of_none hnone, fun n => ?_⟩
      cases n with
      | zero => simpa [ensureNfsInterfaceGroupPorts, hnone, diffStringSlices, addPorts] using Settles.of_none hnone
      | succ n =>
        rw [ensureNfsInterfaceGroupPorts_none hnone]
        exact .of_target (containerPorts_added hnone)
    · refine ⟨.of_target htarget, fun n => ?_⟩
      rw [ensureNfsInterfaceGroupPorts_target htarget]
      exact .of_target htarget

theorem ports_settle_empty : Settles "MgmtInterfaceGroup" 13 [] "eth0" ∧
    ∀ n, Settles "MgmtInterfaceGroup" 13 (ensureNfsInterfaceGroupPorts "MgmtInterfaceGroup" 13 n [] ["eth0"]).2 "eth0" :=
  (ports_settle_iff "MgmtInterfaceGroup" 13 [] "eth0" (by decide)).mpr (.inl rfl)

theorem ports_stuck : (containerPorts 13 [⟨13, "eth0"⟩]).length ≤ 1 ∧
    ¬Settles "MgmtInterfaceGroup" 13 [⟨13, "eth0"⟩] "eth1" :=
  ⟨by decide, fun h => ensureNfsInterfaceGroupPorts_other rfl (by decide) 1 (h 0).1⟩

end WekaOperator.Nfs
