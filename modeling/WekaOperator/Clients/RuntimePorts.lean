import WekaOperator.Lib.Collections

/-! How the runtime of a client finds its ports: the agent port, and a block of ports for the container. -/

namespace WekaOperator.Clients
open List Lib

/-- The ports checked so far. -/
structure Checked where
  freePorts : List Int := []
  notFreePorts : List Int := []

/-- Whether all the ports are free. None is looked up twice. -/
def checkPorts (isPortFree : Int → Bool) : List Int → Checked → Bool × Checked
  | [], checked => (true, checked)
  | port :: ports, checked =>
    if port ∈ checked.freePorts then checkPorts isPortFree ports checked
    else if port ∈ checked.notFreePorts then (false, checked)
    else if isPortFree port then checkPorts isPortFree ports { checked with freePorts := port :: checked.freePorts }
    else (false, { checked with notFreePorts := port :: checked.notFreePorts })

/-- Consecutive ports. -/
def portRange (first : Int) (size : Nat) : List Int := (range size).map fun i : Nat => first + i

/-- The inputs of a search. -/
structure Search where
  isPortFree : Int → Bool
  maxPort : Int
  subrangeSize : Nat
  excludePorts : List Int

/-- The loop, which the sorted exclusions and the ports looked up are carried through. -/
def Search.loop (q : Search) (port : Int) (checked : Checked) : Except String (Int × Int) :=
  if port ≤ q.maxPort - q.subrangeSize then
    match h : (q.excludePorts.insertionSort (· ≤ ·)).find? fun e => port ≤ e ∧ e < port + q.subrangeSize with
    | some e => q.loop (e + 1) checked
    | none =>
      let found := checkPorts q.isPortFree (portRange port q.subrangeSize) checked
      if found.1 then .ok (port, port + q.subrangeSize - 1) else q.loop (port + 1) found.2
  else .error s!"Could not find a subrange of {q.subrangeSize} free ports in the specified range."
termination_by (q.maxPort - q.subrangeSize + 1 - port).toNat
decreasing_by
  · have within := find?_some h
    simp only [decide_eq_true_eq] at within
    omega
  · omega

/-- The first block of free ports. -/
def getFreeSubrangeInPortRange (q : Search) (basePort : Int) : Except String (Int × Int) := q.loop basePort {}

/-- The first free port. -/
def getFreePort (isPortFree : Int → Bool) (basePort maxPort : Int) (excludePorts : List Int) : Except String Int :=
  match (portRange basePort (maxPort - basePort).toNat).find? fun port => port ∉ excludePorts ∧ isPortFree port with
  | some port => .ok port
  | none => .error s!"Failed to find free port in range {basePort}-{maxPort}"

/-- The ports of a client, zero where the text is not a number. -/
structure RuntimePorts where
  port : Int
  agentPort : Int

/-- The last port. -/
def maxPort : Int := 65535

/-- The ports of a container. -/
def wekaContainerPortSubrange : Nat := 100

/-- The ports of a client, given or found. -/
def ensureClientPorts (isPortFree : Int → Bool) (basePort range : Int) (given : RuntimePorts) : Except String RuntimePorts :=
  if 0 < given.port ∧ 0 < given.agentPort then .ok given
  else if basePort ≤ 0 then .error "BASE_PORT is not set"
  else
    let maxPort := if 0 < range then basePort + range else maxPort
    Except.mapError ("Failed to find free ports: " ++ ·) do
      let agentPort ← (if given.agentPort = 0 then getFreePort isPortFree basePort maxPort [] else .ok given.agentPort)
      if given.port = 0 then
        let block ← getFreeSubrangeInPortRange ⟨isPortFree, maxPort, wekaContainerPortSubrange, [agentPort]⟩ basePort
        return { port := block.1, agentPort }
      else return { given with agentPort }

/-! ### The scan -/

/-- What was checked is right. -/
structure Checked.Sound (isPortFree : Int → Bool) (checked : Checked) : Prop where
  free : ∀ p ∈ checked.freePorts, isPortFree p = true
  notFree : ∀ p ∈ checked.notFreePorts, isPortFree p = false

/-- All ports of the block are free and not excluded. -/
def Search.Block (q : Search) (first : Int) : Prop :=
  first + q.subrangeSize ≤ q.maxPort ∧
    ∀ p, first ≤ p → p < first + q.subrangeSize → q.isPortFree p = true ∧ p ∉ q.excludePorts

/-- What a scan from `port` on is to return: a block, or an error if there is none. -/
def Search.Scanned (q : Search) (port : Int) : Except String (Int × Int) → Prop
  | .ok (first, last) => port ≤ first ∧ last = first + q.subrangeSize - 1 ∧ q.Block first
  | .error _ => ∀ first, port ≤ first → ¬q.Block first

theorem mem_portRange {p first : Int} {size : Nat} : p ∈ portRange first size ↔ first ≤ p ∧ p < first + size := by
  simp only [portRange, mem_map, mem_range]
  constructor
  · rintro ⟨i, hi, rfl⟩
    omega
  · intro h
    exact ⟨(p - first).toNat, by omega, by omega⟩

variable {isPortFree : Int → Bool} {checked : Checked} {basePort : Int}

theorem Checked.Sound.step {ports : List Int} (h : checked.Sound isPortFree) :
    (checkPorts isPortFree ports checked).2.Sound isPortFree ∧
      ((checkPorts isPortFree ports checked).1 = true ↔ ∀ p ∈ ports, isPortFree p = true) := by
  induction ports generalizing checked with
  | nil => exact ⟨h, by simp [checkPorts]⟩
  | cons p ports ih =>
    simp only [checkPorts, forall_mem_cons]
    split
    next hmem => simpa [h.free p hmem] using ih h
    split
    next hmem => simpa [h.notFree p hmem] using h
    split
    next hfree =>
      have sound : Checked.Sound isPortFree { checked with freePorts := p :: checked.freePorts } :=
        ⟨by simpa [hfree] using h.free, h.notFree⟩
      simpa [hfree] using ih sound
    next hbusy =>
      have sound : Checked.Sound isPortFree { checked with notFreePorts := p :: checked.notFreePorts } :=
        ⟨h.free, by simpa [hbusy] using h.notFree⟩
      simpa [hbusy] using sound

variable {q : Search}
variable {r : Except String (Int × Int)}

/-- No start that the scan passes over has a block. -/
theorem Search.Scanned.skip {port next : Int} (h : q.Scanned next r) (le : port ≤ next)
    (skipped : ∀ first, port ≤ first → first < next → ¬q.Block first) : q.Scanned port r := by
  cases r with
  | ok found => exact ⟨le.trans h.1, h.2⟩
  | error e =>
    intro first hfirst
    by_cases before : first < next
    · exact skipped first hfirst before
    · exact h first (not_lt.mp before)

theorem Search.loop_scanned (port : Int) (h : checked.Sound q.isPortFree) : q.Scanned port (q.loop port checked) := by
  fun_induction q.loop port checked with
  | case1 port checked inside e found ih =>
    have within := find?_some found
    simp only [decide_eq_true_eq] at within
    refine (ih h).skip (by omega) fun first hfirst before hblock => ?_
    exact (hblock.2 e (by omega) (by omega)).2 ((mem_insertionSort _).mp (mem_of_find?_eq_some found))
  | case2 port checked inside none free found =>
    have allowed := find?_eq_none.mp none
    refine ⟨le_rfl, rfl, by omega, fun p hp hlt => ⟨h.step.2.mp found p (mem_portRange.mpr ⟨hp, hlt⟩), fun hin => ?_⟩⟩
    simpa [hp, hlt] using allowed p ((mem_insertionSort _).mpr hin)
  | case3 port checked inside none found busy ih =>
    refine (ih h.step.1).skip (by omega) fun first hfirst before hblock => busy (h.step.2.mpr fun p hp => ?_)
    obtain rfl : first = port := by omega
    exact (hblock.2 p (mem_portRange.mp hp).1 (mem_portRange.mp hp).2).1
  | case4 port checked outside =>
    intro first hfirst hblock
    have := hblock.1
    omega

theorem getFreeSubrangeInPortRange_scanned (h : getFreeSubrangeInPortRange q basePort = r) :
    q.Scanned basePort r := h ▸ q.loop_scanned basePort ⟨by simp, by simp⟩

theorem ensureClientPorts_apart {range : Int} {given ports : RuntimePorts} (unset : given.port = 0)
    (h : ensureClientPorts isPortFree basePort range given = .ok ports) :
    ports.agentPort < ports.port ∨ ports.port + wekaContainerPortSubrange ≤ ports.agentPort := by
  rw [ensureClientPorts, if_neg fun given => given.1.ne' unset] at h
  split at h
  · cases h
  obtain ⟨agentPort, -, h⟩ := bind_eq_ok (mapError_eq_ok h)
  obtain ⟨block, found, h⟩ := bind_eq_ok h
  obtain rfl := Except.ok.inj h
  have scanned := getFreeSubrangeInPortRange_scanned found
  by_contra inside
  push Not at inside
  exact (scanned.2.2.2 agentPort inside.1 inside.2).2 (mem_singleton_self _)

/-- The scan ends with a block of free ports, or with an error where there is none. A block that the runtime takes for
    itself is apart from the agent port. -/
theorem runtime_ports_found :
    (∀ q basePort, Search.Scanned q basePort (getFreeSubrangeInPortRange q basePort)) ∧
    ∀ isPortFree basePort range given ports, given.port = 0 →
      ensureClientPorts isPortFree basePort range given = .ok ports →
      ports.agentPort < ports.port ∨ ports.port + wekaContainerPortSubrange ≤ ports.agentPort :=
  ⟨fun _ _ => getFreeSubrangeInPortRange_scanned rfl, fun _ _ _ _ _ => ensureClientPorts_apart⟩

end WekaOperator.Clients
