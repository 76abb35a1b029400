import WekaOperator.Lib.Collections

/-! The hugepages of a client's containers when the spec of the client changes. -/

namespace WekaOperator.Clients

/-- What the hugepages of a client are computed from; 0 and none are unset. -/
structure ClientSpec where
  coresNumber : Int
  hugePages : Int
  hugePagesOffset : Option Int
  dpdkBaseMemoryMb : Int

/-- The fields of a client's container that follow from them. -/
structure ClientContainer where
  numCores : Int
  hugepages : Int
  hugepagesOffset : Int
  dpdkBaseMemoryMb : Int

namespace ClientSpec
variable (spec : ClientSpec)

/-- The cores, one if unset. -/
def getClientCores : Int := if spec.coresNumber = 0 then 1 else spec.coresNumber

/-- DPDK memory a core. -/
def dpdkBase : Int := if spec.dpdkBaseMemoryMb ≠ 0 then spec.dpdkBaseMemoryMb else 64

/-- The hugepages. -/
def getClientHugePages : Int :=
  if spec.hugePages ≠ 0 then spec.hugePages else spec.getClientCores * (1500 + spec.dpdkBase)

/-- Their offset. -/
def getHugepagesOffset : Int := spec.hugePagesOffset.getD 200 + spec.dpdkBase * spec.getClientCores

/-- A container of these cores, with the hugepages of the spec. -/
def resized (numCores dpdkBaseMemoryMb : Int) : ClientContainer :=
  ⟨numCores, spec.getClientHugePages, spec.getHugepagesOffset, dpdkBaseMemoryMb⟩

/-- A container after the update. -/
def updateContainerIfChanged (c : ClientContainer) : ClientContainer :=
  -- a decrease is ignored
  let c := if c.numCores < spec.coresNumber then spec.resized spec.getClientCores c.dpdkBaseMemoryMb else c
  if c.dpdkBaseMemoryMb = spec.dpdkBase then c else spec.resized c.numCores spec.dpdkBase

end ClientSpec

/-- The hugepages cover the cores. -/
structure ClientContainer.Sufficient (c : ClientContainer) : Prop where
  hugepages : c.numCores * (1500 + c.dpdkBaseMemoryMb) ≤ c.hugepages
  offset : c.numCores * c.dpdkBaseMemoryMb ≤ c.hugepagesOffset

variable {spec : ClientSpec} {c : ClientContainer}

/-- The pages for the client's cores are enough for a container with `numCores`. -/
def ClientSpec.Covers (spec : ClientSpec) (numCores : Int) : Prop :=
  (numCores - spec.getClientCores) * (1500 + spec.dpdkBase) ≤ 0 ∧
    (numCores - spec.getClientCores) * spec.dpdkBase ≤ spec.hugePagesOffset.getD 200

theorem resized_sufficient_iff (auto : spec.hugePages = 0) {numCores : Int} :
    (spec.resized numCores spec.dpdkBase).Sufficient ↔ spec.Covers numCores := by
  have pages : spec.getClientHugePages = spec.getClientCores * (1500 + spec.dpdkBase) := if_neg (not_not.mpr auto)
  have offset : spec.getHugepagesOffset = spec.hugePagesOffset.getD 200 + spec.getClientCores * spec.dpdkBase := by
    rw [ClientSpec.getHugepagesOffset, mul_comm]
  rw [ClientSpec.Covers, sub_mul, sub_mul, sub_nonpos, sub_le_iff_le_add, ← pages, ← offset]
  exact ⟨fun h => ⟨h.hugepages, h.offset⟩, fun h => ⟨h.1, h.2⟩⟩

variable (nonneg : ∀ offset ∈ spec.hugePagesOffset, 0 ≤ offset)

include nonneg

theorem hugePagesOffset_nonneg : 0 ≤ spec.hugePagesOffset.getD 200 := by
  cases offset : spec.hugePagesOffset with
  | none => decide
  | some n => exact nonneg n offset

/-- For a base memory that is not negative these are the containers with no more cores than the client. -/
theorem covers_iff (base : 0 ≤ spec.dpdkBase) {numCores : Int} :
    spec.Covers numCores ↔ numCores ≤ spec.getClientCores := by
  have offset := hugePagesOffset_nonneg nonneg
  constructor
  · intro covers
    have fewer := nonpos_of_mul_nonpos_left covers.1 (by omega)
    omega
  · intro fewer
    have nonpos : numCores - spec.getClientCores ≤ 0 := by omega
    exact ⟨mul_nonpos_of_nonpos_of_nonneg nonpos (by omega), (mul_nonpos_of_nonpos_of_nonneg nonpos base).trans offset⟩

omit nonneg

theorem update_raised (raised : c.numCores < spec.coresNumber) :
    spec.updateContainerIfChanged c = spec.resized spec.getClientCores spec.dpdkBase := by
  simp only [ClientSpec.updateContainerIfChanged, if_pos raised]
  split
  next same => exact congrArg _ same
  next => rfl

theorem update_kept (kept : ¬c.numCores < spec.coresNumber) : spec.updateContainerIfChanged c =
    if c.dpdkBaseMemoryMb = spec.dpdkBase then c else spec.resized c.numCores spec.dpdkBase := by
  simp only [ClientSpec.updateContainerIfChanged, if_neg kept]

end WekaOperator.Clients
