import WekaOperator.Lib.Collections
import WekaOperator.Planner.Resources

/-! The books of a plan in the making and the one placement primitive, `placeUniform`: it makes each chosen failure
    domain hold a target of one pool, split evenly over the domain's hosts, growing an existing container or creating
    a new one on each host, and rolls a domain back that cannot reach the target. -/

namespace WekaOperator.Planner
open Lib

/-! ### Existing containers by pool -/

/-- The capacity of a pool now. -/
def poolCurrent (existing : List ExistingContainer) (p : PoolKind) : Int := (existing.map (poolCap · p)).sum

/-- How many failure domains carry it. -/
def poolExistingFds (p : PoolKind) (existing : List ExistingContainer) : Nat :=
  ((existing.filter fun c => poolCap c p > 0 ∧ c.fdValue ≠ "").map (·.fdValue)).dedup.length

/-- The nodes that carry it. -/
def poolNodeUsed (existing : List ExistingContainer) (p : PoolKind) : List String :=
  (existing.filter fun c => poolCap c p > 0 ∧ c.node ≠ "").map (·.node)

/-- The nodes that carry either pool. -/
def allDriveNodes (existing : List ExistingContainer) : List String :=
  (existing.filter fun c => c.node ≠ "" ∧ (c.tlcGiB > 0 ∨ c.qlcGiB > 0)).map (·.node)

/-- Nodes that fresh placement leaves out. -/
def freshExclusion (existing : List ExistingContainer) (p : PoolKind) (cons : CapacityConstraints) : List String :=
  if cons.allowInPlaceGrowth then poolNodeUsed existing p else allDriveNodes existing

/-- The average capacity of those that carry the pool. -/
def poolAvg (existing : List ExistingContainer) (p : PoolKind) : Int :=
  let caps := (existing.map (poolCap · p)).filter (0 < ·)
  if caps.length = 0 then 0 else caps.sum.tdiv caps.length

/-- The pool's capacity by failure domain. -/
def perFdCap (p : PoolKind) (existing : List ExistingContainer) : List (String × Int) :=
  (groupBy (·.fdValue) (existing.filter fun c => c.fdValue ≠ "" ∧ poolCap c p > 0)).map fun g =>
    (g.1, (g.2.map (poolCap · p)).sum)

/-! ### The books -/

/-- The books of a planning run: what nodes have left, growths, and new containers. -/
structure Books where
  states : NameMap NodeState
  growth : NameMap ContainerGrowth := ∅
  newByNode : NameMap NewContainer := ∅

namespace Books

/-- The growth record of a container, opened at its capacities. -/
def growFor (b : Books) (c : ExistingContainer) : ContainerGrowth :=
  (b.growth.lookup c.name).getD { name := c.name, newTlcGiB := c.tlcGiB, newQlcGiB := c.qlcGiB }

/-- The new-container record of a node, opened empty. -/
def newFor (b : Books) (node fd : String) : NewContainer :=
  (b.newByNode.lookup node).getD { node := node, fdValue := fd }

/-- Adds to a growth record. -/
def addGrowth (b : Books) (c : ExistingContainer) (p : PoolKind) (add : Int) : Books :=
  { b with growth := b.growth.insert c.name (addPoolGrowth (b.growFor c) p add) }

/-- Adds to a new-container record. -/
def addNew (b : Books) (node fd : String) (p : PoolKind) (add : Int) : Books :=
  { b with newByNode := b.newByNode.insert node (addPoolNew (b.newFor node fd) p add) }

/-- Replaces what a node has left. -/
def setState (b : Books) (node : String) (ns : NodeState) : Books :=
  { b with states := b.states.insert node ns }

end Books

/-! ### Candidate failure domains -/

/-- The nodes of a failure domain and their room. -/
structure FdGroup where
  nodes : List String
  headroom : Int := 0
  hasDeletingDriveContainer : Bool := false
  colocated : Bool := false
  deriving DecidableEq, Repr

/-- Roomier first, then by name. -/
def headroomOrder (p : PoolKind) (cons : CapacityConstraints) (includeBase : Bool) (a b : NodeState) : Prop :=
  b.nodeHeadroom p cons includeBase < a.nodeHeadroom p cons includeBase ∨
    (a.nodeHeadroom p cons includeBase = b.nodeHeadroom p cons includeBase ∧ a.nc.nodeName ≤ b.nc.nodeName)

instance (p : PoolKind) (cons : CapacityConstraints) (includeBase : Bool) :
    DecidableRel (headroomOrder p cons includeBase) :=
  fun _ _ => inferInstanceAs (Decidable (_ ∨ _))

/-- The failure domains with room for a chunk, outside the used nodes. -/
def orderFreshFdGroups (p : PoolKind) (states : NameMap NodeState) (used : List String) (cons : CapacityConstraints) :
    List FdGroup :=
  let cands := (states.entries.map (·.2)).filter fun ns =>
    ns.nc.nodeName ∉ used ∧ ns.nc.ineligibleReason = "" ∧ cons.minChunkSizeGiB ≤ ns.nodeHeadroom p cons true
  (groupBy (·.nc.fdValue) (cands.insertionSort (headroomOrder p cons true))).map fun g =>
    { nodes := g.2.map (·.nc.nodeName)
      headroom := (g.2.map (·.nodeHeadroom p cons true)).sum
      hasDeletingDriveContainer := g.2.any (·.hasDeletingDriveContainer) }

/-- The container is scheduled on a known node with a failure domain. -/
def growable (states : NameMap NodeState) (c : ExistingContainer) : Bool :=
  c.fdValue ≠ "" && !c.unscheduled && c.node ≠ "" && (states.lookup c.node).isSome

/-- Nodes, the roomiest first. -/
def sortNodesByHeadroomDesc (states : NameMap NodeState) (p : PoolKind) (cons : CapacityConstraints)
    (nodes : List String) : List String :=
  ((nodes.filterMap states.lookup).insertionSort (headroomOrder p cons false)).map (·.nc.nodeName)

/-- Files a container's node under its failure domain. -/
def collectExistingFd (acc : List (String × List String) × List String) (c : ExistingContainer) :
    List (String × List String) × List String :=
  let groups := if acc.1.any (·.1 = c.fdValue) then acc.1 else acc.1 ++ [(c.fdValue, [])]
  if c.node ∈ acc.2 then (groups, acc.2)
  else (groups.map fun g => if g.1 = c.fdValue then (g.1, g.2 ++ [c.node]) else g, c.node :: acc.2)

/-- The failure domains that carry the pool, as groups. -/
def existingFdsAsChosen (p : PoolKind) (existing : List ExistingContainer) (states : NameMap NodeState)
    (cons : CapacityConstraints) : List FdGroup :=
  let pool := existing.filter fun c => growable states c && poolExistingFds p [c] ≠ 0
  ((pool.foldl collectExistingFd ([], [])).1).map fun g =>
    { nodes := sortNodesByHeadroomDesc states p cons g.2 }

/-- New containers that carry only the other pool. -/
def otherPoolPreferNodes (p : PoolKind) (newByNode : NameMap NewContainer) : List String :=
  (newByNode.entries.filter fun e => poolCapNew e.2 p.other > 0 ∧ poolCapNew e.2 p = 0).map (·.1)

/-- A node of the group has such a container. -/
def isColocated (preferNodes : List String) (g : FdGroup) : Bool := g.nodes.any (· ∈ preferNodes)

/-- Groups that share a container with the other pool come first. -/
def colocatedFirst (groups : List FdGroup) (preferNodes : List String) : List FdGroup :=
  if preferNodes.length = 0 then groups else
  ((groups.filter (isColocated preferNodes)).map fun g => { g with colocated := true }) ++
    groups.filter fun g => !isColocated preferNodes g

/-- The first groups that reach the level, colocated ones before others. -/
def takeFreshAtLevel (fresh : List FdGroup) (k : Int) (level : Int) : List FdGroup :=
  let tier (wantColocated wantDeleting : Bool) := fresh.filter fun g =>
    level ≤ g.headroom ∧ g.colocated = wantColocated ∧ g.hasDeletingDriveContainer = wantDeleting
  (tier true false ++ tier true true ++ tier false false ++ tier false true).take k.toNat

/-- The same without regard to deletions. -/
def pickPreferringColocated (candidates : List FdGroup) (n target : Int) (preferNodes : List String) : List FdGroup :=
  let tier (want : Bool) := candidates.filter fun g => target ≤ g.headroom ∧ isColocated preferNodes g = want
  (tier true ++ tier false).take n.toNat

/-- The fewest failure domains that cover the capacity at one level. -/
def selectUniform (desiredRaw minFd : Int) (candidates : List FdGroup) (preferNodes : List String)
    (cons : CapacityConstraints) : Option (List FdGroup × Int) :=
  (intRange (max minFd 1) candidates.length).findSome? fun N =>
    let target := max cons.minChunkSizeGiB (ceilDiv desiredRaw N)
    if (candidates.take N.toNat).all (target ≤ ·.headroom) then
      some (pickPreferringColocated candidates N target preferNodes, target)
    else none

/-! ### Placement -/

/-- The scheduled container on a node. -/
def existingOnNode (existing : List ExistingContainer) (node : String) : Option ExistingContainer :=
  (existing.filter fun c => c.node ≠ "" && !c.unscheduled && c.node == node).getLast?

/-- One placement: a container grew or was created, with the base charge or without. -/
inductive Move
  | grew (node : String) (add : Int) (container : ExistingContainer)
  | created (node : String) (add : Int) (includeBase : Bool)
  deriving DecidableEq, Repr

/-- The placement on a failure domain so far. -/
structure FdRun where
  books : Books
  moves : List Move := []
  placedFD : Int := 0

section Place
variable (p : PoolKind) (existing : List ExistingContainer) (cons : CapacityConstraints)

/-- Gives a host its share, by growing its container or creating one, as far as there is room. -/
def placeHost (fdValue : String) (share : Int) (node : String) (r : FdRun) : FdRun :=
  match r.books.states.lookup node with
  | none => r
  | some ns =>
    let ec := existingOnNode existing node
    let cur := ec.elim 0 (poolCap · p)
    let need := share - cur
    if need ≤ 0 then { r with placedFD := r.placedFD + min cur share } else
    match ec with
    | some c =>
      -- Top up the same pool, or convert an other-pool container to a mixed one.
      let add := min need (ns.nodeHeadroom p cons false)
      if add ≤ 0 then r else
      { books := (r.books.addGrowth c p add).setState node (ns.consume p add cons false)
        moves := r.moves ++ [.grew node add c]
        placedFD := r.placedFD + (cur + add) }
    | none =>
      let includeBase := (r.books.newByNode.lookup node).isNone
      let room := ns.nodeHeadroom p cons includeBase
      if room ≤ 0 then r else
      let hasNew := (r.books.newByNode.lookup node).any (0 < poolCapNew · p)
      let minAdd := if hasNew then 1 else cons.minChunkSizeGiB
      let add := min need room
      if add < minAdd then r else
      { books := (r.books.addNew node fdValue p add).setState node (ns.consume p add cons includeBase)
        moves := r.moves ++ [.created node add includeBase]
        placedFD := r.placedFD + add }

/-- Splits the level over the hosts, the remainder over the first of them. -/
def placeHosts (fdValue : String) (base rem : Int) : List String → Int → FdRun → FdRun
  | [], _, r => r
  | node :: nodes, hi, r =>
    placeHosts fdValue base rem nodes (hi + 1)
      (placeHost p existing cons fdValue (if hi < rem then base + 1 else base) node r)

/-- Takes a move back; the record it opened stays. -/
def undoMove (fdValue : String) (b : Books) : Move → Books
  | .grew node add c =>
    match b.states.lookup node with
    | none => b
    | some ns => (b.addGrowth c p (-add)).setState node (ns.unconsume p add cons false)
  | .created node add includeBase =>
    match b.states.lookup node with
    | none => b
    | some ns => (b.addNew node fdValue p (-add)).setState node (ns.unconsume p add cons includeBase)

/-- Takes all moves of a failure domain back. -/
def rollBack (fdValue : String) (moves : List Move) (b : Books) : Books := moves.foldl (undoMove p cons fdValue) b

/-- Places the level on a failure domain. -/
def runFd (target : Int) (fdValue : String) (nodes : List String) (b : Books) : FdRun :=
  placeHosts p existing cons fdValue (target.tdiv nodes.length) (target.tmod nodes.length) nodes 0 { books := b }

/-- The failure domain of a group, by its first node. -/
def Books.fdOf (b : Books) (nodes : List String) : String :=
  (nodes.head?.bind b.states.lookup).elim "" (·.nc.fdValue)

/-- Places the level on a failure domain, or leaves it as it was if it cannot reach it. -/
def placeFd (target : Int) (b : Books) (g : FdGroup) : Books :=
  if g.nodes = [] then b else
  let r := runFd p existing cons target (b.fdOf g.nodes) g.nodes b
  if r.placedFD < target then rollBack p cons (b.fdOf g.nodes) r.moves r.books else r.books

/-- Brings all chosen failure domains to the level. -/
def placeUniform (target : Int) (chosen : List FdGroup) (b : Books) : Books :=
  chosen.foldl (placeFd p existing cons target) b

end Place
end WekaOperator.Planner
