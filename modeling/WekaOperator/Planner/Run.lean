import WekaOperator.Planner.Moves
import WekaOperator.Planner.Plan

/-! A whole planning run.

Induction rules over the pools and the failure domains a run places on, with what every placement keeps; the other
modules derive their invariants of the books from them. -/

namespace WekaOperator.Planner
open Bool Lib

/-- A failure domain met on the way satisfies `f`. -/
def uniformAny (p : PoolKind) (existing : List ExistingContainer) (cons : CapacityConstraints) (target : Int)
    (f : Books → FdGroup → Bool) : List FdGroup → Books → Bool
  | [], _ => false
  | g :: gs, b => f b g || uniformAny p existing cons target f gs (placeFd p existing cons target b g)

variable {target : Int} {i : Increase}

theorem placeUniform_induct {p : PoolKind} {existing : List ExistingContainer} {cons : CapacityConstraints}
    {f : Books → FdGroup → Bool} {P : Books → Prop}
    (step : ∀ b g, P b → f b g = false → P (placeFd p existing cons target b g)) (chosen : List FdGroup) (b : Books)
    (init : P b) (h : uniformAny p existing cons target f chosen b = false) :
    P (placeUniform p existing cons target chosen b) := by
  induction chosen generalizing b with
  | nil => exact init
  | cons g gs ih =>
    rw [uniformAny, or_eq_false_iff] at h
    exact ih _ (step b g init h.1) h.2

/-! ### Decisions -/

variable {targetFds : Int} {short : Prop} {d : Draft}

section Choice
variable {p : PoolKind} {desiredRaw minFd : Int} {existing : List ExistingContainer} {cons : CapacityConstraints}
  {b : Books}

theorem capacityShort_lt {current desired : Int} (nonneg : 0 ≤ desired) (h : capacityShort current desired cons = true) :
    current < desired := by
  unfold capacityShort at h
  split at h
  · simpa using h
  · rename_i hd
    have hnn : 0 ≤ (desired * cons.capacityDeadbandFraction).ceil := by
      have hq : (0 : ℚ) ≤ desired * cons.capacityDeadbandFraction :=
        mul_nonneg (by exact_mod_cast nonneg) (not_le.mp hd).le
      exact_mod_cast hq.trans Rat.le_ceil
    have h : desired - current > (desired * cons.capacityDeadbandFraction).ceil := by simpa using h
    omega

theorem resolveExactNewFds_reason {delta : Int} {reason : String}
    (h : resolveExactNewFds p existing cons targetFds delta = .error reason) : reason ≠ "" := by
  unfold resolveExactNewFds at h
  split at h
  · cases h
  dsimp only at h
  split at h
  · cases h
    simp [toString_self]
  split at h
  · cases h
    simp [toString_self]
  split at h
  · cases h
    simp [toString_self]
  · cases h

theorem freshInfeasible_reason : (freshInfeasible p desiredRaw minFd existing cons b).reason ≠ "" := by
  unfold freshInfeasible uniformInfeasibleMsg
  dsimp only
  split
  · dsimp only
    split <;> simp [toString_self]
  · simp [toString_self]

theorem increaseFrozen_reason : (increaseFrozen p desiredRaw minFd i).reason ≠ "" := by
  unfold increaseFrozen
  dsimp only
  split <;> simp [toString_self]

theorem increaseTooSmall_reason {L : Int} : (increaseTooSmall p cons i L).reason ≠ "" := by
  unfold increaseTooSmall
  generalize truncate _ = pct
  generalize fixed2 _ = fraction
  simp [toString_self]

/-- The pool is kept only if it is not short. -/
def PoolChoice.Sound (short : Prop) : PoolChoice → Prop
  | .keep => ¬short
  | .shrink _ => ¬short
  | .infeasible report => report.reason ≠ ""
  | .place _ => True

variable {order : MapOrder (String × Int)}

theorem planPoolExplicit_sound : (planPoolExplicit p desiredRaw existing cons b targetFds order).Sound short := by
  unfold planPoolExplicit
  split
  · rename_i h
    exact resolveExactNewFds_reason h
  dsimp only
  split
  · simp [PoolChoice.Sound, toString_self]
  · trivial

theorem planPoolUniformIncrease_sound :
    (planPoolUniformIncrease p desiredRaw minFd existing cons b).Sound short := by
  unfold planPoolUniformIncrease
  dsimp only
  split
  · trivial
  split
  · simp [PoolChoice.Sound, increaseUnreachable, toString_self]
  split
  · trivial
  split
  · exact increaseFrozen_reason
  split
  · exact increaseTooSmall_reason
  · trivial

theorem choosePool_sound :
    (choosePool p desiredRaw minFd existing cons b targetFds order).Sound
      (0 < desiredRaw ∧ capacityShort (poolCurrent existing p) desiredRaw cons = true) := by
  unfold choosePool
  split
  · rename_i h
    exact fun hs => absurd hs.1 (not_lt.mpr h)
  dsimp only
  split
  · rename_i h
    have hs : ¬(0 < desiredRaw ∧ capacityShort (poolCurrent existing p) desiredRaw cons = true) := by
      rintro ⟨pos, hs⟩
      have := capacityShort_lt pos.le hs
      omega
    split <;> exact hs
  split
  · rename_i h
    rintro ⟨-, hs⟩
    simp [hs] at h
  split
  · trivial
  split
  · exact planPoolExplicit_sound
  split
  · exact planPoolUniformIncrease_sound
  split
  · trivial
  · exact freshInfeasible_reason

theorem finalizePoolFeasibility_books (exclude : Bool) (d : Draft) :
    (finalizePoolFeasibility p desiredRaw minFd existing cons exclude d).books = d.books := by
  unfold finalizePoolFeasibility
  dsimp only
  split <;> rfl

theorem finalizePoolFeasibility_feasible {exclude : Bool}
    (h : (finalizePoolFeasibility p desiredRaw minFd existing cons exclude d).plan.infeasible = "") :
    d.plan.infeasible = "" ∧ capacityCoverTarget desiredRaw cons ≤ placedCapacity p existing exclude d.books ∧
      minFd ≤ (finalPerFD p existing d.books).length := by
  unfold finalizePoolFeasibility at h
  dsimp only at h
  split at h
  · rename_i hr
    exact absurd h hr
  rename_i hr
  unfold poolFeasibility at hr
  split at hr
  · split at hr <;> simp [toString_self] at hr
  rename_i hshort
  dsimp only at hr
  split at hr
  · simp [toString_self] at hr
  · exact ⟨h, by omega, by omega⟩

theorem carryOut_books (d : Draft) (choice : PoolChoice) : (carryOut p desiredRaw minFd existing cons d choice).books =
    match choice with
    | .place o => placeUniform p existing cons o.level o.chosen d.books
    | _ => d.books := by
  cases choice with
  | place o =>
    simp only [carryOut]
    split <;> exact finalizePoolFeasibility_books _ _
  | _ => rfl

theorem carryOut_drives (d : Draft) (choice : PoolChoice) :
    (carryOut p desiredRaw minFd existing cons d choice).plan.grow = d.plan.grow ∧
      (carryOut p desiredRaw minFd existing cons d choice).plan.create = d.plan.create := by
  cases choice with
  | place o =>
    simp only [carryOut, finalizePoolFeasibility]
    repeat' split
    all_goals exact ⟨rfl, rfl⟩
  | _ => exact ⟨rfl, rfl⟩

theorem carryOut_feasible {choice : PoolChoice} (sound : choice.Sound short)
    (h : (carryOut p desiredRaw minFd existing cons d choice).plan.infeasible = "") :
    d.plan.infeasible = "" ∧ (short → ∃ exclude, capacityCoverTarget desiredRaw cons ≤ placedCapacity p existing exclude
        (carryOut p desiredRaw minFd existing cons d choice).books ∧
      minFd ≤ (finalPerFD p existing (carryOut p desiredRaw minFd existing cons d choice).books).length) := by
  cases choice with
  | keep => exact ⟨h, fun hs => absurd hs sound⟩
  | shrink msg => exact ⟨h, fun hs => absurd hs sound⟩
  | infeasible report => exact absurd h sound
  | place o =>
    rw [carryOut_books]
    simp only [carryOut] at h
    have hf : (finalizePoolFeasibility p desiredRaw minFd existing cons o.excludePoolPExisting
        { d with books := placeUniform p existing cons o.level o.chosen d.books }).plan.infeasible = "" := by
      split at h <;> exact h
    obtain ⟨h0, hcover, hfds⟩ := finalizePoolFeasibility_feasible hf
    exact ⟨h0, fun _ => ⟨_, hcover, hfds⟩⟩

end Choice

/-! ### Both pools -/

namespace Request
variable (r : Request)

/-- The same over a pool's placement. -/
def poolAny (f : PoolKind → Int → Books → FdGroup → Bool) (targets : Int × Int) (b : Books) (p : PoolKind) : Bool :=
  match r.choice targets b p with
  | .place o => uniformAny p r.existingDrives r.cons o.level (f p o.level) o.chosen b
  | _ => false

/-- The same over some pools. -/
def poolsAny (f : PoolKind → Int → Books → FdGroup → Bool) (targets : Int × Int) : List PoolKind → Draft → Bool
  | [], _ => false
  | p :: ps, d => r.poolAny f targets d.books p || poolsAny f targets ps (r.step targets d p)

/-- The same over the run. -/
def placementAny (f : PoolKind → Int → Books → FdGroup → Bool) (targets : Int × Int) : Bool :=
  r.poolsAny f targets r.pools { books := { states := r.states } }

variable {r} {f : PoolKind → Int → Books → FdGroup → Bool} {targets : Int × Int} {P : Books → Prop}

theorem step_induct {p : PoolKind}
    (step : ∀ level b g, P b → f p level b g = false → P (placeFd p r.existingDrives r.cons level b g))
    (init : P d.books) (h : r.poolAny f targets d.books p = false) : P (r.step targets d p).books := by
  unfold Request.step planPool
  rw [carryOut_books]
  unfold poolAny Request.choice at h
  split
  · rename_i o ho
    rw [ho] at h
    exact placeUniform_induct (step o.level) o.chosen d.books init h
  · exact init

section
variable (step : ∀ p level b g, P b → f p level b g = false → P (placeFd p r.existingDrives r.cons level b g))
include step

theorem pools_induct (pools : List PoolKind) (init : P d.books) (h : r.poolsAny f targets pools d = false) :
    P (pools.foldl (r.step targets) d).books := by
  induction pools generalizing d with
  | nil => exact init
  | cons p ps ih =>
    rw [poolsAny, or_eq_false_iff] at h
    exact ih (step_induct (step p) init h.1) h.2

theorem planned_induct (init : P { states := r.states }) (h : r.placementAny f targets = false) : P (r.planned targets).books :=
  pools_induct step r.pools init h

end

theorem planned_drives : (r.planned targets).plan.grow = [] ∧ (r.planned targets).plan.create = [] := by
  refine List.foldlRecOn (motive := fun d : Draft => d.plan.grow = [] ∧ d.plan.create = []) _ _ ⟨rfl, rfl⟩ ?_
  rintro d ⟨hg, hc⟩ p -
  exact ⟨(carryOut_drives d _).1.trans hg, (carryOut_drives d _).2.trans hc⟩

theorem poolAny_false (b : Books) (p : PoolKind) : r.poolAny (fun _ _ _ _ => false) targets b p = false := by
  have uniform : ∀ (level : Int) (chosen : List FdGroup) (b : Books),
      uniformAny p r.existingDrives r.cons level (fun _ _ => false) chosen b = false := by
    intro level chosen
    induction chosen with
    | nil => exact fun _ => rfl
    | cons g gs ih => exact fun b => by rw [uniformAny, ih, Bool.or_self]
  unfold poolAny
  split
  · exact uniform ..
  · rfl

theorem placementAny_false : r.placementAny (fun _ _ _ _ => false) targets = false := by
  have pools : ∀ (ps : List PoolKind) (d : Draft), r.poolsAny (fun _ _ _ _ => false) targets ps d = false := by
    intro ps
    induction ps with
    | nil => exact fun _ => rfl
    | cons p ps ih => exact fun d => by rw [poolsAny, poolAny_false, ih, Bool.or_self]
  exact pools _ _

theorem planned_keyed : (r.planned targets).books.Keyed :=
  planned_induct (fun _ _ _ g h _ => placeFd_keyed h g)
    ⟨fun _ _ h => (by cases h), fun _ _ h => (by cases h)⟩ placementAny_false

end Request
end WekaOperator.Planner
