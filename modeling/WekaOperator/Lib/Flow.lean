import WekaOperator.Lib.Protocol

/-! Step flows.

Actions are programs with a memory that may fail, and a flow runs steps in order, each with its predicates and the
condition it sets. `Leads` and `Keeps` are the rules of pre- and postconditions for them over a protocol. -/

namespace WekaOperator.Lib.Flow

variable {Op : Type} {Res : Op → Type} {μ κ σ α β : Type}

/-- A program with a memory of its own that may fail with a text. -/
abbrev Action (Op : Type) (Res : Op → Type) (μ : Type) := ExceptT String (StateT μ (Prog Op Res))

/-- One call. -/
def call (op : Op) : Action Op Res μ (Res op) := fun m => .call op fun r => .ret (.ok r, m)

/-- The value of a reply, or a failure with its text. -/
def orFail {ε : Type} (text : ε → String) : Except ε α → Action Op Res μ α
  | .ok a => pure a
  | .error e => throw (text e)

/-- Runs an action and hands its failure back as a value. -/
def attempt (x : Action Op Res μ Unit) : Action Op Res μ (Option String) := fun m => x m >>= fun
  | (.ok (), m') => .ret (.ok none, m')
  | (.error e, m') => .ret (.ok (some e), m')

/-- Runs an action and rewrites the text of its failure. -/
def wrapError (text : String → String) (x : Action Op Res μ α) : Action Op Res μ α := fun m => x m >>= fun
  | (.ok a, m') => .ret (.ok a, m')
  | (.error e, m') => .ret (.error (text e), m')

/-- A step of a flow: a condition it sets when done, predicates, and what it runs. -/
structure Step (Op : Type) (Res : Op → Type) (μ κ : Type) where
  state : Option κ := none
  predicates : List (μ → Bool) := []
  continueOnError : Bool := false
  run : Action Op Res μ Unit

/-- How the condition of a step is looked up and set. -/
structure Keeper (Op : Type) (Res : Op → Type) (μ κ : Type) where
  isTrue : κ → μ → Bool
  setTrue : κ → Action Op Res μ Unit

/-- A step is skipped when its condition is set or a predicate is false. -/
def Step.skipped (keeper : Keeper Op Res μ κ) (s : Step Op Res μ κ) (m : μ) : Bool :=
  s.state.any (keeper.isTrue · m) || !s.predicates.all (· m)

/-- Runs a step and sets its condition; an error it tolerates does not stop the flow. -/
def Step.exec (keeper : Keeper Op Res μ κ) (s : Step Op Res μ κ) : Action Op Res μ Unit := fun m =>
  if s.skipped keeper m then .ret (.ok (), m)
  else s.run m >>= fun
    | (.ok (), m') =>
      match s.state with
      | none => .ret (.ok (), m')
      | some c => keeper.setTrue c m'
    | (.error e, m') => .ret (if s.continueOnError then .ok () else .error e, m')

/-- Runs the steps in order up to the first error. -/
def runAll (keeper : Keeper Op Res μ κ) : List (Step Op Res μ κ) → Action Op Res μ Unit
  | [] => pure ()
  | s :: steps => do
    s.exec keeper
    runAll keeper steps

/-! ### Rules -/

section Rules
variable (proto : Protocol Op Res σ)

/-- From `R`, an action leads to `Q` on success and to `E` on failure. -/
def Leads (R : μ → σ → Prop) (x : Action Op Res μ α) (Q : α → μ → σ → Prop) (E : μ → σ → Prop) : Prop :=
  ∀ m st, R m st → (x m).Conforms proto (fun out st' =>
    match out.1 with
    | .ok a => Q a out.2 st'
    | .error _ => E out.2 st') st

/-- An action keeps `R` however it ends. -/
def Keeps (R : μ → σ → Prop) (x : Action Op Res μ α) : Prop := Leads proto R x (fun _ => R) R

variable {proto} {R R' : μ → σ → Prop} {Q : α → μ → σ → Prop} {Q' : β → μ → σ → Prop} {E : μ → σ → Prop}
variable {x : Action Op Res μ α} {f : α → Action Op Res μ β} {ε : Type} {op : Op}

theorem Leads.bind (hx : Leads proto R x Q E) (hf : ∀ a, Leads proto (Q a) (f a) Q' E) : Leads proto R (x >>= f) Q' E := by
  intro m st h
  refine .bind (hx m st h) ?_
  rintro ⟨out, m'⟩ st' hout
  cases out with
  | ok a => exact hf a m' st' hout
  | error e => exact hout

theorem Leads.mono {Q₂ : α → μ → σ → Prop} {E₂ : μ → σ → Prop} (h : Leads proto R x Q E)
    (hQ : ∀ a m st, Q a m st → Q₂ a m st) (hE : ∀ m st, E m st → E₂ m st) : Leads proto R x Q₂ E₂ := by
  intro m st hm
  refine (h m st hm).mono ?_
  rintro ⟨out, m'⟩ st' hout
  cases out with
  | ok a => exact hQ a m' st' hout
  | error e => exact hE m' st' hout

theorem Leads.pre (h : Leads proto R x Q E) (hR : ∀ m st, R' m st → R m st) :
    Leads proto R' x Q E := fun m st hm => h m st (hR m st hm)

theorem Leads.fact {P : Prop} (h : P → Leads proto R x Q E) :
    Leads proto (fun m st => P ∧ R m st) x Q E := fun m st hm => h hm.1 m st hm.2

theorem Leads.ite {p : Prop} [Decidable p] {y : Action Op Res μ α} (hx : p → Leads proto R x Q E)
    (hy : ¬p → Leads proto R y Q E) : Leads proto R (if p then x else y) Q E := by
  split
  · exact hx ‹_›
  · exact hy ‹_›

theorem Leads.pure {a : α} (h : ∀ m st, R m st → Q a m st) : Leads proto R (Pure.pure a : Action Op Res μ α) Q E := h

theorem Leads.throw {e : String} (h : ∀ m st, R m st → E m st) : Leads proto R (throw e : Action Op Res μ α) Q E := h

theorem Leads.get {Q : μ → μ → σ → Prop} (h : ∀ m st, R m st → Q m m st) :
    Leads proto R (MonadState.get : Action Op Res μ μ) Q E := h

theorem Leads.call {Q : Res op → μ → σ → Prop} (allowed : ∀ m st, R m st → proto.allowed st op)
    (next : ∀ m st r, R m st → Q r m (proto.next st op r)) : Leads proto R (call op : Action Op Res μ (Res op)) Q E :=
  fun m st h => ⟨allowed m st h, fun r _ => next m st r h⟩

theorem Keeps.bind (hx : Keeps proto R x) (hf : ∀ a, Keeps proto R (f a)) : Keeps proto R (x >>= f) := Leads.bind hx hf

theorem Keeps.pure (a : α) : Keeps proto R (Pure.pure a : Action Op Res μ α) := fun _ _ h => h

theorem Keeps.throw (e : String) : Keeps proto R (throw e : Action Op Res μ α) := fun _ _ h => h

theorem Keeps.get : Keeps proto R (MonadState.get : Action Op Res μ μ) := fun _ _ h => h

theorem Keeps.orFail (text : ε → String) (r : Except ε α) : Keeps proto R (Flow.orFail text r : Action Op Res μ α) := by
  cases r with
  | ok a => exact .pure a
  | error e => exact .throw _

theorem Leads.orFail {text : ε → String} {r : Except ε α} (ok : ∀ a, r = .ok a → ∀ m st, R m st → Q a m st)
    (error : ∀ e, r = .error e → ∀ m st, R m st → E m st) : Leads proto R (Flow.orFail text r : Action Op Res μ α) Q E := by
  cases r with
  | ok a => exact ok a rfl
  | error e => exact error e rfl

theorem Leads.attempt {x : Action Op Res μ Unit} {R₁ R₂ : μ → σ → Prop} (hx : Leads proto R x (fun _ => R₁) R₂) :
    Leads proto R (attempt x) (fun | none => R₁ | some _ => R₂) E := by
  intro m st h
  refine .bind (hx m st h) ?_
  rintro ⟨out, m'⟩ st' hout
  cases out with
  | ok a => exact hout
  | error e => exact hout

theorem Keeps.attempt {x : Action Op Res μ Unit} (hx : Keeps proto R x) : Keeps proto R (Flow.attempt x) := by
  refine .mono (.attempt hx) ?_ fun _ _ h => h
  rintro (_ | e) m st h
  · exact h
  · exact h

theorem Leads.wrapError (text : String → String) (hx : Leads proto R x Q E) : Leads proto R (wrapError text x) Q E := by
  intro m st h
  refine .bind (hx m st h) ?_
  rintro ⟨out, m'⟩ st' hout
  cases out with
  | ok a => exact hout
  | error e => exact hout

theorem Keeps.modify {f : μ → μ} (hf : ∀ m st, R m st → R (f m) st) :
    Keeps proto R (modify f : Action Op Res μ PUnit) := fun m st h => hf m st h

theorem Keeps.call (allowed : ∀ m st, R m st → proto.allowed st op) (next : ∀ m st r, R m st → R m (proto.next st op r)) :
    Keeps proto R (call op : Action Op Res μ (Res op)) :=
  fun m st h => ⟨allowed m st h, fun r _ => next m st r h⟩

variable {keeper : Keeper Op Res μ κ} {s : Step Op Res μ κ} {steps steps' : List (Step Op Res μ κ)}

theorem Step.exec_keeps (run : Keeps proto R s.run) (set : ∀ c, s.state = some c → Keeps proto R (keeper.setTrue c)) :
    Keeps proto R (s.exec keeper) := by
  intro m st h
  unfold Step.exec
  split
  · exact h
  · refine .bind (run m st h) ?_
    rintro ⟨out, m'⟩ st' hout
    cases out with
    | error e =>
      dsimp only
      split <;> exact hout
    | ok _ =>
      dsimp only
      split
      · exact hout
      · exact set _ ‹_› m' st' hout

theorem Step.exec_leads {Q : μ → σ → Prop} (strict : s.continueOnError = false)
    (skip : ∀ m st, R m st → s.skipped keeper m = true → R' m st)
    (run : Leads proto R s.run (fun _ => Q) E) (unrecorded : s.state = none → ∀ m st, Q m st → R' m st)
    (set : ∀ c, s.state = some c → Leads proto Q (keeper.setTrue c) (fun _ => R') E) :
    Leads proto R (s.exec keeper) (fun _ => R') E := by
  intro m st h
  unfold Step.exec
  split
  · exact skip m st h ‹_›
  · refine .bind (run m st h) ?_
    rintro ⟨out, m'⟩ st' hout
    cases out with
    | error e =>
      simp only [strict]
      exact hout
    | ok _ =>
      dsimp only
      split
      · exact unrecorded ‹_› m' st' hout
      · exact set _ ‹_› m' st' hout

theorem Step.exec_lenient (lenient : s.continueOnError = true) (unrecorded : s.state = none)
    (skip : ∀ m st, R m st → s.skipped keeper m = true → R' m st) (run : Leads proto R s.run (fun _ => R') R') :
    Leads proto R (s.exec keeper) (fun _ => R') E := by
  intro m st h
  unfold Step.exec
  split
  · exact skip m st h ‹_›
  · refine .bind (run m st h) ?_
    rintro ⟨out, m'⟩ st' hout
    cases out with
    | error e => exact hout
    | ok _ =>
      simp only [unrecorded]
      exact hout

theorem runAll_keeps (h : ∀ s ∈ steps, Keeps proto R (s.exec keeper)) : Keeps proto R (runAll keeper steps) := by
  induction steps with
  | nil => exact .pure ()
  | cons s steps ih =>
    exact (h s List.mem_cons_self).bind fun _ => ih fun s' hs' => h s' (List.mem_cons_of_mem _ hs')

theorem runAll_append : runAll keeper (steps ++ steps') = (do runAll keeper steps; runAll keeper steps') := by
  induction steps with
  | nil => rfl
  | cons s steps ih =>
    funext m
    change (s.exec keeper m >>= _ : Prog Op Res _) = (s.exec keeper m >>= _) >>= _
    rw [Prog.bind_assoc]
    congr 1
    funext ⟨out, m'⟩
    cases out with
    | error e => rfl
    | ok _ => exact congrFun ih m'

end Rules

end WekaOperator.Lib.Flow
