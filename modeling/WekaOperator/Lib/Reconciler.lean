import Mathlib

/-! Reconcilers.

A reconciler is a program whose calls are answered by a world that others change as well. A system runs such programs
over and over, in any interleaving, with failed calls that may have been applied, and with crashes. An invariant of its
reachable states is proved step by step, or from a contract between the parties that each of their programs keeps.
A finite play gives a reachable state for the existence results. -/

namespace WekaOperator.Lib

open Option

/-! ### Reachability -/

section Reachability
variable {σ ε : Type} {step : σ → ε → Option σ} {init : σ → Prop}

/-- The states that a step function reaches from the initial ones. -/
inductive Reach (step : σ → ε → Option σ) (init : σ → Prop) : σ → Prop
  | init {s : σ} (h : init s) : Reach step init s
  | step {s s' : σ} (h : Reach step init s) (e : ε) (hs : step s e = some s') : Reach step init s'

theorem Reach.invariant {P : σ → Prop} (base : ∀ s, init s → P s)
    (keep : ∀ s e s', P s → step s e = some s' → P s') {s : σ} (h : Reach step init s) : P s := by
  induction h with
  | init h => exact base _ h
  | step _ e hs ih => exact keep _ e _ ih hs

/-- Takes one event after the other. -/
def runEvents (step : σ → ε → Option σ) : List ε → σ → Option σ
  | [], s => some s
  | e :: es, s => (step s e).bind (runEvents step es)

end Reachability

/-! ### Programs -/

/-- A program as the calls it makes, each with what it does with the reply. -/
inductive Prog (Op : Type) (Res : Op → Type) (α : Type) : Type
  | ret (a : α)
  | call (op : Op) (k : Res op → Prog Op Res α)

namespace Prog
variable {Op : Type} {Res : Op → Type} {α β : Type}

/-- Runs a program and then another on its result. -/
def bind : Prog Op Res α → (α → Prog Op Res β) → Prog Op Res β
  | .ret a, f => f a
  | .call op k, f => .call op fun r => (k r).bind f

instance : Monad (Prog Op Res) where
  pure := .ret
  bind := Prog.bind

@[simp] theorem ret_bind (a : α) (f : α → Prog Op Res β) : (Prog.ret a >>= f : Prog Op Res β) = f a := rfl

@[simp] theorem call_bind (op : Op) (k : Res op → Prog Op Res α) (f : α → Prog Op Res β) :
    (Prog.call op k >>= f : Prog Op Res β) = .call op fun r => k r >>= f := rfl

@[simp] theorem pure_eq_ret (a : α) : (pure a : Prog Op Res α) = .ret a := rfl

theorem bind_assoc {γ : Type} (p : Prog Op Res α) (f : α → Prog Op Res β) (g : β → Prog Op Res γ) :
    p >>= f >>= g = p >>= fun a => f a >>= g := by
  induction p with
  | ret a => rfl
  | call op k ih => exact congrArg (Prog.call op) (funext ih)

/-! ### Answered programs -/

/-- The result of a program when each call is answered by `reply`. -/
def value (reply : (op : Op) → Res op) : Prog Op Res α → α
  | .ret a => a
  | .call op k => (k (reply op)).value reply

/-- The calls a program makes when each is answered by `reply`. -/
def calls (reply : (op : Op) → Res op) : Prog Op Res α → List Op
  | .ret _ => []
  | .call op k => op :: (k (reply op)).calls reply

variable (reply : (op : Op) → Res op)

@[simp] theorem value_bind (p : Prog Op Res α) (f : α → Prog Op Res β) :
    (p >>= f).value reply = (f (p.value reply)).value reply := by
  induction p with
  | ret a => rfl
  | call op k ih => exact ih (reply op)

@[simp] theorem calls_bind (p : Prog Op Res α) (f : α → Prog Op Res β) :
    (p >>= f).calls reply = p.calls reply ++ (f (p.value reply)).calls reply := by
  induction p with
  | ret a => rfl
  | call op k ih => exact congrArg (op :: ·) (ih (reply op))

@[simp] theorem value_ret (a : α) : (Prog.ret a : Prog Op Res α).value reply = a := rfl

@[simp] theorem calls_ret (a : α) : (Prog.ret a : Prog Op Res α).calls reply = [] := rfl

end Prog

/-! ### Systems -/

/-- Parties that run a program over and over on a shared world, which also changes by itself. -/
structure System (World ι Op Env : Type) (Res : Op → Type) where
  body : ι → Prog Op Res Unit
  start : ι → World → World
  perform : ι → World → (op : Op) → Res op → Bool → Option World
  env : World → Env → Option World

/-- A party starts a run, gets a reply (a failed call may still have been applied) or crashes, or the world changes. -/
inductive Event (ι Op Env : Type) (Res : Op → Type)
  | start (i : ι)
  | reply (i : ι) (op : Op) (r : Res op) (applied : Bool)
  | crash (i : ι)
  | env (e : Env)

/-- The world, and what is left to run of each party's program. -/
structure SysState (World ι Op : Type) (Res : Op → Type) where
  world : World
  threads : ι → Prog Op Res Unit

namespace System
variable {World ι Op Env : Type} {Res : Op → Type} [DecidableEq ι] [DecidableEq Op]

/-- One event, if the condition `ok` allows it. -/
def step (sys : System World ι Op Env Res) (ok : World → Event ι Op Env Res → Bool) (s : SysState World ι Op Res)
    (e : Event ι Op Env Res) : Option (SysState World ι Op Res) :=
  if ok s.world e = false then none else
  match e with
  | .start i =>
    match s.threads i with
    | .ret _ => some { world := sys.start i s.world, threads := Function.update s.threads i (sys.body i) }
    | .call _ _ => none
  | .reply i op r applied =>
    match s.threads i with
    | .ret _ => none
    | .call op' k =>
      if h : op = op' then (sys.perform i s.world op r applied).map fun w =>
        { world := w, threads := Function.update s.threads i (k (h ▸ r)) }
      else none
  | .crash i => some { s with threads := Function.update s.threads i (.ret ()) }
  | .env e => (sys.env s.world e).map fun w => { s with world := w }

/-- No party is running. -/
def idle (w : World) : SysState World ι Op Res := ⟨w, fun _ => .ret ()⟩

/-- The states reached by events that all meet the condition. -/
def Reachable (sys : System World ι Op Env Res) (ok : World → Event ι Op Env Res → Bool) (init : World)
    (s : SysState World ι Op Res) : Prop :=
  Reach (sys.step ok) (· = idle init) s

/-! ### Scripted passes -/

/-- Answers up to so many calls of a party by a script. -/
def answerAll (sys : System World ι Op Env Res) (ok : World → Event ι Op Env Res → Bool) (i : ι)
    (script : World → (op : Op) → Res op) : Nat → SysState World ι Op Res → Option (SysState World ι Op Res)
  | 0, s => some s
  | n + 1, s =>
    match s.threads i with
    | .ret _ => some s
    | .call op _ => (sys.step ok s (.reply i op (script s.world op) false)).bind (sys.answerAll ok i script n)

/-- Starts a party and answers its calls by a script. -/
def pass (sys : System World ι Op Env Res) (ok : World → Event ι Op Env Res → Bool) (i : ι)
    (script : World → (op : Op) → Res op) (n : Nat) (s : SysState World ι Op Res) : Option (SysState World ι Op Res) :=
  (sys.step ok s (.start i)).bind (sys.answerAll ok i script n)

variable {sys : System World ι Op Env Res} {ok : World → Event ι Op Env Res → Bool} {init : World}
  {s s' : SysState World ι Op Res}

theorem Reachable.idle : sys.Reachable ok init (System.idle init) := .init rfl

theorem Reachable.step (h : sys.Reachable ok init s) {e : Event ι Op Env Res} (hs : sys.step ok s e = some s') :
    sys.Reachable ok init s' := Reach.step h e hs

variable {script : World → (op : Op) → Res op} {n : Nat} {i : ι}

theorem Reachable.answerAll (h : sys.Reachable ok init s) (hs : sys.answerAll ok i script n s = some s') :
    sys.Reachable ok init s' := by
  induction n generalizing s with
  | zero =>
    cases hs
    exact h
  | succ n ih =>
    unfold System.answerAll at hs
    split at hs
    · cases hs
      exact h
    · obtain ⟨s₁, hs₁, hs⟩ := bind_eq_some_iff.mp hs
      exact ih (h.step hs₁) hs

theorem Reachable.pass (h : sys.Reachable ok init s) (hs : sys.pass ok i script n s = some s') : sys.Reachable ok init s' := by
  obtain ⟨s₁, hs₁, hs⟩ := bind_eq_some_iff.mp hs
  exact (h.step hs₁).answerAll hs

/-- A piece of a play: a scripted run or a single event. -/
inductive Scene (World ι Op Env : Type) (Res : Op → Type)
  | pass (i : ι) (script : World → (op : Op) → Res op) (n : Nat)
  | event (e : Event ι Op Env Res)

/-- Plays one scene. -/
def play (sys : System World ι Op Env Res) (ok : World → Event ι Op Env Res → Bool) (s : SysState World ι Op Res) :
    Scene World ι Op Env Res → Option (SysState World ι Op Res)
  | .pass i script n => sys.pass ok i script n s
  | .event e => sys.step ok s e

/-- Plays all scenes from the initial world. -/
def playAll (sys : System World ι Op Env Res) (ok : World → Event ι Op Env Res → Bool) (init : World)
    (scenes : List (Scene World ι Op Env Res)) : Option (SysState World ι Op Res) :=
  runEvents (sys.play ok) scenes (System.idle init)

theorem Reachable.playAll {scenes : List (Scene World ι Op Env Res)} (hs : sys.playAll ok init scenes = some s) :
    sys.Reachable ok init s := by
  have step : ∀ scenes (s₀ : SysState World ι Op Res), sys.Reachable ok init s₀ →
      runEvents (sys.play ok) scenes s₀ = some s → sys.Reachable ok init s := by
    intro scenes
    induction scenes with
    | nil =>
      intro s₀ h hs
      cases hs
      exact h
    | cons scene scenes ih =>
      intro s₀ h hs
      obtain ⟨s₁, hs₁, hs⟩ := bind_eq_some_iff.mp hs
      refine ih s₁ ?_ hs
      cases scene with
      | pass i script n => exact h.pass hs₁
      | event e => exact h.step hs₁
  exact step scenes _ .idle hs

section Plays
variable {P Q : SysState World ι Op Res → Prop} [DecidablePred P] (scenes : List (Scene World ι Op Env Res))

section
variable (h : (sys.playAll ok init scenes).any (fun s => decide (P s)) = true)
include h

theorem Reachable.of_play : ∃ s, sys.Reachable ok init s ∧ P s := by
  cases hs : sys.playAll ok init scenes with
  | none =>
    rw [hs] at h
    cases h
  | some s =>
    rw [hs] at h
    exact ⟨s, .playAll hs, of_decide_eq_true h⟩

theorem Reachable.of_play_and (q : ∀ {s}, sys.Reachable ok init s → Q s) : ∃ s, sys.Reachable ok init s ∧ P s ∧ Q s :=
  (of_play scenes h).imp fun _ h => ⟨h.1, h.2, q h.1⟩

end

end Plays

/-- This party is not running. -/
def idleAt (s : SysState World ι Op Res) (i : ι) : Bool :=
  match s.threads i with
  | .ret _ => true
  | .call _ _ => false

omit [DecidableEq ι] [DecidableEq Op] in
theorem idleAt_iff {i : ι} : idleAt s i = true ↔ s.threads i = .ret () := by
  unfold idleAt
  cases s.threads i with
  | ret _ => simp
  | call op k => simp

end System

/-! ### Rely and guarantee -/

/-- An invariant of the world, and what each party relies on while others act. -/
structure Contract (World ι : Type) where
  inv : World → Prop
  rely : ι → World → World → Prop
  refl : ∀ i w, rely i w w
  trans : ∀ i w w' w'', rely i w w' → rely i w' w'' → rely i w w''

section Safe
variable {World ι Op Env : Type} {Res : Op → Type}
variable (sys : System World ι Op Env Res) (ok : World → Event ι Op Env Res → Bool) (c : Contract World ι) (i : ι)

/-- Whatever others do within the contract, every call keeps it, and `Q` holds at the end. -/
def Safe {α : Type} (Q : α → World → Prop) : Prog Op Res α → World → Prop
  | .ret a, w => ∀ w', c.rely i w w' → c.inv w' → Q a w'
  | .call op k, w => ∀ w', c.rely i w w' → c.inv w' → ∀ r applied w'', ok w' (.reply i op r applied) = true →
      sys.perform i w' op r applied = some w'' →
      c.inv w'' ∧ (∀ j, j ≠ i → c.rely j w' w'') ∧ Safe Q (k r) w''

variable {sys ok c i} {α β : Type} {Q : α → World → Prop} {Q' : β → World → Prop}
variable {p : Prog Op Res α} {f : α → Prog Op Res β} {w : World}

theorem Safe.stable {w' : World} (h : Safe sys ok c i Q p w) (hr : c.rely i w w') : Safe sys ok c i Q p w' := by
  cases p with
  | ret a => exact fun w'' hr' => h w'' (c.trans i _ _ _ hr hr')
  | call op k => exact fun w'' hr' => h w'' (c.trans i _ _ _ hr hr')

theorem Safe.pure {a : α} (h : ∀ w', c.rely i w w' → c.inv w' → Q a w') : Safe sys ok c i Q (Pure.pure a) w := h

theorem Safe.bind (h : Safe sys ok c i Q p w) (hf : ∀ a w', c.inv w' → Q a w' → Safe sys ok c i Q' (f a) w') :
    Safe sys ok c i Q' (p >>= f) w := by
  induction p generalizing w with
  | ret a =>
    rw [Prog.ret_bind]
    have hq : ∀ w', c.rely i w w' → c.inv w' → Safe sys ok c i Q' (f a) w' := fun w' hr hi => hf a w' hi (h w' hr hi)
    cases hp : f a with
    | ret b =>
      intro w' hr hi
      have := hq w' hr hi
      rw [hp] at this
      exact this w' (c.refl i w') hi
    | call op k =>
      intro w' hr hi
      have := hq w' hr hi
      rw [hp] at this
      exact this w' (c.refl i w') hi
  | call op k ih =>
    rw [Prog.call_bind]
    intro w' hr hi r applied w'' hok hp
    obtain ⟨hi', hg, hk⟩ := h w' hr hi r applied w'' hok hp
    exact ⟨hi', hg, ih r hk⟩

theorem safe_of_reach [DecidableEq ι] [DecidableEq Op] {init : World} {s : SysState World ι Op Res} (h : sys.Reachable ok init s) (hinit : c.inv init)
    (hstart : ∀ i w, c.inv w → ok w (.start i) = true → c.inv (sys.start i w) ∧
      (∀ j, j ≠ i → c.rely j w (sys.start i w)) ∧ Safe sys ok c i (fun _ _ => True) (sys.body i) (sys.start i w))
    (henv : ∀ w e w', c.inv w → ok w (.env e) = true → sys.env w e = some w' → c.inv w' ∧ ∀ i, c.rely i w w') :
    c.inv s.world := by
  have idle_safe : ∀ i w, Safe sys ok c i (fun _ _ => True) (.ret ()) w := fun _ _ _ _ _ => trivial
  refine (Reach.invariant (P := fun s => c.inv s.world ∧ ∀ i, Safe sys ok c i (fun _ _ => True) (s.threads i) s.world)
    ?_ ?_ h).1
  · rintro _ rfl
    exact ⟨hinit, fun i => idle_safe i _⟩
  · rintro s e s' ⟨hinv, hsafe⟩ hs
    unfold System.step at hs
    split at hs
    · cases hs
    rename_i hok
    rw [Bool.not_eq_false] at hok
    -- A thread other than the acting one stays safe by its rely.
    have others : ∀ {i : ι} {p : Prog Op Res Unit} {w : World}, (∀ j, j ≠ i → c.rely j s.world w) →
        Safe sys ok c i (fun _ _ => True) p w →
        ∀ j, Safe sys ok c j (fun _ _ => True) (Function.update s.threads i p j) w := by
      intro i p w hg hp j
      by_cases hj : j = i
      · subst hj
        rw [Function.update_self]
        exact hp
      · rw [Function.update_of_ne hj]
        exact (hsafe j).stable (hg j hj)
    cases e with
    | start i =>
      dsimp only at hs
      split at hs
      · cases hs
        obtain ⟨hi, hg, hb⟩ := hstart i s.world hinv hok
        exact ⟨hi, others hg hb⟩
      · cases hs
    | reply i op r applied =>
      dsimp only at hs
      split at hs
      · cases hs
      rename_i op' k hthread
      split at hs
      · rename_i hop
        subst hop
        obtain ⟨w, hw, rfl⟩ := map_eq_some_iff.mp hs
        have hi := hsafe i
        rw [hthread] at hi
        obtain ⟨hi', hg, hk⟩ := hi s.world (c.refl i _) hinv r applied w hok hw
        exact ⟨hi', others hg hk⟩
      · cases hs
    | crash i =>
      cases hs
      exact ⟨hinv, others (fun j _ => c.refl j _) (idle_safe i _)⟩
    | env e =>
      obtain ⟨w, hw, rfl⟩ := map_eq_some_iff.mp hs
      obtain ⟨hi, hg⟩ := henv s.world e w hinv hok hw
      exact ⟨hi, fun j => (hsafe j).stable (hg j)⟩

/-! ### Programs that only read -/

section Reads
variable (reads : Op → Prop) (admits : (op : Op) → Res op → Prop)

/-- A program that only reads and whose result satisfies `R`. -/
def Prog.Yields {α : Type} (R : α → Prop) : Prog Op Res α → Prop
  | .ret a => R a
  | .call op k => reads op ∧ ∀ r, admits op r → (k r).Yields R

variable {reads admits} {R : α → Prop} {R' : β → Prop}

theorem Prog.Yields.bind (h : p.Yields reads admits R) (hf : ∀ a, R a → (f a).Yields reads admits R') :
    (p >>= f).Yields reads admits R' := by
  induction p with
  | ret a => exact hf a h
  | call op k ih => exact ⟨h.1, fun r hr => ih r (h.2 r hr)⟩

theorem Prog.Yields.answered (h : p.Yields reads (fun _ _ => True) R) (reply : (op : Op) → Res op) :
    (∀ op ∈ p.calls reply, reads op) ∧
      ∀ reply' : (op : Op) → Res op, (∀ op, reads op → reply' op = reply op) → p.value reply' = p.value reply := by
  induction p with
  | ret a => exact ⟨by simp [Prog.calls], fun _ _ => rfl⟩
  | call op k ih =>
    obtain ⟨hcalls, hvalue⟩ := ih (reply op) (h.2 _ trivial)
    refine ⟨fun op' hop' => ?_, fun reply' agree => ?_⟩
    · rcases List.mem_cons.mp hop' with rfl | hop'
      · exact h.1
      · exact hcalls op' hop'
    · have := hvalue reply' agree
      simpa only [Prog.value, agree op h.1] using this

end Reads

end Safe
end WekaOperator.Lib
