import WekaOperator.Lib.Flow

/-! Scripted runs.

A script answers every call, so that a run has one outcome. `Runs` are Hoare triples over such a run, with the rules
for actions and steps; they give what a reconciler achieves when all goes well, not only what it never does. -/

namespace WekaOperator.Lib

variable {World ι Op Env : Type} {Res : Op → Type} {α : Type}
variable {w : World}

namespace System

/-- Runs a program to its end with scripted replies. -/
def complete (sys : System World ι Op Env Res) (i : ι) (script : World → (op : Op) → Res op) :
    Prog Op Res α → World → Option (α × World)
  | .ret a, w => some (a, w)
  | .call op k, w => (sys.perform i w op (script w op) false).bind (sys.complete i script (k (script w op)))

/-- The world after one full scripted run of a party. -/
def completed (sys : System World ι Op Env Res) (i : ι) (script : World → (op : Op) → Res op) (w : World) : Option World :=
  (sys.complete i script (sys.body i) (sys.start i w)).map (·.2)

/-- The world after so many full runs. -/
def completedTimes (sys : System World ι Op Env Res) (i : ι) (script : World → (op : Op) → Res op) : Nat → World → Option World
  | 0, w => some w
  | n + 1, w => (sys.completed i script w).bind (sys.completedTimes i script n)

open Classical in
/-- The protocol whose stage is the world as long as the replies follow the script. -/
noncomputable def scripted (sys : System World ι Op Env Res) (i : ι) (script : World → (op : Op) → Res op) :
    Protocol Op Res (Option World) where
  fresh := none
  next o op r := o.bind fun w => if r = script w op then sys.perform i w op r false else none
  allowed o op := ∀ w, o = some w → (sys.perform i w op (script w op) false).isSome
  admits _ _ := True

variable {sys : System World ι Op Env Res} {i : ι} {script : World → (op : Op) → Res op}
variable {Q : α → Option World → Prop}

theorem conforms_deviated (hQ : ∀ a, Q a none) (p : Prog Op Res α) : p.Conforms (sys.scripted i script) Q none := by
  induction p with
  | ret a => exact hQ a
  | call op k ih => exact ⟨nofun, fun r _ => ih r⟩

theorem complete_of_conforms {p : Prog Op Res α} (h : p.Conforms (sys.scripted i script) Q (some w)) :
    ∃ a w', sys.complete i script p w = some (a, w') ∧ Q a (some w') := by
  induction p generalizing w with
  | ret a => exact ⟨a, w, rfl, h⟩
  | call op k ih =>
    obtain ⟨w', hw'⟩ := Option.isSome_iff_exists.mp (h.1 w rfl)
    have next : (sys.scripted i script).next (some w) op (script w op) = some w' := by
      simpa only [scripted, Option.bind_some, if_true] using hw'
    obtain ⟨a, w'', hrun, hQ⟩ := ih (script w op) (next ▸ h.2 (script w op) trivial)
    exact ⟨a, w'', by simpa only [complete, hw', Option.bind_some] using hrun, hQ⟩

theorem complete_bind {β : Type} (p : Prog Op Res α) (f : α → Prog Op Res β) (w : World) :
    sys.complete i script (p >>= f) w = (sys.complete i script p w).bind fun out => sys.complete i script (f out.1) out.2 := by
  induction p generalizing w with
  | ret a => rfl
  | call op k ih =>
    simp only [complete, Option.bind_assoc]
    exact Option.bind_congr fun w' _ => ih (script w op) w'

theorem completedTimes_of_fixed (h : sys.completed i script w = some w) (n : Nat) :
    sys.completedTimes i script n w = some w := by
  induction n with
  | zero => rfl
  | succ n ih => simp only [completedTimes, h, Option.bind_some, ih]

end System

/-! ### Rules -/

namespace Flow
variable {μ : Type} {sys : System World ι Op Env Res} {i : ι} {script : World → (op : Op) → Res op}

/-- A property of the memory and the world, if there is one. -/
def On (P : μ → World → Prop) (m : μ) (o : Option World) : Prop := ∀ w, o = some w → P m w

variable (sys i script) in
/-- Hoare triples for actions under a script. -/
def Runs (P : μ → World → Prop) (x : Action Op Res μ α) (Q : α → μ → World → Prop) (E : μ → World → Prop) : Prop :=
  Leads (sys.scripted i script) (On P) x (fun a => On (Q a)) (On E)

variable {P P' : μ → World → Prop} {x : Action Op Res μ α} {Q Q' : α → μ → World → Prop} {E E' : μ → World → Prop}

theorem Runs.complete (h : Runs sys i script P x Q E) {m : μ} (hP : P m w) :
    ∃ out w', sys.complete i script (x m) w = some (out, w') ∧
      match out.1 with
      | .ok a => Q a out.2 w'
      | .error _ => E out.2 w' := by
  obtain ⟨⟨out, m'⟩, w', hrun, hout⟩ := System.complete_of_conforms (h m (some w) (by rintro _ ⟨⟩; exact hP))
  refine ⟨(out, m'), w', hrun, ?_⟩
  cases out with
  | ok a => exact hout w' rfl
  | error e => exact hout w' rfl

theorem Runs.call {op : Op} {Q : Res op → μ → World → Prop}
    (h : ∀ m w, P m w → ∃ w', sys.perform i w op (script w op) false = some w' ∧ Q (script w op) m w') :
    Runs sys i script P (Flow.call op) Q E := by
  intro m o hm
  refine ⟨fun w hw => ?_, fun r _ w' hw' => ?_⟩
  · obtain ⟨w', hw', -⟩ := h m w (hm w hw)
    exact Option.isSome_iff_exists.mpr ⟨w', hw'⟩
  · obtain ⟨w, rfl, hnext⟩ := Option.bind_eq_some_iff.mp hw'
    split at hnext
    · rename_i hr
      subst hr
      obtain ⟨w₁, hw₁, hQ⟩ := h m w (hm w rfl)
      rw [hw₁] at hnext
      cases hnext
      exact hQ
    · cases hnext

theorem Runs.bind {β : Type} {f : α → Action Op Res μ β} {Q' : β → μ → World → Prop} (hx : Runs sys i script P x Q E)
    (hf : ∀ a, Runs sys i script (Q a) (f a) Q' E) : Runs sys i script P (x >>= f) Q' E := Leads.bind hx hf

theorem Runs.mono (h : Runs sys i script P x Q E) (hQ : ∀ a m w, Q a m w → Q' a m w) (hE : ∀ m w, E m w → E' m w) :
    Runs sys i script P x Q' E' :=
  Leads.mono h (fun a m _ h w hw => hQ a m w (h w hw)) fun m _ h w hw => hE m w (h w hw)

theorem Runs.pre (h : Runs sys i script P x Q E) (hP : ∀ m w, P' m w → P m w) : Runs sys i script P' x Q E :=
  Leads.pre h fun m _ h w hw => hP m w (h w hw)

theorem Runs.pure {a : α} (h : ∀ m w, P m w → Q a m w) : Runs sys i script P (Pure.pure a) Q E :=
  Leads.pure fun m _ hm w hw => h m w (hm w hw)

theorem Runs.throw {e : String} (h : ∀ m w, P m w → E m w) : Runs sys i script P (throw e : Action Op Res μ α) Q E :=
  Leads.throw fun m _ hm w hw => h m w (hm w hw)

theorem Runs.get {Q : μ → μ → World → Prop} (h : ∀ m w, P m w → Q m m w) :
    Runs sys i script P (MonadState.get : Action Op Res μ μ) Q E :=
  Leads.get fun m _ hm w hw => h m w (hm w hw)

theorem Runs.modify {f : μ → μ} {Q : PUnit → μ → World → Prop} (h : ∀ m w, P m w → Q () (f m) w) :
    Runs sys i script P (modify f : Action Op Res μ PUnit) Q E := fun m _ hm w hw => h m w (hm w hw)

theorem Runs.ite {p : Prop} [Decidable p] {y : Action Op Res μ α} (hx : p → Runs sys i script P x Q E)
    (hy : ¬p → Runs sys i script P y Q E) : Runs sys i script P (if p then x else y) Q E := Leads.ite hx hy

theorem Runs.attempt {x : Action Op Res μ Unit} {P₁ : μ → World → Prop} (hx : Runs sys i script P x (fun _ => P₁) P₁) :
    Runs sys i script P (Flow.attempt x) (fun _ => P₁) E := by
  refine Leads.mono (Leads.attempt hx) ?_ fun _ _ h => h
  rintro (_ | e) m o h
  · exact h
  · exact h

theorem Runs.wrapError (text : String → String) (hx : Runs sys i script P x Q E) :
    Runs sys i script P (Flow.wrapError text x) Q E := Leads.wrapError text hx

theorem Runs.of_some (h : ∀ m w, P m w → Runs sys i script (fun m' w' => m' = m ∧ w' = w) x Q E) :
    Runs sys i script P x Q E := by
  intro m o hm
  cases o with
  | none =>
    refine System.conforms_deviated ?_ _
    rintro ⟨out, m'⟩
    cases out with
    | ok a => exact nofun
    | error e => exact nofun
  | some w =>
    refine h m w (hm w rfl) m (some w) ?_
    rintro _ ⟨⟩
    exact ⟨rfl, rfl⟩

theorem Runs.fact {φ : Prop} (h : φ → Runs sys i script P x Q E) : Runs sys i script (fun m w => φ ∧ P m w) x Q E :=
  .of_some fun _ _ hP => (h hP.1).pre fun _ _ heq => heq.1 ▸ heq.2 ▸ hP.2

theorem Runs.or (h : Runs sys i script P x Q E) (h' : Runs sys i script P' x Q E) :
    Runs sys i script (fun m w => P m w ∨ P' m w) x Q E := by
  refine .of_some fun m w hP => ?_
  rcases hP with hP | hP
  · exact h.pre fun _ _ heq => heq.1 ▸ heq.2 ▸ hP
  · exact h'.pre fun _ _ heq => heq.1 ▸ heq.2 ▸ hP

theorem Runs.exists {κ : Type} {P : κ → μ → World → Prop} (h : ∀ k, Runs sys i script (P k) x Q E) :
    Runs sys i script (fun m w => ∃ k, P k m w) x Q E := by
  refine .of_some fun m w hP => ?_
  obtain ⟨k, hP⟩ := hP
  exact (h k).pre fun _ _ heq => heq.1 ▸ heq.2 ▸ hP

section
variable {β ε : Type} {op : Op} {text : ε → String} {g : Res op → Except ε α} {a : World → α}

theorem Runs.succeed (h : ∀ m w, P m w → g (script w op) = .ok (a w) ∧
      ∃ w', sys.perform i w op (script w op) false = some w' ∧ Q (a w) m w') :
    Runs sys i script P (do let r ← Flow.call op; Flow.orFail text (g r)) Q E := by
  refine .bind (Q := fun r m w => ∃ b, g r = .ok b ∧ Q b m w) (.call fun m w hP => ?_) fun r => ?_
  · obtain ⟨hg, w', hw', hQ⟩ := h m w hP
    exact ⟨w', hw', a w, hg, hQ⟩
  · refine .of_some fun m w hP => ?_
    obtain ⟨b, hg, hQ⟩ := hP
    rw [hg]
    exact .pure fun _ _ heq => heq.1 ▸ heq.2 ▸ hQ

theorem Runs.succeed_bind {k : α → Action Op Res μ β} {Q' : β → μ → World → Prop}
    (h : ∀ m w, P m w → g (script w op) = .ok (a w) ∧
      ∃ w', sys.perform i w op (script w op) false = some w' ∧ Q (a w) m w')
    (hk : ∀ b, Runs sys i script (Q b) (k b) Q' E) :
    Runs sys i script P (do let r ← Flow.call op; let b ← Flow.orFail text (g r); k b) Q' E := by
  have run : Runs sys i script P ((do let r ← Flow.call op; Flow.orFail text (g r)) >>= k) Q' E :=
    .bind (.succeed h) hk
  exact run

end

end Flow

end WekaOperator.Lib
