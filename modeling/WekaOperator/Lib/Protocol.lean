import WekaOperator.Lib.Reconciler

/-! Protocols.

A protocol says what a program may call in view of the replies it has had. Conformance is proved of the program alone,
along its text; `invariant_of_conforms` turns it into an invariant of every run of a system, given what each allowed
call preserves. -/

namespace WekaOperator.Lib
open Function

section Protocol
variable {World ι Op Env : Type} {Res : Op → Type}

/-- A stage for what a program was told so far, and the calls it may make there. -/
structure Protocol (Op : Type) (Res : Op → Type) (σ : Type) where
  fresh : σ
  next : σ → (op : Op) → Res op → σ
  allowed : σ → Op → Prop
  admits : (op : Op) → Res op → Prop

variable {σ : Type} (proto : Protocol Op Res σ) {α β : Type}

/-- Every call is allowed at its stage, whatever is answered, and `Q` holds at the end. -/
def Prog.Conforms (Q : α → σ → Prop) : Prog Op Res α → σ → Prop
  | .ret a, s => Q a s
  | .call op k, s => proto.allowed s op ∧ ∀ r, proto.admits op r → (k r).Conforms Q (proto.next s op r)

variable {proto} {Q : α → σ → Prop} {Q' : β → σ → Prop}
variable {p : Prog Op Res α} {ok : World → Event ι Op Env Res → Bool} {s : σ} {sys : System World ι Op Env Res}
  {f : α → Prog Op Res β} {init : World}

theorem Prog.Conforms.bind (h : p.Conforms proto Q s) (hf : ∀ a s', Q a s' → (f a).Conforms proto Q' s') :
    (p >>= f).Conforms proto Q' s := by
  induction p generalizing s with
  | ret a => exact hf a s h
  | call op k ih => exact ⟨h.1, fun r hr => ih r (h.2 r hr)⟩

theorem Prog.Conforms.mono {Q₂ : α → σ → Prop} (himp : ∀ a s, Q a s → Q₂ a s) (h : p.Conforms proto Q s) :
    p.Conforms proto Q₂ s := by
  induction p generalizing s with
  | ret a => exact himp a s h
  | call op k ih => exact ⟨h.1, fun r hr => ih r (h.2 r hr)⟩

theorem Prog.Conforms.pure {a : α} (h : Q a s) : (Pure.pure a : Prog Op Res α).Conforms proto Q s := h

theorem Prog.Conforms.call {op : Op} (allowed : proto.allowed s op) :
    (Prog.call op .ret : Prog Op Res (Res op)).Conforms proto (fun r s' => s' = proto.next s op r) s :=
  ⟨allowed, fun _ _ => rfl⟩

theorem Prog.Conforms.image {τ : Type} {coarse : Protocol Op Res τ} (f : σ → τ)
    (admits : ∀ op r, coarse.admits op r → proto.admits op r)
    (next : ∀ s op r, f (proto.next s op r) = coarse.next (f s) op r)
    (allowed : ∀ s op, proto.allowed s op → coarse.allowed (f s) op) {Q' : α → τ → Prop}
    (ends : ∀ a s, Q a s → Q' a (f s)) (h : p.Conforms proto Q s) : p.Conforms coarse Q' (f s) := by
  induction p generalizing s with
  | ret a => exact ends a s h
  | call op k ih =>
    refine ⟨allowed s op h.1, fun r hr => ?_⟩
    rw [← next]
    exact ih r (h.2 r (admits op r hr))

/-! ### Calls of a kind -/

/-- Every call is of this kind. -/
def Prog.Only (kind : Op → Prop) : Prog Op Res α → Prop
  | .ret _ => True
  | .call op k => kind op ∧ ∀ r, (k r).Only kind

variable {kind : Op → Prop}

theorem Prog.Only.bind (h : p.Only kind) (hf : ∀ a, (f a).Only kind) : (p >>= f).Only kind := by
  induction p with
  | ret a => exact hf a
  | call op k ih => exact ⟨h.1, fun r => ih r (h.2 r)⟩

theorem Prog.Only.mono {kind' : Op → Prop} (himp : ∀ op, kind op → kind' op) (h : p.Only kind) : p.Only kind' := by
  induction p with
  | ret a => trivial
  | call op k ih => exact ⟨himp op h.1, fun r => ih r (h.2 r)⟩

theorem Prog.Only.conforms (quiet : ∀ op, kind op → proto.allowed s op ∧ ∀ r, proto.next s op r = s) (h : p.Only kind) :
    p.Conforms proto (fun _ s' => s' = s) s := by
  induction p with
  | ret a => rfl
  | call op k ih =>
    refine ⟨(quiet op h.1).1, fun r _ => ?_⟩
    rw [(quiet op h.1).2 r]
    exact ih r (h.2 r)

/-! ### Reachable states -/

theorem conforms_of_reach [DecidableEq ι] [DecidableEq Op] (proto : ι → Protocol Op Res σ)
    (inv : World → (ι → σ) → Prop) {Q : Unit → σ → Prop}
    (conforms : ∀ i, (sys.body i).Conforms (proto i) Q (proto i).fresh) (hend : ∀ i, Q () (proto i).fresh)
    (hinit : inv init fun i => (proto i).fresh) (hstart : ∀ i w st, inv w st → Q () (st i) → ok w (.start i) = true →
      inv (sys.start i w) (Function.update st i (proto i).fresh))
    (hcrash : ∀ i w st, inv w st → ok w (.crash i) = true → ∃ stage, Q () stage ∧ inv w (Function.update st i stage))
    (hreply : ∀ i w st op r applied w', inv w st → (proto i).allowed (st i) op → ok w (.reply i op r applied) = true →
      sys.perform i w op r applied = some w' →
      (proto i).admits op r ∧ inv w' (Function.update st i ((proto i).next (st i) op r)))
    (henv : ∀ w st e w', inv w st → ok w (.env e) = true → sys.env w e = some w' → inv w' st)
    {s : SysState World ι Op Res} (h : sys.Reachable ok init s) :
    ∃ st, inv s.world st ∧ ∀ i, (s.threads i).Conforms (proto i) Q (st i) := by
  refine Reach.invariant (P := fun s => ∃ st, inv s.world st ∧ ∀ i, (s.threads i).Conforms (proto i) Q (st i)) ?_ ?_ h
  · rintro _ rfl
    exact ⟨_, hinit, hend⟩
  · rintro s e s' ⟨st, hinv, hall⟩ hs
    unfold System.step at hs
    split at hs
    · cases hs
    rename_i hok
    rw [Bool.not_eq_false] at hok
    -- only the acting thread and its stage change
    have others : ∀ {i : ι} {p : Prog Op Res Unit} {stage : σ}, p.Conforms (proto i) Q stage →
        ∀ j, (update s.threads i p j).Conforms (proto j) Q (update st i stage j) := by
      intro i p stage hp j
      by_cases hj : j = i
      · subst hj
        simpa only [update_self] using hp
      · simpa only [update_of_ne hj] using hall j
    cases e with
    | start i =>
      dsimp only at hs
      split at hs
      · rename_i hthread
        cases hs
        have hi := hall i
        rw [hthread] at hi
        exact ⟨_, hstart i s.world st hinv hi hok, others (conforms i)⟩
      · cases hs
    | reply i op r applied =>
      dsimp only at hs
      split at hs
      · cases hs
      rename_i op' k hthread
      split at hs
      · rename_i hop
        subst hop
        obtain ⟨w, hw, rfl⟩ := Option.map_eq_some_iff.mp hs
        have hi := hall i
        rw [hthread] at hi
        obtain ⟨admitted, hinv'⟩ := hreply i s.world st op r applied w hinv hi.1 hok hw
        exact ⟨_, hinv', others (hi.2 r admitted)⟩
      · cases hs
    | crash i =>
      cases hs
      obtain ⟨stage, hq, hinv'⟩ := hcrash i s.world st hinv hok
      exact ⟨_, hinv', others (p := .ret ()) hq⟩
    | env e =>
      obtain ⟨w, hw, rfl⟩ := Option.map_eq_some_iff.mp hs
      exact ⟨st, henv s.world st e w hinv hok hw, hall⟩

theorem invariant_of_conforms [DecidableEq ι] [DecidableEq Op] (proto : ι → Protocol Op Res σ)
    (inv : World → (ι → σ) → Prop) (conforms : ∀ i, (sys.body i).Conforms (proto i) (fun _ _ => True) (proto i).fresh)
    (hinit : inv init fun i => (proto i).fresh)
    (hstart : ∀ i w st, inv w st → ok w (.start i) = true → inv (sys.start i w) (Function.update st i (proto i).fresh))
    (hreply : ∀ i w st op r applied w', inv w st → (proto i).allowed (st i) op → ok w (.reply i op r applied) = true →
      sys.perform i w op r applied = some w' →
      (proto i).admits op r ∧ inv w' (Function.update st i ((proto i).next (st i) op r)))
    (henv : ∀ w st e w', inv w st → ok w (.env e) = true → sys.env w e = some w' → inv w' st)
    {s : SysState World ι Op Res} (h : sys.Reachable ok init s) : ∃ st, inv s.world st := by
  refine (conforms_of_reach proto inv conforms (fun _ => trivial) hinit (fun i w st hinv _ => hstart i w st hinv) ?_ hreply henv h).imp
    fun _ h => h.1
  intro i w st hinv _
  refine ⟨st i, trivial, ?_⟩
  rwa [update_eq_self]

end Protocol

end WekaOperator.Lib
