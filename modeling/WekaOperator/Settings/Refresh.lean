import WekaOperator.Lib.Collections
import WekaOperator.Lib.Reconciler

/-! The operator-wide settings. A refresh reads the policy before it takes the lock, and several may be between the two. -/

namespace WekaOperator.Settings
open List Option Lib

variable {σ : Type}

/-- The settings, and whether they are resolved. -/
structure SettingsService (σ : Type) where
  resolved : σ
  ready : Bool := false
  attempted : Bool := false
  lastErr : Option String := none

/-- What ends the wait of a reader. -/
inductive Wake
  | closed
  | done (err : String)
  | timeout

namespace SettingsService

/-- The settings, if resolved. -/
def snapshot (s : SettingsService σ) : Except (Option String) σ := if s.ready then .ok s.resolved else .error s.lastErr

/-- The same with the text of the panic. -/
def resolvedOrPanic (s : SettingsService σ) : Except String σ :=
  s.snapshot.mapError fun err => "operator configuration is unavailable: " ++ err.getD "<nil>" ++
    "; check the configuration WekaPolicy in the operator namespace"

/-- What a reader gets, now or after its wait. -/
def get (now later : SettingsService σ) (wake : Wake) : Except String σ :=
  match now.snapshot with
  | .ok v => .ok v
  | .error _ =>
    if now.attempted then later.resolvedOrPanic else
    match wake with
    | .closed => later.resolvedOrPanic
    | .done err => .error ("operator configuration is not resolved and the context ended while waiting: " ++ err)
    | .timeout => .error
      "operator configuration was still unresolved after 1m0s; check the configuration WekaPolicy in the operator namespace"

/-- Stores new settings. -/
def store (s : SettingsService σ) (v : σ) : SettingsService σ := { s with resolved := v, lastErr := none, ready := true }

/-- The settings cannot be resolved. -/
def markUnresolved (s : SettingsService σ) (cause : String) : SettingsService σ :=
  { s with lastErr := some cause, ready := false }

end SettingsService

/-! ### Refreshes

A refresh goes by the position of its read among all reads. -/

/-- The service, and the refreshes between read and store. -/
structure World (σ : Type) where
  service : SettingsService σ
  reads : List (Except String σ) := []
  inFlight : List Nat := []
  closing : Nat := 0
  /-- The read that the stored value is from. -/
  source : Option Nat := none

/-- A refresh reads, stores, or closes the channel. -/
inductive Event (σ : Type)
  | read (outcome : Except String σ)
  | commit (n : Nat)
  | close

/-- A refresh stores what it read. -/
def World.commit (w : World σ) (n : Nat) (outcome : Except String σ) : World σ :=
  let w := { w with inFlight := w.inFlight.erase n, closing := w.closing + 1 }
  match outcome with
  | .ok v => { w with service := w.service.store v, source := some n }
  | .error cause => { w with service := w.service.markUnresolved cause }

/-- The world after an event. -/
def step (w : World σ) : Event σ → Option (World σ)
  | .read outcome => some { w with reads := w.reads ++ [outcome], inFlight := w.reads.length :: w.inFlight }
  | .commit n => if n ∈ w.inFlight then w.reads[n]?.map (w.commit n) else none
  | .close =>
    if w.closing = 0 then none
    else some { w with closing := w.closing - 1, service := { w.service with attempted := true } }

/-- A refresh reads only when no other one has still to store what it read. -/
def serialStep (w : World σ) (e : Event σ) : Option (World σ) :=
  match e with
  | .read _ => if w.inFlight.isEmpty then step w e else none
  | _ => step w e

/-- Nothing is resolved. -/
def Starts (w : World σ) : Prop := ∃ zero, w = { service := { resolved := zero } }

/-- No refresh that is still to store has read before the one whose value is stored. -/
def Forward (w : World σ) : Prop :=
  ∀ n ∈ w.inFlight, ∀ v, w.reads[n]? = some (.ok v) → ∀ m, w.source = some m → m ≤ n

/-- The refresh in flight has the latest read. -/
structure Serial (w : World σ) : Prop where
  last : ∀ n ∈ w.inFlight, n + 1 = w.reads.length
  source : ∀ m, w.source = some m → m < w.reads.length

variable {w w' : World σ} {e : Event σ} {v : σ}

theorem Serial.step (h : Serial w) (hs : serialStep w e = some w') : Serial w' := by
  cases e with
  | read outcome =>
    simp only [serialStep, List.isEmpty_iff, Settings.step, Option.ite_none_right_eq_some, Option.some.injEq] at hs
    obtain ⟨none, rfl⟩ := hs
    refine ⟨by simp [none], fun m hm => ?_⟩
    have := h.source m hm
    simp
    omega
  | commit n =>
    simp only [serialStep, Settings.step, ite_none_right_eq_some, map_eq_some_iff] at hs
    obtain ⟨hn, outcome, -, rfl⟩ := hs
    have last := h.last n hn
    cases outcome with
    | ok v => exact ⟨fun k hk => h.last k (mem_of_mem_erase hk), fun m hm => by cases hm; simpa [World.commit] using by omega⟩
    | error cause => exact ⟨fun k hk => h.last k (mem_of_mem_erase hk), h.source⟩
  | close =>
    simp only [serialStep, Settings.step, ite_none_left_eq_some, some.injEq] at hs
    obtain ⟨-, rfl⟩ := hs
    exact ⟨h.last, h.source⟩

/-- What is served was resolved. -/
def Resolved (w : World σ) : Prop := w.service.ready = true → .ok w.service.resolved ∈ w.reads

theorem Resolved.step (h : Resolved w) (hs : Settings.step w e = some w') : Resolved w' := by
  cases e with
  | read outcome =>
    cases hs
    exact fun ready => mem_append_left _ (h ready)
  | commit n =>
    simp only [Settings.step, ite_none_right_eq_some, map_eq_some_iff] at hs
    obtain ⟨-, outcome, hn, rfl⟩ := hs
    cases outcome with
    | ok v => exact fun _ => mem_of_getElem? hn
    | error cause => exact fun ready => by cases ready
  | close =>
    simp only [Settings.step, ite_none_left_eq_some, some.injEq] at hs
    obtain ⟨-, rfl⟩ := hs
    exact h

theorem snapshot_resolved (h : Resolved w) (hv : w.service.snapshot = .ok v) : .ok v ∈ w.reads := by
  unfold SettingsService.snapshot at hv
  split at hv
  · cases hv
    exact h ‹_›
  · cases hv

/-- Refreshes that do not overlap never store an older read over a newer one, and no `get` returns what was not resolved. -/
theorem settings_forward :
    (∀ w : World σ, Reach serialStep Starts w → Forward w) ∧
      ∀ now later : World σ, Reach step Starts now → Reach step Starts later → ∀ wake v,
        now.service.get later.service wake = .ok v → .ok v ∈ now.reads ∨ .ok v ∈ later.reads := by
  constructor
  · intro w hw n hn v _ m hm
    have serial : Serial w := hw.invariant (fun w start => start.elim fun _ e => e ▸ ⟨by simp, by simp⟩) fun _ _ _ h => h.step
    have last := serial.last n hn
    have stored := serial.source m hm
    omega
  · intro now later hnow hlater wake v hget
    have resolved : ∀ w : World σ, Reach step Starts w → Resolved w := fun w hw =>
      hw.invariant (fun w start => start.elim fun _ e => e ▸ fun ready => by cases ready) fun _ _ _ h => h.step
    unfold SettingsService.get at hget
    split at hget
    · cases hget
      exact .inl (snapshot_resolved (resolved now hnow) ‹_›)
    refine .inr (snapshot_resolved (resolved later hlater) (mapError_eq_ok (?_ : later.service.resolvedOrPanic = _)))
    split at hget
    · exact hget
    · cases wake with
      | closed => exact hget
      | done err => cases hget
      | timeout => cases hget

theorem settings_forward_twice : ∃ w : World Nat,
    runEvents serialStep [.read (.ok 1), .commit 0, .read (.ok 2)] { service := { resolved := 0 } } = some w ∧
      Reach serialStep Starts w ∧ w.inFlight = [1] ∧ w.source = some 0 ∧ Forward w := by
  have start : Reach serialStep Starts ({ service := { resolved := 0 } } : World Nat) := .init ⟨_, rfl⟩
  have reached := Reach.step (.step (.step start (.read (.ok 1)) rfl) (.commit 0) rfl) (.read (.ok 2)) rfl
  exact ⟨_, rfl, reached, rfl, rfl, settings_forward.1 _ reached⟩

/-- A tick reads, the policy changes and a `RefreshSettings` call reads and stores, and then the tick stores. -/
theorem settings_backward : ∃ w w' : World Nat,
    runEvents step [.read (.ok 1), .read (.ok 2), .commit 1] { service := { resolved := 0 } } = some w ∧
      w.service.snapshot = .ok 2 ∧ ¬Forward w ∧ step w (.commit 0) = some w' ∧ w'.service.snapshot = .ok 1 := by
  refine ⟨_, _, rfl, rfl, fun h => ?_, rfl, rfl⟩
  have := h 0 (by decide) 1 rfl 1 rfl
  omega

end WekaOperator.Settings
