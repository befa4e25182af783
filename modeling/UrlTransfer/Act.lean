/-
# Actions that may fail or wait for ever

Every operation of the library works on a piece of state that it owns (a buffered reader, a
session, the outside world) and ends in one of three ways: with a value, with an error, or not
at all, because it waits for something that never comes.  The last is an outcome of its own:
no handler of errors sees it, and only a time limit (`Act.timely`) turns it into an answer.

State is kept in all three cases, so what an action did before it failed stays done.

Receiving goes on as long as something comes, and ends because there is less ahead each time.  That
no action on the way adds to it is `Act.Shrinks`, which is kept by everything that actions are built
from.
-/

namespace UrlTransfer

/-- How an action ends when it has no value. -/
inductive Halt (ε : Type) where
  /-- It waits for something that never comes. -/
  | stalled
  /-- It failed. -/
  | failed (error : ε)
deriving Repr, DecidableEq

/-- Changes the error; a wait stays a wait. -/
def Halt.map {ε ε' : Type} (f : ε → ε') : Halt ε → Halt ε'
  | .stalled => .stalled
  | .failed error => .failed (f error)

/-- An action on a state `σ` that may fail with an `ε`, or wait for ever. -/
abbrev Act (ε σ α : Type) := EStateM (Halt ε) σ α

namespace Act

variable {ε ε' σ τ α β : Type}

/-- Fails with `error`. -/
def fail (error : ε) : Act ε σ α := fun s => .error (.failed error) s

/-- Waits for ever. -/
def stall : Act ε σ α := fun s => .error .stalled s

/-- The value of `result`, or its error. -/
def ofExcept : Except ε α → Act ε σ α
  | .ok a => pure a
  | .error error => fail error

/-- The same action with its error changed. -/
def mapError (f : ε → ε') (x : Act ε σ α) : Act ε' σ α := fun s =>
  match x s with
  | .ok a s' => .ok a s'
  | .error halt s' => .error (halt.map f) s'

/-- An action on a part of the state; the part is written back however the action ends. -/
def within (get : σ → τ) (put : τ → σ → σ) (x : Act ε τ α) : Act ε σ α := fun s =>
  match x (get s) with
  | .ok a t => .ok a (put t s)
  | .error halt t => .error halt (put t s)

/-- An action on the first part of a pair. -/
def first (x : Act ε σ α) : Act ε (σ × τ) α := within Prod.fst (fun s p => (s, p.2)) x

/-- An action on the second part of a pair. -/
def second (x : Act ε τ α) : Act ε (σ × τ) α := within Prod.snd (fun t p => (p.1, t)) x

/-- Runs `x` on a state of its own, which is returned; the surrounding state is not touched. -/
def aside (x : Act ε τ α) (t : τ) : Act ε σ (α × τ) := fun s =>
  match x t with
  | .ok a t' => .ok (a, t') s
  | .error halt _ => .error halt s

/-- A failure becomes a value; **a wait is not caught**. -/
def attempt (x : Act ε σ α) : Act ε' σ (Except ε α) := fun s =>
  match x s with
  | .ok a s' => .ok (.ok a) s'
  | .error (.failed error) s' => .ok (.error error) s'
  | .error .stalled s' => .error .stalled s'

/-- Bounds the waiting: `none` exactly when `x` waits for ever.  Time itself has no length here,
so a limit of any size ends that wait and no other. -/
def timely (x : Act ε σ α) : Act ε σ (Option α) := fun s =>
  match x s with
  | .ok a s' => .ok (some a) s'
  | .error .stalled s' => .ok none s'
  | .error (.failed error) s' => .error (.failed error) s'

/-! ## What actions come to -/

@[simp] theorem fail_view (error : ε) (s : σ) :
    (fail error : Act ε σ α) s = .error (.failed error) s := rfl

@[simp] theorem stall_view (s : σ) : (stall : Act ε σ α) s = .error .stalled s := rfl

@[simp] theorem pure_view (a : α) (s : σ) : (pure a : Act ε σ α) s = .ok a s := rfl

theorem bind_ok {x : Act ε σ α} {f : α → Act ε σ β} {s s' : σ} {a : α} (h : x s = .ok a s') :
    (x >>= f) s = f a s' := by
  show EStateM.bind x f s = f a s'
  simp [EStateM.bind, h]

theorem bind_error {x : Act ε σ α} {f : α → Act ε σ β} {s s' : σ} {e : Halt ε}
    (h : x s = .error e s') : (x >>= f) s = .error e s' := by
  show EStateM.bind x f s = .error e s'
  simp [EStateM.bind, h]

/-- **A sequence has a value exactly if both of its parts have one.** -/
theorem bind_eq_ok {x : Act ε σ α} {f : α → Act ε σ β} {s t : σ} {b : β} :
    (x >>= f) s = .ok b t ↔ ∃ a u, x s = .ok a u ∧ f a u = .ok b t := by
  constructor
  · intro h
    cases hx : x s with
    | ok a u => exact ⟨a, u, rfl, by rwa [bind_ok hx] at h⟩
    | error e u => rw [bind_error hx] at h; cases h
  · rintro ⟨a, u, hx, hf⟩
    rw [bind_ok hx, hf]

theorem mapError_ok {x : Act ε σ α} {f : ε → ε'} {s s' : σ} {a : α} (h : x s = .ok a s') :
    mapError f x s = .ok a s' := by
  simp [mapError, h]

theorem mapError_error {x : Act ε σ α} {f : ε → ε'} {s s' : σ} {halt : Halt ε}
    (h : x s = .error halt s') : mapError f x s = .error (halt.map f) s' := by
  simp [mapError, h]

/-- Where only the error is changed, the values are the same. -/
theorem mapError_eq_ok {x : Act ε σ α} {f : ε → ε'} {s t : σ} {a : α} :
    mapError f x s = .ok a t ↔ x s = .ok a t := by
  cases hx : x s with
  | ok b u => rw [mapError_ok hx, EStateM.Result.ok.injEq, EStateM.Result.ok.injEq]
  | error halt u =>
    rw [mapError_error hx]
    exact iff_of_false nofun nofun

theorem within_run {part : σ → τ} {put : τ → σ → σ} {y : Act ε τ α} {s : σ} {t : τ} {a : α}
    (h : y (part s) = .ok a t) : within part put y s = .ok a (put t s) := by
  simp [within, h]

theorem within_error {part : σ → τ} {put : τ → σ → σ} {y : Act ε τ α} {s : σ} {t : τ}
    {halt : Halt ε} (h : y (part s) = .error halt t) :
    within part put y s = .error halt (put t s) := by
  simp [within, h]

/-- **An action on a part has a value where it has one on the part**, which is put back. -/
theorem within_ok {part : σ → τ} {put : τ → σ → σ} {y : Act ε τ α} {s s' : σ} {a : α}
    (h : within part put y s = .ok a s') : ∃ t, y (part s) = .ok a t ∧ s' = put t s := by
  cases hy : y (part s) with
  | ok b t => rw [within_run hy] at h; cases h; exact ⟨t, rfl, rfl⟩
  | error halt t => rw [within_error hy] at h; cases h

theorem attempt_ok {x : Act ε σ α} {s s' : σ} {a : α} (h : x s = .ok a s') :
    (attempt x : Act ε' σ _) s = .ok (.ok a) s' := by
  simp [attempt, h]

theorem attempt_failed {x : Act ε σ α} {s s' : σ} {error : ε} (h : x s = .error (.failed error) s') :
    (attempt x : Act ε' σ _) s = .ok (.error error) s' := by
  simp [attempt, h]

theorem attempt_stalled {x : Act ε σ α} {s s' : σ} (h : x s = .error .stalled s') :
    (attempt x : Act ε' σ _) s = .error .stalled s' := by
  simp [attempt, h]

theorem timely_ok {x : Act ε σ α} {s s' : σ} {a : α} (h : x s = .ok a s') :
    timely x s = .ok (some a) s' := by
  simp [timely, h]

theorem timely_failed {x : Act ε σ α} {s s' : σ} {error : ε} (h : x s = .error (.failed error) s') :
    timely x s = .error (.failed error) s' := by
  simp [timely, h]

theorem timely_stalled {x : Act ε σ α} {s s' : σ} (h : x s = .error .stalled s') :
    timely x s = .ok none s' := by
  simp [timely, h]

/-! ## Actions that leave no more than there was -/

/-- An action that never leaves more than there was, by some measure of the state. -/
def Shrinks (size : σ → Nat) (x : Act ε σ α) : Prop :=
  ∀ ⦃s a t⦄, x s = .ok a t → size t ≤ size s

namespace Shrinks

variable {size : σ → Nat} {x : Act ε σ α}

theorem pure (a : α) : Shrinks size (Pure.pure a : Act ε σ α) := by
  intro s b t h
  cases h
  exact Nat.le_refl _

theorem fail (error : ε) : Shrinks size (Act.fail error : Act ε σ α) := by
  intro s a t h
  cases h

theorem ofExcept : (result : Except ε α) → Shrinks size (Act.ofExcept result : Act ε σ α)
  | .ok a => pure a
  | .error error => fail error

theorem getState : Shrinks size (get : Act ε σ σ) := by
  intro s a t h
  cases h
  exact Nat.le_refl _

theorem bind {f : α → Act ε σ β} (hx : Shrinks size x) (hf : ∀ a, Shrinks size (f a)) :
    Shrinks size (x >>= f) := by
  intro s b t h
  obtain ⟨a, u, hu, ht⟩ := bind_eq_ok.1 h
  exact Nat.le_trans (hf a ht) (hx hu)

theorem mapError (f : ε → ε') (hx : Shrinks size x) : Shrinks size (Act.mapError f x) :=
  fun _ _ _ h => hx (mapError_eq_ok.1 h)

/-- An action on a part of the state, where the whole is no larger if the part is not. -/
theorem within {part : σ → τ} {put : τ → σ → σ} {extent : τ → Nat} {y : Act ε τ α}
    (hy : Shrinks extent y) (hput : ∀ t s, extent t ≤ extent (part s) → size (put t s) ≤ size s) :
    Shrinks size (Act.within part put y) := by
  intro s a s' h
  obtain ⟨t, hrun, rfl⟩ := within_ok h
  exact hput t s (hy hrun)

end Shrinks

end Act

end UrlTransfer
