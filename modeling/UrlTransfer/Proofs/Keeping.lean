/-
# What an action leaves alone

However an action ends, it leaves a state, and most actions change a small part of it.  `Act.after`
is the state that is left, `Act.value?` the value, if there is one, and `Act.Keeps` says that a view
of the state is the same as before, in all outcomes: where the action has a value, fails, or waits
for ever.  `Act.Succeeds` says that only the first of these comes about, and `Act.FailsWith` what
the error is in the second.

As in `Proofs.Agreement` there is one lemma for each combinator.
-/
import UrlTransfer.Act

namespace UrlTransfer

namespace Act

variable {ε ε' σ τ α β γ δ : Type}

/-- The state that an action leaves. -/
def after (x : Act ε σ α) (s : σ) : σ :=
  match x s with
  | .ok _ s' => s'
  | .error _ s' => s'

theorem after_ok {x : Act ε σ α} {s s' : σ} {a : α} (h : x s = .ok a s') : after x s = s' := by
  unfold after
  rw [h]

theorem after_error {x : Act ε σ α} {s s' : σ} {halt : Halt ε} (h : x s = .error halt s') :
    after x s = s' := by
  unfold after
  rw [h]

theorem after_congr {x y : Act ε σ α} {s t : σ} (h : x s = y t) : after x s = after y t := by
  unfold after
  rw [h]

/-- The value of an action, if it has one. -/
def value? (x : Act ε σ α) (s : σ) : Option α :=
  match x s with
  | .ok a _ => some a
  | .error _ _ => none

theorem value?_ok {x : Act ε σ α} {s s' : σ} {a : α} (h : x s = .ok a s') :
    value? x s = some a := by
  unfold value?
  rw [h]

theorem value?_error {x : Act ε σ α} {s s' : σ} {halt : Halt ε} (h : x s = .error halt s') :
    value? x s = none := by
  unfold value?
  rw [h]

/-- How an action ends, whatever state it leaves. -/
def outcome (x : Act ε σ α) (s : σ) : Except (Halt ε) α :=
  match x s with
  | .ok a _ => .ok a
  | .error halt _ => .error halt

theorem outcome_ok {x : Act ε σ α} {s s' : σ} {a : α} (h : x s = .ok a s') :
    outcome x s = .ok a := by
  unfold outcome
  rw [h]

theorem outcome_error {x : Act ε σ α} {s s' : σ} {halt : Halt ε} (h : x s = .error halt s') :
    outcome x s = .error halt := by
  unfold outcome
  rw [h]

theorem outcome_congr {x y : Act ε σ α} {s t : σ} (h : x s = y t) : outcome x s = outcome y t := by
  unfold outcome
  rw [h]

theorem attempt_ofExcept (result : Except ε α) (s : σ) :
    (attempt (ofExcept result) : Act ε' σ _) s = .ok result s := by
  cases result <;> rfl

theorem ofExcept_eq_ok {result : Except ε α} {s s' : σ} {a : α}
    (h : (ofExcept result : Act ε σ α) s = .ok a s') : result = .ok a := by
  cases result <;> cases h
  rfl

theorem attempt_eq_ok {x : Act ε σ α} {s s' : σ} {a : α}
    (h : (attempt x : Act ε' σ _) s = .ok (.ok a) s') : x s = .ok a s' := by
  unfold attempt at h
  cases hs : x s with
  | ok a' t => rw [hs] at h; cases h; rfl
  | error halt t => cases halt <;> (rw [hs] at h; cases h)

/-- An action with a value goes on where it left the state. -/
theorem eq_ok_of_value? {x : Act ε σ α} {s : σ} {a : α} (h : value? x s = some a) :
    x s = .ok a (after x s) := by
  unfold value? after at *
  cases hs : x s with
  | ok a' s' => rw [hs] at h; cases h; rfl
  | error halt s' => rw [hs] at h; cases h

theorem eq_error_of_outcome {x : Act ε σ α} {s : σ} {halt : Halt ε}
    (h : outcome x s = .error halt) : x s = .error halt (after x s) := by
  unfold outcome after at *
  cases hs : x s with
  | ok a s' => rw [hs] at h; cases h
  | error halt' s' => rw [hs] at h; cases h; rfl

theorem after_bind_ok {x : Act ε σ α} {f : α → Act ε σ β} {s s' : σ} {a : α} (h : x s = .ok a s') :
    after (x >>= f) s = after (f a) s' := by
  unfold after
  rw [bind_ok h]

theorem value?_bind_ok {x : Act ε σ α} {f : α → Act ε σ β} {s s' : σ} {a : α}
    (h : x s = .ok a s') : value? (x >>= f) s = value? (f a) s' := by
  unfold value?
  rw [bind_ok h]

theorem after_bind_error {x : Act ε σ α} {f : α → Act ε σ β} {s s' : σ} {halt : Halt ε}
    (h : x s = .error halt s') : after (x >>= f) s = s' :=
  after_error (bind_error h)

theorem after_bind_pure (x : Act ε σ α) (f : α → β) (s : σ) :
    after (x >>= fun a => Pure.pure (f a)) s = after x s := by
  cases h : x s with
  | ok a s' => rw [after_bind_ok h, after_ok h]; rfl
  | error halt s' => rw [after_bind_error h, after_error h]

theorem value?_bind_error {x : Act ε σ α} {f : α → Act ε σ β} {s s' : σ} {halt : Halt ε}
    (h : x s = .error halt s') : value? (x >>= f) s = none :=
  value?_error (bind_error h)

theorem after_within (part : σ → τ) (put : τ → σ → σ) (y : Act ε τ α) (s : σ) :
    after (within part put y) s = put (after y (part s)) s := by
  unfold after within
  cases y (part s) <;> rfl

theorem value?_within (part : σ → τ) (put : τ → σ → σ) (y : Act ε τ α) (s : σ) :
    value? (within part put y) s = value? y (part s) := by
  unfold value? within
  cases y (part s) <;> rfl

theorem after_mapError (g : ε → ε') (x : Act ε σ α) (s : σ) :
    after (mapError g x) s = after x s := by
  unfold after mapError
  cases x s <;> rfl

theorem after_attempt (x : Act ε σ α) (s : σ) :
    after (attempt x : Act ε' σ _) s = after x s := by
  unfold after attempt
  cases x s with
  | ok a s' => rfl
  | error halt s' => cases halt <;> rfl

theorem after_timely (x : Act ε σ α) (s : σ) : after (timely x) s = after x s := by
  unfold after timely
  cases x s with
  | ok a s' => rfl
  | error halt s' => cases halt <;> rfl

theorem after_second (y : Act ε τ α) (p : σ × τ) :
    after (second y) p = (p.1, after y p.2) := after_within _ _ y p

theorem value?_second (y : Act ε τ α) (p : σ × τ) : value? (second y) p = value? y p.2 :=
  value?_within _ _ y p

theorem second_ok {y : Act ε τ α} {p : σ × τ} {a : α} {t : τ} (h : y p.2 = .ok a t) :
    second y p = .ok a (p.1, t) :=
  within_run h

theorem second_error {y : Act ε τ α} {p : σ × τ} {halt : Halt ε} {t : τ}
    (h : y p.2 = .error halt t) : (second y : Act ε (σ × τ) α) p = .error halt (p.1, t) :=
  within_error h

/-- The action does not change what the view shows. -/
def Keeps (view : σ → γ) (x : Act ε σ α) : Prop := ∀ s, view (after x s) = view s

namespace Keeps

variable {view : σ → γ} {x : Act ε σ α}

theorem ok (hx : Keeps view x) {s s' : σ} {a : α} (h : x s = .ok a s') : view s' = view s := by
  rw [← after_ok h, hx]

theorem error (hx : Keeps view x) {s s' : σ} {halt : Halt ε} (h : x s = .error halt s') :
    view s' = view s := by
  rw [← after_error h, hx]

theorem pure (a : α) : Keeps view (Pure.pure a : Act ε σ α) := fun _ => rfl

theorem fail (error : ε) : Keeps view (Act.fail error : Act ε σ α) := fun _ => rfl

theorem stall : Keeps view (Act.stall : Act ε σ α) := fun _ => rfl

theorem ofExcept (result : Except ε α) : Keeps view (Act.ofExcept result) := by
  cases result <;> exact fun _ => rfl

theorem getState : Keeps view (get : Act ε σ σ) := fun _ => rfl

/-- **A sequence leaves alone what both of its parts do.** -/
theorem bind {f : α → Act ε σ β} (hx : Keeps view x) (hf : ∀ a, Keeps view (f a)) :
    Keeps view (x >>= f) := by
  intro s
  cases h : x s with
  | ok a s' => rw [after_bind_ok h, hf, hx.ok h]
  | error halt s' => rw [after_bind_error h, hx.error h]

theorem mapError (g : ε → ε') (hx : Keeps view x) : Keeps view (Act.mapError g x) := by
  intro s
  rw [after_mapError, hx s]

theorem attempt (hx : Keeps view x) : Keeps view (Act.attempt x : Act ε' σ _) := by
  intro s
  rw [after_attempt, hx s]

theorem timely (hx : Keeps view x) : Keeps view (Act.timely x) := by
  intro s
  rw [after_timely, hx s]

/-- An action on a part of the state, where the view of the whole is kept if that of the part is. -/
theorem within {part : σ → τ} {put : τ → σ → σ} {sight : τ → δ} {y : Act ε τ α}
    (hy : Keeps sight y)
    (hput : ∀ t s, sight t = sight (part s) → view (put t s) = view s) :
    Keeps view (Act.within part put y) := by
  intro s
  rw [after_within]
  exact hput _ _ (hy (part s))

theorem aside {y : Act ε τ α} (t : τ) : Keeps view (Act.aside y t : Act ε σ _) := by
  intro s
  unfold after Act.aside
  cases y t <;> rfl

end Keeps

/-- From every state with the property, the action has a value and leaves the property. -/
def Succeeds (P : σ → Prop) (x : Act ε σ α) : Prop := ∀ s, P s → ∃ a t, x s = .ok a t ∧ P t

namespace Succeeds

variable {P : σ → Prop} {x : Act ε σ α}

theorem pure (a : α) : Succeeds P (Pure.pure a : Act ε σ α) := fun s hs => ⟨a, s, rfl, hs⟩

theorem bind {f : α → Act ε σ β} (hx : Succeeds P x) (hf : ∀ a, Succeeds P (f a)) :
    Succeeds P (x >>= f) := by
  intro s hs
  obtain ⟨a, t, hok, ht⟩ := hx s hs
  obtain ⟨b, u, hok', hu⟩ := hf a t ht
  exact ⟨b, u, (bind_ok hok).trans hok', hu⟩

theorem mapError (g : ε → ε') (hx : Succeeds P x) : Succeeds P (Act.mapError g x) := by
  intro s hs
  obtain ⟨a, t, hok, ht⟩ := hx s hs
  exact ⟨a, t, mapError_ok hok, ht⟩

theorem within {Q : τ → Prop} {part : σ → τ} {put : τ → σ → σ} {y : Act ε τ α}
    (hy : Succeeds Q y) (hpart : ∀ s, P s → Q (part s)) (hput : ∀ t s, Q t → P (put t s)) :
    Succeeds P (Act.within part put y) := by
  intro s hs
  obtain ⟨a, t, hok, ht⟩ := hy (part s) (hpart s hs)
  exact ⟨a, put t s, within_run hok, hput t s ht⟩

end Succeeds

/-- Whatever error the action fails with has the property. -/
def FailsWith (P : ε → Prop) (x : Act ε σ α) : Prop :=
  ∀ ⦃s e s'⦄, x s = .error (.failed e) s' → P e

namespace FailsWith

variable {P : ε → Prop} {x : Act ε σ α}

theorem mono {Q : ε → Prop} (hx : FailsWith P x) (h : ∀ e, P e → Q e) : FailsWith Q x :=
  fun _ _ _ hs => h _ (hx hs)

theorem pure (a : α) : FailsWith P (Pure.pure a : Act ε σ α) := by
  intro s e s' h
  cases h

theorem getState : FailsWith P (get : Act ε σ σ) := by
  intro s e s' h
  cases h

theorem fail {error : ε} (he : P error) : FailsWith P (Act.fail error : Act ε σ α) := by
  intro s e s' h
  cases h
  exact he

theorem modifyState (f : σ → σ) : FailsWith P (modify f : Act ε σ Unit) := by
  intro s e s' h
  cases h

/-- An error that was changed is the change of one. -/
theorem mapError (g : ε → ε') (x : Act ε σ α) :
    FailsWith (fun e => ∃ fault, e = g fault) (Act.mapError g x) := by
  intro s e s' h
  unfold Act.mapError at h
  cases hs : x s with
  | ok a t => rw [hs] at h; cases h
  | error halt t =>
    rw [hs] at h
    cases halt with
    | stalled => cases h
    | failed fault => cases h; exact ⟨fault, rfl⟩

theorem timely (hx : FailsWith P x) : FailsWith P (Act.timely x) := by
  intro s e s' h
  unfold Act.timely at h
  cases hs : x s with
  | ok a t => rw [hs] at h; cases h
  | error halt t =>
    rw [hs] at h
    cases halt with
    | stalled => cases h
    | failed error => cases h; exact hx hs

theorem bind {f : α → Act ε σ β} (hx : FailsWith P x) (hf : ∀ a, FailsWith P (f a)) :
    FailsWith P (x >>= f) := by
  intro s e s' h
  cases hs : x s with
  | ok a t =>
    rw [bind_ok hs] at h
    exact hf a h
  | error halt t =>
    rw [bind_error hs] at h
    cases h
    exact hx hs

end FailsWith

end Act

end UrlTransfer
