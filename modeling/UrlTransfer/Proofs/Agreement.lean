/-
# Actions that do not tell states apart

Two states can differ in ways that an action does not see: how a stream is cut into pieces, or
what is left over in a part that the action never asks for.  `Act.Alike` says so of a pair of
actions: from related states they end alike, with related values or with the very same error, and
again in related states.  In most uses the two actions are one.

The relation is kept by everything that actions are built from, one lemma for each combinator, so
that an action is followed part by part and only its leaves are looked at.  What an action did
before it failed is part of the statement: related states stay related also where there is no value.
-/
import UrlTransfer.Proofs.Keeping

namespace UrlTransfer

namespace Act

variable {ε ε' σ τ α β : Type}

/-! ## 1. Results and actions -/

/-- Two results are alike: values are related, errors are the same, and in both cases the states
that are left are related. -/
inductive Agree (S : σ → σ → Prop) (V : α → α → Prop) :
    EStateM.Result (Halt ε) σ α → EStateM.Result (Halt ε) σ α → Prop where
  | ok {a a' : α} {s s' : σ} : V a a' → S s s' → Agree S V (.ok a s) (.ok a' s')
  | error {halt : Halt ε} {s s' : σ} : S s s' → Agree S V (.error halt s) (.error halt s')

/-- From related states the two actions end alike. -/
def Alike (S : σ → σ → Prop) (V : α → α → Prop) (x x' : Act ε σ α) : Prop :=
  ∀ ⦃s s' : σ⦄, S s s' → Agree S V (x s) (x' s')

/-- Two outcomes of an attempt are alike. -/
inductive SameOutcome (V : α → α → Prop) : Except ε α → Except ε α → Prop where
  | ok {a a' : α} : V a a' → SameOutcome V (.ok a) (.ok a')
  | error (e : ε) : SameOutcome V (.error e) (.error e)

theorem SameOutcome.refl : ∀ result : Except ε α, SameOutcome Eq result result
  | .ok _ => .ok rfl
  | .error e => .error e

theorem SameOutcome.eq {result result' : Except ε α} (h : SameOutcome Eq result result') :
    result = result' := by
  cases h with
  | ok ha => rw [ha]
  | error e => rfl

theorem Agree.mono {S : σ → σ → Prop} {V W : α → α → Prop} {r r' : EStateM.Result (Halt ε) σ α}
    (h : Agree S V r r') (hvalue : ∀ a a', V a a' → W a a') : Agree S W r r' := by
  cases h with
  | ok ha hs => exact .ok (hvalue _ _ ha) hs
  | error hs => exact .error hs

theorem Agree.imp {S T : σ → σ → Prop} {V : α → α → Prop} {r r' : EStateM.Result (Halt ε) σ α}
    (h : Agree S V r r') (hstate : ∀ s s', S s s' → T s s') : Agree T V r r' := by
  cases h with
  | ok ha hs => exact .ok ha (hstate _ _ hs)
  | error hs => exact .error (hstate _ _ hs)

/-- A sequence whose first part leaves states that are related more closely than those at its
end. -/
theorem Agree.bind {S T : σ → σ → Prop} {V : α → α → Prop} {U : β → β → Prop} {x x' : Act ε σ α}
    {f f' : α → Act ε σ β} {s s' : σ} (hx : Agree S V (x s) (x' s'))
    (hstate : ∀ t t', S t t' → T t t')
    (hf : ∀ a a' t t', V a a' → S t t' → Agree T U (f a t) (f' a' t')) :
    Agree T U ((x >>= f) s) ((x' >>= f') s') := by
  show Agree T U (EStateM.bind x f s) (EStateM.bind x' f' s')
  unfold EStateM.bind
  generalize x s = r, x' s' = r' at hx ⊢
  cases hx with
  | ok ha ht => exact hf _ _ _ _ ha ht
  | error ht => exact .error (hstate _ _ ht)

/-- **Actions end alike exactly if they have the same outcome and leave related states.** -/
theorem agree_iff {S : σ → σ → Prop} {x x' : Act ε σ α} {s s' : σ} :
    Agree S Eq (x s) (x' s') ↔
      outcome x s = outcome x' s' ∧ S (after x s) (after x' s') := by
  unfold outcome after
  constructor
  · intro h
    generalize x s = r, x' s' = r' at h
    cases h with
    | ok ha hs => exact ⟨congrArg _ ha, hs⟩
    | error hs => exact ⟨rfl, hs⟩
  · rintro ⟨houtcome, hafter⟩
    cases hr : x s with
    | ok a t =>
      cases hr' : x' s' with
      | ok a' t' => rw [hr, hr'] at houtcome hafter; exact .ok (Except.ok.inj houtcome) hafter
      | error halt' t' => rw [hr, hr'] at houtcome; cases houtcome
    | error halt t =>
      cases hr' : x' s' with
      | ok a' t' => rw [hr, hr'] at houtcome; cases houtcome
      | error halt' t' =>
        rw [hr, hr'] at houtcome hafter
        cases houtcome
        exact .error hafter

namespace Alike

variable {S : σ → σ → Prop} {T : τ → τ → Prop} {V W : α → α → Prop} {U : β → β → Prop}

theorem mono {x x' : Act ε σ α} (h : Alike S V x x') (hvalue : ∀ a a', V a a' → W a a') :
    Alike S W x x' :=
  fun _ _ hs => (h hs).mono hvalue

/-! ## 2. Leaves -/

theorem pure {a a' : α} (h : V a a') : Alike S V (Pure.pure a : Act ε σ α) (Pure.pure a') :=
  fun _ _ hs => .ok h hs

theorem fail (error : ε) : Alike S V (Act.fail error) (Act.fail error) :=
  fun _ _ hs => .error hs

theorem stall : Alike (ε := ε) S V Act.stall Act.stall :=
  fun _ _ hs => .error hs

theorem ofExcept {result result' : Except ε α} (h : SameOutcome V result result') :
    Alike S V (Act.ofExcept result) (Act.ofExcept result') := by
  cases h with
  | ok ha => exact pure ha
  | error e => exact fail e

theorem getState : Alike S S (get : Act ε σ σ) get :=
  fun _ _ hs => .ok hs hs

theorem modifyState {f : σ → σ} (hf : ∀ s s', S s s' → S (f s) (f s')) :
    Alike S Eq (modify f : Act ε σ Unit) (modify f) :=
  fun s s' hs => .ok rfl (hf s s' hs)

/-- Where nothing tells the states apart, nothing tells the runs apart. -/
theorem same (x : Act ε σ α) : Alike Eq Eq x x := by
  rintro s _ rfl
  cases x s with
  | ok a s' => exact .ok rfl rfl
  | error halt s' => exact .error rfl

/-- An action that commutes with a change of values and states: what the change makes equal stays
so. -/
theorem of_commutes {x : Act ε σ α} {v : α → α} {f : σ → σ}
    (hx : ∀ s, x (f s) =
      match x s with
      | .ok a s' => .ok (v a) (f s')
      | .error halt s' => .error halt (f s')) :
    Alike (fun s s' => f s = f s') (fun a a' => v a = v a') x x := by
  intro s s' hs
  have h := hx s
  rw [hs, hx s'] at h
  revert h
  cases x s with
  | ok a t =>
    cases x s' with
    | ok a' t' =>
      intro h
      obtain ⟨ha, ht⟩ := EStateM.Result.ok.inj h
      exact .ok ha.symm ht.symm
    | error halt' t' => intro h; cases h
  | error halt t =>
    cases x s' with
    | ok a' t' => intro h; cases h
    | error halt' t' =>
      intro h
      obtain ⟨rfl, ht⟩ := EStateM.Result.error.inj h
      exact .error ht.symm

/-! ## 3. Combinators -/

/-- **Sequences of actions that end alike end alike.** -/
theorem bind {x x' : Act ε σ α} {f f' : α → Act ε σ β} (hx : Alike S V x x')
    (hf : ∀ a a', V a a' → Alike S U (f a) (f' a')) : Alike S U (x >>= f) (x' >>= f') := by
  intro s s' hs
  have h := hx hs
  show Agree S U (EStateM.bind x f s) (EStateM.bind x' f' s')
  unfold EStateM.bind
  generalize x s = r, x' s' = r' at h ⊢
  cases h with
  | ok ha ht => exact hf _ _ ha ht
  | error ht => exact .error ht

/-- The same for actions that return the same value. -/
theorem bind_eq {x x' : Act ε σ α} {f f' : α → Act ε σ β} (hx : Alike S Eq x x')
    (hf : ∀ a, Alike S U (f a) (f' a)) : Alike S U (x >>= f) (x' >>= f') :=
  hx.bind fun a _ ha => ha ▸ hf a

theorem mapError (f : ε → ε') {x x' : Act ε σ α} (hx : Alike S V x x') :
    Alike S V (Act.mapError f x) (Act.mapError f x') := by
  intro s s' hs
  have h := hx hs
  unfold Act.mapError
  generalize x s = r, x' s' = r' at h ⊢
  cases h with
  | ok ha ht => exact .ok ha ht
  | error ht => exact .error ht

/-- An action on a part of the state, where the parts are related if the states are. -/
theorem within {part : σ → τ} {put : τ → σ → σ} {x x' : Act ε τ α} (hx : Alike T V x x')
    (hpart : ∀ s s', S s s' → T (part s) (part s'))
    (hput : ∀ t t' s s', T t t' → S s s' → S (put t s) (put t' s')) :
    Alike S V (Act.within part put x) (Act.within part put x') := by
  intro s s' hs
  have h := hx (hpart s s' hs)
  unfold Act.within
  generalize x (part s) = r, x' (part s') = r' at h ⊢
  cases h with
  | ok ha ht => exact .ok ha (hput _ _ _ _ ht hs)
  | error ht => exact .error (hput _ _ _ _ ht hs)

/-- An action on a state of its own. -/
theorem aside {x x' : Act ε τ α} (hx : Alike T V x x') {t t' : τ} (ht : T t t') :
    Alike (σ := σ) S (fun p p' => V p.1 p'.1 ∧ T p.2 p'.2) (Act.aside x t) (Act.aside x' t') := by
  intro s s' hs
  have h := hx ht
  unfold Act.aside
  generalize x t = r, x' t' = r' at h ⊢
  cases h with
  | ok ha ht' => exact .ok ⟨ha, ht'⟩ hs
  | error _ => exact .error hs

theorem attempt {x x' : Act ε σ α} (hx : Alike S V x x') :
    Alike S (SameOutcome V) (Act.attempt x : Act ε' σ _) (Act.attempt x') := by
  intro s s' hs
  have h := hx hs
  unfold Act.attempt
  generalize x s = r, x' s' = r' at h ⊢
  cases h with
  | ok ha ht => exact .ok (.ok ha) ht
  | @error halt _ _ ht =>
    cases halt with
    | stalled => exact .error ht
    | failed error => exact .ok (.error error) ht

theorem timely {x x' : Act ε σ α} (hx : Alike S V x x') :
    Alike S (Option.Rel V) (Act.timely x) (Act.timely x') := by
  intro s s' hs
  have h := hx hs
  unfold Act.timely
  generalize x s = r, x' s' = r' at h ⊢
  cases h with
  | ok ha ht => exact .ok (.some ha) ht
  | @error halt _ _ ht =>
    cases halt with
    | stalled => exact .ok .none ht
    | failed error => exact .error ht

end Alike

end Act

end UrlTransfer
