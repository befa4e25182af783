/-
# Bytes that have not arrived yet

While a peer goes on sending, a stream has no end: what was sent last has not arrived, and a read
that needs it waits.  `Reader.Before more` is such a reader beside the same one behind the arrival
of `more` and of the end of the stream.

An action is `Act.Prompt` if it waits in front of what is missing, or ends as it will end when all
has arrived.  Hence whatever a protocol has done with a stream that is still open, it has done with
the whole of it, so what is known about streams that end can be used on streams that do not.  Like
`Act.Alike`, of which it is the one-sided form, this is kept by everything that actions are built
from.
-/
import UrlTransfer.Proofs.Stream.Cutting

namespace UrlTransfer

/-! ## 1. Actions that wait or end alike -/

namespace Act

variable {ε ε' σ τ α β : Type}

/-- From related states the action waits for ever in the first, or it ends alike in both. -/
def Prompt (S T : σ → σ → Prop) (x : Act ε σ α) : Prop :=
  ∀ ⦃s s' : σ⦄, S s s' → (∃ t, x s = .error .stalled t) ∨ Agree T Eq (x s) (x s')

namespace Prompt

variable {S R T : σ → σ → Prop}

theorem pure (hST : ∀ s s', S s s' → T s s') (a : α) :
    Prompt S T (Pure.pure a : Act ε σ α) :=
  fun s s' hs => .inr (.ok rfl (hST s s' hs))

theorem fail (hST : ∀ s s', S s s' → T s s') (error : ε) :
    Prompt S T (Act.fail error : Act ε σ α) :=
  fun s s' hs => .inr (.error (hST s s' hs))

theorem ofExcept (hST : ∀ s s', S s s' → T s s') (result : Except ε α) :
    Prompt S T (Act.ofExcept result : Act ε σ α) := by
  cases result with
  | ok a => exact pure hST a
  | error e => exact fail hST e

/-- **Sequences of prompt actions are prompt.** -/
theorem bind {x : Act ε σ α} {f : α → Act ε σ β} (hRT : ∀ s s', R s s' → T s s')
    (hx : Prompt S R x) (hf : ∀ a, Prompt R T (f a)) : Prompt S T (x >>= f) := by
  intro s s' hs
  rcases hx hs with ⟨t, hstall⟩ | hagree
  · exact .inl ⟨t, bind_error hstall⟩
  · show (∃ t, EStateM.bind x f s = _) ∨ Agree T Eq (EStateM.bind x f s) (EStateM.bind x f s')
    unfold EStateM.bind
    generalize x s = r, x s' = r' at hagree ⊢
    cases hagree with
    | ok ha ht => subst ha; exact hf _ ht
    | error ht => exact .inr (.error (hRT _ _ ht))

/-- What depends on the state depends on a part of it that is the same in both. -/
theorem bind_get {f : σ → Act ε σ β} (hf : ∀ s s', S s s' → f s = f s' ∧ Prompt S T (f s)) :
    Prompt S T (get >>= f) := by
  intro s s' hs
  obtain ⟨heq, hprompt⟩ := hf s s' hs
  show (∃ t, f s s = _) ∨ Agree T Eq (f s s) (f s' s')
  rw [← heq]
  exact hprompt hs

theorem mapError (g : ε → ε') {x : Act ε σ α} (hx : Prompt S T x) :
    Prompt S T (Act.mapError g x) := by
  intro s s' hs
  rcases hx hs with ⟨t, hstall⟩ | hagree
  · exact .inl ⟨t, mapError_error hstall⟩
  · right
    unfold Act.mapError
    generalize x s = r, x s' = r' at hagree ⊢
    cases hagree with
    | ok ha ht => exact .ok ha ht
    | error ht => exact .error ht

/-- An action on a part of the state, where the parts are related if the states are. -/
theorem within {R : τ → τ → Prop} {part : σ → τ} {put : τ → σ → σ} {y : Act ε τ α}
    (hy : Prompt R R y) (hpart : ∀ s s', S s s' → R (part s) (part s'))
    (hput : ∀ t t' s s', R t t' → S s s' → T (put t s) (put t' s')) :
    Prompt S T (Act.within part put y) := by
  intro s s' hs
  unfold Act.within
  rcases hy (hpart s s' hs) with ⟨t, hstall⟩ | hagree
  · left
    rw [hstall]
    exact ⟨_, rfl⟩
  · right
    generalize y (part s) = r, y (part s') = r' at hagree ⊢
    cases hagree with
    | ok ha ht => exact .ok ha (hput _ _ _ _ ht hs)
    | error ht => exact .error (hput _ _ _ _ ht hs)

theorem mono {x : Act ε σ α} (hx : Prompt S R x) (hRT : ∀ s s', R s s' → T s s') :
    Prompt S T x := by
  intro s s' hs
  rcases hx hs with hstall | hagree
  · exact .inl hstall
  · right
    generalize x s = r, x s' = r' at hagree ⊢
    cases hagree with
    | ok ha ht => exact .ok ha (hRT _ _ ht)
    | error ht => exact .error (hRT _ _ ht)

/-- An action that has ended will end so. -/
theorem ok {x : Act ε σ α} (hx : Prompt S T x) {s s' t : σ} {a : α} (hs : S s s')
    (h : x s = .ok a t) : ∃ t', x s' = .ok a t' ∧ T t t' := by
  rcases hx hs with ⟨u, hstall⟩ | hagree
  · rw [hstall] at h
    cases h
  · rw [h] at hagree
    generalize x s' = r' at hagree ⊢
    cases hagree with
    | ok ha ht => subst ha; exact ⟨_, rfl, ht⟩

/-- An action that will end so waits, or has ended so. -/
theorem waits_or_ok {x : Act ε σ α} (hx : Prompt S T x) {s s' t' : σ} {a : α} (hs : S s s')
    (h : x s' = .ok a t') : (∃ t, x s = .error .stalled t) ∨ ∃ t, x s = .ok a t ∧ T t t' := by
  rcases hx hs with hstall | hagree
  · exact .inl hstall
  · rw [h] at hagree
    generalize x s = r at hagree ⊢
    cases hagree with
    | ok ha ht => subst ha; exact .inr ⟨_, rfl, ht⟩

end Prompt

end Act

/-! ## 2. Readers -/

namespace Reader

/-- These bytes can still come behind this ending: a stream that has ended brings nothing. -/
def Awaits (ending : Ending) (more : Bytes) : Prop := ending = .hang ∨ ending = .eof ∧ more = []

/-- The reader `r` stands before the arrival of these bytes, and `r'` behind that of everything. -/
structure Before (more : Bytes) (ending : Ending) (r r' : Reader) : Prop where
  ahead : r'.ahead = r.ahead ++ more
  awaits : Awaits ending more
  ending : r.inflow.ending = ending
  ends : r'.inflow.ending = .eof

variable {more : Bytes} {ending : Ending} {n : Nat} {r r' q q' : Reader}

/-- The bytes that both have ahead are passed by both. -/
theorem Before.passed (h : Before more ending r r') (hq : Passed n r q) (hq' : Passed n r' q')
    (hn : n ≤ r.ahead.length ∨ more = []) : Before more ending q q' where
  ahead := by
    rw [hq.ahead, hq'.ahead, h.ahead]
    rcases hn with hn | rfl
    · exact List.drop_append_of_le_length hn
    · simp
  awaits := h.awaits
  ending := hq.ending.trans h.ending
  ends := hq'.ending.trans h.ends

/-- **Reading a number of bytes waits for those that are missing.** -/
theorem prompt_readFully (n : Nat) :
    Act.Prompt (Before more ending) (Before more ending) (readFully n) := by
  intro r r' h
  have hends := ends_readFully r n
  have hends' := ends_readFully r' n
  by_cases hn : n ≤ r.ahead.length
  · have hn' : n ≤ r'.ahead.length := by
      rw [h.ahead, List.length_append]
      omega
    rw [if_pos hn] at hends
    rw [if_pos hn', h.ahead, List.take_append_of_le_length hn] at hends'
    obtain ⟨q, hq, hpassed⟩ := hends
    obtain ⟨q', hq', hpassed'⟩ := hends'
    rw [hq, hq']
    exact .inr (.ok rfl (h.passed hpassed hpassed' (.inl hn)))
  · rw [if_neg hn] at hends
    rw [h.ending] at hends
    rcases h.awaits with hhang | ⟨heof, rfl⟩
    · rw [hhang] at hends
      obtain ⟨q, hq, -⟩ := hends
      exact .inl ⟨q, hq⟩
    · have hsame : r'.ahead = r.ahead := by rw [h.ahead, List.append_nil]
      rw [heof] at hends
      rw [hsame, if_neg hn, h.ends] at hends'
      obtain ⟨q, hq, hpassed⟩ := hends
      obtain ⟨q', hq', hpassed'⟩ := hends'
      rw [hq, hq']
      exact .inr (.ok rfl (h.passed hpassed hpassed' (.inr rfl)))

theorem prompt_readExactly? (n : Nat) :
    Act.Prompt (Before more ending) (Before more ending) (readExactly? n) := by
  unfold readExactly?
  refine .bind (fun _ _ => id) (prompt_readFully n) fun got => ?_
  split
  · exact .pure (fun _ _ => id) _
  · split
    · exact .pure (fun _ _ => id) _
    · exact .fail (fun _ _ => id) _

theorem prompt_readExactly (n : Nat) :
    Act.Prompt (Before more ending) (Before more ending) (readExactly n) := by
  unfold readExactly
  refine .bind (fun _ _ => id) (prompt_readExactly? n) fun o => ?_
  cases o with
  | some got => exact .pure (fun _ _ => id) got
  | none => exact .fail (fun _ _ => id) _

/-- The reader behind the arrival of these bytes and of the end of the stream. -/
def arrived (more : Bytes) (r : Reader) : Reader :=
  { r with inflow := ⟨r.inflow.pieces ++ [more], .eof⟩ }

@[simp] theorem ahead_arrived (more : Bytes) (r : Reader) :
    (r.arrived more).ahead = r.ahead ++ more := by
  simp [arrived, ahead, Inflow.rest]

theorem before_arrived (h : Awaits r.inflow.ending more) :
    Before more r.inflow.ending r (r.arrived more) := ⟨ahead_arrived more r, h, rfl, rfl⟩

end Reader

end UrlTransfer
