/-
# Actions on a reader that are functions of the bytes ahead

A protocol is described by what it does to a byte string: it takes bytes off the front and returns
a value, or it finds a fault (`Parser`).  The library runs actions on a `Reader` instead, which
sees the bytes in pieces.  `Readers.Computes` ties the two: on every reader of a class, whatever
its buffer holds and however its stream is cut, the action ends as the parser does on the bytes
ahead, and the reader behind it stands in front of what the parser left.

The tie is kept along sequences (`Computes.bind`) and along case distinctions, so the parser of an
action is read off the action, part by part, and no later proof looks at a buffer again.

A class of readers (`Readers`) is one that reading does not leave.  All of them have a stream that
ends; what a class asks of the buffer depends on how far the protocol looks ahead in it.
-/
import UrlTransfer.Error
import UrlTransfer.Proofs.Stream.Reading

namespace UrlTransfer

/-! ## 1. Parsers -/

/-- What is taken off the front of a byte string, and what is left, or a fault. -/
abbrev Parser (α : Type) := StateT Bytes (Except Error) α

namespace Parser

variable {α β : Type}

/-- Finds a fault. -/
def fail (error : Error) : Parser α := fun _ => .error error

/-- Takes `n` bytes; **fewer are the end of the stream, too early**. -/
def take (n : Nat) : Parser Bytes := fun bytes =>
  if bytes.length < n then .error (.io .eof) else .ok (bytes.take n, bytes.drop n)

@[simp] theorem pure_view (a : α) (bytes : Bytes) : (pure a : Parser α) bytes = .ok (a, bytes) :=
  rfl

@[simp] theorem fail_view (error : Error) (bytes : Bytes) :
    (fail error : Parser α) bytes = .error error := rfl

theorem bind_ok {x : Parser α} {f : α → Parser β} {bytes rest : Bytes} {a : α}
    (h : x bytes = .ok (a, rest)) : (x >>= f) bytes = f a rest := by
  show (x bytes >>= fun p => f p.1 p.2) = f a rest
  rw [h]
  rfl

theorem bind_error {x : Parser α} {f : α → Parser β} {bytes : Bytes} {error : Error}
    (h : x bytes = .error error) : (x >>= f) bytes = .error error := by
  show (x bytes >>= fun p => f p.1 p.2) = .error error
  rw [h]
  rfl

/-- **A sequence takes exactly what both of its parts take.** -/
theorem bind_eq_ok {x : Parser α} {f : α → Parser β} {bytes left : Bytes} {b : β} :
    (x >>= f) bytes = .ok (b, left) ↔
      ∃ a rest, x bytes = .ok (a, rest) ∧ f a rest = .ok (b, left) := by
  constructor
  · intro h
    cases hx : x bytes with
    | error e => rw [bind_error hx] at h; cases h
    | ok p => exact ⟨p.1, p.2, rfl, by rwa [bind_ok hx] at h⟩
  · rintro ⟨a, rest, hx, hf⟩
    rw [bind_ok hx, hf]

theorem take_short {n : Nat} {bytes : Bytes} (h : bytes.length < n) :
    take n bytes = .error (.io .eof) := if_pos h

theorem take_enough {n : Nat} {bytes : Bytes} (h : n ≤ bytes.length) :
    take n bytes = .ok (bytes.take n, bytes.drop n) := if_neg (Nat.not_lt.2 h)

/-- **What is written in front is taken off again.** -/
theorem take_append {n : Nat} {bytes : Bytes} (h : bytes.length = n) (rest : Bytes) :
    take n (bytes ++ rest) = .ok (bytes, rest) := by
  rw [take_enough (by rw [List.length_append]; omega), ← h, List.take_left, List.drop_left]

end Parser

/-! ## 2. Classes of readers -/

/-- A class of readers that reading does not leave, whose streams all end. -/
structure Readers where
  mem : Reader → Prop
  ends : ∀ {r}, mem r → r.inflow.ending = .eof
  stays : ∀ {n r r'}, Reader.Passed n r r' → mem r → mem r'

namespace Readers

/-- All readers whose stream ends. -/
def ending : Readers where
  mem r := r.inflow.ending = .eof
  ends := id
  stays hpassed h := hpassed.ending.trans h

/-- The readers whose stream ends and whose buffer holds `capacity` bytes. -/
def holding (capacity : Nat) : Readers where
  mem r := r.inflow.ending = .eof ∧ r.capacity = capacity ∧ r.Fits
  ends h := h.1
  stays hpassed h :=
    ⟨hpassed.ending.trans h.1, hpassed.capacity.trans h.2.1, hpassed.fits h.2.2⟩

/-- **Filling a buffer that has room brings something, or meets the end of the stream.** -/
theorem fill_cases {capacity : Nat} {r : Reader} (hmem : (holding capacity).mem r)
    (hspace : r.unread.length < capacity) :
    (r.inflow.rest = [] ∧ ∃ r', r.fill = .ok 0 r' ∧ r'.unread = r.unread ∧
      r'.capacity = capacity) ∨
    (∃ k r', r.fill = .ok (k + 1) r' ∧ Reader.Passed 0 r r' ∧ (holding capacity).mem r' ∧
      r'.inflow.size < r.inflow.size) := by
  by_cases hrest : r.inflow.rest = []
  · obtain ⟨r', hfill, hunread⟩ := Reader.fill_eof hrest hmem.1
    exact .inl ⟨hrest, r', hfill, hunread, (Reader.fill_ahead hfill).2.2.trans hmem.2.1⟩
  · obtain ⟨k, r', hfill⟩ := Reader.fill_some (by rw [hmem.2.1]; exact hspace) hrest
    have hpassed := Reader.fill_passed hfill
    have hsize := Reader.inflow_size_fill hfill
    exact .inr ⟨k, r', hfill, hpassed, (holding capacity).stays hpassed hmem, by omega⟩

/-! ## 3. Actions that compute a parser -/

/-- On the readers of the class `x` ends as `f` does on the bytes ahead. -/
structure Computes {α : Type} (K : Readers) (x : Act Error Reader α) (f : Parser α) : Prop where
  ok : ∀ {r a rest}, K.mem r → f r.ahead = .ok (a, rest) →
    ∃ r', x r = .ok a r' ∧ r'.ahead = rest ∧ K.mem r'
  error : ∀ {r e}, K.mem r → f r.ahead = .error e → ∃ r', x r = .error (.failed e) r'

namespace Computes

variable {α β : Type} {K : Readers}

theorem pure (a : α) : K.Computes (Pure.pure a) (Pure.pure a) where
  ok := by
    intro r a' rest hmem h
    cases h
    exact ⟨r, rfl, rfl, hmem⟩
  error := by
    intro r e _ h
    cases h

theorem fail (error : Error) : K.Computes (α := α) (Act.fail error) (Parser.fail error) where
  ok := by
    intro r a rest _ h
    cases h
  error := by
    intro r e _ h
    cases h
    exact ⟨r, rfl⟩

/-- **Sequences compute sequences.** -/
theorem bind {x : Act Error Reader α} {f : Parser α} {g : α → Act Error Reader β}
    {k : α → Parser β} (hx : K.Computes x f) (hg : ∀ a, K.Computes (g a) (k a)) :
    K.Computes (x >>= g) (f >>= k) where
  ok := by
    intro r b rest hmem h
    cases hf : f r.ahead with
    | error e => rw [Parser.bind_error hf] at h; cases h
    | ok p =>
      obtain ⟨a, rest'⟩ := p
      rw [Parser.bind_ok hf] at h
      obtain ⟨r', hr', hahead, hmem'⟩ := hx.ok hmem hf
      obtain ⟨r'', hr'', hrest⟩ := (hg a).ok hmem' (by rw [hahead]; exact h)
      exact ⟨r'', by rw [Act.bind_ok hr', hr''], hrest⟩
  error := by
    intro r e hmem h
    cases hf : f r.ahead with
    | error e' =>
      rw [Parser.bind_error hf] at h
      cases h
      obtain ⟨r', hr'⟩ := hx.error hmem hf
      exact ⟨r', Act.bind_error hr'⟩
    | ok p =>
      obtain ⟨a, rest'⟩ := p
      rw [Parser.bind_ok hf] at h
      obtain ⟨r', hr', hahead, hmem'⟩ := hx.ok hmem hf
      obtain ⟨r'', hr''⟩ := (hg a).error hmem' (by rw [hahead]; exact h)
      exact ⟨r'', by rw [Act.bind_ok hr', hr'']⟩

theorem ite {p : Prop} [Decidable p] {x y : Act Error Reader α} {f g : Parser α}
    (hx : K.Computes x f) (hy : K.Computes y g) :
    K.Computes (if p then x else y) (if p then f else g) := by
  split
  · exact hx
  · exact hy

/-- An action that passes what the parser takes, and fails where the parser does. -/
theorem of_run {x : Act Error Reader α} {f : Parser α}
    (h : ∀ r, K.mem r →
      match f r.ahead with
      | .ok (a, rest) => ∃ n r', x r = .ok a r' ∧ Reader.Passed n r r' ∧ r.ahead.drop n = rest
      | .error e => ∃ r', x r = .error (.failed e) r') : K.Computes x f where
  ok := by
    intro r a rest hmem hf
    have hrun := h r hmem
    rw [hf] at hrun
    obtain ⟨n, r', hx, hpassed, hrest⟩ := hrun
    exact ⟨r', hx, hpassed.ahead.trans hrest, K.stays hpassed hmem⟩
  error := by
    intro r e hmem hf
    have hrun := h r hmem
    rw [hf] at hrun
    exact hrun

/-- **What the action returns is what the parser takes.** -/
theorem of_ok {x : Act Error Reader α} {f : Parser α} (h : K.Computes x f) {r r' : Reader}
    {a : α} (hmem : K.mem r) (hx : x r = .ok a r') :
    f r.ahead = .ok (a, r'.ahead) ∧ K.mem r' := by
  cases hf : f r.ahead with
  | error e =>
    obtain ⟨r'', hx'⟩ := h.error hmem hf
    rw [hx'] at hx
    cases hx
  | ok p =>
    obtain ⟨a', rest⟩ := p
    obtain ⟨r'', hx', hahead, hmem'⟩ := h.ok hmem hf
    rw [hx'] at hx
    cases hx
    exact ⟨by rw [hahead], hmem'⟩

/-- **Reading exactly `n` bytes is taking them.** -/
theorem readExactly {n : Nat} (hn : 0 < n) :
    K.Computes (Act.mapError .io (Reader.readExactly n)) (Parser.take n) where
  ok := by
    intro r bytes rest hmem h
    by_cases hlength : r.ahead.length < n
    · rw [Parser.take_short hlength] at h; cases h
    · rw [Parser.take_enough (Nat.not_lt.1 hlength)] at h
      cases h
      obtain ⟨r', hread, hpassed⟩ := Reader.readExactly_take hn (Nat.not_lt.1 hlength)
      exact ⟨r', Act.mapError_ok hread, hpassed.ahead, K.stays hpassed hmem⟩
  error := by
    intro r e hmem h
    by_cases hlength : r.ahead.length < n
    · rw [Parser.take_short hlength] at h
      cases h
      obtain ⟨r', hread⟩ := Reader.readExactly_short hlength (K.ends hmem)
      exact ⟨r', Act.mapError_error hread⟩
    · rw [Parser.take_enough (Nat.not_lt.1 hlength)] at h; cases h

end Computes

end Readers

end UrlTransfer
