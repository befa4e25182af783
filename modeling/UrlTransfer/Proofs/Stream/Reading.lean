/-
# Reading is a function of the bytes ahead

A `Reader` cuts what it returns by the size of its buffer, by what the buffer already holds and by
the pieces in which the stream arrives.  None of this is visible to a protocol that waits for the
bytes it needs.  This file says so once for every operation of the reader: the result is computed
from `Reader.ahead` alone, and the reader behind the operation stands a known number of bytes
further on in the same stream (`Reader.Passed`).

* `read_some`, `read_none`: one read returns bytes exactly if there are any, and they are the
  first ones ahead.  How many is the one thing that the cutting decides.
* `readFully_take`: reading a number of bytes returns the first ones ahead, as many as there are.
* `readExactly?_some`, `readExactly?_none`, `readExactly?_short`: the three outcomes of reading an
  exact number.

What is said about the end of the stream is said of streams that do end (`Ending.eof`); as long as
enough bytes are ahead it does not matter what stands behind them.
-/
import UrlTransfer.Stream.Reader

namespace UrlTransfer

/-! ## 1. Reads from a stream -/

namespace Inflow

/-- **A read returns something as long as something is to come.** -/
theorem readSome_some (ending : Ending) (n : Nat) {pieces : List Bytes}
    (h : pieces.flatten ≠ []) :
    ∃ b bytes s, readSome ending n pieces = .ok (b :: bytes) s := by
  induction pieces with
  | nil => exact absurd rfl h
  | cons piece pieces ih =>
    cases piece with
    | nil => simpa [readSome] using ih (by simpa using h)
    | cons b bytes =>
      simp only [readSome]
      split
      · exact ⟨b, _, _, rfl⟩
      · exact ⟨b, _, _, rfl⟩

/-- Pieces without a byte are passed over. -/
theorem readSome_none (ending : Ending) (n : Nat) {pieces : List Bytes}
    (h : pieces.flatten = []) : readSome ending n pieces = atEnd ending ⟨[], ending⟩ := by
  induction pieces with
  | nil => rfl
  | cons piece pieces ih =>
    rw [List.flatten_cons, List.append_eq_nil_iff] at h
    rw [h.1]
    exact ih h.2

theorem read_some {room : Nat} {s : Inflow} (hroom : 0 < room) (h : s.rest ≠ []) :
    ∃ got s', read room s = .ok got s' ∧ got ≠ [] := by
  obtain ⟨n, rfl⟩ : ∃ n, room = n + 1 := ⟨room - 1, by omega⟩
  obtain ⟨b, bytes, s', hread⟩ := readSome_some s.ending n h
  exact ⟨b :: bytes, s', hread, List.cons_ne_nil _ _⟩

theorem read_eof {s : Inflow} (h : s.rest = []) (hend : s.ending = .eof) (room : Nat) :
    ∃ s', read room s = .ok [] s' ∧ s'.rest = [] ∧ s'.ending = .eof := by
  cases room with
  | zero => exact ⟨s, rfl, h, hend⟩
  | succ n =>
    refine ⟨⟨[], s.ending⟩, ?_, rfl, hend⟩
    show readSome s.ending n s.pieces = _
    rw [readSome_none s.ending n h, hend]
    rfl

end Inflow

namespace Reader

/-! ## 2. Readers of the same stream -/

/-- The unread bytes are not more than the buffer holds. -/
def Fits (r : Reader) : Prop := r.unread.length ≤ r.capacity

theorem fits_ofInflow (inflow : Inflow) : (ofInflow inflow).Fits := Nat.zero_le _

/-- `r'` stands `n` bytes further on in the stream of `r`.  Only what every protocol may rely on is
kept: the bytes ahead, what stands behind them, and the size of the buffer. -/
structure Passed (n : Nat) (r r' : Reader) : Prop where
  ahead : r'.ahead = r.ahead.drop n
  ending : r'.inflow.ending = r.inflow.ending
  capacity : r'.capacity = r.capacity
  fits : r.Fits → r'.Fits

theorem Passed.refl (r : Reader) : Passed 0 r r := ⟨rfl, rfl, rfl, id⟩

theorem Passed.trans {m n : Nat} {r r' r'' : Reader} (h : Passed m r r') (h' : Passed n r' r'') :
    Passed (m + n) r r'' where
  ahead := by rw [h'.ahead, h.ahead, List.drop_drop]
  ending := h'.ending.trans h.ending
  capacity := h'.capacity.trans h.capacity
  fits := h'.fits ∘ h.fits

/-- What was read, then what is ahead, is what was ahead. -/
theorem Passed.of_append {got : Bytes} {r r' : Reader} (hahead : got ++ r'.ahead = r.ahead)
    (hend : r'.inflow.ending = r.inflow.ending) (hcap : r'.capacity = r.capacity)
    (hfits : r.Fits → r'.Fits) : Passed got.length r r' where
  ahead := by rw [← hahead, List.drop_left]
  ending := hend
  capacity := hcap
  fits := hfits

/-! ## 3. The buffer -/

@[simp] theorem consume_capacity (n : Nat) (r : Reader) :
    (r.consume n).capacity = r.capacity := by
  unfold consume
  split <;> rfl

@[simp] theorem consume_inflow (n : Nat) (r : Reader) : (r.consume n).inflow = r.inflow := by
  unfold consume
  split <;> rfl

@[simp] theorem consume_unread (n : Nat) (r : Reader) :
    (r.consume n).unread = r.unread.drop n := by
  unfold consume
  split
  · next h => rw [h]; rfl
  · rfl

/-- **Consuming bytes of the buffer passes them.** -/
theorem consume_passed {n : Nat} {r : Reader} (h : n ≤ r.unread.length) :
    Passed n r (r.consume n) where
  ahead := by rw [consume_ahead, ahead, List.drop_append_of_le_length h]
  ending := by rw [consume_inflow]
  capacity := consume_capacity n r
  fits := fun hfits => by
    unfold Fits at hfits ⊢
    rw [consume_unread, consume_capacity, List.length_drop]
    omega

/-- Dropping the whole buffer passes it. -/
theorem discard_passed (r : Reader) : Passed r.unread.length r r.discard where
  ahead := by simp [discard, ahead]
  ending := rfl
  capacity := rfl
  fits := fun _ => Nat.zero_le _

/-- Filling the buffer passes nothing. -/
theorem fill_passed {r r' : Reader} {k : Nat} (h : fill r = .ok k r') : Passed 0 r r' := by
  obtain ⟨hahead, hlength, hcap⟩ := fill_ahead h
  refine ⟨hahead, ?_, hcap, ?_⟩
  · unfold fill at h
    split at h
    · cases h; rfl
    · split at h
      · next hread => cases h; exact (Inflow.read_rest hread).2.1
      · cases h
  · intro hfits
    unfold Fits at hfits ⊢
    rw [hlength, hcap]
    unfold fill at h
    split at h
    · cases h; exact hfits
    · split at h
      · next hread =>
        cases h
        have := (Inflow.read_rest hread).2.2
        omega
      · cases h

/-- **Filling brings something if there is room and something to come.** -/
theorem fill_some {r : Reader} (hroom : r.unread.length < r.capacity) (h : r.inflow.rest ≠ []) :
    ∃ k r', fill r = .ok (k + 1) r' := by
  obtain ⟨got, s, hread, hgot⟩ :=
    Inflow.read_some (show 0 < r.capacity - r.unread.length by omega) h
  obtain ⟨b, bytes, rfl⟩ := List.exists_cons_of_ne_nil hgot
  unfold fill
  rw [if_neg (Nat.ne_of_lt hroom), hread]
  exact ⟨bytes.length, _, rfl⟩

/-- Behind the last byte there is nothing to fill the buffer with. -/
theorem fill_eof {r : Reader} (h : r.inflow.rest = []) (hend : r.inflow.ending = .eof) :
    ∃ r', fill r = .ok 0 r' ∧ r'.unread = r.unread := by
  unfold fill
  split
  · exact ⟨r.compact, rfl, rfl⟩
  · obtain ⟨s, hread, -, -⟩ := Inflow.read_eof h hend (r.capacity - r.unread.length)
    rw [hread]
    exact ⟨_, rfl, List.append_nil _⟩

/-! ## 4. Reads -/

theorem takeBuffered_passed {n : Nat} (r : Reader) :
    ∃ r', takeBuffered n r = .ok (r.unread.take n) r' ∧
      Passed (r.unread.take n).length r r' := by
  refine ⟨r.consume n, rfl, ?_⟩
  have hahead : r.unread.take n ++ (r.consume n).ahead = r.ahead := takeBuffered_ahead rfl
  refine Passed.of_append hahead (by rw [consume_inflow]) (consume_capacity n r) fun hfits => ?_
  unfold Fits at hfits ⊢
  rw [consume_unread, consume_capacity, List.length_drop]
  omega

/-- **A read returns something as long as something is ahead**, and passes what it returns. -/
theorem read_some {n : Nat} {r : Reader} (hn : 0 < n) (h : r.ahead ≠ []) :
    ∃ got r', read n r = .ok got r' ∧ got ≠ [] ∧ got.length ≤ n ∧ Passed got.length r r' := by
  have hbuffered : ∀ s : Reader, s.unread ≠ [] →
      ∃ got r', takeBuffered n s = .ok got r' ∧ got ≠ [] ∧ got.length ≤ n ∧
        Passed got.length s r' := by
    intro s hs
    obtain ⟨r', htake, hpassed⟩ := takeBuffered_passed (n := n) s
    refine ⟨_, r', htake, ?_, List.length_take_le _ _, hpassed⟩
    rw [Ne, List.take_eq_nil_iff]
    rintro (h0 | h0)
    · exact absurd h0 (Nat.ne_of_gt hn)
    · exact hs h0
  unfold read
  rw [if_neg (Nat.ne_of_gt hn)]
  by_cases hempty : r.unread = []
  · rw [if_pos (by rw [hempty]; rfl)]
    have hrest : r.inflow.rest ≠ [] := by simpa [ahead, hempty] using h
    split
    · -- past the buffer, which is empty
      obtain ⟨got, s, hread, hgot⟩ := Inflow.read_some hn hrest
      obtain ⟨hsplit, hend, hlength⟩ := Inflow.read_rest hread
      refine ⟨got, { r with inflow := s }, ?_, hgot, hlength, ?_⟩
      · exact Act.within_run hread
      · refine Passed.of_append ?_ hend rfl id
        simp only [ahead, hempty, List.nil_append]
        exact hsplit
    · next hcap =>
      obtain ⟨k, r', hfill⟩ := fill_some (r := r) (by rw [hempty]; simp; omega) hrest
      have hk : r'.unread ≠ [] := by
        have hlength := (fill_ahead hfill).2.1
        intro h0
        rw [h0] at hlength
        simp only [List.length_nil] at hlength
        omega
      obtain ⟨got, r'', htake, hgot, hlength, hpassed⟩ := hbuffered r' hk
      rw [hfill]
      refine ⟨got, r'', htake, hgot, hlength, ?_⟩
      simpa using (fill_passed hfill).trans hpassed
  · rw [if_neg (by simpa using hempty)]
    exact hbuffered r hempty

/-- At the end of the stream a read returns nothing. -/
theorem read_eof {n : Nat} {r : Reader} (h : r.ahead = []) (hend : r.inflow.ending = .eof) :
    ∃ r', read n r = .ok [] r' ∧ Passed 0 r r' := by
  obtain ⟨hunread, hrest⟩ : r.unread = [] ∧ r.inflow.rest = [] := by simpa [ahead] using h
  unfold read
  split
  · exact ⟨r, rfl, Passed.refl r⟩
  · rw [if_pos (by rw [hunread]; rfl)]
    split
    · obtain ⟨s, hread, hs, hend'⟩ := Inflow.read_eof hrest hend n
      refine ⟨{ r with inflow := s }, ?_, ?_, hend'.trans hend.symm, rfl, id⟩
      · exact Act.within_run hread
      · simp [ahead, hs, hrest]
    · obtain ⟨r', hfill, -⟩ := fill_eof hrest hend
      rw [hfill]
      exact ⟨r', rfl, fill_passed hfill⟩

/-! ## 5. Reading a number of bytes -/

/-- The loop of `readFully`: what came before, then the first bytes ahead. -/
theorem readFullyFrom_take (got : Bytes) (n : Nat) (r : Reader)
    (h : n ≤ r.ahead.length ∨ r.inflow.ending = .eof) :
    ∃ r', readFullyFrom got n r = .ok (got ++ r.ahead.take n) r' ∧ Passed n r r' := by
  induction n using Nat.strongRecOn generalizing got r with
  | ind n ih =>
    rw [readFullyFrom]
    split
    · next h0 =>
      subst h0
      exact ⟨r, by simp, Passed.refl r⟩
    · next hn =>
      by_cases hahead : r.ahead = []
      · have hend : r.inflow.ending = .eof := by
          rcases h with h | h
          · rw [hahead] at h
            exact absurd (Nat.le_zero.mp h) hn
          · exact h
        obtain ⟨r', hread, hpassed⟩ := read_eof (n := n) hahead hend
        rw [hread]
        refine ⟨r', by simp [hahead], ?_, hpassed.ending, hpassed.capacity, hpassed.fits⟩
        simp [hpassed.ahead, hahead]
      · obtain ⟨more, r', hread, hmore, hle, hpassed⟩ :=
          read_some (Nat.pos_of_ne_zero hn) hahead
        obtain ⟨b, bytes, rfl⟩ := List.exists_cons_of_ne_nil hmore
        simp only [List.length_cons] at hle hpassed
        have hsplit : (b :: bytes) ++ r'.ahead = r.ahead := read_ahead hread
        have hlength : r.ahead.length = bytes.length + 1 + r'.ahead.length := by
          rw [← hsplit, List.length_append, List.length_cons]
        have hnext : n - (bytes.length + 1) ≤ r'.ahead.length ∨ r'.inflow.ending = .eof := by
          rcases h with h | h
          · left; omega
          · right; rw [hpassed.ending, h]
        obtain ⟨r'', hrest, hpassed'⟩ :=
          ih (n - (bytes.length + 1)) (by omega) (got ++ b :: bytes) r' hnext
        rw [hread]
        refine ⟨r'', ?_, ?_⟩
        · show readFullyFrom (got ++ b :: bytes) (n - (bytes.length + 1)) r' = _
          have htake : r.ahead.take n = (b :: bytes) ++ r'.ahead.take (n - (bytes.length + 1)) := by
            rw [← hsplit, List.take_append, List.take_of_length_le (by simpa using hle)]
            rfl
          rw [hrest, htake, List.append_assoc]
        · have hsum : bytes.length + 1 + (n - (bytes.length + 1)) = n := by omega
          rw [← hsum]
          exact hpassed.trans hpassed'

/-- **Reading `n` bytes returns the first `n` bytes ahead**, or all of them where the stream ends
before. -/
theorem readFully_take {n : Nat} {r : Reader}
    (h : n ≤ r.ahead.length ∨ r.inflow.ending = .eof) :
    ∃ r', readFully n r = .ok (r.ahead.take n) r' ∧ Passed n r r' := by
  exact readFullyFrom_take [] n r h

/-- Reading exactly `n` bytes where there are as many. -/
theorem readExactly?_some {n : Nat} {r : Reader} (hn : 0 < n) (h : n ≤ r.ahead.length) :
    ∃ r', readExactly? n r = .ok (some (r.ahead.take n)) r' ∧ Passed n r r' := by
  obtain ⟨r', hread, hpassed⟩ := readFully_take (r := r) (.inl h)
  have hlength : (r.ahead.take n).length = n := by rw [List.length_take]; omega
  refine ⟨r', ?_, hpassed⟩
  unfold readExactly?
  rw [Act.bind_ok hread]
  have hne : (r.ahead.take n).isEmpty = false := by
    rw [List.isEmpty_eq_false_iff, ← List.length_pos_iff, hlength]
    exact hn
  rw [hne, if_neg (by simp), if_pos hlength]
  rfl

/-- Reading exactly `n` bytes at the end of the stream. -/
theorem readExactly?_none {n : Nat} {r : Reader} (hn : 0 < n) (h : r.ahead = [])
    (hend : r.inflow.ending = .eof) :
    ∃ r', readExactly? n r = .ok none r' ∧ Passed 0 r r' := by
  obtain ⟨r', hread, hpassed⟩ := readFully_take (r := r) (n := n) (.inr hend)
  refine ⟨r', ?_, ?_, hpassed.ending, hpassed.capacity, hpassed.fits⟩
  · unfold readExactly?
    rw [Act.bind_ok hread, h, List.take_nil, if_pos (by simp; omega)]
    rfl
  · rw [hpassed.ahead, h, List.drop_nil, List.drop_nil]

/-- Reading exactly `n` bytes where the stream ends within them. -/
theorem readExactly?_short {n : Nat} {r : Reader} (h0 : r.ahead ≠ []) (h : r.ahead.length < n)
    (hend : r.inflow.ending = .eof) :
    ∃ r', readExactly? n r = .error (.failed IoError.eof) r' ∧ Passed n r r' := by
  obtain ⟨r', hread, hpassed⟩ := readFully_take (r := r) (n := n) (.inr hend)
  refine ⟨r', ?_, hpassed⟩
  unfold readExactly?
  rw [Act.bind_ok hread, List.take_of_length_le (Nat.le_of_lt h)]
  rw [if_neg (by simp [h0]), if_neg (Nat.ne_of_lt h)]
  rfl

/-- **Reading exactly `n` bytes fails where the stream ends before them.** -/
theorem readExactly_short {n : Nat} {r : Reader} (h : r.ahead.length < n)
    (hend : r.inflow.ending = .eof) :
    ∃ r', readExactly n r = .error (.failed IoError.eof) r' := by
  unfold readExactly
  by_cases h0 : r.ahead = []
  · obtain ⟨r', hread, -⟩ := readExactly?_none (Nat.zero_lt_of_lt h) h0 hend
    rw [Act.bind_ok hread]
    exact ⟨r', rfl⟩
  · obtain ⟨r', hread, -⟩ := readExactly?_short h0 h hend
    rw [Act.bind_error hread]
    exact ⟨r', rfl⟩

theorem readExactly_take {n : Nat} {r : Reader} (hn : 0 < n) (h : n ≤ r.ahead.length) :
    ∃ r', readExactly n r = .ok (r.ahead.take n) r' ∧ Passed n r r' := by
  obtain ⟨r', hread, hpassed⟩ := readExactly?_some hn h
  refine ⟨r', ?_, hpassed⟩
  unfold readExactly
  rw [Act.bind_ok hread]
  rfl

end Reader

end UrlTransfer
