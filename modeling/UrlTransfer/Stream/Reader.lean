/-
# A buffered reader

Protocol parsers look ahead, for a line ending, a chunk size or a frame header, and keep what
they have not consumed while they read more.  A `Reader` holds bytes that have been read and not
consumed, in a buffer of a fixed capacity, in front of the stream that they came from.

The bytes that a reader stands in front of are `Reader.ahead`: the unread bytes of the buffer,
then everything the stream still brings.  Filling the buffer does not change them
(`fill_ahead`), consuming drops from their front, and a read takes what it returns (`read_ahead`).
So whatever reads with these operations shortens what is ahead by the bytes that it has (`size_read`,
`size_readFullyFrom`), which is why loops over a reader come to their end.
-/
import UrlTransfer.Stream.Inflow

namespace UrlTransfer

/-- Bytes read and not consumed, in front of the stream that they came from. -/
structure Reader where
  /-- How many bytes the buffer can hold. -/
  capacity : Nat
  /-- How many consumed bytes still stand at the front of the buffer. -/
  spent : Nat
  /-- The bytes of the buffer that have not been consumed. -/
  unread : Bytes
  inflow : Inflow
deriving Repr, DecidableEq

namespace Reader

/-- The capacity of a buffer where no other is asked for. -/
def defaultCapacity : Nat := 16384

/-- An empty buffer in front of `inflow`. -/
def withCapacity (capacity : Nat) (inflow : Inflow) : Reader := ⟨capacity, 0, [], inflow⟩

/-- An empty buffer of the default capacity. -/
def ofInflow (inflow : Inflow) : Reader := withCapacity defaultCapacity inflow

/-- A reader of `inflow` that takes `buffered` for bytes already read from it. -/
def ofParts (inflow : Inflow) (buffered : Bytes) : Reader :=
  ⟨max defaultCapacity buffered.length, 0, buffered, inflow⟩

/-- The place in the buffer where the unread bytes end. -/
def filled (r : Reader) : Nat := r.spent + r.unread.length

/-- All bytes that the reader stands in front of. -/
def ahead (r : Reader) : Bytes := r.unread ++ r.inflow.rest

/-- How many bytes the reader stands in front of. -/
def size (r : Reader) : Nat := r.ahead.length

/-- Drops everything in the buffer. -/
def discard (r : Reader) : Reader := { r with spent := 0, unread := [] }

/-- Drops `n` bytes at the front of the buffer, or all of them if there are fewer. -/
def consume (n : Nat) (r : Reader) : Reader :=
  match r.unread.drop n with
  | [] => r.discard
  | left => { r with spent := r.spent + n, unread := left }

/-- Moves the unread bytes to the front of the buffer. -/
def compact (r : Reader) : Reader := { r with spent := 0 }

/-- Reads more behind the unread bytes, which are moved to the front and kept.  Returns how many
bytes came, which is none at the end of the stream **and where the buffer is full**. -/
def fill : Act IoError Reader Nat := fun r =>
  if r.unread.length = r.capacity then .ok 0 r.compact
  else
    match r.inflow.read (r.capacity - r.unread.length) with
    | .ok got inflow =>
      .ok got.length { r.compact with unread := r.unread ++ got, inflow := inflow }
    | .error halt inflow => .error halt { r.compact with inflow := inflow }

/-- Takes at most `n` bytes out of the buffer. -/
def takeBuffered (n : Nat) : Act IoError Reader Bytes := fun r =>
  .ok (r.unread.take n) (r.consume n)

/-- Reads from the stream, past the buffer. -/
def readPast (n : Nat) : Act IoError Reader Bytes :=
  Act.within Reader.inflow (fun inflow r => { r with inflow := inflow }) (Inflow.read n)

/-- Reads at most `n` bytes, those in the buffer first.  A read as large as the buffer goes past
it when the buffer is empty. -/
def read (n : Nat) : Act IoError Reader Bytes := fun r =>
  if n = 0 then .ok [] r
  else if r.unread.isEmpty then
    if n ≥ r.capacity then readPast n r
    else
      match fill r with
      | .ok 0 r' => .ok [] r'
      | .ok (_ + 1) r' => takeBuffered n r'
      | .error halt r' => .error halt r'
  else takeBuffered n r

/-- Reads at most `n` bytes, those in the buffer first, and never fills the buffer. -/
def readThrough (n : Nat) : Act IoError Reader Bytes := do
  let r ← get
  if r.unread.isEmpty then readPast n else takeBuffered n

/-- Reads everything up to the end of the stream. -/
def readToEnd : Act IoError Reader Bytes := do
  let r ← get
  set r.discard
  let later ← Act.within Reader.inflow (fun inflow r => { r with inflow := inflow }) Inflow.drain
  return r.unread ++ later

/-- Reads until `n` bytes are there or the stream ends; `got` is what came before. -/
def readFullyFrom (got : Bytes) (n : Nat) : Act IoError Reader Bytes := fun r =>
  if _h : n = 0 then .ok got r
  else
    match read n r with
    | .ok [] r' => .ok got r'
    | .ok (b :: more) r' => readFullyFrom (got ++ b :: more) (n - (more.length + 1)) r'
    | .error halt r' => .error halt r'
termination_by n

/-- Reads `n` bytes, or fewer only if the stream ends. -/
def readFully (n : Nat) : Act IoError Reader Bytes := readFullyFrom [] n

/-- Reads exactly `n` bytes: `none` if the stream ends before the first of them, a failure if it
ends later. -/
def readExactly? (n : Nat) : Act IoError Reader (Option Bytes) := do
  let got ← readFully n
  if got.isEmpty && n != 0 then return none
  else if got.length = n then return some got
  else Act.fail IoError.eof

/-- Reads exactly `n` bytes. -/
def readExactly (n : Nat) : Act IoError Reader Bytes := do
  match ← readExactly? n with
  | some got => return got
  | none => Act.fail IoError.eof

/-- Wraps the stream and the unread bytes in a new buffer. -/
def rewrap (r : Reader) : Reader := ofParts r.inflow r.unread

/-! ## What the operations do to the bytes ahead -/

theorem consume_ahead (n : Nat) (r : Reader) :
    (r.consume n).ahead = r.unread.drop n ++ r.inflow.rest := by
  unfold consume
  split
  · next h => simp [ahead, discard, h]
  · rfl

/-- **Filling the buffer loses nothing and reorders nothing.** -/
theorem fill_ahead {r r' : Reader} {n : Nat} (h : fill r = .ok n r') :
    r'.ahead = r.ahead ∧ r'.unread.length = r.unread.length + n ∧ r'.capacity = r.capacity := by
  unfold fill at h
  split at h
  · cases h; simp [compact, ahead]
  · split at h
    · next got inflow hread =>
      cases h
      have := (Inflow.read_rest hread).1
      simp [compact, ahead, this]
    · cases h

/-- **A fill that brings something shortens the stream.** -/
theorem inflow_size_fill {r r' : Reader} {n : Nat} (h : fill r = .ok n r') :
    n + r'.inflow.size = r.inflow.size := by
  unfold fill at h
  split at h
  · cases h; simp [compact]
  · split at h
    · next got inflow hread =>
      cases h
      simpa [compact] using Inflow.size_read hread
    · cases h

theorem takeBuffered_ahead {n : Nat} {r r' : Reader} {got : Bytes}
    (h : takeBuffered n r = .ok got r') : got ++ r'.ahead = r.ahead := by
  cases h
  rw [consume_ahead]
  simp [ahead, ← List.append_assoc, List.take_append_drop]

/-- **A read splits the bytes ahead.** -/
theorem read_ahead {n : Nat} {r r' : Reader} {got : Bytes} (h : read n r = .ok got r') :
    got ++ r'.ahead = r.ahead := by
  unfold read at h
  split at h
  · cases h; rfl
  · split at h
    · next hempty =>
      have hnil : r.unread = [] := by simpa using hempty
      split at h
      · obtain ⟨inflow, hread, rfl⟩ := Act.within_ok h
        simpa [ahead, hnil] using (Inflow.read_rest hread).1
      · split at h
        · next hfill => cases h; simpa using (fill_ahead hfill).1
        · next hfill => rw [takeBuffered_ahead h]; exact (fill_ahead hfill).1
        · cases h
    · exact takeBuffered_ahead h

/-- **A read shortens what is ahead by what it returns.** -/
theorem size_read {n : Nat} {r r' : Reader} {got : Bytes} (h : read n r = .ok got r') :
    got.length + r'.size = r.size := by
  have := congrArg List.length (read_ahead h)
  simpa [size] using this

theorem size_consume (n : Nat) (r : Reader) :
    (r.consume n).size = r.size - min n r.unread.length := by
  have := congrArg List.length (consume_ahead n r)
  simp [size, ahead] at this ⊢
  omega

theorem size_fill {r r' : Reader} {n : Nat} (h : fill r = .ok n r') : r'.size = r.size := by
  simp [size, (fill_ahead h).1]

/-- **However many reads it takes, what is ahead is shorter by what they return.** -/
theorem size_readFullyFrom {got all : Bytes} {n : Nat} {r r' : Reader}
    (h : readFullyFrom got n r = .ok all r') : all.length + r'.size = got.length + r.size := by
  fun_induction readFullyFrom got n r with
  | case1 => cases h; rfl
  | case2 got n _ r r'' hread =>
    cases h
    have hsize := size_read hread
    rw [List.length_nil, Nat.zero_add] at hsize
    rw [hsize]
  | case3 got n _ r b more r'' hread ih =>
    have hlater := ih h
    have hsize := size_read hread
    rw [List.length_append] at hlater
    omega
  | case4 => cases h

/-- A reader that ends before the first byte takes none. -/
theorem size_readExactly? {n : Nat} {r r' : Reader} {o : Option Bytes}
    (h : readExactly? n r = .ok o r') : (o.getD []).length + r'.size = r.size := by
  obtain ⟨got, r'', hgot, h⟩ := Act.bind_eq_ok.1 h
  have hsize := size_readFullyFrom hgot
  rw [List.length_nil, Nat.zero_add] at hsize
  split at h
  · next hnone =>
    obtain rfl : got = [] := List.isEmpty_iff.1 (Bool.and_eq_true_iff.1 hnone).1
    cases h
    exact hsize
  · split at h
    · cases h
      exact hsize
    · cases h

theorem shrinks_readFully (n : Nat) : Act.Shrinks size (readFully n) := by
  intro r got r' h
  have hsize := size_readFullyFrom h
  rw [List.length_nil] at hsize
  omega

theorem shrinks_readExactly? (n : Nat) : Act.Shrinks size (readExactly? n) := by
  intro r o r' h
  have hsize := size_readExactly? h
  omega

theorem shrinks_readExactly (n : Nat) : Act.Shrinks size (readExactly n) := by
  refine (shrinks_readExactly? n).bind fun o => ?_
  cases o with
  | none => exact .fail _
  | some got => exact .pure _

end Reader

end UrlTransfer
