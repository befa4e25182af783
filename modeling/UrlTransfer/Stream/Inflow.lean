/-
# Bytes that arrive

An `Inflow` is everything that a peer will ever send: pieces in the order of their arrival, and
what stands behind the last one.  A read returns at most the rest of one piece.

What arrives in all is `Inflow.rest`.  Reading splits it: what a read returns, followed by what
is left, is what was there (`read_rest`), so how a stream is cut into pieces decides how much a
read returns and nothing else.
-/
import UrlTransfer.Act
import UrlTransfer.Bytes
import UrlTransfer.Stream.Fault

namespace UrlTransfer

/-- What stands behind the last piece of a stream. -/
inductive Ending where
  /-- The stream ends; every further read returns nothing. -/
  | eof
  /-- Nothing ever comes, and no end either. -/
  | hang
  /-- Every further read fails. -/
  | fault (error : IoError)
deriving Repr, DecidableEq

/-- The bytes that a peer sends, cut as they arrive. -/
structure Inflow where
  pieces : List Bytes
  ending : Ending
deriving Repr, DecidableEq

namespace Inflow

/-- A stream that ends at once. -/
def empty : Inflow := ⟨[], .eof⟩

/-- All bytes that are still to come. -/
def rest (s : Inflow) : Bytes := s.pieces.flatten

/-- How many bytes are still to come. -/
def size (s : Inflow) : Nat := s.rest.length

/-- What a read behind the last piece meets. -/
def atEnd (ending : Ending) : Act IoError Inflow Bytes :=
  match ending with
  | .eof => pure []
  | .hang => Act.stall
  | .fault error => Act.fail error

/-- A read into room for `n + 1` bytes. -/
def readSome (ending : Ending) (n : Nat) : List Bytes → EStateM.Result (Halt IoError) Inflow Bytes
  | [] => atEnd ending ⟨[], ending⟩
  | [] :: pieces => readSome ending n pieces
  | (b :: bytes) :: pieces =>
    match bytes.drop n with
    | [] => .ok (b :: bytes) ⟨pieces, ending⟩
    | left => .ok (b :: bytes.take n) ⟨left :: pieces, ending⟩

/-- Reads at most `room` bytes.  **It returns none only at the end of the stream, or where there
is no room**; a piece that has not been read to its end is what the next read returns from. -/
def read (room : Nat) : Act IoError Inflow Bytes := fun s =>
  match room with
  | 0 => .ok [] s
  | n + 1 => readSome s.ending n s.pieces

/-- Reads everything up to the end of the stream. -/
def drain : Act IoError Inflow Bytes := fun s =>
  match s.ending with
  | .eof => .ok s.rest ⟨[], .eof⟩
  | .hang => .error .stalled ⟨[], .hang⟩
  | .fault error => .error (.failed error) ⟨[], .fault error⟩

/-! ## What a read does to the bytes still to come -/

theorem readSome_rest {ending : Ending} {n : Nat} {pieces : List Bytes} {got : Bytes} {s : Inflow}
    (h : readSome ending n pieces = .ok got s) :
    got ++ s.rest = pieces.flatten ∧ s.ending = ending ∧ got.length ≤ n + 1 := by
  induction pieces with
  | nil =>
    cases ending <;> simp [readSome, atEnd, Act.stall, Act.fail] at h
    obtain ⟨rfl, rfl⟩ := h
    simp [rest]
  | cons piece pieces ih =>
    cases piece with
    | nil => simpa using ih (by simpa [readSome] using h)
    | cons b bytes =>
      simp only [readSome] at h
      split at h
      · next hd =>
        cases h
        simp only [rest, List.flatten_cons, List.length_cons, true_and]
        have := List.drop_eq_nil_iff.1 hd
        omega
      · next hd =>
        cases h
        exact ⟨by simp [rest, ← List.append_assoc, List.take_append_drop], rfl,
          Nat.succ_le_succ (List.length_take_le _ _)⟩

/-- **A read splits what is to come**, and leaves what stands behind it. -/
theorem read_rest {room : Nat} {s s' : Inflow} {got : Bytes} (h : read room s = .ok got s') :
    got ++ s'.rest = s.rest ∧ s'.ending = s.ending ∧ got.length ≤ room := by
  cases room with
  | zero => cases h; simp
  | succ n => exact readSome_rest h

theorem size_read {room : Nat} {s s' : Inflow} {got : Bytes} (h : read room s = .ok got s') :
    got.length + s'.size = s.size := by
  have := congrArg List.length (read_rest h).1
  simpa [size] using this

end Inflow

end UrlTransfer
