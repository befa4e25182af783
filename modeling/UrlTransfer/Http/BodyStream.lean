/-
# Bodies handed on

The data of a body can be handed on as they arrive: as a stream of items, one for each read
(`BodyStream`), or as a reader of its own (`BodyReader`), which takes the items apart again and has
faults of the system only.

Both are over behind the end of the body, **and behind an error**: the body is dropped with it, and
whoever asks again is told that there are no more data.
-/
import UrlTransfer.Http.Body

namespace UrlTransfer

namespace Http

/-! ## 1. Items -/

/-- The data of a body as a stream of items; without a body it is over. -/
structure BodyStream where
  body : Option Body
deriving Repr, DecidableEq

namespace BodyStream

/-- How many bytes are ahead of the stream. -/
def ahead (s : BodyStream) : Nat := (s.body.map Body.ahead).getD 0

/-- The next item, which is what one read brings, or none behind the last. -/
def next : Act Error BodyStream (Option Bytes) := fun s =>
  match s.body with
  | none => .ok none s
  | some b =>
    match Body.read Body.portion b with
    | .ok [] _ => .ok none ⟨none⟩
    | .ok (x :: xs) b' => .ok (some (x :: xs)) ⟨some b'⟩
    | .error (.failed error) _ => .error (.failed error) ⟨none⟩
    | .error .stalled b' => .error .stalled ⟨some b'⟩

/-- **An item was ahead of the stream before.** -/
theorem size_next {s s' : BodyStream} {item : Option Bytes} (h : next s = .ok item s') :
    (item.getD []).length + s'.ahead ≤ s.ahead := by
  unfold next at h
  split at h
  · cases h; simp
  · next b hbody =>
    have hahead : s.ahead = b.ahead := by simp [ahead, hbody]
    rw [hahead]
    split at h
    · cases h; exact Nat.zero_le _
    · next hread => cases h; exact Body.size_read hread
    · cases h
    · cases h

/-- No item is empty. -/
theorem next_ne_nil {s s' : BodyStream} {item : Bytes} (h : next s = .ok (some item) s') :
    item ≠ [] := by
  unfold next at h
  split at h
  · cases h
  · split at h <;> cases h
    exact List.cons_ne_nil _ _

/-- Takes all items that are left, and tells why they end, if not with the body; `got` are those
before, the last first. -/
def itemsFrom (got : List Bytes) (s : BodyStream) : List Bytes × Option (Halt Error) :=
  match _h : next s with
  | .ok none _ => (got.reverse, none)
  | .ok (some item) s' => itemsFrom (item :: got) s'
  | .error halt _ => (got.reverse, some halt)
termination_by s.ahead
decreasing_by
  have hsize := size_next _h
  have hpos := List.length_pos_iff.2 (next_ne_nil _h)
  simp only [Option.getD_some] at hsize
  omega

/-- Takes all items that are left. -/
def items (s : BodyStream) : List Bytes × Option (Halt Error) := itemsFrom [] s

end BodyStream

/-- Hands a body on as a stream. -/
def Body.stream (b : Body) : BodyStream := ⟨some b⟩

/-! ## 2. Bytes -/

/-- The data of a body as a reader of its own. -/
structure BodyReader where
  stream : BodyStream
  /-- What has not been read of the item before. -/
  left : Bytes := []
  /-- Whether the stream was seen to end, or to fail. -/
  isOver : Bool := false
deriving Repr, DecidableEq

namespace BodyReader

/-- How many bytes are ahead of the reader. -/
def ahead (r : BodyReader) : Nat := r.left.length + r.stream.ahead

/-- Reads at most `n` bytes; an item is read to its end before the next one is asked for. -/
def read (n : Nat) : Act IoError BodyReader Bytes := fun r =>
  if r.left.isEmpty then
    if r.isOver then .ok [] r
    else
      match r.stream.next with
      | .ok none s => .ok [] ⟨s, [], true⟩
      | .ok (some item) s => .ok (item.take n) ⟨s, item.drop n, false⟩
      | .error (.failed error) s => .error (.failed error.toIo) ⟨s, [], true⟩
      | .error .stalled s => .error .stalled ⟨s, [], false⟩
  else .ok (r.left.take n) { r with left := r.left.drop n }

/-- **Every byte that is read was ahead before.** -/
theorem size_read {n : Nat} {r r' : BodyReader} {got : Bytes} (h : read n r = .ok got r') :
    got.length + r'.ahead ≤ r.ahead := by
  unfold read at h
  split at h
  · split at h
    · cases h; simp
    · split at h
      · next hnext =>
        cases h
        have := BodyStream.size_next hnext
        simp only [ahead, List.length_nil, Option.getD_none] at this ⊢
        omega
      · next hnext =>
        cases h
        have := BodyStream.size_next hnext
        simp only [ahead, List.length_take, List.length_drop, Option.getD_some] at this ⊢
        omega
      · cases h
      · cases h
  · cases h
    simp only [ahead, List.length_take, List.length_drop]
    omega

/-- Reads everything that is left, and tells why it ends, if not with the body; `got` is what came
before. -/
def contentFrom (got : Bytes) (r : BodyReader) : Bytes × Option (Halt IoError) :=
  match _h : read Body.portion r with
  | .ok [] _ => (got, none)
  | .ok (x :: xs) r' => contentFrom (got ++ x :: xs) r'
  | .error halt _ => (got, some halt)
termination_by r.ahead
decreasing_by
  have := size_read _h
  simp only [List.length_cons] at this
  omega

/-- Reads everything that is left. -/
def content (r : BodyReader) : Bytes × Option (Halt IoError) := contentFrom [] r

end BodyReader

/-- Hands a body on as a reader. -/
def Body.asReader (b : Body) : BodyReader := { stream := b.stream }

end Http

end UrlTransfer
