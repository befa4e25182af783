/-
# A range of a file is a cursor

A `FileRange` counts from the start of the file, keeps the end of the range there, and reads through
a file that has a place of its own.  From outside it is a position in some bytes: those of the file
from the start of the range to its end (`Cursor`).

The two are tied by one relation (`Shows`), which says in particular that the file stands where the
range says it does.  Each call keeps it and gives the answer of the cursor: a read because taking
from the range is taking from the file as far as the range goes (`Shows.read`), reading to the end
because each piece is a read and what is left gets shorter (`Shows.readPieces`), a seek because what
the system refuses leaves both places alone (`Shows.seek`).  What a caller sees along any calls
follows by induction over them (`Shows.sights`).
-/
import UrlTransfer.File.Range
import UrlTransfer.Proofs.Keeping

namespace UrlTransfer

namespace FileRange

/-! ## 1. Calls and what is seen of them -/

/-- What can be done with a range. -/
inductive Call where
  | read (room : Nat)
  | bytes
  | seek (aim : SeekFrom)

/-- What a call is answered with. -/
inductive Answer where
  | content (outcome : Except (Halt IoError) Bytes)
  | moved (outcome : Except (Halt IoError) Nat)

/-- The answer of a call, and the position and the length behind it. -/
structure Sight where
  answer : Answer
  position : Nat
  length : Nat

/-- The answer of a call. -/
def Call.answer (r : FileRange) : Call → Answer
  | read room => .content (Act.outcome (FileRange.read room) r)
  | bytes => .content (Act.outcome FileRange.bytes r)
  | seek aim => .moved (Act.outcome (FileRange.seek aim) r)

/-- The range behind a call. -/
def Call.next (r : FileRange) : Call → FileRange
  | read room => Act.after (FileRange.read room) r
  | bytes => Act.after FileRange.bytes r
  | seek aim => Act.after (FileRange.seek aim) r

/-- The range behind some calls. -/
def behind (r : FileRange) (calls : List Call) : FileRange := calls.foldl Call.next r

/-- What is seen along some calls. -/
def sights (r : FileRange) : List Call → List Sight
  | [] => []
  | call :: calls =>
    let r' := call.next r
    ⟨call.answer r, r'.position, r'.length⟩ :: sights r' calls

/-! ## 2. Cursors -/

/-- A position in some bytes, perhaps behind their end; the bytes start at a place in a file. -/
structure Cursor where
  base : Nat
  content : Bytes
  position : Nat

namespace Cursor

/-- What is to be read. -/
def rest (c : Cursor) : Bytes := c.content.drop c.position

/-- The cursor at another position. -/
def moveTo (position : Nat) (c : Cursor) : Cursor := { c with position }

/-- What is read with some room. -/
def taken (room : Nat) (c : Cursor) : Bytes := c.rest.take room

/-- The position that a seek is for. -/
def target (c : Cursor) : SeekFrom → Int
  | .start offset => offset
  | .current offset => c.position + offset
  | .stop offset => c.content.length + offset

/-- Can the position be reached?  It is not before the bytes and not out of the system's reach. -/
def Reaches (c : Cursor) (position : Int) : Prop :=
  0 ≤ position ∧ c.base + position < OpenFile.seekBound

instance (c : Cursor) (position : Int) : Decidable (c.Reaches position) :=
  inferInstanceAs (Decidable (_ ∧ _))

/-- Why a position cannot be reached: there is no such place, or the system does not know it. -/
def refusal (c : Cursor) (position : Int) : IoError :=
  if 0 ≤ position ∧ c.base + position < placeBound then .ofSystem .invalidInput
  else { kind := .invalidInput, detail := some "seek before start of range" }

theorem kind_refusal (c : Cursor) (position : Int) :
    (c.refusal position).kind = .invalidInput := by
  unfold refusal
  split <;> rfl

/-- The answer of a call. -/
def answer (c : Cursor) : Call → Answer
  | .read room => .content (.ok (c.taken room))
  | .bytes => .content (.ok c.rest)
  | .seek aim =>
    .moved (if c.Reaches (c.target aim) then .ok (c.target aim).toNat
      else .error (.failed (c.refusal (c.target aim))))

/-- The cursor behind a call. -/
def next (c : Cursor) : Call → Cursor
  | .read room => c.moveTo (c.position + (c.taken room).length)
  | .bytes => c.moveTo (c.position + c.rest.length)
  | .seek aim => if c.Reaches (c.target aim) then c.moveTo (c.target aim).toNat else c

/-- What is seen along some calls. -/
def sights (c : Cursor) : List Call → List Sight
  | [] => []
  | call :: calls =>
    let c' := c.next call
    ⟨c.answer call, c'.position, c'.content.length⟩ :: sights c' calls

/-! ### Reading piece by piece -/

variable {c : Cursor} {room : Nat}

theorem taken_eq_nil_iff : c.taken room = [] ↔ room = 0 ∨ c.content.length ≤ c.position := by
  unfold taken rest
  rw [List.take_eq_nil_iff, List.drop_eq_nil_iff]

/-- What is left behind a read. -/
theorem rest_moveTo_taken :
    (c.moveTo (c.position + (c.taken room).length)).rest = c.rest.drop room := by
  show c.content.drop (c.position + (c.taken room).length) = c.rest.drop room
  rw [← List.drop_drop]
  show c.rest.drop (c.rest.take room).length = c.rest.drop room
  rw [List.length_take]
  rcases Nat.le_total room c.rest.length with hroom | hroom
  · rw [Nat.min_eq_left hroom]
  · rw [Nat.min_eq_right hroom, List.drop_length, List.drop_eq_nil_of_le hroom]

/-- A piece and what is left behind it are what was left before. -/
theorem taken_append_rest (c : Cursor) (room : Nat) :
    c.taken room ++ (c.moveTo (c.position + (c.taken room).length)).rest = c.rest := by
  rw [rest_moveTo_taken]
  exact List.take_append_drop room c.rest

end Cursor

/-! ## 3. The range shows the cursor -/

/-- The range shows what the cursor does, and **its file stands where the range does**. -/
structure Shows (r : FileRange) (c : Cursor) : Prop where
  base : c.base = r.start
  content : ∃ whole, r.file.node = .file whole ∧ c.content = (whole.drop r.start).take r.length
  length : c.content.length = r.length
  place : r.place = r.start + c.position
  offset : r.file.offset = r.place

namespace Shows

variable {r : FileRange} {c : Cursor}

theorem position (h : r.Shows c) : r.position = c.position := by
  rw [FileRange.position, h.place, Nat.add_sub_cancel_left]

theorem remaining (h : r.Shows c) : r.remaining = c.rest.length := by
  unfold FileRange.remaining Cursor.rest
  rw [List.length_drop, h.length, FileRange.length, h.place, Nat.sub_add_eq]

/-- What a cursor takes is what the file has there, as far as the range goes. -/
theorem taken_eq (h : r.Shows c) {whole : Bytes} (hnode : r.file.node = .file whole)
    (room : Nat) : c.taken room = (whole.drop r.file.offset).take (min r.remaining room) := by
  obtain ⟨whole', hnode', hcontent⟩ := h.content
  cases hnode.symm.trans hnode'
  unfold Cursor.taken Cursor.rest
  rw [hcontent, List.drop_take, List.drop_drop, List.take_take, h.offset, h.place, Nat.min_comm]
  congr 2
  rw [FileRange.remaining, FileRange.length, h.place, Nat.sub_add_eq]

/-- **A read gives what the cursor does.** -/
theorem read (h : r.Shows c) (room : Nat) :
    ∃ r', FileRange.read room r = .ok (c.taken room) r' ∧
      r'.Shows (c.moveTo (c.position + (c.taken room).length)) := by
  obtain ⟨whole, hnode, hcontent⟩ := h.content
  have htaken := h.taken_eq hnode room
  unfold FileRange.read
  cases hmin : min r.remaining room with
  | zero =>
    rw [hmin, List.take_zero] at htaken
    rw [htaken]
    exact ⟨r, rfl, h⟩
  | succ n =>
    rw [hmin] at htaken
    have hread : OpenFile.read (n + 1) r.file =
        .ok (c.taken room) { r.file with offset := r.file.offset + (c.taken room).length } := by
      unfold OpenFile.read
      rw [htaken]
      split
      · next hdirectory => cases hnode.symm.trans hdirectory
      · next whole' hnode' =>
        cases hnode.symm.trans hnode'
        rfl
    dsimp only
    rw [hread]
    refine ⟨_, rfl, h.base, ⟨whole, hnode, hcontent⟩, h.length, ?_, ?_⟩
    · show r.place + _ = r.start + (c.position + _)
      rw [h.place, Nat.add_assoc]
    · exact congrArg (· + _) h.offset

/-- **Reading to the end in pieces gives all that is left**, however large the pieces are. -/
theorem readPieces (h : r.Shows c) {room fuel : Nat} (hroom : room ≠ 0)
    (hfuel : c.rest.length < fuel) :
    ∃ r', FileRange.readPieces room fuel r = .ok c.rest r' ∧
      r'.Shows (c.moveTo (c.position + c.rest.length)) := by
  induction fuel generalizing r c with
  | zero => exact absurd hfuel (Nat.not_lt_zero _)
  | succ fuel ih =>
    obtain ⟨r', hread, hshows⟩ := h.read room
    have hsplit := Cursor.taken_append_rest c room
    rw [FileRange.readPieces, Act.bind_ok hread]
    cases hgot : c.taken room with
    | nil =>
      -- nothing came, so nothing is left
      rw [hgot] at hshows hsplit
      have hrest : c.rest = [] := by
        rcases List.take_eq_nil_iff.1 hgot with hzero | hnil
        · exact absurd hzero hroom
        · exact hnil
      rw [hrest]
      exact ⟨r', rfl, hshows⟩
    | cons b bs =>
      have hlonger : (c.moveTo (c.position + (c.taken room).length)).rest.length < fuel := by
        have hlength := congrArg List.length hsplit
        rw [List.length_append] at hlength
        have hpos : 0 < (c.taken room).length := by rw [hgot]; exact Nat.succ_pos _
        omega
      obtain ⟨r'', hmore, hshows'⟩ := ih hshows hlonger
      refine ⟨r'', ?_, ?_⟩
      · show (FileRange.readPieces room fuel >>= fun more => pure ((b :: bs) ++ more)) r' = _
        rw [Act.bind_ok hmore, ← hgot, hsplit]
        rfl
      · have hlength : c.rest.length = (c.taken room).length +
            (c.moveTo (c.position + (c.taken room).length)).rest.length := by
          rw [← List.length_append, hsplit]
        rw [hlength, ← Nat.add_assoc]
        exact hshows'

/-- **Reading the rest gives what the cursor does.** -/
theorem bytes (h : r.Shows c) :
    ∃ r', FileRange.bytes r = .ok c.rest r' ∧
      r'.Shows (c.moveTo (c.position + c.rest.length)) := by
  refine h.readPieces (Nat.ne_of_gt ?_) (by rw [h.remaining]; exact Nat.lt_succ_self _)
  exact Nat.lt_of_lt_of_le (by decide) (Nat.le_max_right _ _)

/-- A seek is for the same place in the file. -/
theorem sought (h : r.Shows c) (aim : SeekFrom) : r.sought aim = c.base + c.target aim := by
  rw [h.base]
  cases aim with
  | start offset => rfl
  | stop offset =>
    show (r.stop : Int) + offset = r.start + (c.content.length + offset)
    have hle := r.start_le_stop
    rw [h.length, FileRange.length]
    omega
  | current offset =>
    show (r.place : Int) + offset = r.start + (c.position + offset)
    rw [h.place]
    omega

/-- The place that a seek is for, counted from the start of the range. -/
theorem target? (h : r.Shows c) (aim : SeekFrom) :
    r.target? aim =
      if 0 ≤ c.target aim ∧ c.base + c.target aim < placeBound then
        some ⟨r.start + (c.target aim).toNat, Nat.le_add_right _ _⟩
      else none := by
  unfold FileRange.target?
  simp only [h.sought aim, h.base]
  by_cases hfront : 0 ≤ c.target aim
  · by_cases hbound : (r.start : Int) + c.target aim < placeBound
    · have hplace : ((r.start : Int) + c.target aim).toNat = r.start + (c.target aim).toNat := by
        omega
      rw [if_pos ⟨by omega, hbound⟩, if_pos ⟨hfront, hbound⟩, dif_pos (by omega)]
      simp only [hplace]
    · rw [if_neg fun haim => hbound haim.2, if_neg fun haim => hbound haim.2]
  · rw [if_neg fun haim : _ ∧ (r.start : Int) + c.target aim < placeBound => hfront haim.1]
    split
    · exact dif_neg (by omega)
    · rfl

/-- **A seek does what that of the cursor does**, and one that is refused does nothing. -/
theorem seek (h : r.Shows c) (aim : SeekFrom) :
    (c.Reaches (c.target aim) →
        ∃ r', FileRange.seek aim r = .ok (c.target aim).toNat r' ∧
          r'.Shows (c.moveTo (c.target aim).toNat)) ∧
      (¬ c.Reaches (c.target aim) →
        FileRange.seek aim r = .error (.failed (c.refusal (c.target aim))) r) := by
  have hbase := h.base
  have hbounds : OpenFile.seekBound < placeBound := by decide
  unfold FileRange.seek Cursor.Reaches Cursor.refusal
  rw [h.target? aim]
  by_cases hplace : 0 ≤ c.target aim ∧ c.base + c.target aim < placeBound
  · rw [if_pos hplace, if_pos hplace]
    unfold OpenFile.moveTo
    dsimp only
    constructor
    · rintro ⟨-, hreach⟩
      rw [if_pos (by omega)]
      obtain ⟨whole, hnode, hcontent⟩ := h.content
      let moved : FileRange :=
        { r with
          file := { r.file with offset := r.start + (c.target aim).toNat }
          place := r.start + (c.target aim).toNat
          start_le_place := Nat.le_add_right _ _ }
      have hposition : moved.position = (c.target aim).toNat := Nat.add_sub_cancel_left _ _
      refine ⟨moved, ?_, hbase, ⟨whole, hnode, hcontent⟩, h.length, rfl, rfl⟩
      exact congrArg (EStateM.Result.ok · moved) hposition
    · intro hreach
      rw [if_neg (by omega)]
  · rw [if_neg hplace, if_neg hplace]
    exact ⟨fun hreach => absurd ⟨hreach.1, by omega⟩ hplace, fun _ => rfl⟩

/-- **Every call is answered as the cursor does, and leaves the two together.** -/
theorem step (h : r.Shows c) (call : Call) :
    call.answer r = c.answer call ∧ (call.next r).Shows (c.next call) := by
  cases call with
  | read room =>
    obtain ⟨r', hread, hshows⟩ := h.read room
    refine ⟨congrArg Answer.content (Act.outcome_ok hread), ?_⟩
    rwa [Call.next, Act.after_ok hread]
  | bytes =>
    obtain ⟨r', hread, hshows⟩ := h.bytes
    refine ⟨congrArg Answer.content (Act.outcome_ok hread), ?_⟩
    rwa [Call.next, Act.after_ok hread]
  | seek aim =>
    obtain ⟨hreached, hrefused⟩ := h.seek aim
    show Answer.moved (Act.outcome (FileRange.seek aim) r) = .moved (ite _ _ _) ∧
      (Act.after (FileRange.seek aim) r).Shows (ite _ _ _)
    by_cases hreach : c.Reaches (c.target aim)
    · obtain ⟨r', hseek, hshows⟩ := hreached hreach
      rw [if_pos hreach, if_pos hreach, Act.outcome_ok hseek, Act.after_ok hseek]
      exact ⟨rfl, hshows⟩
    · have hseek := hrefused hreach
      rw [if_neg hreach, if_neg hreach, Act.outcome_error hseek, Act.after_error hseek]
      exact ⟨rfl, h⟩

/-- So does any number of calls. -/
theorem behind (h : r.Shows c) (calls : List Call) :
    (r.behind calls).Shows (calls.foldl Cursor.next c) := by
  induction calls generalizing r c with
  | nil => exact h
  | cons call calls ih => exact ih (h.step call).2

/-- **Along any calls the same is seen.** -/
theorem sights (h : r.Shows c) (calls : List Call) : r.sights calls = c.sights calls := by
  induction calls generalizing r c with
  | nil => rfl
  | cons call calls ih =>
    obtain ⟨hanswer, hshows⟩ := h.step call
    rw [FileRange.sights, Cursor.sights, hanswer, hshows.position, ← hshows.length, ih hshows]

end Shows

/-! ## 4. Ranges that are opened -/

/-- The bytes between two places in a file, where without them it is the whole of it. -/
def slice (whole : Bytes) (start stop : Option Nat) : Bytes :=
  (whole.drop (start.getD 0)).take
    (max (start.getD 0) (min (stop.getD whole.length) whole.length) - start.getD 0)

/-- A range that is open shows a cursor at the start of its bytes. -/
theorem shows_of_ofNode (whole : Bytes) {start : Option Nat} (stop : Option Nat)
    (h : start.getD 0 < OpenFile.seekBound) :
    ∃ r, ofNode (.file whole) start stop = .ok r ∧
      r.Shows ⟨start.getD 0, slice whole start stop, 0⟩ := by
  have hmove : OpenFile.moveTo (start.getD 0) { node := .file whole } =
      .ok { node := .file whole, offset := start.getD 0 } := if_pos h
  let opened : FileRange :=
    { file := { node := .file whole, offset := start.getD 0 }
      start := start.getD 0
      stop := max (min (stop.getD whole.length) whole.length) (start.getD 0)
      place := start.getD 0
      start_le_stop := Nat.le_max_right _ _
      start_le_place := Nat.le_refl _ }
  have hlength : opened.length =
      max (start.getD 0) (min (stop.getD whole.length) whole.length) - start.getD 0 :=
    congrArg (· - _) (Nat.max_comm _ _)
  refine ⟨opened, ?_, rfl, ⟨whole, rfl, ?_⟩, ?_, rfl, rfl⟩
  · unfold ofNode
    dsimp only
    rw [hmove]
    rfl
  · rw [hlength]
    rfl
  · show (slice whole start stop).length = _
    rw [hlength, slice, List.length_take, List.length_drop]
    omega

/-- What holds of a range of some bytes at any time. -/
structure Sound (content : Bytes) (r : FileRange) : Prop where
  start_le_place : r.start ≤ r.place
  start_le_stop : r.start ≤ r.stop
  /-- The file stands where the range does. -/
  offset : r.file.offset = r.place
  length : r.length = content.length
  /-- A read gives a front of what is left, and nothing only if there is no room or nothing left. -/
  read : ∀ room, ∃ got, Act.outcome (FileRange.read room) r = .ok got ∧
    got <+: content.drop r.position ∧ got.length ≤ room ∧
      (got = [] ↔ room = 0 ∨ r.length ≤ r.position)
  /-- A seek that is refused changes nothing. -/
  refused : ∀ aim halt, Act.outcome (FileRange.seek aim) r = .error halt →
    Act.after (FileRange.seek aim) r = r ∧
      ∃ fault, halt = .failed fault ∧ fault.kind = .invalidInput

theorem Shows.sound {r : FileRange} {c : Cursor} (h : r.Shows c) : r.Sound c.content where
  start_le_place := r.start_le_place
  start_le_stop := r.start_le_stop
  offset := h.offset
  length := h.length.symm
  read room := by
    obtain ⟨r', hread, -⟩ := h.read room
    refine ⟨_, Act.outcome_ok hread, ?_, ?_, ?_⟩
    · rw [h.position]
      exact List.take_prefix _ _
    · exact List.length_take_le _ _
    · rw [Cursor.taken_eq_nil_iff, h.length, h.position]
  refused aim halt hrefused := by
    obtain ⟨hreached, hunreached⟩ := h.seek aim
    by_cases hreach : c.Reaches (c.target aim)
    · obtain ⟨r', hseek, -⟩ := hreached hreach
      rw [Act.outcome_ok hseek] at hrefused
      cases hrefused
    · have hseek := hunreached hreach
      rw [Act.outcome_error hseek] at hrefused
      cases hrefused
      exact ⟨Act.after_error hseek, _, rfl, Cursor.kind_refusal _ _⟩

theorem Cursor.content_foldl (c : Cursor) (calls : List Call) :
    (calls.foldl Cursor.next c).content = c.content := by
  induction calls generalizing c with
  | nil => rfl
  | cons call calls ih =>
    rw [List.foldl_cons, ih]
    cases call with
    | read room => rfl
    | bytes => rfl
    | seek aim =>
      show (ite _ _ _ : Cursor).content = _
      split <;> rfl

/-- **A range of a file is a cursor over its bytes.**  Wherever the range starts and ends, if the
system can name its start, it opens at the position zero, and along any reads and seeks the answers,
the positions and the lengths are those of the cursor; and in every state on the way the file stands
where the range does, behind its start, reads are silent only where they have to be, and seeks that
are refused are as good as not made. -/
theorem opens_cursor (whole : Bytes) (start stop : Option Nat)
    (h : start.getD 0 < OpenFile.seekBound) :
    ∃ r, ofNode (.file whole) start stop = .ok r ∧ r.position = 0 ∧
      ∀ calls : List Call,
        r.sights calls = Cursor.sights ⟨start.getD 0, slice whole start stop, 0⟩ calls ∧
          (r.behind calls).Sound (slice whole start stop) := by
  obtain ⟨r, hopen, hshows⟩ := shows_of_ofNode whole stop h
  refine ⟨r, hopen, hshows.position, fun calls => ⟨hshows.sights calls, ?_⟩⟩
  have hsound := (hshows.behind calls).sound
  rwa [Cursor.content_foldl] at hsound

/-- Four bytes of eight: the last of them, nothing behind it, a seek that is refused, and all of
them behind one that goes back to the start. -/
theorem opens_cursor_eight :
    (some 2).getD 0 < OpenFile.seekBound ∧
      ∃ r, ofNode (.file [0, 1, 2, 3, 4, 5, 6, 7]) (some 2) (some 6) = .ok r ∧
        r.sights [.seek (.stop (-1)), .read 9, .read 9, .seek (.current (-5)),
            .seek (.current (-4)), .bytes] =
          [⟨.moved (.ok 3), 3, 4⟩, ⟨.content (.ok [5]), 4, 4⟩, ⟨.content (.ok []), 4, 4⟩,
            ⟨.moved (.error (.failed
              { kind := .invalidInput, detail := some "seek before start of range" })), 4, 4⟩,
            ⟨.moved (.ok 0), 0, 4⟩, ⟨.content (.ok [2, 3, 4, 5]), 4, 4⟩] := by
  obtain ⟨r, hopen, -, hcalls⟩ :=
    opens_cursor [0, 1, 2, 3, 4, 5, 6, 7] (some 2) (some 6) (by decide)
  exact ⟨by decide, r, hopen, (hcalls _).1.trans rfl⟩

end FileRange

end UrlTransfer
