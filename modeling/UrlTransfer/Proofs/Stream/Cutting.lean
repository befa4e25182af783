/-
# How a stream is cut does not show

Two readers are `Abreast` if they stand in front of the same bytes, with the same behind them, and
have buffers of one size.  They may have come there by different ways: one has the bytes in its
buffer which the other has yet to read.  A protocol on a buffered stream cannot tell them apart, and
this file has the reasons, each for one way of reading:

* a loop that fills the buffer until what it shows decides (`Looks`) ends as the bytes ahead decide,
  or, where they do not, as the end of the stream does (`Looks.ends`);
* reading a number of bytes returns them, or ends as the stream does (`ends_readFully`).

Streams may end in any of the three ways (`Ending`); `Ending.result` is what reading on at the end
comes to.  A single read is not among these: how much it returns is the one thing that the cutting
decides.
-/
import UrlTransfer.Error
import UrlTransfer.Proofs.Agreement
import UrlTransfer.Proofs.Stream.Reading

namespace UrlTransfer

/-! ## 1. The end of a stream -/

namespace Ending

/-- Reading on behind the last byte: the value at the end of the stream, or what stands there in its
place. -/
def result {σ α : Type} (ending : Ending) (a : α) (s : σ) : EStateM.Result (Halt IoError) σ α :=
  match ending with
  | .eof => .ok a s
  | .hang => .error .stalled s
  | .fault error => .error (.failed error) s

/-- How a protocol halts behind the last byte, where the end of the stream is `early`. -/
def halt (early : Error) : Ending → Halt Error
  | .eof => .failed early
  | .hang => .stalled
  | .fault error => .failed (.io error)

end Ending

namespace Inflow

/-- The same bytes in one piece. -/
def joined (s : Inflow) : Inflow := ⟨[s.rest], s.ending⟩

theorem joined_eq_iff {s s' : Inflow} :
    s.joined = s'.joined ↔ s.rest = s'.rest ∧ s.ending = s'.ending := by
  simp [joined]

theorem atEnd_eq (ending : Ending) (s : Inflow) : atEnd ending s = ending.result [] s := by
  cases ending <;> rfl

theorem read_end {room : Nat} {s : Inflow} (hroom : 0 < room) (h : s.rest = []) :
    ∃ s', read room s = s.ending.result [] s' ∧ s'.rest = [] ∧ s'.ending = s.ending := by
  obtain ⟨n, rfl⟩ : ∃ n, room = n + 1 := ⟨room - 1, by omega⟩
  refine ⟨⟨[], s.ending⟩, ?_, rfl, rfl⟩
  show readSome s.ending n s.pieces = _
  rw [readSome_none s.ending n h, atEnd_eq]

end Inflow

namespace Reader

/-- Behind the last byte a buffer with room meets the end of the stream. -/
theorem fill_end {r : Reader} (hspace : r.unread.length < r.capacity) (h : r.inflow.rest = []) :
    ∃ r', fill r = r.inflow.ending.result 0 r' ∧ Passed 0 r r' := by
  obtain ⟨s, hread, hrest, hending⟩ :=
    Inflow.read_end (show 0 < r.capacity - r.unread.length by omega) h
  refine ⟨{ r.compact with inflow := s }, ?_, ?_, hending, rfl, id⟩
  · unfold fill
    rw [if_neg (Nat.ne_of_lt hspace), hread]
    cases r.inflow.ending with
    | eof =>
      show EStateM.Result.ok 0 { r.compact with unread := r.unread ++ [], inflow := s } = _
      rw [List.append_nil]
      rfl
    | hang => rfl
    | fault error => rfl
  · simp [ahead, compact, h, hrest]

/-- Behind the last byte a read meets the end of the stream. -/
theorem read_end {n : Nat} {r : Reader} (hn : 0 < n) (h : r.ahead = []) :
    ∃ r', read n r = r.inflow.ending.result [] r' ∧ Passed 0 r r' := by
  obtain ⟨hunread, hrest⟩ : r.unread = [] ∧ r.inflow.rest = [] := by simpa [ahead] using h
  unfold read
  rw [if_neg (Nat.ne_of_gt hn), if_pos (by rw [hunread]; rfl)]
  split
  · obtain ⟨s, hread, hs, hending⟩ := Inflow.read_end hn hrest
    refine ⟨{ r with inflow := s }, ?_, ?_, hending, rfl, id⟩
    · show Act.within _ _ _ r = _
      unfold Act.within
      rw [hread]
      cases r.inflow.ending <;> rfl
    · simp [ahead, hs, hrest]
  · next hsmall =>
    obtain ⟨r', hfill, hpassed⟩ := fill_end (by rw [hunread, List.length_nil]; omega) hrest
    refine ⟨r', ?_, hpassed⟩
    rw [hfill]
    cases r.inflow.ending <;> rfl

/-- Reading more bytes than there are meets the end of the stream behind all of them. -/
theorem readFullyFrom_end (got : Bytes) {n : Nat} {r : Reader} (h : r.ahead.length < n) :
    ∃ r', readFullyFrom got n r = r.inflow.ending.result (got ++ r.ahead) r' ∧ Passed n r r' := by
  induction n using Nat.strongRecOn generalizing got r with
  | ind n ih =>
    rw [readFullyFrom, dif_neg (by omega)]
    by_cases hahead : r.ahead = []
    · obtain ⟨r', hread, hpassed⟩ := read_end (n := n) (by omega) hahead
      refine ⟨r', ?_, ?_, hpassed.ending, hpassed.capacity, hpassed.fits⟩
      · rw [hread, hahead, List.append_nil]
        cases r.inflow.ending <;> rfl
      · simp [hpassed.ahead, hahead]
    · obtain ⟨more, r', hread, hmore, hle, hpassed⟩ := read_some (n := n) (by omega) hahead
      obtain ⟨b, bytes, rfl⟩ := List.exists_cons_of_ne_nil hmore
      have hsplit : (b :: bytes) ++ r'.ahead = r.ahead := read_ahead hread
      have hlength : r.ahead.length = bytes.length + 1 + r'.ahead.length := by
        rw [← hsplit, List.length_append, List.length_cons]
      rw [List.length_cons] at hle hpassed
      obtain ⟨r'', hrest, hpassed'⟩ := ih (n - (bytes.length + 1)) (by omega) (got ++ b :: bytes)
        (r := r') (by omega)
      refine ⟨r'', ?_, ?_⟩
      · rw [hread]
        show readFullyFrom (got ++ b :: bytes) (n - (bytes.length + 1)) r' = _
        rw [hrest, hpassed.ending, List.append_assoc, hsplit]
      · have hall := hpassed.trans hpassed'
        rwa [show bytes.length + 1 + (n - (bytes.length + 1)) = n by omega] at hall

/-! ## 2. Readers abreast -/

/-- Two readers stand in front of the same bytes, with buffers of the same capacity. -/
structure Abreast (capacity : Nat) (r r' : Reader) : Prop where
  ahead : r.ahead = r'.ahead
  ending : r.inflow.ending = r'.inflow.ending
  left : r.capacity = capacity ∧ r.Fits
  right : r'.capacity = capacity ∧ r'.Fits

variable {capacity n : Nat} {r r' q q' : Reader}

/-- **Readers abreast that pass equally many bytes are abreast again.** -/
theorem Abreast.passed (h : Abreast capacity r r') (hq : Passed n r q) (hq' : Passed n r' q') :
    Abreast capacity q q' where
  ahead := by rw [hq.ahead, hq'.ahead, h.ahead]
  ending := by rw [hq.ending, hq'.ending, h.ending]
  left := ⟨hq.capacity.trans h.left.1, hq.fits h.left.2⟩
  right := ⟨hq'.capacity.trans h.right.1, hq'.fits h.right.2⟩

/-- New buffers in front of streams that differ only in how they are cut. -/
theorem abreast_ofInflow {inflow inflow' : Inflow} (h : inflow.joined = inflow'.joined) :
    Abreast defaultCapacity (ofInflow inflow) (ofInflow inflow') := by
  obtain ⟨hrest, hending⟩ := Inflow.joined_eq_iff.1 h
  exact ⟨hrest, hending, ⟨rfl, fits_ofInflow inflow⟩, ⟨rfl, fits_ofInflow inflow'⟩⟩

/-- What `k` bytes in front of two readers abreast are, if both buffers hold them. -/
theorem Abreast.take_unread (h : Abreast capacity r r') {k : Nat} (hk : k ≤ r.unread.length)
    (hk' : k ≤ r'.unread.length) : r.unread.take k = r'.unread.take k := by
  have hahead := congrArg (List.take k) h.ahead
  rwa [Reader.ahead, Reader.ahead, List.take_append_of_le_length hk,
    List.take_append_of_le_length hk'] at hahead

/-- Consuming as many bytes from two buffers. -/
theorem Abreast.consume (h : Abreast capacity r r') (hn : n ≤ r.unread.length)
    (hn' : n ≤ r'.unread.length) : Abreast capacity (r.consume n) (r'.consume n) :=
  h.passed (consume_passed hn) (consume_passed hn')

/-! ## 3. Actions that end as the bytes ahead decide -/

/-- The action ends like this, and passes `n` bytes. -/
def Ends {ε α : Type} (x : Act ε Reader α) (r : Reader) (n : Nat) :
    Except (Halt ε) α → Prop
  | .ok a => ∃ r', x r = .ok a r' ∧ Passed n r r'
  | .error halt => ∃ r', x r = .error halt r' ∧ Passed n r r'

theorem Ends.of_ok {ε α : Type} {x : Act ε Reader α} {outcome : Except (Halt ε) α} {a : α}
    (h : Ends x r n outcome) (hx : x r = .ok a q) : outcome = .ok a ∧ Passed n r q := by
  cases outcome with
  | ok a' =>
    obtain ⟨q', hq, hpassed⟩ := h
    cases hx.symm.trans hq
    exact ⟨rfl, hpassed⟩
  | error halt =>
    obtain ⟨q', hq, -⟩ := h
    cases hx.symm.trans hq

theorem Ends.of_error {ε α : Type} {x : Act ε Reader α} {outcome : Except (Halt ε) α}
    {halt : Halt ε} (h : Ends x r n outcome) (hx : x r = .error halt q) :
    outcome = .error halt ∧ Passed n r q := by
  cases outcome with
  | ok a =>
    obtain ⟨q', hq, -⟩ := h
    cases hx.symm.trans hq
  | error halt' =>
    obtain ⟨q', hq, hpassed⟩ := h
    cases hx.symm.trans hq
    exact ⟨rfl, hpassed⟩

/-- How the action ends, and where it leaves the reader. -/
theorem Ends.outcome {ε α : Type} {x : Act ε Reader α} {outcome : Except (Halt ε) α}
    (h : Ends x r n outcome) : Act.outcome x r = outcome ∧ Passed n r (Act.after x r) := by
  cases outcome with
  | ok a =>
    obtain ⟨q, hq, hpassed⟩ := h
    rw [Act.outcome_ok hq, Act.after_ok hq]
    exact ⟨rfl, hpassed⟩
  | error halt =>
    obtain ⟨q, hq, hpassed⟩ := h
    rw [Act.outcome_error hq, Act.after_error hq]
    exact ⟨rfl, hpassed⟩

/-- **Readers abreast at which an action ends in the same way stay abreast.** -/
theorem Abreast.agree {ε α : Type} {x : Act ε Reader α} {outcome : Except (Halt ε) α}
    (h : Abreast capacity r r') (hx : Ends x r n outcome) (hx' : Ends x r' n outcome) :
    Act.Agree (Abreast capacity) Eq (x r) (x r') := by
  cases outcome with
  | ok a =>
    obtain ⟨q, hq, hpassed⟩ := hx
    obtain ⟨q', hq', hpassed'⟩ := hx'
    rw [hq, hq']
    exact .ok rfl (h.passed hpassed hpassed')
  | error halt =>
    obtain ⟨q, hq, hpassed⟩ := hx
    obtain ⟨q', hq', hpassed'⟩ := hx'
    rw [hq, hq']
    exact .error (h.passed hpassed hpassed')

/-- An action that fills the buffer until `look`, applied to what the buffer shows, decides; the end
of the stream before that is `early`. -/
structure Looks {α : Type} (capacity : Nat) (x : Act Error Reader α)
    (look : Bytes → Option (Except Error α)) (early : Error) : Prop where
  /-- What is decided is done, and nothing is passed. -/
  decided : ∀ {r d}, r.capacity = capacity → r.Fits → look r.unread = some d →
    Ends x r 0 (d.mapError .failed)
  /-- What is not decided fills the buffer. -/
  undecided : ∀ {r}, r.capacity = capacity → look r.unread = none →
    x r = match r.fill with
      | .error halt r' => .error (halt.map .io) r'
      | .ok 0 r' => .error (.failed early) r'
      | .ok (_ + 1) r' => x r'
  /-- What is decided stays decided. -/
  append : ∀ {bytes d} (more : Bytes), look bytes = some d → look (bytes ++ more) = some d
  /-- A full buffer decides. -/
  room : ∀ {bytes}, look bytes = none → bytes.length < capacity

/-- How such an action ends in front of these bytes. -/
def lookAhead {α : Type} (look : Bytes → Option (Except Error α)) (early : Error) (bytes : Bytes)
    (ending : Ending) : Except (Halt Error) α :=
  match look bytes with
  | some d => d.mapError .failed
  | none => .error (ending.halt early)

/-- An action that goes on further ahead ends like one that starts there. -/
theorem Ends.of_passed {ε α : Type} {x : Act ε Reader α} {outcome : Except (Halt ε) α} {m : Nat}
    (h : Ends x q n outcome) (hpassed : Passed m r q) (heq : x r = x q) :
    Ends x r (m + n) outcome := by
  cases outcome with
  | ok a =>
    obtain ⟨q', hq', hpassed'⟩ := h
    exact ⟨q', heq.trans hq', hpassed.trans hpassed'⟩
  | error halt =>
    obtain ⟨q', hq', hpassed'⟩ := h
    exact ⟨q', heq.trans hq', hpassed.trans hpassed'⟩

/-- **Looking into the buffer, however often it is filled, is looking at the bytes ahead.** -/
theorem Looks.ends {α : Type} {x : Act Error Reader α} {look : Bytes → Option (Except Error α)}
    {early : Error} (hx : Looks capacity x look early) (hcap : r.capacity = capacity)
    (hfits : r.Fits) : Ends x r 0 (lookAhead look early r.ahead r.inflow.ending) := by
  -- On what has not arrived yet: each filling that decides nothing shortens it.
  induction hsize : r.inflow.size using Nat.strongRecOn generalizing r with
  | ind size ih =>
    cases hlook : look r.unread with
    | some d =>
      unfold lookAhead
      rw [Reader.ahead, hx.append r.inflow.rest hlook]
      exact hx.decided hcap hfits hlook
    | none =>
      have hspace : r.unread.length < r.capacity := by
        rw [hcap]
        exact hx.room hlook
      by_cases hrest : r.inflow.rest = []
      · obtain ⟨r', hfill, hpassed⟩ := fill_end hspace hrest
        unfold lookAhead
        rw [Reader.ahead, hrest, List.append_nil, hlook]
        refine ⟨r', ?_, hpassed⟩
        rw [hx.undecided hcap hlook, hfill]
        cases r.inflow.ending <;> rfl
      · obtain ⟨k, q, hfill⟩ := fill_some hspace hrest
        have hpassed := fill_passed hfill
        have hless := inflow_size_fill hfill
        have hgoesOn : x r = x q := by rw [hx.undecided hcap hlook, hfill]
        have hends := ih q.inflow.size (by omega) (hpassed.capacity.trans hcap)
          (hpassed.fits hfits) rfl
        rw [show q.ahead = r.ahead from hpassed.ahead, hpassed.ending] at hends
        exact hends.of_passed hpassed hgoesOn

theorem Looks.alike {α : Type} {x : Act Error Reader α} {look : Bytes → Option (Except Error α)}
    {early : Error} (hx : Looks capacity x look early) :
    Act.Alike (Abreast capacity) Eq x x := by
  intro r r' h
  have hends := hx.ends h.left.1 h.left.2
  have hends' := hx.ends h.right.1 h.right.2
  rw [← h.ahead, ← h.ending] at hends'
  exact h.agree hends hends'

/-! ## 4. Reading a number of bytes -/

theorem ends_readFully (r : Reader) (n : Nat) :
    Ends (readFully n) r n
      (if n ≤ r.ahead.length then .ok (r.ahead.take n)
        else match r.inflow.ending with
          | .eof => .ok r.ahead
          | .hang => .error .stalled
          | .fault error => .error (.failed error)) := by
  by_cases hn : n ≤ r.ahead.length
  · rw [if_pos hn]
    exact readFully_take (.inl hn)
  · rw [if_neg hn]
    obtain ⟨r', hread, hpassed⟩ := readFullyFrom_end [] (Nat.lt_of_not_le hn)
    rw [List.nil_append] at hread
    revert hread
    cases r.inflow.ending <;> exact fun hread => ⟨r', hread, hpassed⟩

/-- An exact number of bytes is there, or none of them at the end of the stream, or that is an
error. -/
theorem ends_readExactly? {n : Nat} (hn : 0 < n) (r : Reader) :
    Ends (readExactly? n) r n
      (if n ≤ r.ahead.length then .ok (some (r.ahead.take n))
        else match r.inflow.ending with
          | .eof => if r.ahead = [] then .ok none else .error (.failed .eof)
          | .hang => .error .stalled
          | .fault error => .error (.failed error)) := by
  by_cases hthere : n ≤ r.ahead.length
  · rw [if_pos hthere]
    exact readExactly?_some hn hthere
  · have hends := ends_readFully r n
    rw [if_neg hthere] at hends ⊢
    cases hending : r.inflow.ending with
    | eof =>
      dsimp only
      by_cases hnone : r.ahead = []
      · rw [if_pos hnone]
        obtain ⟨q, hread, hpassed⟩ := readExactly?_none hn hnone hending
        refine ⟨q, hread, ?_, hpassed.ending, hpassed.capacity, hpassed.fits⟩
        rw [hpassed.ahead, hnone, List.drop_nil, List.drop_nil]
      · rw [if_neg hnone]
        exact readExactly?_short hnone (Nat.lt_of_not_le hthere) hending
    | hang =>
      rw [hending] at hends
      obtain ⟨q, hread, hpassed⟩ := hends
      exact ⟨q, Act.bind_error hread, hpassed⟩
    | fault error =>
      rw [hending] at hends
      obtain ⟨q, hread, hpassed⟩ := hends
      exact ⟨q, Act.bind_error hread, hpassed⟩

/-- **An exact number of bytes is missing as a whole only at the end of the stream.** -/
theorem readExactly?_eq_none {n : Nat} {r r' : Reader} (hn : n ≠ 0)
    (h : readExactly? n r = .ok none r') : r.ahead = [] ∧ r.inflow.ending = .eof := by
  obtain ⟨houtcome, -⟩ := (ends_readExactly? (Nat.pos_of_ne_zero hn) r).of_ok h
  split at houtcome
  · cases houtcome
  · split at houtcome
    · next hending =>
      split at houtcome
      · next hnone => exact ⟨hnone, hending⟩
      · cases houtcome
    · cases houtcome
    · cases houtcome

theorem length_of_readExactly? {n : Nat} {r r' : Reader} {got : Bytes}
    (h : readExactly? n r = .ok (some got) r') : got.length = n := by
  unfold readExactly? at h
  obtain ⟨all, q, -, h⟩ := Act.bind_eq_ok.1 h
  split at h
  · cases h
  · split at h
    · next hlength => cases h; exact hlength
    · cases h

/-- **A number of bytes is read alike.** -/
theorem alike_readFully (n : Nat) :
    Act.Alike (Abreast capacity) Eq (readFully n) (readFully n) := by
  intro r r' h
  have hends := ends_readFully r n
  have hends' := ends_readFully r' n
  rw [← h.ahead, ← h.ending] at hends'
  exact h.agree hends hends'

theorem alike_readExactly? (n : Nat) :
    Act.Alike (Abreast capacity) Eq (readExactly? n) (readExactly? n) := by
  unfold readExactly?
  refine (alike_readFully n).bind_eq fun got => ?_
  split
  · exact .pure rfl
  · split
    · exact .pure rfl
    · exact .fail _

end Reader

end UrlTransfer
