/-
# Payloads in portions

Whoever receives frame by frame gets the header, and then takes the payload in portions of any size
and skips what he does not want.  The two go different ways: a portion is read through the buffer or
past it, and skipping throws the buffer away and fills it again, as often as it takes.  Both have to
keep count, or the next header is looked for in the wrong place.

`readData_run` and `skip_run` say of each way what it passes.  `Portioned` is what holds after any
number of portions; a call keeps it (`Portioned.readPortion`), and so does a run of calls
(`Portioned.readPortions`).  What each call comes to can be told beforehand, by what was asked for
in front of it (`portion`): the bytes in their turn, or the end of the stream if one of them is
missing.
-/
import Mathlib.Algebra.GroupWithZero.Nat
import UrlTransfer.Proofs.Stream.Accounting
import UrlTransfer.Proofs.WebSocket.Aligning
import UrlTransfer.Proofs.WebSocket.Spelling

namespace UrlTransfer

open Act (Keeps)

namespace WebSocket

namespace FrameHeader

/-! ## 1. The buffer behind a header -/

theorem keeps_capacity_readExactly (n : Nat) : Keeps Reader.capacity (Reader.readExactly n) := by
  intro r
  rw [Reader.after_readExactly]
  exact (Reader.ends_readFully r n).outcome.2.capacity

theorem keeps_capacity_readNumber (width : Nat) : Keeps Reader.capacity (readNumber width) :=
  ((keeps_capacity_readExactly width).mapError _).bind fun _ => .pure _

theorem keeps_capacity_readLength (second : Nat) : Keeps Reader.capacity (readLength second) := by
  unfold readLength
  dsimp only
  split
  · exact keeps_capacity_readNumber 2
  · split
    · refine (keeps_capacity_readNumber 8).bind fun length => ?_
      split
      · exact .pure _
      · exact .fail _
    · exact .pure _

theorem keeps_capacity_readKey (second : Nat) : Keeps Reader.capacity (readKey second) := by
  unfold readKey
  split
  · exact .pure _
  · exact (keeps_capacity_readNumber 4).bind fun _ => .pure _

theorem keeps_capacity_readRest (first second : Nat) :
    Keeps Reader.capacity (readRest first second) := by
  unfold readRest
  dsimp only
  split
  · exact .fail _
  · split
    · exact .fail _
    · exact (keeps_capacity_readLength second).bind fun _ =>
        (keeps_capacity_readKey second).bind fun _ => .pure _

/-- **Reading a header keeps the size of the buffer.** -/
theorem keeps_capacity_read : Keeps Reader.capacity read := by
  unfold read
  refine Keeps.bind (Keeps.mapError _ fun r => ?_) fun bytes => ?_
  · exact (Reader.ends_readExactly? (by decide) r).outcome.2.capacity
  · split
    · exact (keeps_capacity_readRest _ _).bind fun _ => .pure _
    · exact .pure _

end FrameHeader

namespace Session

/-! ## 2. One call -/

variable {left n : Nat} {h : FrameHeader} {s : Session} {r : Reader}

/-- **A portion is the next bytes of the payload**, as many as are asked for and left, or the end of
the stream if these are not all there. -/
theorem readData_run (h : FrameHeader) (n : Nat) (s : Session) :
    ∃ r, Reader.Passed (min h.length n) s.reader r ∧
      readData h n s = if min h.length n ≤ s.reader.ahead.length then
        .ok (s.reader.ahead.take (min h.length n), { h with length := h.length - min h.length n })
          { s with reader := r }
      else .error (s.reader.inflow.ending.halt (.io .eof)) { s with reader := r } := by
  have hends := ends_readExact s.reader (min h.length n)
  by_cases hthere : min h.length n ≤ s.reader.ahead.length
  · rw [if_pos hthere] at hends
    obtain ⟨r, hread, hpassed⟩ := hends
    refine ⟨r, hpassed, ?_⟩
    unfold readData
    rw [if_pos hthere, Act.bind_ok (onReader_run hread), List.length_take_of_le hthere]
    rfl
  · rw [if_neg hthere] at hends
    obtain ⟨r, hread, hpassed⟩ := hends
    refine ⟨r, hpassed, ?_⟩
    rw [if_neg hthere]
    exact Act.bind_error (onReader_fail hread)

/-- **Skipping passes what is left**, or all that there is. -/
theorem skip_run (hroom : 0 < r.capacity) (left : Nat) :
    ∃ q, Reader.Passed left r q ∧ skip (left, r) = if left ≤ r.ahead.length then .ok () (0, q)
      else .error (r.inflow.ending.halt (.io .eof)) (left - r.ahead.length, q) := by
  -- On what has not arrived yet: what the buffer holds is thrown away, and it is filled again.
  induction hsize : r.inflow.size using Nat.strongRecOn generalizing r left with
  | ind size ih =>
    have hahead : r.ahead.length = r.unread.length + r.inflow.rest.length := List.length_append
    by_cases hheld : left ≤ r.unread.length
    · refine ⟨r.consume left, Reader.consume_passed hheld, ?_⟩
      rw [skip, if_pos hheld, if_pos (by omega)]
    · have hdiscard := Reader.discard_passed r
      by_cases hrest : r.inflow.rest = []
      · obtain ⟨q, hfill, hpassed⟩ := Reader.fill_end (r := r.discard) hroom hrest
        have hall : r.ahead.length = r.unread.length := by rw [hahead, hrest]; rfl
        have hbehind : q.ahead = r.ahead.drop left := by
          rw [List.drop_eq_nil_of_le (by omega), hpassed.ahead]
          exact hrest
        refine ⟨q, ⟨hbehind, hpassed.ending, hpassed.capacity, fun _ => ?_⟩, ?_⟩
        · exact hpassed.fits (Nat.zero_le _)
        · rw [skip, if_neg hheld, if_neg (by omega), hall]
          split <;> rename_i hfill' <;> rw [hfill] at hfill' <;> revert hfill'
          all_goals
            show (r.inflow.ending.result 0 q = _ → _)
            cases r.inflow.ending <;> intro hfill' <;> cases hfill' <;> rfl
      · obtain ⟨k, q, hfill⟩ := Reader.fill_some (r := r.discard) hroom hrest
        have hpassed := Reader.fill_passed hfill
        have hless := Reader.inflow_size_fill hfill
        have hsame : r.discard.inflow.size = r.inflow.size := rfl
        have hq : q.ahead.length = r.inflow.rest.length := congrArg List.length hpassed.ahead
        have hmore : skip (left, r) = skip (left - r.unread.length, q) := by
          rw [skip, if_neg hheld]
          split <;> rename_i hfill' <;> rw [hfill] at hfill' <;> cases hfill'
          rfl
        obtain ⟨q', hpassed', hskip⟩ := ih q.inflow.size
          (by omega) (by rw [hpassed.capacity]; exact hroom) (left - r.unread.length) rfl
        have htotal := (hdiscard.trans hpassed).trans hpassed'
        rw [show r.unread.length + 0 + (left - r.unread.length) = left by omega] at htotal
        refine ⟨q', htotal, ?_⟩
        rw [hmore, hskip, hpassed.ending]
        by_cases hthere : left ≤ r.ahead.length
        · rw [if_pos hthere, if_pos (by omega)]
        · rw [if_neg hthere, if_neg (by omega), hq, hahead, Nat.sub_sub]
          rfl

/-! ## 3. Portions, one after the other -/

/-- A call for a portion of at most `n` bytes: what it comes to, the header with what is left then,
and the session.  A call that fails leaves the header as it was. -/
def readPortion (h : FrameHeader) (s : Session) (n : Nat) :
    Except (Halt Error) Bytes × FrameHeader × Session :=
  match readData h n s with
  | .ok (got, h') s' => (.ok got, h', s')
  | .error halt s' => (.error halt, h, s')

/-- Calls for portions of these sizes, whatever each of them comes to. -/
def readPortions (h : FrameHeader) (s : Session) :
    List Nat → List (Except (Halt Error) Bytes) × FrameHeader × Session
  | [] => ([], h, s)
  | n :: sizes =>
    let (outcome, h', s') := readPortion h s n
    let (outcomes, behind) := readPortions h' s' sizes
    (outcome :: outcomes, behind)

/-- The bytes that a call returned. -/
def returned : Except (Halt Error) Bytes → Bytes
  | .ok got => got
  | .error _ => []

/-- What a call for `n` bytes of a payload comes to, where `asked` bytes were asked for before it,
`bytes` are the payload and what is behind it, and then the stream ends like this. -/
def portion (length : Nat) (bytes : Bytes) (ending : Ending) (asked n : Nat) :
    Except (Halt Error) Bytes :=
  if n = 0 ∨ min length (asked + n) ≤ bytes.length then
    .ok (((bytes.take length).drop asked).take n)
  else .error (ending.halt (.io .eof))

/-- So many bytes of the payload of `h₀` have been asked for, behind the header in `s₀`, and these
have been returned. -/
structure Portioned (h₀ : FrameHeader) (s₀ : Session) (asked : Nat) (data : Bytes) (h : FrameHeader)
    (s : Session) : Prop where
  /-- The header has what is not returned yet. -/
  header : h = { h₀ with length := h₀.length - data.length }
  /-- What is returned is the front of the payload. -/
  front : data <+: s₀.reader.ahead.take h₀.length
  /-- Nothing but the reader is touched, -/
  session : s = { s₀ with reader := s.reader }
  /-- and it is still a reader of this stream, with its buffer. -/
  ending : s.reader.inflow.ending = s₀.reader.inflow.ending
  capacity : s.reader.capacity = s₀.reader.capacity
  /-- As long as there is what was asked for, that is returned, and the rest is ahead. -/
  within : min h₀.length asked ≤ s₀.reader.ahead.length →
    data.length = min h₀.length asked ∧ s.reader.ahead = s₀.reader.ahead.drop data.length
  /-- Then there is nothing any more. -/
  beyond : s₀.reader.ahead.length < min h₀.length asked → s.reader.ahead = []

namespace Portioned

variable {h₀ : FrameHeader} {s₀ : Session} {asked : Nat} {data : Bytes}

theorem start (h₀ : FrameHeader) (s₀ : Session) : Portioned h₀ s₀ 0 [] h₀ s₀ where
  header := rfl
  front := List.nil_prefix
  session := rfl
  ending := rfl
  capacity := rfl
  within := by simp
  beyond := by simp

theorem length_le (hp : Portioned h₀ s₀ asked data h s) :
    data.length ≤ h₀.length ∧ data.length ≤ s₀.reader.ahead.length := by
  have hle := hp.front.length_le
  rw [List.length_take] at hle
  omega

/-- How much is left of the payload, and how much is ahead. -/
theorem lengths (hp : Portioned h₀ s₀ asked data h s) :
    h.length = h₀.length - data.length ∧
      (min h₀.length asked ≤ s₀.reader.ahead.length ∧ data.length = min h₀.length asked ∧
          s.reader.ahead.length = s₀.reader.ahead.length - data.length ∨
        s₀.reader.ahead.length < min h₀.length asked ∧ s.reader.ahead.length = 0) := by
  refine ⟨congrArg FrameHeader.length hp.header, ?_⟩
  rcases Nat.lt_or_ge s₀.reader.ahead.length (min h₀.length asked) with hbeyond | hwithin
  · exact .inr ⟨hbeyond, by rw [hp.beyond hbeyond]; rfl⟩
  · obtain ⟨hdata, hahead⟩ := hp.within hwithin
    exact .inl ⟨hwithin, hdata, by rw [hahead, List.length_drop]⟩

/-- What is ahead of the portions that were there is behind them in the payload. -/
theorem take_ahead (hp : Portioned h₀ s₀ asked data h s)
    (hwithin : min h₀.length asked ≤ s₀.reader.ahead.length) (n : Nat) :
    s.reader.ahead.take (min h.length n) =
      ((s₀.reader.ahead.take h₀.length).drop asked).take n := by
  obtain ⟨hleft, -⟩ := hp.lengths
  obtain ⟨hdata, hahead⟩ := hp.within hwithin
  rw [hahead, hleft, List.drop_take, List.take_take]
  rcases Nat.le_total asked h₀.length with hle | hge
  · rw [hdata, Nat.min_eq_right hle, Nat.min_comm]
  · rw [hdata, Nat.min_eq_left hge, Nat.sub_self, Nat.sub_eq_zero_of_le hge]
    simp

/-- **A call that has its bytes** returns them in their turn. -/
theorem there (hp : Portioned h₀ s₀ asked data h s) {r : Reader}
    (hpassed : Reader.Passed (min h.length n) s.reader r)
    (hthere : min h.length n ≤ s.reader.ahead.length) :
    Portioned h₀ s₀ (asked + n) (data ++ s.reader.ahead.take (min h.length n))
      { h with length := h.length - min h.length n } { s with reader := r } := by
  obtain ⟨hleft, hplace⟩ := hp.lengths
  obtain ⟨hdata, hdata'⟩ := hp.length_le
  have hlength : (data ++ s.reader.ahead.take (min h.length n)).length =
      data.length + min h.length n := by
    rw [List.length_append, List.length_take_of_le hthere]
  refine ⟨?_, ?_, ?_, hpassed.ending.trans hp.ending, hpassed.capacity.trans hp.capacity, ?_, ?_⟩
  · rw [hlength, Nat.sub_add_eq, ← hleft, hp.header]
  · rcases hplace with ⟨hwithin, -, -⟩ | ⟨-, hnone⟩
    · obtain ⟨-, hahead⟩ := hp.within hwithin
      have hfront : data = s₀.reader.ahead.take data.length := by
        have htake := List.prefix_iff_eq_take.1 hp.front
        rwa [List.take_take, Nat.min_eq_left hdata] at htake
      rw [List.prefix_take_iff, hlength]
      refine ⟨?_, by omega⟩
      have hboth : data ++ s.reader.ahead.take (min h.length n) =
          s₀.reader.ahead.take (data.length + min h.length n) := by
        rw [List.take_add, ← hfront, hahead]
      rw [hboth]
      exact List.take_prefix _ _
    · rw [List.length_eq_zero_iff.1 hnone, List.take_nil, List.append_nil]
      exact hp.front
  · rw [hp.session]
  · intro hwithin
    rcases hplace with ⟨hwithin', hall, -⟩ | ⟨hbeyond, -⟩
    · obtain ⟨-, hahead⟩ := hp.within hwithin'
      refine ⟨by rw [hlength]; omega, ?_⟩
      rw [hlength, hpassed.ahead, hahead, List.drop_drop]
    · omega
  · intro hbeyond
    rcases hplace with ⟨hwithin', hall, hahead⟩ | ⟨-, hnone⟩
    · omega
    · rw [hpassed.ahead, List.length_eq_zero_iff.1 hnone, List.drop_nil]

/-- A call that misses one of its bytes takes all that there are. -/
theorem missing (hp : Portioned h₀ s₀ asked data h s) {r : Reader}
    (hpassed : Reader.Passed (min h.length n) s.reader r)
    (hmissing : s.reader.ahead.length < min h.length n) :
    Portioned h₀ s₀ (asked + n) data h { s with reader := r } := by
  obtain ⟨hleft, hplace⟩ := hp.lengths
  refine ⟨hp.header, hp.front, by rw [hp.session], hpassed.ending.trans hp.ending,
    hpassed.capacity.trans hp.capacity, fun hwithin => ?_, fun _ => ?_⟩
  · omega
  · rw [hpassed.ahead, List.drop_eq_nil_of_le (Nat.le_of_lt hmissing)]

/-- **What a call comes to is told by what was asked for before it**, and it keeps count. -/
theorem readPortion (hp : Portioned h₀ s₀ asked data h s) (n : Nat) :
    ∃ h' s', Session.readPortion h s n =
        (portion h₀.length s₀.reader.ahead s₀.reader.inflow.ending asked n, h', s') ∧
      Portioned h₀ s₀ (asked + n)
        (data ++ returned (portion h₀.length s₀.reader.ahead s₀.reader.inflow.ending asked n))
        h' s' := by
  obtain ⟨r, hpassed, hread⟩ := readData_run h n s
  obtain ⟨hleft, hplace⟩ := hp.lengths
  obtain ⟨hdata, hdata'⟩ := hp.length_le
  unfold Session.readPortion portion
  rw [hread]
  rcases Nat.lt_or_ge s.reader.ahead.length (min h.length n) with hmissing | hthere
  · rw [if_neg (Nat.not_le_of_lt hmissing), if_neg (by omega), ← hp.ending]
    refine ⟨_, _, rfl, ?_⟩
    rw [returned, List.append_nil]
    exact hp.missing hpassed hmissing
  · have hgot : s.reader.ahead.take (min h.length n) =
        ((s₀.reader.ahead.take h₀.length).drop asked).take n := by
      rcases hplace with ⟨hwithin, -, -⟩ | ⟨hbeyond, hnone⟩
      · exact hp.take_ahead hwithin n
      · obtain rfl : n = 0 := by omega
        rw [Nat.min_zero, List.take_zero, List.take_zero]
    rw [if_pos hthere, if_pos (by omega), ← hgot]
    exact ⟨_, _, rfl, hp.there hpassed hthere⟩

/-- **So does a run of calls.** -/
theorem readPortions (hp : Portioned h₀ s₀ asked data h s) (sizes : List Nat) :
    ∃ outcomes h' s', Session.readPortions h s sizes = (outcomes, h', s') ∧
      Portioned h₀ s₀ (asked + sizes.sum) (data ++ outcomes.flatMap returned) h' s' ∧
      outcomes.length = sizes.length ∧
      ∀ i n, sizes[i]? = some n → outcomes[i]? = some (portion h₀.length s₀.reader.ahead
        s₀.reader.inflow.ending (asked + (sizes.take i).sum) n) := by
  induction sizes generalizing asked data h s with
  | nil => exact ⟨[], h, s, rfl, by simpa using hp, rfl, by simp⟩
  | cons n sizes ih =>
    obtain ⟨h₁, s₁, hcall, hp₁⟩ := hp.readPortion n
    obtain ⟨outcomes, h₂, s₂, hcalls, hp₂, hlength, hat⟩ := ih hp₁
    refine ⟨portion h₀.length s₀.reader.ahead s₀.reader.inflow.ending asked n :: outcomes, h₂, s₂,
      ?_, ?_, ?_, ?_⟩
    · rw [Session.readPortions, hcall]
      dsimp only
      rw [hcalls]
    · rw [List.sum_cons, ← Nat.add_assoc, List.flatMap_cons, ← List.append_assoc]
      exact hp₂
    · rw [List.length_cons, List.length_cons, hlength]
    · intro i m hi
      cases i with
      | zero =>
        cases hi
        rfl
      | succ i =>
        rw [List.getElem?_cons_succ] at hi ⊢
        rw [hat i m hi, List.take_succ_cons, List.sum_cons, Nat.add_assoc]

/-- **Skipping what is left goes behind the payload**, or meets the end of the stream in it. -/
theorem discardData (hp : Portioned h₀ s₀ asked data h s) (hroom : 0 < s₀.reader.capacity) :
    ∃ r, Session.discardData (h, s) =
        (if h₀.length ≤ s₀.reader.ahead.length then
          .ok () ({ h₀ with length := 0 }, { s₀ with reader := r })
        else .error (s₀.reader.inflow.ending.halt (.io .eof))
          ({ h₀ with length := h.length - s.reader.ahead.length }, { s₀ with reader := r })) ∧
      r.ahead = s₀.reader.ahead.drop h₀.length ∧ r.capacity = s₀.reader.capacity := by
  obtain ⟨hleft, hplace⟩ := hp.lengths
  obtain ⟨hdata, hdata'⟩ := hp.length_le
  obtain ⟨r, hpassed, hskip⟩ := skip_run (r := s.reader) (by rw [hp.capacity]; exact hroom) h.length
  refine ⟨r, ?_, ?_, hpassed.capacity.trans hp.capacity⟩
  · unfold Session.discardData Act.within
    dsimp only
    rw [hskip, hp.ending]
    by_cases hthere : h₀.length ≤ s₀.reader.ahead.length
    · rw [if_pos hthere, if_pos (by omega), hp.header, hp.session]
    · rw [if_neg hthere, if_neg (by omega)]
      dsimp only
      rw [hp.header, hp.session]
  · rw [hpassed.ahead]
    rcases hplace with ⟨hwithin, -, -⟩ | ⟨hbeyond, hnone⟩
    · obtain ⟨-, hahead⟩ := hp.within hwithin
      rw [hahead, List.drop_drop, hleft, Nat.add_sub_of_le hdata]
    · rw [List.length_eq_zero_iff.1 hnone, List.drop_nil, List.drop_eq_nil_of_le (by omega)]

end Portioned

/-! ## 4. From one header to the next -/

theorem keeps_capacity_readHeader : Keeps (fun s : Session => s.reader.capacity) readHeader := by
  have hread := FrameHeader.keeps_capacity_read
  intro s
  cases headerRead s with
  | shut _ h => rw [Act.after_error h]
  | halted halt r _ hr h => rw [Act.after_error h]; exact hread.error hr
  | ended r _ hr h => rw [Act.after_ok h]; exact hread.ok hr
  | refused fault r header continuing _ hr h => rw [Act.after_error h]; exact hread.ok hr
  | accepted r header _ hr h => rw [Act.after_ok h]; exact hread.ok hr

/-- A header that is returned stood in front of what is ahead then. -/
theorem spells_of_readHeader {s₀ : Session} (hheader : readHeader s₀ = .ok (some h) s) :
    ∃ lead, FrameHeader.Spells h lead ∧ s₀.reader.ahead = lead ++ s.reader.ahead := by
  cases headerRead s₀ with
  | shut _ hread => cases hheader.symm.trans hread
  | halted halt r _ _ hread => cases hheader.symm.trans hread
  | ended r _ _ hread => cases hheader.symm.trans hread
  | refused fault r header continuing _ _ hread => cases hheader.symm.trans hread
  | accepted r header _ hr hread =>
    cases hheader.symm.trans hread
    exact FrameHeader.parser_iff.1 (FrameHeader.parsed_of_read hr)

/-- How calls for portions of these sizes, behind the header `h`, and then skipping the rest keep to
the frames: what each call comes to, and what header and session are behind them. -/
structure KeepsToFrames (h : FrameHeader) (s : Session) (sizes : List Nat)
    (outcomes : List (Except (Halt Error) Bytes)) (h' : FrameHeader) (t : Session) : Prop where
  /-- Every call comes to what it should by what was asked for before it: to the next bytes of the
  payload, or to the end of the stream. -/
  each : ∀ i n, sizes[i]? = some n → outcomes[i]? = some
    (portion h.length s.reader.ahead s.reader.inflow.ending (sizes.take i).sum n)
  /-- So exactly the calls that ask for a byte that is missing fail. -/
  fails : s.reader.inflow.ending = .eof → ∀ i n, sizes[i]? = some n →
    (outcomes[i]? = some (.error (.failed (.io .eof))) ↔
      n ≠ 0 ∧ s.reader.ahead.length < min h.length ((sizes.take i).sum + n))
  /-- What they return is the front of the payload, -/
  front : outcomes.flatMap returned <+: s.reader.ahead.take h.length
  /-- and the header tells how much is left of it. -/
  header : h' = { h with length := h.length - (outcomes.flatMap returned).length }
  /-- If the payload is there, all calls succeed; so does skipping the rest of it, and exactly what
  is behind the payload is ahead then. -/
  whole : h.length ≤ s.reader.ahead.length →
    (∀ outcome ∈ outcomes, ∃ got, outcome = .ok got) ∧
    t.reader.ahead = s.reader.ahead.drop (outcomes.flatMap returned).length ∧
    ∃ u, discardData (h', t) = .ok () ({ h with length := 0 }, u) ∧
      u.reader.ahead = s.reader.ahead.drop h.length ∧ u.reader.capacity = s.reader.capacity ∧
      ∀ (frame : WireFrame) (rest : Bytes), s.readClosed = false →
        s.reader.ahead.drop h.length = frame.bytes ++ rest →
        ∃ v, v.reader.ahead = frame.payload ++ rest ∧
          readHeader u = match s.objection? frame.header with
            | some fault => .error (.failed (.webSocket fault)) v
            | none => .ok (some frame.header) v
  /-- If the stream ends in the payload, skipping the rest of it meets the end. -/
  cut : s.reader.ahead.length < h.length →
    ∃ left u, discardData (h', t) =
        .error (s.reader.inflow.ending.halt (.io .eof)) ({ h with length := left }, u) ∧
      u.reader.ahead = [] ∧ u.reader.capacity = s.reader.capacity

theorem portion_eq_error {length asked n : Nat} {bytes : Bytes} :
    portion length bytes .eof asked n = .error (.failed (.io .eof)) ↔
      n ≠ 0 ∧ bytes.length < min length (asked + n) := by
  unfold portion
  split
  · next hthere => exact iff_of_false (fun heq => by cases heq) fun hmissing => by omega
  · next hmissing => exact iff_of_true rfl (by omega)

/-- **Reading frame by frame keeps to the frames.**  Behind a header that is returned, calls for
portions of any sizes return the bytes of its payload in their order, the header keeps count of what
is left, and skipping that goes to the next header, however the stream is cut; if the stream ends in
the payload, exactly the calls for missing bytes meet the end. -/
theorem readPortions_aligned {s₀ : Session} (hroom : 0 < s₀.reader.capacity)
    (hheader : readHeader s₀ = .ok (some h) s) (sizes : List Nat) :
    ∃ lead outcomes h' t, FrameHeader.Spells h lead ∧ s₀.reader.ahead = lead ++ s.reader.ahead ∧
      readPortions h s sizes = (outcomes, h', t) ∧ outcomes.length = sizes.length ∧
      KeepsToFrames h s sizes outcomes h' t := by
  obtain ⟨lead, hspells, hahead⟩ := spells_of_readHeader hheader
  have hroom' : 0 < s.reader.capacity := by
    have hkept : s.reader.capacity = s₀.reader.capacity := keeps_capacity_readHeader.ok hheader
    rw [hkept]
    exact hroom
  obtain ⟨outcomes, h', t, hcalls, hp, hlength, heach⟩ :=
    (Portioned.start h s).readPortions sizes
  obtain ⟨r, hdiscard, hbehind, hcapacity⟩ := hp.discardData hroom'
  rw [Nat.zero_add, List.nil_append] at hp
  refine ⟨lead, outcomes, h', t, hspells, hahead, hcalls, hlength, ?_⟩
  refine ⟨fun i n hi => ?_, fun hend i n hi => ?_, hp.front, hp.header, fun hwhole => ?_,
    fun hcut => ?_⟩
  · simpa using heach i n hi
  · rw [heach i n hi, Option.some_inj, Nat.zero_add, hend, portion_eq_error]
  · rw [if_pos hwhole] at hdiscard
    refine ⟨fun outcome hin => ?_, (hp.within (Nat.le_trans (Nat.min_le_left _ _) hwhole)).2, _,
      hdiscard, hbehind, hcapacity, fun frame rest hopen hsplit => ?_⟩
    · obtain ⟨i, hi, rfl⟩ := List.mem_iff_getElem.1 hin
      have hthis := heach i sizes[i] (List.getElem?_eq_getElem (hlength ▸ hi))
      rw [List.getElem?_eq_getElem hi, Option.some_inj] at hthis
      unfold portion at hthis
      rw [if_pos (.inr (Nat.le_trans (Nat.min_le_left _ _) hwhole))] at hthis
      exact ⟨_, hthis⟩
    · obtain ⟨v, hv, -, -, hread⟩ :=
        readHeader_frame (s := { s with reader := r }) hopen (hbehind.trans hsplit)
      exact ⟨v, hv, hread⟩
  · rw [if_neg (Nat.not_le_of_lt hcut)] at hdiscard
    refine ⟨_, _, hdiscard, ?_, hcapacity⟩
    rw [hbehind, List.drop_eq_nil_of_le (Nat.le_of_lt hcut)]

/-- Five bytes of text in one frame. -/
def helloFrame : WireFrame where
  lead := [129, 5]
  header := ⟨true, .text, none, 5⟩
  payload := [104, 97, 108, 108, 111]
  decodes := rfl
  length_payload := rfl

/-- A ping. -/
def bell : WireFrame where
  lead := [137, 0]
  header := ⟨true, .ping, none, 0⟩
  payload := []
  decodes := rfl
  length_payload := rfl

/-- A client to whom both are sent. -/
def listener : Session :=
  { reader := .ofInflow ⟨[[129], [5, 104, 97, 108], [108, 111, 137], [0]], .eof⟩
    outflow := {}
    link := 0
    entropy := {}
    isClient := true
    maxMessageLength := 125
    closeTimeout := .ofSeconds 30 }

/-- It takes three bytes of the text and then one, skips the last, and meets the ping. -/
theorem readPortions_aligned_greeted : 0 < listener.reader.capacity ∧
    ∃ s outcomes h' t u v, readHeader listener = .ok (some helloFrame.header) s ∧
      readPortions helloFrame.header s [3, 1] = (outcomes, h', t) ∧
      outcomes[0]? = some (.ok [104, 97, 108]) ∧ outcomes[1]? = some (.ok [108]) ∧
      discardData (h', t) = .ok () ({ helloFrame.header with length := 0 }, u) ∧
      readHeader u = .ok (some bell.header) v := by
  have hahead : listener.reader.ahead = helloFrame.lead ++ (helloFrame.payload ++ bell.bytes) := rfl
  obtain ⟨r, hread, hr⟩ := FrameHeader.read_of_parsed helloFrame.decodes hahead
  rw [List.nil_append] at hr
  have hheader : readHeader listener =
      .ok (some helloFrame.header) (follow { listener with reader := r } helloFrame.header) := by
    unfold readHeader
    rw [if_neg (by decide), onReader_run hread]
    rfl
  have hroom : 0 < listener.reader.capacity := Nat.succ_pos _
  obtain ⟨-, outcomes, h', t, -, -, hcalls, -, hkeeps⟩ :=
    readPortions_aligned hroom hheader [3, 1]
  have hbehind : (follow { listener with reader := r } helloFrame.header).reader.ahead =
      helloFrame.payload ++ bell.bytes := hr
  have hfirst := hkeeps.each 0 3 rfl
  have hsecond := hkeeps.each 1 1 rfl
  obtain ⟨-, -, u, hdiscard, -, -, hnext⟩ := hkeeps.whole (by rw [hbehind]; decide)
  obtain ⟨v, -, hbell⟩ := hnext bell [] rfl (by rw [hbehind]; rfl)
  rw [hbehind] at hfirst hsecond
  exact ⟨hroom, _, outcomes, h', t, u, v, hheader, hcalls, hfirst, hsecond, hdiscard, hbell⟩

end Session

end WebSocket

end UrlTransfer
