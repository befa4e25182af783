/-
# A reader loses nothing

Every byte that a reader ever stood in front of is in one of three places: it has gone, to the
caller or by being dropped, or it is unread in the buffer, or it is still to come.  This file keeps
that account over whole runs, in which the operations of a reader follow each other in any order,
succeed, fail, or wait for ever (`run_conserves`).

`Op.gone` says which bytes an operation lets go.  For most operations these are its value; reading
a number of bytes may fail behind some of them, and what it had taken by then has gone as well
(`taken`).

* `Op.gone_ahead` is the step: what goes, followed by what is ahead then, is what was ahead.
* `Op.inBounds_after` is the other step: the places in the buffer stay in order and within it.

Both are shown for a single fill and a single read first, in every outcome, and then along the loop
that reads until enough is there.
-/
import UrlTransfer.Proofs.Keeping
import UrlTransfer.Proofs.Stream.Reading

namespace UrlTransfer

open Act (after value?)

/-! ## 1. One read from the stream -/

namespace Inflow

/-- A read that has no value stands behind the last piece. -/
theorem readSome_error {ending : Ending} {n : Nat} {pieces : List Bytes} {halt : Halt IoError}
    {s : Inflow} (h : readSome ending n pieces = .error halt s) :
    pieces.flatten = [] ∧ s.rest = [] := by
  by_cases hnil : pieces.flatten = []
  · refine ⟨hnil, ?_⟩
    rw [readSome_none ending n hnil] at h
    cases ending with
    | eof => cases h
    | hang => cases h; rfl
    | fault error => cases h; rfl
  · obtain ⟨b, bytes, s', hsome⟩ := readSome_some ending n hnil
    rw [hsome] at h
    cases h

/-- **A read splits what is to come**, however it ends. -/
theorem rest_after_read (room : Nat) (s : Inflow) :
    (value? (read room) s).getD [] ++ (after (read room) s).rest = s.rest := by
  cases hread : read room s with
  | ok got s' =>
    rw [Act.value?_ok hread, Act.after_ok hread]
    exact (read_rest hread).1
  | error halt s' =>
    rw [Act.value?_error hread, Act.after_error hread]
    cases room with
    | zero => cases hread
    | succ n =>
      obtain ⟨hnil, hrest⟩ := readSome_error hread
      rw [hrest]
      exact hnil.symm

end Inflow

namespace Reader

/-! ## 2. Places in the buffer -/

/-- The places in the buffer are in order: what is spent ends before what is filled, and that
within the buffer. -/
def InBounds (r : Reader) : Prop := r.spent ≤ r.filled ∧ r.filled ≤ r.capacity

theorem InBounds.fits {r : Reader} (h : r.InBounds) : r.Fits := by
  have hfilled := h.2
  unfold filled at hfilled
  unfold Fits
  omega

/-- Where the unread bytes stand at the front, only their number counts. -/
theorem inBounds_of_front {r : Reader} (hfront : r.spent = 0) (hfits : r.Fits) : r.InBounds := by
  unfold InBounds filled
  rw [hfront, Nat.zero_add]
  exact ⟨Nat.zero_le _, hfits⟩

theorem inBounds_withCapacity (capacity : Nat) (inflow : Inflow) :
    (withCapacity capacity inflow).InBounds :=
  inBounds_of_front rfl (Nat.zero_le _)

theorem inBounds_ofParts (inflow : Inflow) (content : Bytes) :
    (ofParts inflow content).InBounds :=
  inBounds_of_front rfl (Nat.le_max_right _ _)

theorem inBounds_discard (r : Reader) : r.discard.InBounds :=
  inBounds_of_front rfl (Nat.zero_le _)

/-- Consuming moves one place and not the other, unless nothing is left between them. -/
theorem inBounds_consume {r : Reader} (h : r.InBounds) (n : Nat) : (r.consume n).InBounds := by
  unfold consume
  split
  · exact inBounds_discard r
  · next hleft =>
    have hlt : n < r.unread.length := by
      rw [imp_false, List.drop_eq_nil_iff] at hleft
      omega
    have hfilled : r.spent + r.unread.length ≤ r.capacity := h.2
    constructor
    · exact Nat.le_add_right _ _
    · show r.spent + n + (r.unread.drop n).length ≤ r.capacity
      rw [List.length_drop]
      omega

/-! ## 3. Filling the buffer -/

/-- What filling the buffer comes to: `got` is what it brought. -/
structure Fills (r : Reader) (got : Bytes) (r' : Reader) : Prop where
  front : r'.spent = 0
  unread : r'.unread = r.unread ++ got
  later : got ++ r'.inflow.rest = r.inflow.rest
  capacity : r'.capacity = r.capacity
  room : r.Fits → r'.Fits

theorem Fills.ahead {r r' : Reader} {got : Bytes} (h : Fills r got r') : r'.ahead = r.ahead := by
  unfold Reader.ahead
  rw [h.unread, List.append_assoc, h.later]

theorem Fills.inBounds {r r' : Reader} {got : Bytes} (h : Fills r got r') (hbounds : r.InBounds) :
    r'.InBounds :=
  inBounds_of_front h.front (h.room hbounds.fits)

/-- **Filling keeps the unread bytes**, however it ends, and says how many came behind them. -/
theorem fill_fills (r : Reader) :
    ∃ got, Fills r got (after fill r) ∧
      (value? fill r = some got.length ∨ value? fill r = none ∧ got = []) := by
  by_cases hfull : r.unread.length = r.capacity
  · have hfill : fill r = .ok 0 r.compact := by
      unfold fill
      rw [if_pos hfull]
    rw [Act.after_ok hfill, Act.value?_ok hfill]
    exact ⟨[], ⟨rfl, (List.append_nil _).symm, rfl, rfl, id⟩, .inl rfl⟩
  · have hrest := Inflow.rest_after_read (r.capacity - r.unread.length) r.inflow
    cases hread : r.inflow.read (r.capacity - r.unread.length) with
    | ok got s =>
      have hfill : fill r = .ok got.length
          { r.compact with unread := r.unread ++ got, inflow := s } := by
        unfold fill
        rw [if_neg hfull, hread]
      rw [Act.value?_ok hread, Act.after_ok hread] at hrest
      rw [Act.after_ok hfill, Act.value?_ok hfill]
      refine ⟨got, ⟨rfl, rfl, hrest, rfl, ?_⟩, .inl rfl⟩
      intro hfits
      have hlength := (Inflow.read_rest hread).2.2
      unfold Fits at *
      rw [List.length_append]
      show r.unread.length + got.length ≤ r.capacity
      omega
    | error halt s =>
      have hfill : fill r = .error halt { r.compact with inflow := s } := by
        unfold fill
        rw [if_neg hfull, hread]
      rw [Act.value?_error hread, Act.after_error hread] at hrest
      rw [Act.after_error hfill, Act.value?_error hfill]
      exact ⟨[], ⟨rfl, (List.append_nil _).symm, hrest, rfl, id⟩, .inr ⟨rfl, rfl⟩⟩

/-- **Filling brings nothing only where there is no room**, with the unread bytes at the front, or
where the stream brings nothing. -/
theorem fill_zero {r : Reader} (h : value? fill r = some 0) :
    r.compact.filled = r.capacity ∨
      value? (Inflow.read (r.capacity - r.compact.filled)) r.inflow = some [] := by
  have hfront : r.compact.filled = r.unread.length := Nat.zero_add _
  rw [hfront]
  by_cases hfull : r.unread.length = r.capacity
  · exact .inl hfull
  · right
    unfold value? fill at h
    rw [if_neg hfull] at h
    unfold value?
    cases hread : r.inflow.read (r.capacity - r.unread.length) with
    | ok got s =>
      rw [hread] at h
      simp only [Option.some.injEq, List.length_eq_zero_iff] at h
      rw [h]
    | error halt s =>
      rw [hread] at h
      cases h

/-! ## 4. One read -/

/-- What an action hands out, followed by what is ahead then, is what was ahead; and the places in
the buffer stay in order. -/
structure Hands (x : Act IoError Reader Bytes) (r : Reader) : Prop where
  ahead : (value? x r).getD [] ++ (after x r).ahead = r.ahead
  inBounds : r.InBounds → (after x r).InBounds

theorem hands_takeBuffered (n : Nat) (r : Reader) : Hands (takeBuffered n) r where
  ahead := takeBuffered_ahead rfl
  inBounds := fun h => inBounds_consume h n

/-- Past an empty buffer. -/
theorem hands_readPast {r : Reader} (hempty : r.unread = []) (n : Nat) :
    Hands (readPast n) r where
  ahead := by
    have hrest := Inflow.rest_after_read n r.inflow
    unfold readPast
    rw [Act.value?_within, Act.after_within]
    unfold Reader.ahead
    rw [hempty]
    exact hrest
  inBounds := by
    intro h
    unfold readPast
    rw [Act.after_within]
    exact h

/-- Two actions that end alike hand out alike. -/
theorem Hands.congr {x y : Act IoError Reader Bytes} {r : Reader} (h : Hands y r)
    (hxy : x r = y r) : Hands x r := by
  have hvalue : value? x r = value? y r := by unfold value?; rw [hxy]
  have hafter : after x r = after y r := by unfold after; rw [hxy]
  constructor
  · rw [hvalue, hafter]
    exact h.ahead
  · rw [hafter]
    exact h.inBounds

/-- A read through an empty buffer is one of what filling brings. -/
theorem read_filling {n : Nat} {r : Reader} (hn : n ≠ 0) (hempty : r.unread = [])
    (hsmall : ¬ n ≥ r.capacity) :
    read n r = (fill >>= fun k => if k = 0 then pure [] else takeBuffered n) r := by
  unfold read
  rw [if_neg hn, if_pos (by rw [hempty]; rfl), if_neg hsmall]
  cases hfill : fill r with
  | ok k r' =>
    rw [Act.bind_ok hfill]
    cases k with
    | zero => rfl
    | succ k => rfl
  | error halt r' => exact (Act.bind_error hfill).symm

theorem hands_fill_take {n : Nat} {r : Reader} (hn : n ≠ 0) (hempty : r.unread = [])
    (hsmall : ¬ n ≥ r.capacity) : Hands (read n) r := by
  obtain ⟨got, hfills, hcount⟩ := fill_fills r
  have hread := read_filling hn hempty hsmall
  cases hfill : fill r with
  | ok k r' =>
    rw [Act.after_ok hfill] at hfills
    rw [Act.bind_ok hfill] at hread
    cases k with
    | zero =>
      have hnothing : read n r = .ok [] r' := hread
      constructor
      · rw [Act.value?_ok hnothing, Act.after_ok hnothing]
        exact hfills.ahead
      · rw [Act.after_ok hnothing]
        exact hfills.inBounds
    | succ k =>
      rw [if_neg (Nat.succ_ne_zero k)] at hread
      have hands := hands_takeBuffered n r'
      have hvalue : value? (read n) r = value? (takeBuffered n) r' := by
        unfold value?
        rw [hread]
      have hafter : after (read n) r = after (takeBuffered n) r' := by
        unfold after
        rw [hread]
      constructor
      · rw [hvalue, hafter, hands.ahead]
        exact hfills.ahead
      · intro hbounds
        rw [hafter]
        exact hands.inBounds (hfills.inBounds hbounds)
  | error halt r' =>
    rw [Act.after_error hfill] at hfills
    rw [Act.bind_error hfill] at hread
    constructor
    · rw [Act.value?_error hread, Act.after_error hread]
      exact hfills.ahead
    · rw [Act.after_error hread]
      exact hfills.inBounds

/-- **A read hands out the first bytes ahead**, in every outcome. -/
theorem hands_read (n : Nat) (r : Reader) : Hands (read n) r := by
  by_cases hn : n = 0
  · have hread : read n r = .ok [] r := by
      unfold read
      rw [if_pos hn]
    constructor
    · rw [Act.value?_ok hread, Act.after_ok hread]
      rfl
    · rw [Act.after_ok hread]
      exact id
  · by_cases hempty : r.unread = []
    · by_cases hlarge : n ≥ r.capacity
      · refine (hands_readPast hempty n).congr ?_
        unfold read
        rw [if_neg hn, if_pos (by rw [hempty]; rfl), if_pos hlarge]
      · exact hands_fill_take hn hempty hlarge
    · refine (hands_takeBuffered n r).congr ?_
      unfold read
      rw [if_neg hn, if_neg (by simpa using hempty)]

/-- The same for a read that never fills the buffer. -/
theorem hands_readThrough (n : Nat) (r : Reader) : Hands (readThrough n) r := by
  have hget : (get : Act IoError Reader Reader) r = .ok r r := rfl
  by_cases hempty : r.unread = []
  · refine (hands_readPast hempty n).congr ?_
    unfold readThrough
    rw [Act.bind_ok hget, if_pos (by rw [hempty]; rfl)]
  · refine (hands_takeBuffered n r).congr ?_
    unfold readThrough
    rw [Act.bind_ok hget, if_neg (by simpa using hempty)]

/-! ## 5. Reading a number of bytes -/

/-- The bytes that the reads return, one after the other, until `n` bytes are there, or a read
returns none or has no value. -/
def taken (n : Nat) (r : Reader) : Bytes :=
  if _h : n = 0 then []
  else
    match read n r with
    | .ok [] _ => []
    | .ok (b :: more) r' => b :: more ++ taken (n - (more.length + 1)) r'
    | .error _ _ => []
termination_by n

/-- What the loop hands out, however it ends, are the bytes that its reads returned. -/
structure Takes (got : Bytes) (n : Nat) (r : Reader) : Prop where
  value : ∀ all, value? (readFullyFrom got n) r = some all → all = got ++ taken n r
  ahead : taken n r ++ (after (readFullyFrom got n) r).ahead = r.ahead
  inBounds : r.InBounds → (after (readFullyFrom got n) r).InBounds

/-- The loop ends with a read that returns nothing. -/
theorem Takes.stop {got : Bytes} {n : Nat} {r : Reader} (htaken : taken n r = [])
    (hnothing : (value? (read n) r).getD [] = [])
    (hafter : after (readFullyFrom got n) r = after (read n) r)
    (hvalue : ∀ all, value? (readFullyFrom got n) r = some all → all = got) :
    Takes got n r := by
  have hands := hands_read n r
  have hahead := hands.ahead
  rw [hnothing] at hahead
  constructor
  · intro all hall
    rw [htaken, List.append_nil]
    exact hvalue all hall
  · rw [htaken, hafter]
    exact hahead
  · rw [hafter]
    exact hands.inBounds

theorem takes_readFullyFrom (got : Bytes) (n : Nat) (r : Reader) : Takes got n r := by
  -- On the recursion of the loop: one read, then what the loop does behind it.
  fun_induction readFullyFrom got n r with
  | case1 got r =>
    have hread : read 0 r = .ok [] r := rfl
    have hloop : readFullyFrom got 0 r = .ok got r := by rw [readFullyFrom, dif_pos rfl]
    apply Takes.stop
    · rw [taken, dif_pos rfl]
    · rw [Act.value?_ok hread]
      rfl
    · rw [Act.after_ok hloop, Act.after_ok hread]
    · intro all hall
      rw [Act.value?_ok hloop] at hall
      exact (Option.some.inj hall).symm
  | case2 got n r hn r' hread =>
    have hloop : readFullyFrom got n r = .ok got r' := by rw [readFullyFrom, dif_neg hn, hread]
    apply Takes.stop
    · rw [taken, dif_neg hn, hread]
    · rw [Act.value?_ok hread]
      rfl
    · rw [Act.after_ok hloop, Act.after_ok hread]
    · intro all hall
      rw [Act.value?_ok hloop] at hall
      exact (Option.some.inj hall).symm
  | case3 got n r hn b more r' hread ih =>
    have hloop : readFullyFrom got n r =
        readFullyFrom (got ++ b :: more) (n - (more.length + 1)) r' := by
      rw [readFullyFrom, dif_neg hn, hread]
    have htaken : taken n r = b :: more ++ taken (n - (more.length + 1)) r' := by
      rw [taken, dif_neg hn, hread]
    have hafter : after (readFullyFrom got n) r =
        after (readFullyFrom (got ++ b :: more) (n - (more.length + 1))) r' := by
      unfold after
      rw [hloop]
    have hands := hands_read n r
    constructor
    · intro all hall
      unfold value? at hall
      rw [hloop] at hall
      rw [ih.value all hall, htaken, List.append_assoc]
    · have hahead := hands.ahead
      rw [Act.value?_ok hread, Act.after_ok hread] at hahead
      rw [hafter, htaken, List.append_assoc, ih.ahead]
      exact hahead
    · intro hbounds
      have hbounds' := hands.inBounds hbounds
      rw [Act.after_ok hread] at hbounds'
      rw [hafter]
      exact ih.inBounds hbounds'
  | case4 got n r hn halt r' hread =>
    have hloop : readFullyFrom got n r = .error halt r' := by
      rw [readFullyFrom, dif_neg hn, hread]
    apply Takes.stop
    · rw [taken, dif_neg hn, hread]
    · rw [Act.value?_error hread]
      rfl
    · rw [Act.after_error hloop, Act.after_error hread]
    · intro all hall
      rw [Act.value?_error hloop] at hall
      cases hall

/-- An exact number is read by the same loop: its end decides about the value only. -/
theorem after_readExactly? (n : Nat) (r : Reader) :
    after (readExactly? n) r = after (readFully n) r := by
  unfold readExactly?
  cases hread : readFully n r with
  | ok got r' =>
    rw [Act.after_bind_ok hread, Act.after_ok hread]
    split
    · rfl
    · split <;> rfl
  | error halt r' => rw [Act.after_bind_error hread, Act.after_error hread]

theorem after_readExactly (n : Nat) (r : Reader) :
    after (readExactly n) r = after (readFully n) r := by
  rw [← after_readExactly?]
  unfold readExactly
  cases hread : readExactly? n r with
  | ok got r' =>
    rw [Act.after_bind_ok hread, Act.after_ok hread]
    cases got <;> rfl
  | error halt r' => rw [Act.after_bind_error hread, Act.after_error hread]

/-- What reading an exact number returns is what the loop took. -/
theorem value?_readExactly? {n : Nat} {r : Reader} {got : Option Bytes}
    (h : value? (readExactly? n) r = some got) : got.getD [] = taken n r := by
  unfold readExactly? at h
  cases hread : readFully n r with
  | ok all r' =>
    have htaken := (takes_readFullyFrom [] n r).value all (Act.value?_ok hread)
    rw [Act.value?_bind_ok hread] at h
    rw [List.nil_append] at htaken
    subst htaken
    split at h
    · next hempty =>
      cases h
      rw [Bool.and_eq_true, List.isEmpty_iff] at hempty
      exact hempty.1.symm
    · split at h
      · cases h; rfl
      · cases h
  | error halt r' =>
    rw [Act.value?_bind_error hread] at h
    cases h

theorem value?_readExactly {n : Nat} {r : Reader} {got : Bytes}
    (h : value? (readExactly n) r = some got) : got = taken n r := by
  unfold readExactly at h
  cases hread : readExactly? n r with
  | ok all r' =>
    rw [Act.value?_bind_ok hread] at h
    cases all with
    | none => cases h
    | some bytes =>
      cases h
      exact value?_readExactly? (Act.value?_ok hread)
  | error halt r' =>
    rw [Act.value?_bind_error hread] at h
    cases h

/-! ## 6. Operations and runs -/

/-- An operation of a reader. -/
inductive Op where
  | fill
  | consume (n : Nat)
  | discard
  | read (n : Nat)
  | readThrough (n : Nat)
  | readFully (n : Nat)
  | readExactly? (n : Nat)
  | readExactly (n : Nat)
  | rewrap
deriving Repr, DecidableEq

namespace Op

/-- The reader behind an operation, however it ends. -/
def after : Op → Reader → Reader
  | fill, r => Act.after Reader.fill r
  | consume n, r => r.consume n
  | discard, r => r.discard
  | read n, r => Act.after (Reader.read n) r
  | readThrough n, r => Act.after (Reader.readThrough n) r
  | readFully n, r => Act.after (Reader.readFully n) r
  | readExactly? n, r => Act.after (Reader.readExactly? n) r
  | readExactly n, r => Act.after (Reader.readExactly n) r
  | rewrap, r => r.rewrap

/-- The bytes that an operation hands to the caller or drops.  **Reading a number of bytes hands out
what it took also where it fails.** -/
def gone : Op → Reader → Bytes
  | fill, _ => []
  | consume n, r => r.unread.take n
  | discard, r => r.unread
  | read n, r => (value? (Reader.read n) r).getD []
  | readThrough n, r => (value? (Reader.readThrough n) r).getD []
  | readFully n, r => (value? (Reader.readFully n) r).getD (taken n r)
  | readExactly? n, r =>
    match value? (Reader.readExactly? n) r with
    | some got => got.getD []
    | none => taken n r
  | readExactly n, r => (value? (Reader.readExactly n) r).getD (taken n r)
  | rewrap, _ => []

/-- Reading a number of bytes lets go what its reads returned, whether it has a value or not. -/
theorem gone_readFully (n : Nat) (r : Reader) : (readFully n).gone r = taken n r := by
  unfold gone
  dsimp only
  cases hvalue : value? (Reader.readFully n) r with
  | none => rfl
  | some all => exact (takes_readFullyFrom [] n r).value all hvalue

theorem gone_readExactly? (n : Nat) (r : Reader) : (readExactly? n).gone r = taken n r := by
  unfold gone
  dsimp only
  split
  · next got hvalue => exact value?_readExactly? hvalue
  · rfl

theorem gone_readExactly (n : Nat) (r : Reader) : (readExactly n).gone r = taken n r := by
  unfold gone
  dsimp only
  cases hvalue : value? (Reader.readExactly n) r with
  | none => rfl
  | some got => exact value?_readExactly hvalue

/-- **One operation**: what goes, followed by what is ahead then, is what was ahead. -/
theorem gone_ahead (op : Op) (r : Reader) : op.gone r ++ (op.after r).ahead = r.ahead := by
  cases op with
  | fill =>
    obtain ⟨got, hfills, -⟩ := fill_fills r
    exact hfills.ahead
  | consume n => exact takeBuffered_ahead (n := n) rfl
  | discard => rfl
  | read n => exact (hands_read n r).ahead
  | readThrough n => exact (hands_readThrough n r).ahead
  | readFully n =>
    rw [gone_readFully]
    exact (takes_readFullyFrom [] n r).ahead
  | readExactly? n =>
    rw [gone_readExactly?]
    show taken n r ++ (Act.after (Reader.readExactly? n) r).ahead = r.ahead
    rw [after_readExactly?]
    exact (takes_readFullyFrom [] n r).ahead
  | readExactly n =>
    rw [gone_readExactly]
    show taken n r ++ (Act.after (Reader.readExactly n) r).ahead = r.ahead
    rw [after_readExactly]
    exact (takes_readFullyFrom [] n r).ahead
  | rewrap => rfl

/-- **One operation keeps the places in the buffer in order.** -/
theorem inBounds_after (op : Op) {r : Reader} (h : r.InBounds) : (op.after r).InBounds := by
  cases op with
  | fill =>
    obtain ⟨got, hfills, -⟩ := fill_fills r
    exact hfills.inBounds h
  | consume n => exact inBounds_consume h n
  | discard => exact inBounds_discard r
  | read n => exact (hands_read n r).inBounds h
  | readThrough n => exact (hands_readThrough n r).inBounds h
  | readFully n => exact (takes_readFullyFrom [] n r).inBounds h
  | readExactly? n =>
    show (Act.after (Reader.readExactly? n) r).InBounds
    rw [after_readExactly?]
    exact (takes_readFullyFrom [] n r).inBounds h
  | readExactly n =>
    show (Act.after (Reader.readExactly n) r).InBounds
    rw [after_readExactly]
    exact (takes_readFullyFrom [] n r).inBounds h
  | rewrap => exact inBounds_ofParts _ _

end Op

/-- The reader behind a run. -/
def afterOps : List Op → Reader → Reader
  | [], r => r
  | op :: ops, r => afterOps ops (op.after r)

/-- The bytes that went in a run, in their order. -/
def goneIn : List Op → Reader → Bytes
  | [], _ => []
  | op :: ops, r => op.gone r ++ goneIn ops (op.after r)

theorem goneIn_ahead (ops : List Op) (r : Reader) :
    goneIn ops r ++ (afterOps ops r).ahead = r.ahead := by
  induction ops generalizing r with
  | nil => rfl
  | cons op ops ih =>
    rw [goneIn, afterOps, List.append_assoc, ih, op.gone_ahead]

theorem inBounds_afterOps (ops : List Op) {r : Reader} (h : r.InBounds) :
    (afterOps ops r).InBounds := by
  induction ops generalizing r with
  | nil => exact h
  | cons op ops ih => exact ih (op.inBounds_after h)

/-- How a reader starts. -/
inductive Origin where
  /-- With an empty buffer of this capacity. -/
  | empty (capacity : Nat)
  /-- With bytes in the buffer that were read before. -/
  | parts (content : Bytes)
deriving Repr, DecidableEq

namespace Origin

/-- The reader that starts like this in front of a stream. -/
def reader : Origin → Inflow → Reader
  | empty capacity, inflow => withCapacity capacity inflow
  | parts content, inflow => ofParts inflow content

/-- What it has in its buffer. -/
def content : Origin → Bytes
  | empty _ => []
  | parts content => content

theorem inBounds_reader (origin : Origin) (inflow : Inflow) : (origin.reader inflow).InBounds := by
  cases origin with
  | empty capacity => exact inBounds_withCapacity capacity inflow
  | parts content => exact inBounds_ofParts inflow content

theorem ahead_reader (origin : Origin) (inflow : Inflow) :
    (origin.reader inflow).ahead = origin.content ++ inflow.rest := by
  cases origin <;> rfl

end Origin

/-- **A reader loses nothing, repeats nothing and keeps the order.**  Behind any run of operations,
what went, the unread bytes, and what the stream has not brought are, one behind the other, the
first content and the whole stream; the places in the buffer are in order.  There, consuming drops
the first unread bytes and no others, and filling keeps them all, and brings nothing only where
there is no room or the stream brings nothing. -/
theorem run_conserves (origin : Origin) (inflow : Inflow) (ops : List Op) :
    let r := afterOps ops (origin.reader inflow)
    goneIn ops (origin.reader inflow) ++ r.unread ++ r.inflow.rest =
        origin.content ++ inflow.rest ∧
      r.spent ≤ r.filled ∧ r.filled ≤ r.capacity ∧
      (∀ n, (r.consume n).unread = r.unread.drop n ∧ (r.consume n).inflow = r.inflow ∧
        (r.unread.take n).length = min n r.unread.length) ∧
      (∃ got, Fills r got (after fill r) ∧
        (value? fill r = some got.length ∨ value? fill r = none ∧ got = [])) ∧
      (value? fill r = some 0 → r.compact.filled = r.capacity ∨
        value? (Inflow.read (r.capacity - r.compact.filled)) r.inflow = some []) := by
  intro r
  have haccount := goneIn_ahead ops (origin.reader inflow)
  have hbounds := inBounds_afterOps ops (origin.inBounds_reader inflow)
  refine ⟨?_, hbounds.1, hbounds.2, ?_, fill_fills r, fill_zero⟩
  · rw [List.append_assoc, ← origin.ahead_reader inflow]
    exact haccount
  · intro n
    exact ⟨consume_unread n r, consume_inflow n r, List.length_take⟩

end Reader

end UrlTransfer
