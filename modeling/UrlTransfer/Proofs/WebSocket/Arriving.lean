/-
# A session in front of a stream that is still open

What `Proofs.WebSocket.Receiving` says of sessions whose stream ends is said here of those whose
peer goes on sending.  `Session.Before more` is a session beside the same one behind the arrival of
`more` and of the end of the stream, and receiving is prompt for it (`prompt_nextPart`): it waits in
front of a frame that is not there as a whole, and otherwise does what it would do at the end.

Only draining does not fit in, since it throws away what has arrived by then; but it is the last
thing that receiving does, and afterwards nothing is ahead (`Session.Behind`).
-/
import UrlTransfer.Proofs.Stream.Arriving
import UrlTransfer.Proofs.WebSocket.Receiving

namespace UrlTransfer

namespace WebSocket

open Act (Prompt)

variable {more : Bytes} {ending : Ending}

/-! ## 1. Headers -/

namespace FrameHeader

theorem prompt_readNumber (width : Nat) :
    Prompt (Reader.Before more ending) (Reader.Before more ending) (readNumber width) :=
  .bind (fun _ _ => id) ((Reader.prompt_readExactly width).mapError _)
    fun _ => .pure (fun _ _ => id) _

theorem prompt_readLength (second : Nat) :
    Prompt (Reader.Before more ending) (Reader.Before more ending) (readLength second) := by
  unfold readLength
  dsimp only
  split
  · exact prompt_readNumber 2
  · split
    · refine .bind (fun _ _ => id) (prompt_readNumber 8) fun length => ?_
      split
      · exact .pure (fun _ _ => id) _
      · exact .fail (fun _ _ => id) _
    · exact .pure (fun _ _ => id) _

theorem prompt_readKey (second : Nat) :
    Prompt (Reader.Before more ending) (Reader.Before more ending) (readKey second) := by
  unfold readKey
  split
  · exact .pure (fun _ _ => id) _
  · exact .bind (fun _ _ => id) (prompt_readNumber 4) fun _ => .pure (fun _ _ => id) _

theorem prompt_readRest (first second : Nat) :
    Prompt (Reader.Before more ending) (Reader.Before more ending) (readRest first second) := by
  unfold readRest
  dsimp only
  split
  · exact .fail (fun _ _ => id) _
  · cases Opcode.ofCode? (first % 16) with
    | none => exact .fail (fun _ _ => id) _
    | some op =>
      refine .bind (fun _ _ => id) (prompt_readLength second) fun length => ?_
      exact .bind (fun _ _ => id) (prompt_readKey second) fun key => .pure (fun _ _ => id) _

/-- **A header is read when it is there.** -/
theorem prompt_read : Prompt (Reader.Before more ending) (Reader.Before more ending) read := by
  unfold read
  refine .bind (fun _ _ => id) ((Reader.prompt_readExactly? 2).mapError _) fun o => ?_
  split
  · exact .bind (fun _ _ => id) (prompt_readRest _ _) fun _ => .pure (fun _ _ => id) _
  · exact .pure (fun _ _ => id) _

end FrameHeader

namespace Session

/-! ## 2. Sessions -/

/-- The session `s` stands before the arrival of these bytes, and `s'` behind that of everything. -/
structure Before (more : Bytes) (ending : Ending) (s s' : Session) : Prop where
  reader : Reader.Before more ending s.reader s'.reader
  same : s' = { s with reader := s'.reader }

/-- The same behind an action that may have thrown away what was ahead. -/
structure Behind (more : Bytes) (ending : Ending) (s s' : Session) : Prop where
  reader : Reader.Before more ending s.reader s'.reader ∨ s.isClosed = true ∧ s.reader.ahead = []
  ending : s.reader.inflow.ending = ending
  same : s' = { s with reader := s'.reader }

theorem Before.behind {s s' : Session} (h : Before more ending s s') : Behind more ending s s' :=
  ⟨.inl h.reader, h.reader.ending, h.same⟩

/-- Two sessions that differ in their readers only. -/
theorem Before.of_readers {s : Session} {r r' : Reader} (h : Reader.Before more ending r r') :
    Before more ending { s with reader := r } { s with reader := r' } := ⟨h, rfl⟩

theorem prompt_onReader {α : Type} {x : Act Error Reader α}
    (hx : Prompt (Reader.Before more ending) (Reader.Before more ending) x) :
    Prompt (Before more ending) (Before more ending) (onReader x) := by
  refine hx.within (fun _ _ h => h.reader) ?_
  rintro r r' s s' hr ⟨-, hsame⟩
  rw [hsame]
  exact .of_readers hr

theorem prompt_readExact (n : Nat) :
    Prompt (Reader.Before more ending) (Reader.Before more ending) (readExact n) := by
  unfold readExact
  refine .bind (fun _ _ => id) ((Reader.prompt_readFully n).mapError _) fun got => ?_
  split
  · exact .fail (fun _ _ => id) _
  · exact .pure (fun _ _ => id) _

/-- An action that does not look at the reader, and leaves it. -/
theorem prompt_of_apart {α : Type} {x : Act Error Session α}
    (hx : ∀ (s : Session) (r : Reader), x { s with reader := r } =
      match x s with
      | .ok a t => .ok a { t with reader := r }
      | .error halt t => .error halt { t with reader := r }) :
    Prompt (Before more ending) (Before more ending) x := by
  rintro s s' ⟨hreader, hsame⟩
  right
  have h := hx s s.reader
  have h' := hx s s'.reader
  rw [← hsame] at h'
  rw [h', show x s = _ from h]
  cases x s with
  | ok a t => exact .ok rfl (.of_readers hreader)
  | error halt t => exact .error (.of_readers hreader)

theorem prompt_keep (message : Option (Opcode × Bytes)) :
    Prompt (Before more ending) (Before more ending) (keep message) :=
  prompt_of_apart fun _ _ => rfl

theorem prompt_acceptHeader (h : FrameHeader) :
    Prompt (Before more ending) (Before more ending) (acceptHeader h) := by
  refine prompt_of_apart fun s r => ?_
  unfold acceptHeader
  dsimp only
  cases (if h.op.isControl then checkControl h else checkData s.continuing h) with
  | error fault => rfl
  | ok u =>
    dsimp only
    split <;> rfl

/-- Reading a header as one action behind the other. -/
theorem readHeader_eq : readHeader = (do
    if (← get).readClosed then Act.fail .shutdown
    else
      match ← onReader FrameHeader.read with
      | none =>
        modify fun s => { s with readClosed := true }
        return none
      | some h =>
        acceptHeader h
        return some h) := by
  funext s
  show _ = (if s.readClosed then Act.fail .shutdown else _ : Act Error Session _) s
  unfold readHeader
  split
  · rfl
  · cases hread : onReader FrameHeader.read s with
    | error halt s' => rw [Act.bind_error hread]
    | ok o s' =>
      rw [Act.bind_ok hread]
      cases o with
      | none => rfl
      | some h =>
        dsimp only
        cases haccept : acceptHeader h s' with
        | error halt s'' => rw [Act.bind_error haccept]
        | ok u s'' => rw [Act.bind_ok haccept]; rfl

theorem prompt_readHeader : Prompt (Before more ending) (Before more ending) readHeader := by
  rw [readHeader_eq]
  refine Prompt.bind_get fun s s' hs => ⟨by rw [hs.same], ?_⟩
  split
  · exact .fail (fun _ _ => id) _
  · refine .bind (fun _ _ => id) (prompt_onReader FrameHeader.prompt_read) fun o => ?_
    cases o with
    | none =>
      refine .bind (fun _ _ => id) ?_ fun _ => .pure (fun _ _ => id) _
      exact prompt_of_apart fun _ _ => rfl
    | some h =>
      exact .bind (fun _ _ => id) (prompt_acceptHeader h) fun _ => .pure (fun _ _ => id) _

theorem prompt_drainIfClosed : Prompt (Before more ending) (Behind more ending) drainIfClosed := by
  rintro s s' hs
  right
  have hclosed : s'.isClosed = s.isClosed := by
    rw [hs.same]
    rfl
  unfold drainIfClosed
  rw [hclosed]
  split
  · next h => exact .ok rfl ⟨.inr ⟨h, rfl⟩, hs.reader.ending, by rw [hs.same]⟩
  · exact .ok rfl hs.behind

theorem prompt_readControl (h : FrameHeader) :
    Prompt (Before more ending) (Behind more ending) (readControl h) := by
  unfold readControl
  refine .bind (fun _ _ => Before.behind) (prompt_onReader (prompt_readExact h.length)) ?_
  intro got
  dsimp only
  split
  · exact .pure (fun _ _ => Before.behind) _
  · exact .pure (fun _ _ => Before.behind) _
  · split
    · exact .fail (fun _ _ => Before.behind) _
    · exact .bind (fun _ _ => id) prompt_drainIfClosed fun _ => .pure (fun _ _ => id) _

theorem prompt_readPart (h : FrameHeader) :
    Prompt (Before more ending) (Before more ending) (readPart h) := by
  unfold readPart
  refine Prompt.bind_get fun s s' hs => ?_
  have hmessage : s'.message = s.message := by rw [hs.same]
  have hmax : s'.maxMessageLength = s.maxMessageLength := by rw [hs.same]
  rw [hmessage, hmax]
  refine ⟨rfl, ?_⟩
  dsimp only
  refine .bind (fun _ _ => id) (prompt_keep _) fun _ => ?_
  split
  · exact .fail (fun _ _ => id) _
  · refine .bind (fun _ _ => id) (prompt_onReader (prompt_readExact h.length)) fun got => ?_
    split
    · exact .bind (fun _ _ => id) (prompt_keep _) fun _ => .pure (fun _ _ => id) _
    · refine .bind (fun _ _ => id) (prompt_keep _) fun _ => ?_
      exact .bind (fun _ _ => id) (.ofExcept (fun _ _ => id) _) fun _ => .pure (fun _ _ => id) _

/-- **Receiving waits for a frame that is not there as a whole**, and otherwise does what it would
do at the end of the stream. -/
theorem prompt_nextPart : Prompt (Before more ending) (Behind more ending) nextPart := by
  unfold nextPart
  refine .bind (fun _ _ => Before.behind) prompt_readHeader fun o => ?_
  cases o with
  | none => exact .pure (fun _ _ => Before.behind) _
  | some h =>
    refine Prompt.bind_get fun s s' hs => ?_
    have hmax : s'.maxMessageLength = s.maxMessageLength := by rw [hs.same]
    rw [hmax]
    refine ⟨rfl, ?_⟩
    split
    · exact .fail (fun _ _ => Before.behind) _
    · split
      · exact .bind (fun _ _ => id) (prompt_readControl h) fun _ => .pure (fun _ _ => id) _
      · exact (prompt_readPart h).mono fun _ _ => Before.behind

/-! ## 3. Beside the end of the stream -/

/-- The session behind the arrival of these bytes and of the end of the stream. -/
def arrived (more : Bytes) (s : Session) : Session := { s with reader := s.reader.arrived more }

theorem before_arrived {s : Session} (h : Reader.Awaits s.reader.inflow.ending more) :
    Before more s.reader.inflow.ending s (s.arrived more) := .of_readers (Reader.before_arrived h)

/-- Receiving does not change what stands behind the bytes that have arrived. -/
theorem ending_nextPart {s s' : Session} {o : Option Frame}
    (h : Reader.Awaits s.reader.inflow.ending more) (hnext : nextPart s = .ok o s') :
    s'.reader.inflow.ending = s.reader.inflow.ending := by
  obtain ⟨t, -, hbehind⟩ := prompt_nextPart.ok (before_arrived h) hnext
  exact hbehind.ending

/-- **A frame after which receiving goes on**: it is received, or receiving waits for it. -/
theorem nextPart_onward {s t : Session} {message : Option Fragments} {o : Option Frame}
    (h : Reader.Awaits s.reader.inflow.ending more)
    (hnext : nextPart (s.arrived more) = .ok o t) (hsync : t.InSync message) :
    (∃ u, nextPart s = .error .stalled u) ∨ ∃ s', nextPart s = .ok o s' ∧
      (s'.arrived more).InSync message ∧ s'.receiver = t.receiver ∧
      s'.reader.ahead ++ more = t.reader.ahead ∧
      s'.reader.inflow.ending = s.reader.inflow.ending := by
  rcases prompt_nextPart.waits_or_ok (before_arrived h) hnext with hstall | ⟨s', hnext', hbehind⟩
  · exact .inl hstall
  · right
    have hopen : s'.readClosed = false := by
      have hopen := hsync.isOpen
      rw [hbehind.same] at hopen
      exact hopen
    have hcontinuing := hsync.continuing
    have hmessage := hsync.message
    rw [hbehind.same] at hcontinuing hmessage
    rcases hbehind.reader with hreader | ⟨hclosed, -⟩
    · refine ⟨s', hnext', ⟨hopen, hcontinuing, hmessage, rfl⟩, ?_, hreader.ahead.symm,
        hreader.ending⟩
      rw [hbehind.same]
      rfl
    · rw [isClosed, hopen] at hclosed
      cases hclosed

/-- In front of nothing, receiving waits while the stream is open. -/
theorem nextPart_waits {s : Session} (hopen : s.readClosed = false) (hahead : s.reader.ahead = [])
    (hhang : s.reader.inflow.ending = .hang) : ∃ t, nextPart s = .error .stalled t := by
  have hends := Reader.ends_readExactly? (n := 2) (by decide) s.reader
  rw [hahead, if_neg (by simp), hhang] at hends
  obtain ⟨r, hstalled, -⟩ := hends
  have hexact : Act.mapError Error.io (Reader.readExactly? 2) s.reader = .error .stalled r :=
    Act.mapError_error hstalled
  have hwait : FrameHeader.read s.reader = .error .stalled r := Act.bind_error hexact
  have hheader : readHeader s = .error .stalled { s with reader := r } := by
    unfold readHeader
    rw [if_neg (by simp [hopen]), onReader_fail hwait]
  exact ⟨_, Act.bind_error hheader⟩

/-- In front of nothing, the end of the stream is received. -/
theorem nextPart_end {s : Session} (hopen : s.readClosed = false) (hahead : s.reader.ahead = [])
    (hend : s.reader.inflow.ending = .eof) :
    ∃ r, r.ahead = [] ∧ r.inflow.ending = .eof ∧
      nextPart s = .ok (some (.close CloseCode.noClose.number .empty))
        { s with reader := r, readClosed := true } := by
  obtain ⟨r, hpassed, hread⟩ := FrameHeader.read_none hahead hend
  have hheader : readHeader s = .ok none { s with reader := r, readClosed := true } := by
    unfold readHeader
    rw [if_neg (by simp [hopen]), onReader_run hread]
  refine ⟨r, ?_, hpassed.ending.trans hend, Act.bind_ok hheader⟩
  rw [hpassed.ahead, hahead]
  rfl

/-- A close frame is the last that is read; behind it the session may drain. -/
theorem nextPart_close {s w s' : Session} {h : FrameHeader} {frame : Frame}
    (hread : readHeader s = .ok (some h) w) (hop : h.op = .close)
    (hnext : nextPart s = .ok (some frame) s') :
    ∃ got u, onReader (readExact h.length) w = .ok got u ∧ drainIfClosed u = .ok () s' := by
  have hcontrol : h.op.isControl = true := by
    rw [hop]
    rfl
  rw [nextPart_some hread, hcontrol] at hnext
  split at hnext
  · cases hnext
  · obtain ⟨given, s1, hframe, hsome⟩ := Act.bind_eq_ok.1 hnext
    cases hsome
    unfold readControl at hframe
    obtain ⟨got, u, hgot, hrest⟩ := Act.bind_eq_ok.1 hframe
    rw [hop] at hrest
    dsimp only at hrest
    cases hclose : closeFrame (.ofPrefix (maskBy h.key got)) with
    | error fault =>
      rw [hclose] at hrest
      cases hrest
    | ok closing =>
      rw [hclose] at hrest
      obtain ⟨_, s2, hdrain, hpure⟩ := Act.bind_eq_ok.1 hrest
      cases hpure
      exact ⟨got, u, hgot, hdrain⟩

end Session

end WebSocket

end UrlTransfer
