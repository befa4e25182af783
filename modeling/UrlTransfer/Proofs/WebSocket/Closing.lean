/-
# How a session closes

A session closes for each direction on its own, and two halves share what they know about it.  A
run is any sequence of calls of the session and of its halves, with changes of the network in
between (`Event`).  A call may succeed, fail or wait for ever; what it did before stays done.

The sending side closes exactly where a close frame is passed that is not too long, whatever
becomes of its bytes (`write_closes`).  What the calls of a run write are fronts of frames, at most
one of them of a close frame, and it is the last (`Written`, kept together by `Written.trans`).  The
receiving side closes exactly where a header is due and either a close frame is accepted or the
stream ends (`readHeader_closes`); since one call may read many headers, `Event.ReadsAt` says where.

Each action leaves alone what belongs to the other side (section 5), so an event is looked at for
one side at a time (`next_sending`, `next_receiving`).
-/
import UrlTransfer.Proofs.Net.Links
import UrlTransfer.Proofs.Stream.Cutting
import UrlTransfer.Proofs.WebSocket.Receiving
import UrlTransfer.Proofs.WebSocket.Sending

namespace UrlTransfer

open Act (after value? Keeps)

/-! ## 1. Bytes on a connection that may fail -/

namespace Outflow

/-- The connection with its sending direction ended. -/
def ended (o : Outflow) : Outflow := { o with shutdowns := o.shutdowns ++ [.write] }

theorem after_close (o : Outflow) : after close o = o.ended := by
  have hclose : close o = .ok () o.ended ∨ ∃ e, close o = .error (.failed e) o.ended := by
    unfold close shutdown ended
    cases o.shutdownFault with
    | none => exact .inl rfl
    | some e =>
      dsimp only
      split
      · next hgone => cases hgone; exact .inl rfl
      · exact .inr ⟨e, rfl⟩
  rcases hclose with h | ⟨e, h⟩
  · exact Act.after_ok h
  · exact Act.after_error h

/-- What writing these bytes puts on the connection: a front of them, and all of them where
writing has a value. -/
structure Puts (o : Outflow) (bytes part : Bytes) : Prop where
  front : part <+: bytes
  after : Act.after (write bytes) o = o.push part
  whole : value? (write bytes) o = some () → part = bytes

theorem write_puts (o : Outflow) (bytes : Bytes) : ∃ part, o.Puts bytes part := by
  rcases write_cases bytes o with h | ⟨halt, n, h⟩
  · exact ⟨bytes, List.prefix_refl _, Act.after_ok h, fun _ => rfl⟩
  · refine ⟨bytes.take n, List.take_prefix n bytes, Act.after_error h, ?_⟩
    intro hvalue
    rw [Act.value?_error h] at hvalue
    cases hvalue

/-- The connection behind its last bytes, of which this part was written.  **It is ended only
where writing them has a value.** -/
def pushLast (o : Outflow) (bytes part : Bytes) : Outflow :=
  if value? (write bytes) o = some () then (o.push part).ended else o.push part

theorem after_last {o : Outflow} {bytes part : Bytes} (h : o.Puts bytes part) :
    Act.after (do write bytes; close) o = o.pushLast bytes part := by
  have hpush := h.after
  unfold pushLast
  cases hwrite : write bytes o with
  | ok u o' =>
    rw [Act.after_ok hwrite] at hpush
    rw [Act.after_bind_ok hwrite, if_pos (Act.value?_ok hwrite), after_close, hpush]
  | error halt o' =>
    rw [Act.after_error hwrite] at hpush
    rw [Act.after_bind_error hwrite, if_neg (by rw [Act.value?_error hwrite]; nofun), hpush]

/-- What is added to the record of the connection. -/
def noted (o : Outflow) (part : Bytes) : Bytes := if o.heard then part else []

@[simp] theorem sent_push (o : Outflow) (part : Bytes) :
    (o.push part).sent = o.sent ++ o.noted part := by
  unfold push noted
  cases o.heard <;> simp

@[simp] theorem heard_push (o : Outflow) (part : Bytes) : (o.push part).heard = o.heard := by
  unfold push
  split <;> rfl

@[simp] theorem shutdowns_push (o : Outflow) (part : Bytes) :
    (o.push part).shutdowns = o.shutdowns := by
  unfold push
  split <;> rfl

@[simp] theorem sent_pushLast (o : Outflow) (bytes part : Bytes) :
    (o.pushLast bytes part).sent = o.sent ++ o.noted part := by
  unfold pushLast ended
  split <;> simp

@[simp] theorem heard_pushLast (o : Outflow) (bytes part : Bytes) :
    (o.pushLast bytes part).heard = o.heard := by
  unfold pushLast ended
  split <;> simp

/-- The connection is ended only behind all of its last bytes. -/
theorem shutdowns_pushLast {o : Outflow} {bytes part : Bytes} (h : o.Puts bytes part) :
    (o.pushLast bytes part).shutdowns = o.shutdowns ∨
      (o.pushLast bytes part).shutdowns = o.shutdowns ++ [.write] ∧ part = bytes := by
  unfold pushLast ended
  split
  · next hvalue => exact .inr ⟨by simp, h.whole hvalue⟩
  · exact .inl (by simp)

theorem noted_prefix {o : Outflow} {bytes part : Bytes} (h : part <+: bytes) :
    o.noted part <+: bytes := by
  unfold noted
  split
  · exact h
  · exact List.nil_prefix

end Outflow

namespace WebSocket

namespace Session

/-! ## 2. What an action leaves alone -/

section

variable {γ : Type} {view : Session → γ}

/-- The view does not show what the peer sends. -/
def BlindToReader (view : Session → γ) : Prop := ∀ r s, view { s with reader := r } = view s

theorem keeps_onReader {α : Type} (x : Act Error Reader α) (hview : BlindToReader view) :
    Keeps view (onReader x) := by
  intro s
  unfold onReader
  rw [Act.after_within]
  exact hview _ s

theorem keeps_drainIfClosed (hview : BlindToReader view) : Keeps view drainIfClosed := by
  intro s
  obtain ⟨r, hdrain⟩ := drainIfClosed_reader s
  rw [Act.after_ok hdrain]
  exact hview r s

theorem keeps_readControl (hview : BlindToReader view) (h : FrameHeader) :
    Keeps view (readControl h) := by
  unfold readControl
  refine (keeps_onReader _ hview).bind fun got => ?_
  dsimp only
  split
  · exact .pure _
  · exact .pure _
  · split
    · exact .fail _
    · exact (keeps_drainIfClosed hview).bind fun _ => .pure _

theorem keeps_readPart (hview : BlindToReader view)
    (hmessage : ∀ m s, view { s with message := m } = view s) (h : FrameHeader) :
    Keeps view (readPart h) := by
  have hkeep (m : Option (Opcode × Bytes)) : Keeps view (keep m) := fun s => hmessage m s
  unfold readPart
  refine Keeps.getState.bind fun s => ?_
  dsimp only
  refine (hkeep _).bind fun _ => ?_
  split
  · exact .fail _
  · refine (keeps_onReader _ hview).bind fun got => ?_
    split
    · exact (hkeep _).bind fun _ => .pure _
    · exact (hkeep _).bind fun _ => (Keeps.ofExcept _).bind fun _ => .pure _

theorem keeps_readData (hview : BlindToReader view) (h : FrameHeader) (n : Nat) :
    Keeps view (readData h n) :=
  (keeps_onReader _ hview).bind fun _ => .pure _

/-- Skipping a payload changes the header and the bytes ahead. -/
theorem after_discardData (hview : BlindToReader view) (h : FrameHeader) (s : Session) :
    view (after discardData (h, s)).2 = view s := by
  unfold discardData
  rw [Act.after_within]
  exact hview _ s

/-- What follows a header that was accepted. -/
theorem keeps_payload (hview : BlindToReader view)
    (hmessage : ∀ m s, view { s with message := m } = view s) (o : Option FrameHeader) :
    Keeps view (match o with
      | none => pure (some (.close CloseCode.noClose.number .empty))
      | some h => do
        if h.length > (← get).maxMessageLength then Act.fail (.webSocket .messageTooLong)
        else if h.op.isControl then return some (← readControl h)
        else readPart h) := by
  cases o with
  | none => exact .pure _
  | some h =>
    refine Keeps.getState.bind fun s => ?_
    split
    · exact .fail _
    · split
      · exact (keeps_readControl hview h).bind fun _ => .pure _
      · exact keeps_readPart hview hmessage h

end

/-! ## 3. Reading a header -/

/-- Everything that reading a header can come to. -/
inductive HeaderRead (s : Session) : Prop where
  /-- The receiving side is closed. -/
  | shut : s.readClosed = true → readHeader s = .error (.failed .shutdown) s → HeaderRead s
  /-- There is no header to be read, and no end of the stream in its place. -/
  | halted (halt : Halt Error) (r : Reader) : s.readClosed = false →
      FrameHeader.read s.reader = .error halt r →
      readHeader s = .error halt { s with reader := r } → HeaderRead s
  /-- The stream ends. -/
  | ended (r : Reader) : s.readClosed = false → FrameHeader.read s.reader = .ok none r →
      readHeader s = .ok none { s with reader := r, readClosed := true } → HeaderRead s
  /-- A header is read and not accepted. -/
  | refused (fault : WebSocketError) (r : Reader) (h : FrameHeader) (continuing : Bool) :
      s.readClosed = false → FrameHeader.read s.reader = .ok (some h) r →
      readHeader s = .error (.failed (.webSocket fault)) { s with reader := r, continuing } →
      HeaderRead s
  /-- A header is accepted. -/
  | accepted (r : Reader) (h : FrameHeader) : s.readClosed = false →
      FrameHeader.read s.reader = .ok (some h) r →
      readHeader s = .ok (some h) (follow { s with reader := r } h) → HeaderRead s

/-- A header is accepted, or refused without closing the receiving side. -/
theorem acceptHeader_cases (h : FrameHeader) (s : Session) :
    (∃ fault continuing,
      acceptHeader h s = .error (.failed (.webSocket fault)) { s with continuing }) ∨
    acceptHeader h s = .ok () (s.follow h) := by
  unfold acceptHeader
  split
  · next fault _ => exact .inl ⟨fault, s.continuing, rfl⟩
  · split
    · exact .inl ⟨.serverMasked, _, rfl⟩
    · exact .inr rfl

/-- A closed receiving side reads no header. -/
theorem readHeader_shut {s : Session} (hclosed : s.readClosed = true) :
    readHeader s = .error (.failed .shutdown) s := by
  unfold readHeader
  rw [if_pos hclosed]

theorem headerRead (s : Session) : HeaderRead s := by
  cases hclosed : s.readClosed with
  | true => exact .shut hclosed (readHeader_shut hclosed)
  | false =>
    have hopen : ¬ s.readClosed = true := by simp [hclosed]
    cases hread : FrameHeader.read s.reader with
    | error halt r =>
      refine .halted halt r hclosed hread ?_
      unfold readHeader
      rw [if_neg hopen, onReader_fail hread]
    | ok o r =>
      cases o with
      | none =>
        refine .ended r hclosed hread ?_
        unfold readHeader
        rw [if_neg hopen, onReader_run hread]
      | some h =>
        rcases acceptHeader_cases h { s with reader := r } with
          ⟨fault, continuing, haccept⟩ | haccept
        · refine .refused fault r h continuing hclosed hread ?_
          unfold readHeader
          rw [if_neg hopen, onReader_run hread]
          dsimp only
          rw [haccept]
        · refine .accepted r h hclosed hread ?_
          unfold readHeader
          rw [if_neg hopen, onReader_run hread]
          dsimp only
          rw [haccept]

/-- **In place of a header there is an end only where no byte is ahead**, and the stream ends. -/
theorem read_none_iff (r : Reader) :
    (∃ r', FrameHeader.read r = .ok none r') ↔ r.ahead = [] ∧ r.inflow.ending = .eof := by
  constructor
  · rintro ⟨r', hread⟩
    obtain ⟨o, q, htake, hrest⟩ := Act.bind_eq_ok.1 hread
    have hexact : Reader.readExactly? 2 r = .ok o q := Act.mapError_eq_ok.1 htake
    cases o with
    | none => exact Reader.readExactly?_eq_none (by decide) hexact
    | some bytes =>
      -- Two bytes are there, so what is left is a header or a fault.
      match bytes, Reader.length_of_readExactly? hexact with
      | [first, second], _ =>
        obtain ⟨h, r3, -, hsome⟩ := Act.bind_eq_ok.1 hrest
        cases hsome
  · rintro ⟨hahead, hend⟩
    obtain ⟨r', -, hread⟩ := FrameHeader.read_none hahead hend
    exact ⟨r', hread⟩

/-- Where reading a header comes to anything else, there is a byte, or no end. -/
theorem not_ended {r : Reader} (h : ∀ r', FrameHeader.read r ≠ .ok none r') :
    ¬ (r.ahead = [] ∧ r.inflow.ending = .eof) := by
  intro hend
  obtain ⟨r', hread⟩ := (read_none_iff r).2 hend
  exact h r' hread

/-- A payload is read only where it is there as a whole. -/
theorem readExact_ok {n : Nat} {r r' : Reader} {got : Bytes} (h : readExact n r = .ok got r') :
    got = r.ahead.take n ∧ n ≤ r.ahead.length ∧ r'.ahead = r.ahead.drop n := by
  obtain ⟨houtcome, hpassed⟩ := (ends_readExact r n).of_ok h
  split at houtcome
  · next hthere => cases houtcome; exact ⟨rfl, hthere, hpassed.ahead⟩
  · cases houtcome

/-! ## 4. Where the receiving side closes -/

/-- A header is due, and a close frame is accepted or the stream ends. -/
def MeetsEnd (s : Session) : Prop :=
  s.readClosed = false ∧
    ((∃ h s', readHeader s = .ok (some h) s' ∧ h.op = .close) ∨
      s.reader.ahead = [] ∧ s.reader.inflow.ending = .eof)

/-- **Reading a header closes the receiving side exactly there.** -/
theorem readHeader_closes (s : Session) :
    s.readClosed = false ∧ (after readHeader s).readClosed = true ↔ s.MeetsEnd := by
  unfold MeetsEnd
  cases headerRead s with
  | shut hclosed _ => simp [hclosed]
  | halted halt r hopen hread h =>
    have hnone := not_ended fun r' => by rw [hread]; nofun
    rw [Act.after_error h, h]
    simp [hopen, hnone]
  | ended r hopen hread h =>
    have hend := (read_none_iff s.reader).1 ⟨r, hread⟩
    rw [Act.after_ok h]
    simp [hopen, hend]
  | refused fault r header continuing hopen hread h =>
    have hnone := not_ended fun r' => by rw [hread]; nofun
    rw [Act.after_error h, h]
    simp [hopen, hnone]
  | accepted r header hopen hread h =>
    have hnone := not_ended fun r' => by rw [hread]; nofun
    rw [Act.after_ok h, h]
    simp [follow, hopen, hnone]

/-- The receiving side is looked at. -/
theorem blind_readClosed : BlindToReader readClosed := fun _ _ => rfl

/-- The rest of a frame does not close the receiving side. -/
theorem nextPart_closes (s : Session) :
    (after nextPart s).readClosed = (after readHeader s).readClosed := by
  unfold nextPart
  cases h : readHeader s with
  | error halt s' => rw [Act.after_bind_error h, Act.after_error h]
  | ok o s' =>
    rw [Act.after_bind_ok h, Act.after_ok h]
    exact keeps_payload blind_readClosed (fun _ _ => rfl) o s'

/-- Receiving goes on behind a part of a message, which leaves the receiving side open. -/
theorem open_of_part {s s' : Session} (h : nextPart s = .ok none s') :
    ¬ s.MeetsEnd ∧ s.readClosed = false ∧ s'.readClosed = false := by
  obtain ⟨o, s1, hheader, hrest⟩ := Act.bind_eq_ok.1 h
  have hcloses := nextPart_closes s
  rw [Act.after_ok h] at hcloses
  cases headerRead s with
  | shut _ h' => rw [h'] at hheader; cases hheader
  | halted halt r _ _ h' => rw [h'] at hheader; cases hheader
  | ended r _ _ h' => rw [h'] at hheader; cases hheader; cases hrest
  | refused fault r header continuing _ _ h' => rw [h'] at hheader; cases hheader
  | accepted r header hopen hread h' =>
    rw [h'] at hheader
    cases hheader
    -- A control frame would have been returned.
    have hop : header.op ≠ .close := by
      intro hop
      have hcontrol : header.op.isControl = true := by rw [hop]; rfl
      obtain ⟨s2, s3, -, hrest⟩ := Act.bind_eq_ok.1 hrest
      split at hrest
      · cases hrest
      · obtain ⟨frame, s4, -, hsome⟩ := Act.bind_eq_ok.1 hrest
        cases hsome
    have hnot : ¬ s.MeetsEnd := by
      rintro ⟨-, ⟨header', s2, hread', hclose⟩ | hend⟩
      · rw [h'] at hread'
        cases hread'
        exact hop hclose
      · exact not_ended (fun r' => by rw [hread]; nofun) hend
    refine ⟨hnot, hopen, ?_⟩
    rw [hcloses]
    have hiff := readHeader_closes s
    cases hclosed : (after readHeader s).readClosed with
    | false => rfl
    | true => exact absurd (hiff.1 ⟨hopen, hclosed⟩) hnot

theorem after_recv_part {s s' : Session} (h : nextPart s = .ok none s') :
    after recv s = after recv s' := Act.after_congr (recv_part h)

/-- Receiving in `s` reads a header in `u`: at once, or behind parts of a message. -/
inductive ReadsAt : Session → Session → Prop where
  | first (s : Session) : ReadsAt s s
  | next {s s' u : Session} : nextPart s = .ok none s' → ReadsAt s' u → ReadsAt s u

theorem readsAt_of_not_part {s u : Session} (h : ∀ s', nextPart s ≠ .ok none s') :
    ReadsAt s u ↔ u = s := by
  constructor
  · rintro (_ | ⟨hnext, -⟩)
    · rfl
    · exact absurd hnext (h _)
  · rintro rfl
    exact .first u

theorem readsAt_of_part {s s' u : Session} (h : nextPart s = .ok none s') :
    ReadsAt s u ↔ u = s ∨ ReadsAt s' u := by
  constructor
  · rintro (_ | ⟨hnext, hu⟩)
    · exact .inl rfl
    · rw [h] at hnext
      cases hnext
      exact .inr hu
  · rintro (rfl | hu)
    · exact .first u
    · exact .next h hu

/-- Receiving that reads one header. -/
theorem closes_once {s t : Session} (hnot : ∀ s', nextPart s ≠ .ok none s')
    (hafter : t = after nextPart s) :
    s.readClosed = false ∧ t.readClosed = true ↔ ∃ u, ReadsAt s u ∧ u.MeetsEnd := by
  rw [hafter, nextPart_closes, readHeader_closes]
  constructor
  · intro hend
    exact ⟨s, .first s, hend⟩
  · rintro ⟨u, hu, hend⟩
    rw [(readsAt_of_not_part hnot).1 hu] at hend
    exact hend

/-- **Receiving closes the receiving side exactly if it meets its end at one of the headers.** -/
theorem recv_closes (s : Session) :
    s.readClosed = false ∧ (after recv s).readClosed = true ↔ ∃ u, ReadsAt s u ∧ u.MeetsEnd := by
  induction hsize : s.ahead using Nat.strongRecOn generalizing s with
  | ind size ih =>
    cases hnext : nextPart s with
    | error halt s' =>
      refine closes_once (fun _ hpart => by rw [hnext] at hpart; cases hpart) ?_
      rw [Act.after_error (recv_error hnext), Act.after_error hnext]
    | ok o s' =>
      cases o with
      | some frame =>
        refine closes_once (fun _ hpart => by rw [hnext] at hpart; cases hpart) ?_
        rw [Act.after_ok (recv_frame hnext), Act.after_ok hnext]
      | none =>
        obtain ⟨hnot, hopen, hopen'⟩ := open_of_part hnext
        have hrest := ih s'.ahead (hsize ▸ progress_nextPart hnext) s' rfl
        rw [after_recv_part hnext]
        constructor
        · rintro ⟨-, hclosed⟩
          obtain ⟨u, hu, hend⟩ := hrest.1 ⟨hopen', hclosed⟩
          exact ⟨u, .next hnext hu, hend⟩
        · rintro ⟨u, hu, hend⟩
          rcases (readsAt_of_part hnext).1 hu with rfl | hu
          · exact absurd hend hnot
          · exact ⟨hopen, (hrest.2 ⟨u, hu, hend⟩).2⟩

/-- Receiving frame after frame in `s` reads a header in `u`. -/
inductive ReadsAllAt : Session → Session → Prop where
  | first {s u : Session} : s.readClosed = false → ReadsAt s u → ReadsAllAt s u
  | next {s s' u : Session} {frame : Frame} : s.readClosed = false → recv s = .ok frame s' →
      ReadsAllAt s' u → ReadsAllAt s u

/-- Receiving frame after frame closes the receiving side in the same way. -/
theorem recvAll_closes (s : Session) :
    s.readClosed = false ∧ s.recvAll.session.readClosed = true ↔
      ∃ u, ReadsAllAt s u ∧ u.MeetsEnd := by
  suffices h : ∀ got, s.readClosed = false ∧ (recvAllFrom got s).session.readClosed = true ↔
      ∃ u, ReadsAllAt s u ∧ u.MeetsEnd from h []
  intro got
  induction hsize : s.ahead using Nat.strongRecOn generalizing s got with
  | ind size ih =>
    have hrecv := recv_closes s
    cases hopen : s.readClosed with
    | true =>
      constructor
      · rintro ⟨h, -⟩
        cases h
      · rintro ⟨u, hu, -⟩
        cases hu with
        | first hopen' _ => rw [hopen] at hopen'; cases hopen'
        | next hopen' _ _ => rw [hopen] at hopen'; cases hopen'
    | false =>
      rw [hopen] at hrecv
      cases hnext : recv s with
      | error halt s' =>
        rw [Act.after_error hnext] at hrecv
        rw [recvAllFrom_error hopen hnext]
        constructor
        · intro hclosed
          obtain ⟨u, hu, hend⟩ := hrecv.1 hclosed
          exact ⟨u, .first hopen hu, hend⟩
        · rintro ⟨u, hu, hend⟩
          cases hu with
          | first _ hu => exact hrecv.2 ⟨u, hu, hend⟩
          | next _ hframe _ => rw [hnext] at hframe; cases hframe
      | ok frame s' =>
        rw [Act.after_ok hnext] at hrecv
        rw [recvAllFrom_frame hopen hnext]
        cases hopen' : s'.readClosed with
        | true =>
          rw [recvAllFrom_closed hopen']
          obtain ⟨u, hu, hend⟩ := hrecv.1 ⟨rfl, hopen'⟩
          exact ⟨fun _ => ⟨u, .first hopen hu, hend⟩, fun _ => ⟨rfl, hopen'⟩⟩
        | false =>
          have hrest := ih s'.ahead (hsize ▸ progress_recv hnext) s' (frame :: got) rfl
          rw [hopen'] at hrest hrecv
          constructor
          · intro hclosed
            obtain ⟨u, hu, hend⟩ := hrest.1 hclosed
            exact ⟨u, .next hopen hnext hu, hend⟩
          · rintro ⟨u, hu, hend⟩
            cases hu with
            | first _ hu => cases (hrecv.2 ⟨u, hu, hend⟩).2
            | next _ hframe hu =>
              rw [hnext] at hframe
              cases hframe
              exact hrest.2 ⟨u, hu, hend⟩

/-! ## 5. What belongs to the other side -/

/-- The session without what receiving changes. -/
def sendingSide (s : Session) : Session :=
  { s with reader := .ofInflow .empty, readClosed := false, continuing := false, message := none }

theorem outflow_of_side {s t : Session} (h : t.sendingSide = s.sendingSide) :
    t.outflow = s.outflow := by
  have hsame := congrArg outflow h
  exact hsame

theorem writeClosed_of_side {s t : Session} (h : t.sendingSide = s.sendingSide) :
    t.writeClosed = s.writeClosed := by
  have hsame := congrArg writeClosed h
  exact hsame

theorem sending_of_side {s t : Session} (h : t.sendingSide = s.sendingSide) :
    t.sending = s.sending := by
  have hsame := congrArg sending h
  exact hsame

/-- The session without what sending changes. -/
def receivingSide (s : Session) : Session :=
  { s with outflow := {}, entropy := {}, writeClosed := false, sending := none }

theorem blind_sendingSide : BlindToReader sendingSide := fun _ _ => rfl

theorem keeps_readHeader : Keeps sendingSide readHeader := by
  intro s
  cases headerRead s with
  | shut _ h => rw [Act.after_error h]
  | halted halt r _ _ h => rw [Act.after_error h]; rfl
  | ended r _ _ h => rw [Act.after_ok h]; rfl
  | refused fault r header continuing _ _ h => rw [Act.after_error h]; rfl
  | accepted r header _ _ h => rw [Act.after_ok h]; rfl

theorem keeps_nextPart : Keeps sendingSide nextPart :=
  keeps_readHeader.bind fun o => keeps_payload blind_sendingSide (fun _ _ => rfl) o

theorem keeps_recv : Keeps sendingSide recv := by
  intro s
  induction hsize : s.ahead using Nat.strongRecOn generalizing s with
  | ind size ih =>
    cases hnext : nextPart s with
    | error halt s' =>
      rw [Act.after_error (recv_error hnext)]
      exact keeps_nextPart.error hnext
    | ok o s' =>
      cases o with
      | some frame =>
        rw [Act.after_ok (recv_frame hnext)]
        exact keeps_nextPart.ok hnext
      | none =>
        have hrest := ih s'.ahead (hsize ▸ progress_nextPart hnext) s' rfl
        rw [after_recv_part hnext, hrest]
        exact keeps_nextPart.ok hnext

theorem sendingSide_recvAll (s : Session) : s.recvAll.session.sendingSide = s.sendingSide := by
  suffices h : ∀ got, (recvAllFrom got s).session.sendingSide = s.sendingSide from h []
  intro got
  induction hsize : s.ahead using Nat.strongRecOn generalizing s got with
  | ind size ih =>
    cases hopen : s.readClosed with
    | true => rw [recvAllFrom_closed hopen]
    | false =>
      cases hrecv : recv s with
      | error halt s' =>
        rw [recvAllFrom_error hopen hrecv]
        exact keeps_recv.error hrecv
      | ok frame s' =>
        rw [recvAllFrom_frame hopen hrecv,
          ih s'.ahead (hsize ▸ progress_recv hrecv) s' (frame :: got) rfl]
        exact keeps_recv.ok hrecv

theorem keeps_onOutflow {α : Type} (x : Act IoError Outflow α) :
    Keeps receivingSide (onOutflow x) := by
  refine Keeps.mapError Error.io fun s => ?_
  rw [Act.after_within]
  rfl

theorem keeps_writeLast (bytes : Bytes) : Keeps receivingSide (writeLast bytes) :=
  (keeps_onOutflow _).timely.bind fun _ => .pure _

theorem keeps_kind (frame : Outgoing) : Keeps receivingSide (kind frame) := by
  intro s
  have hkind := kind_run frame s
  split at hkind
  · rw [Act.after_error hkind]
  · rw [Act.after_ok hkind]
    rfl

theorem keeps_write (frame : Outgoing) : Keeps receivingSide (write frame) := by
  unfold write
  refine Keeps.getState.bind fun s => ?_
  split
  · exact .fail _
  · refine Keeps.bind ?_ fun key => (keeps_kind frame).bind fun op => ?_
    · intro s
      obtain ⟨key, entropy, hdraw, -⟩ := drawKey_run s
      rw [Act.after_ok hdraw]
      rfl
    · dsimp only
      split
      · exact Keeps.bind (fun _ => rfl) fun _ => keeps_writeLast _
      · exact keeps_onOutflow _

theorem readClosed_write (s : Session) (frame : Outgoing) :
    (after (write frame) s).readClosed = s.readClosed := by
  have hsame := congrArg readClosed (keeps_write frame s)
  exact hsame

theorem readClosed_send (s : Session) (frame : Outgoing) :
    (after (send frame) s).readClosed = s.readClosed := by
  have hwrite := readClosed_write s frame
  unfold send
  cases h : write frame s with
  | error halt s' =>
    rw [Act.after_error h] at hwrite
    rw [Act.after_bind_error h, hwrite]
  | ok u s' =>
    rw [Act.after_ok h] at hwrite
    rw [Act.after_bind_ok h, ← hwrite]
    split
    · exact keeps_drainIfClosed blind_readClosed s'
    · rfl

/-! ## 6. What sending writes -/

/-- What was written of a frame. -/
structure Part where
  frame : Outgoing
  key : Option UInt32
  /-- The kind that the frame was sent as. -/
  kind : Opcode
  bytes : Bytes
  front : bytes <+: frameBytes key kind frame

/-- The frame was written to its end. -/
def Part.IsWhole (p : Part) : Prop := p.bytes = frameBytes p.key p.kind p.frame

/-- What was written between two sessions, where these frames were passed to be sent: parts of data
frames and control frames, and **at most one part of a close frame, behind all others**.  The
sending direction is ended only behind a close frame that was written to its end. -/
structure Written (s t : Session) (passed : List Outgoing) (data : List Part) (last : Option Part) :
    Prop where
  heard : t.outflow.heard = s.outflow.heard
  sent : t.outflow.sent = s.outflow.sent ++ (data ++ last.toList).flatMap Part.bytes
  frames : List.Sublist ((data ++ last.toList).map Part.frame) passed
  notClose : ∀ p ∈ data, p.kind ≠ .close
  isClose : ∀ p ∈ last, p.kind = .close
  /-- A closed sending side writes nothing. -/
  shut : s.writeClosed = true → t.writeClosed = true ∧ data = []
  /-- The close frame is where the sending side closes. -/
  closes : last.isSome = true ↔ s.writeClosed = false ∧ t.writeClosed = true
  shutdowns : t.outflow.shutdowns = s.outflow.shutdowns ∨
    t.outflow.shutdowns = s.outflow.shutdowns ++ [.write] ∧
      ∃ p ∈ last, s.outflow.heard = true → p.IsWhole

namespace Written

variable {s t u : Session} {passed more : List Outgoing} {data data' : List Part}
  {last last' : Option Part}

/-- Nothing is written. -/
theorem nothing (hheard : t.outflow.heard = s.outflow.heard)
    (hsent : t.outflow.sent = s.outflow.sent)
    (hshutdowns : t.outflow.shutdowns = s.outflow.shutdowns)
    (hclosed : t.writeClosed = s.writeClosed) (passed : List Outgoing) :
    Written s t passed [] none where
  heard := hheard
  sent := by simp [hsent]
  frames := List.nil_sublist _
  notClose := nofun
  isClose := nofun
  shut := fun h => ⟨hclosed.trans h, rfl⟩
  closes := by cases h : s.writeClosed <;> simp [hclosed, h]
  shutdowns := .inl hshutdowns

/-- Nothing is written where all that sending changes is as it was. -/
theorem of_sendingSide (h : t.sendingSide = s.sendingSide) (passed : List Outgoing) :
    Written s t passed [] none := by
  have houtflow := outflow_of_side h
  exact nothing (by rw [houtflow]) (by rw [houtflow]) (by rw [houtflow])
    (writeClosed_of_side h) passed

/-- What sending changes is all that counts. -/
theorem congr (h : Written s t passed data last) (hside : u.sendingSide = t.sendingSide) :
    Written s u passed data last := by
  have houtflow := outflow_of_side hside
  have hclosed := writeClosed_of_side hside
  refine ⟨?_, ?_, h.frames, h.notClose, h.isClose, ?_, ?_, ?_⟩
  · rw [houtflow]
    exact h.heard
  · rw [houtflow]
    exact h.sent
  · rw [hclosed]
    exact h.shut
  · rw [hclosed]
    exact h.closes
  · rw [houtflow]
    exact h.shutdowns

/-- A closed sending side stays silent. -/
theorem silent (h : Written s t passed data last) (hclosed : s.writeClosed = true) :
    data = [] ∧ last = none := by
  refine ⟨(h.shut hclosed).2, ?_⟩
  cases hlast : last with
  | none => rfl
  | some p =>
    have hcloses := h.closes.1 (by rw [hlast]; rfl)
    rw [hclosed] at hcloses
    cases hcloses.1

/-- While the sending side is open there is no close frame. -/
theorem no_last (h : Written s t passed data last) (hopen : t.writeClosed = false) :
    last = none := by
  cases hlast : last with
  | none => rfl
  | some p =>
    have hcloses := h.closes.1 (by rw [hlast]; rfl)
    rw [hopen] at hcloses
    cases hcloses.2

/-- **One after the other.**  Either the sending side is open in between, and there is no close
frame yet, or it is closed, and nothing follows. -/
theorem trans (h : Written s t passed data last) (h' : Written t u more data' last') :
    ∃ data'' last'', Written s u (passed ++ more) data'' last'' := by
  cases hmid : t.writeClosed with
  | false =>
    have hnone := h.no_last hmid
    subst hnone
    have hstart : s.writeClosed = false := by
      cases hclosed : s.writeClosed with
      | false => rfl
      | true => rw [(h.shut hclosed).1] at hmid; cases hmid
    have hsame : t.outflow.shutdowns = s.outflow.shutdowns := by
      rcases h.shutdowns with hsame | ⟨-, p, hp, -⟩
      · exact hsame
      · cases hp
    refine ⟨data ++ data', last', ?_, ?_, ?_, ?_, h'.isClose, ?_, ?_, ?_⟩
    · rw [h'.heard, h.heard]
    · rw [h'.sent, h.sent]
      simp
    · have hboth := h.frames.append h'.frames
      simpa using hboth
    · intro p hp
      rcases List.mem_append.1 hp with hp | hp
      · exact h.notClose p hp
      · exact h'.notClose p hp
    · rw [hstart]
      nofun
    · have hcloses := h'.closes
      rw [hmid] at hcloses
      rw [hstart]
      exact hcloses
    · rw [← hsame, ← h.heard]
      exact h'.shutdowns
  | true =>
    obtain ⟨hdata, hlast⟩ := h'.silent hmid
    subst hdata hlast
    have hclosed := (h'.shut hmid).1
    have hsame : u.outflow.shutdowns = t.outflow.shutdowns := by
      rcases h'.shutdowns with hsame | ⟨-, p, hp, -⟩
      · exact hsame
      · cases hp
    refine ⟨data, last, ?_, ?_, ?_, h.notClose, h.isClose, ?_, ?_, ?_⟩
    · rw [h'.heard, h.heard]
    · rw [h'.sent, h.sent]
      simp
    · exact h.frames.trans (List.sublist_append_left _ _)
    · intro hstart
      exact ⟨hclosed, (h.shut hstart).2⟩
    · have hcloses := h.closes
      rw [hmid] at hcloses
      rw [hclosed]
      exact hcloses
    · rw [hsame]
      exact h.shutdowns

end Written

theorem send_shut {s : Session} (hclosed : s.writeClosed = true) (frame : Outgoing) :
    send frame s = .error (.failed .shutdown) s :=
  Act.bind_error (write_shut hclosed frame)

/-- What is passed on the sending side is a close frame that is not too long. -/
def IsValidClose (frame : Outgoing) : Prop :=
  frame.op = .close ∧ frame.payload.length ≤ controlLimit .close

/-- On an open sending side, only a close frame that is too long is refused. -/
theorem refusal?_close {s : Session} {frame : Outgoing} (hopen : s.writeClosed = false)
    (hop : frame.op = .close) : s.refusal? frame = none ↔ IsValidClose frame := by
  have hcontrol : Opcode.isControl .close = true := rfl
  unfold refusal? fault? IsValidClose
  rw [hop, if_neg (by simp [hopen]), if_pos hcontrol]
  simp

/-- A frame that is not refused gets a key and a kind, and is then written. -/
theorem write_eq {s : Session} {frame : Outgoing} (h : s.refusal? frame = none) :
    ∃ key entropy, key.isSome = s.isClient ∧ write frame s =
      (if wireKind s.sending frame = .close then do
        modify fun s => { s with writeClosed := true }
        writeLast (frameBytes key (wireKind s.sending frame) frame)
      else onOutflow (Outflow.write (frameBytes key (wireKind s.sending frame) frame)))
        { s with entropy, sending := sendingBehind s.sending frame } := by
  have hget : (get : Act Error Session Session) s = .ok s s := rfl
  unfold refusal? at h
  by_cases hclosed : s.writeClosed
  · rw [if_pos hclosed] at h; cases h
  rw [if_neg hclosed] at h
  obtain ⟨key, entropy, hdraw, hmasked⟩ := drawKey_run s
  have hkind := kind_run frame { s with entropy }
  rw [show ({ s with entropy } : Session).sending = s.sending from rfl,
    Option.map_eq_none_iff.1 h] at hkind
  dsimp only at hkind
  refine ⟨key, entropy, hmasked, ?_⟩
  unfold write
  rw [Act.bind_ok hget, if_neg hclosed, Act.bind_ok hdraw, Act.bind_ok hkind]

theorem after_onOutflow {α : Type} (x : Act IoError Outflow α) (s : Session) :
    after (onOutflow x) s = { s with outflow := after x s.outflow } := by
  unfold onOutflow
  rw [Act.after_mapError, Act.after_within]

theorem after_writeLast (bytes : Bytes) (s : Session) :
    after (writeLast bytes) s =
      { s with outflow := after (do Outflow.write bytes; Outflow.close) s.outflow } := by
  unfold writeLast
  rw [Act.after_bind_pure, Act.after_timely, after_onOutflow]

/-- The session behind a frame that does not close it. -/
theorem after_write_data {s : Session} {frame : Outgoing} (hop : frame.op ≠ .close)
    (h : s.refusal? frame = none) :
    ∃ key entropy part, key.isSome = s.isClient ∧
      s.outflow.Puts (frameBytes key (wireKind s.sending frame) frame) part ∧
      after (write frame) s = { s with
        outflow := s.outflow.push part, entropy, sending := sendingBehind s.sending frame } := by
  obtain ⟨key, entropy, hmasked, hwrite⟩ := write_eq h
  obtain ⟨part, hputs⟩ := s.outflow.write_puts (frameBytes key (wireKind s.sending frame) frame)
  rw [if_neg fun hkind => hop (wireKind_eq_close.1 hkind)] at hwrite
  refine ⟨key, entropy, part, hmasked, hputs, ?_⟩
  rw [Act.after_congr hwrite, after_onOutflow, ← hputs.after]

/-- The session behind a close frame. -/
theorem after_write_close {s : Session} {frame : Outgoing} (hop : frame.op = .close)
    (h : s.refusal? frame = none) :
    ∃ key entropy part, key.isSome = s.isClient ∧
      s.outflow.Puts (frameBytes key (wireKind s.sending frame) frame) part ∧
      after (write frame) s = { s with
        outflow := s.outflow.pushLast (frameBytes key (wireKind s.sending frame) frame) part
        writeClosed := true, entropy, sending := sendingBehind s.sending frame } := by
  obtain ⟨key, entropy, hmasked, hwrite⟩ := write_eq h
  obtain ⟨part, hputs⟩ := s.outflow.write_puts (frameBytes key (wireKind s.sending frame) frame)
  rw [if_pos (wireKind_eq_close.2 hop)] at hwrite
  refine ⟨key, entropy, part, hmasked, hputs, ?_⟩
  refine (Act.after_congr hwrite).trans ((Act.after_bind_ok rfl).trans ?_)
  rw [after_writeLast, Outflow.after_last hputs]

/-- **A data frame, or a control frame that does not close, is written as far as the connection
takes it.** -/
theorem written_data {s : Session} {frame : Outgoing} (hopen : s.writeClosed = false)
    (hop : frame.op ≠ .close) (h : s.refusal? frame = none) :
    (after (write frame) s).writeClosed = false ∧
      ∃ p, Written s (after (write frame) s) [frame] [p] none := by
  obtain ⟨key, entropy, part, -, hputs, hafter⟩ := after_write_data hop h
  have hkind : wireKind s.sending frame ≠ .close := fun hkind => hop (wireKind_eq_close.1 hkind)
  have hopen' : (after (write frame) s).writeClosed = false := by
    rw [hafter]
    exact hopen
  refine ⟨hopen', ⟨frame, key, wireKind s.sending frame, s.outflow.noted part,
    Outflow.noted_prefix hputs.front⟩, ?_⟩
  rw [hafter] at hopen' ⊢
  refine ⟨?_, ?_, ?_, ?_, nofun, ?_, ?_, .inl ?_⟩
  · simp
  · simp
  · simp
  · intro p hp
    rw [List.mem_singleton.1 hp]
    exact hkind
  · rw [hopen]
    nofun
  · rw [hopen']
    simp
  · simp

/-- **A close frame closes the sending side, whatever becomes of its bytes.** -/
theorem written_close {s : Session} {frame : Outgoing} (hopen : s.writeClosed = false)
    (hop : frame.op = .close) (h : s.refusal? frame = none) :
    (after (write frame) s).writeClosed = true ∧
      ∃ p, Written s (after (write frame) s) [frame] [] (some p) := by
  obtain ⟨key, entropy, part, -, hputs, hafter⟩ := after_write_close hop h
  have hkind : wireKind s.sending frame = .close := wireKind_eq_close.2 hop
  have hclosed : (after (write frame) s).writeClosed = true := by rw [hafter]
  refine ⟨hclosed, ⟨frame, key, wireKind s.sending frame, s.outflow.noted part,
    Outflow.noted_prefix hputs.front⟩, ?_⟩
  rw [hafter]
  refine ⟨?_, ?_, ?_, nofun, ?_, ?_, ?_, ?_⟩
  · simp
  · simp
  · simp
  · intro p hp
    cases hp
    exact hkind
  · simp
  · simp [hopen]
  · rcases Outflow.shutdowns_pushLast hputs with hsame | ⟨hended, hwhole⟩
    · exact .inl hsame
    · refine .inr ⟨hended, _, rfl, fun hheard => ?_⟩
      unfold Part.IsWhole
      dsimp only
      unfold Outflow.noted
      rw [if_pos hheard, hwhole]

/-- A frame that is refused changes where masking keys come from, and nothing else. -/
theorem written_refused {s : Session} {frame : Outgoing} {e : Error}
    (h : s.refusal? frame = some e) :
    (after (write frame) s).writeClosed = s.writeClosed ∧
      Written s (after (write frame) s) [frame] [] none := by
  obtain ⟨entropy, hwrite⟩ := write_refused h
  rw [Act.after_error hwrite]
  refine ⟨rfl, Written.nothing ?_ ?_ ?_ ?_ _⟩ <;> rfl

/-- **What writing a frame does on the sending side**: it closes exactly at a valid close frame. -/
theorem write_closes (s : Session) (frame : Outgoing) :
    (s.writeClosed = false ∧ (after (write frame) s).writeClosed = true ↔
      s.writeClosed = false ∧ IsValidClose frame) ∧
    ∃ data last, Written s (after (write frame) s) [frame] data last := by
  cases hopen : s.writeClosed with
  | true =>
    rw [Act.after_error (write_shut hopen frame)]
    exact ⟨by simp, [], none, .of_sendingSide rfl _⟩
  | false =>
    cases hrefusal : s.refusal? frame with
    | some e =>
      obtain ⟨hsame, hwritten⟩ := written_refused hrefusal
      have hnot : ¬ IsValidClose frame := by
        intro hvalid
        rw [(refusal?_close hopen hvalid.1).2 hvalid] at hrefusal
        cases hrefusal
      refine ⟨?_, [], none, hwritten⟩
      rw [hsame, hopen]
      simp [hnot]
    | none =>
      by_cases hop : frame.op = .close
      · obtain ⟨hclosed, p, hwritten⟩ := written_close hopen hop hrefusal
        refine ⟨?_, [], some p, hwritten⟩
        simp [hclosed, (refusal?_close hopen hop).1 hrefusal]
      · obtain ⟨hopen', p, hwritten⟩ := written_data hopen hop hrefusal
        refine ⟨?_, [p], none, hwritten⟩
        simp [hopen', IsValidClose, hop]

/-- Waiting for the peer behind a close frame sends nothing. -/
theorem sendingSide_send (s : Session) (frame : Outgoing) :
    (after (send frame) s).sendingSide = (after (write frame) s).sendingSide := by
  unfold send
  cases hwrite : write frame s with
  | error halt s' => rw [Act.after_bind_error hwrite, Act.after_error hwrite]
  | ok u s' =>
    rw [Act.after_bind_ok hwrite, Act.after_ok hwrite]
    split
    · exact keeps_drainIfClosed blind_sendingSide s'
    · rfl

/-! ## 7. Runs -/

/-- What happens to a session: a call of it or of one of its halves, or a change of the network,
which may bring other bytes and take others from then on. -/
inductive Event where
  | send (frame : Outgoing)
  /-- Sending by the half that sends. -/
  | write (frame : Outgoing)
  | recv
  | recvAll
  | readHeader
  | readData (h : FrameHeader) (n : Nat)
  | discardData (h : FrameHeader)
  | network (inflow : Inflow) (limit : Option WriteLimit) (shutdownFault : Option IoError)

namespace Event

/-- The session behind an event, whether a call has a value, fails or waits for ever. -/
def next (s : Session) : Event → Session
  | send frame => after (Session.send frame) s
  | write frame => after (Session.write frame) s
  | recv => after Session.recv s
  | recvAll => s.recvAll.session
  | readHeader => after Session.readHeader s
  | readData h n => after (Session.readData h n) s
  | discardData h => (after Session.discardData (h, s)).2
  | network inflow limit shutdownFault => { s with
      reader := { s.reader with inflow }
      outflow := { s.outflow with limit, shutdownFault } }

/-- The frames that an event passes to be sent. -/
def passed : Event → List Outgoing
  | send frame => [frame]
  | write frame => [frame]
  | _ => []

/-- In the session `s` the event reads a header in the session `u`. -/
def ReadsAt (s u : Session) : Event → Prop
  | recv => Session.ReadsAt s u
  | recvAll => Session.ReadsAllAt s u
  | readHeader => u = s
  | _ => False

end Event

/-- The session behind a run. -/
def run (s : Session) (events : List Event) : Session := events.foldl Event.next s

theorem run_concat (s : Session) (events : List Event) (e : Event) :
    s.run (events ++ [e]) = e.next (s.run events) := by
  unfold run
  rw [List.foldl_append]
  rfl

theorem run_append (s : Session) (events more : List Event) :
    s.run (events ++ more) = (s.run events).run more := List.foldl_append

/-- **What an event does on the sending side**: it closes exactly at a valid close frame. -/
theorem next_sending (s : Session) (e : Event) :
    (s.writeClosed = false ∧ (e.next s).writeClosed = true ↔
      s.writeClosed = false ∧ ∃ frame ∈ e.passed, IsValidClose frame) ∧
    ∃ data last, Written s (e.next s) e.passed data last := by
  have hquiet {t : Session} (h : t.sendingSide = s.sendingSide) :
      (s.writeClosed = false ∧ t.writeClosed = true ↔
        s.writeClosed = false ∧ ∃ frame ∈ ([] : List Outgoing), IsValidClose frame) ∧
      ∃ data last, Written s t [] data last := by
    refine ⟨?_, [], none, .of_sendingSide h []⟩
    rw [writeClosed_of_side h]
    simp
  cases e with
  | write frame => simpa [Event.next, Event.passed] using write_closes s frame
  | send frame =>
    obtain ⟨hcloses, data, last, hwritten⟩ := write_closes s frame
    have hside := sendingSide_send s frame
    refine ⟨?_, data, last, hwritten.congr hside⟩
    rw [show (Event.next s (.send frame)).writeClosed = (after (Session.write frame) s).writeClosed
      from writeClosed_of_side hside]
    simpa [Event.passed] using hcloses
  | recv => exact hquiet (keeps_recv s)
  | recvAll => exact hquiet (sendingSide_recvAll s)
  | readHeader => exact hquiet (keeps_readHeader s)
  | readData h n => exact hquiet (keeps_readData blind_sendingSide h n s)
  | discardData h => exact hquiet (after_discardData blind_sendingSide h s)
  | network inflow limit shutdownFault =>
    have hnothing : Written s (Event.next s (.network inflow limit shutdownFault)) [] [] none := by
      refine Written.nothing ?_ ?_ ?_ ?_ [] <;> rfl
    refine ⟨?_, [], none, hnothing⟩
    simp [Event.next, Event.passed]

/-- **What an event does on the receiving side**: it closes exactly where a header is due, and a
close frame is accepted or the stream ends. -/
theorem next_receiving (s : Session) (e : Event) :
    s.readClosed = false ∧ (e.next s).readClosed = true ↔
      ∃ u, e.ReadsAt s u ∧ u.MeetsEnd := by
  have hquiet {t : Session} (h : t.readClosed = s.readClosed) :
      s.readClosed = false ∧ t.readClosed = true ↔ ∃ u : Session, False ∧ u.MeetsEnd := by
    rw [h]
    simp
  cases e with
  | send frame => exact hquiet (readClosed_send s frame)
  | write frame => exact hquiet (readClosed_write s frame)
  | recv => exact recv_closes s
  | recvAll => exact recvAll_closes s
  | readHeader =>
    simp only [Event.next, Event.ReadsAt, exists_eq_left]
    exact readHeader_closes s
  | readData h n => exact hquiet (keeps_readData blind_readClosed h n s)
  | discardData h => exact hquiet (after_discardData blind_readClosed h s)
  | network inflow limit shutdownFault => exact hquiet rfl

theorem recv_shut {s : Session} (hclosed : s.readClosed = true) :
    recv s = .error (.failed .shutdown) s :=
  recv_error (Act.bind_error (readHeader_shut hclosed))

/-- A direction that is closed stays closed. -/
theorem next_closed {s : Session} (e : Event) :
    (s.readClosed = true → (e.next s).readClosed = true) ∧
      (s.writeClosed = true → (e.next s).writeClosed = true) := by
  constructor
  · intro hclosed
    cases e with
    | send frame => exact (readClosed_send s frame).trans hclosed
    | write frame => exact (readClosed_write s frame).trans hclosed
    | recv =>
      rw [Event.next, Act.after_error (recv_shut hclosed)]
      exact hclosed
    | recvAll =>
      rw [Event.next, show s.recvAll = _ from recvAllFrom_closed hclosed []]
      exact hclosed
    | readHeader =>
      rw [Event.next, Act.after_error (readHeader_shut hclosed)]
      exact hclosed
    | readData h n => exact (keeps_readData blind_readClosed h n s).trans hclosed
    | discardData h => exact (after_discardData blind_readClosed h s).trans hclosed
    | network inflow limit shutdownFault => exact hclosed
  · intro hclosed
    obtain ⟨-, data, last, hwritten⟩ := next_sending s e
    exact (hwritten.shut hclosed).1

theorem run_closed {s : Session} (events : List Event) :
    (s.readClosed = true → (s.run events).readClosed = true) ∧
      (s.writeClosed = true → (s.run events).writeClosed = true) := by
  induction events generalizing s with
  | nil => exact ⟨id, id⟩
  | cons e events ih =>
    have hnext := next_closed (s := s) e
    exact ⟨fun h => ih.1 (hnext.1 h), fun h => ih.2 (hnext.2 h)⟩

/-- What a run writes. -/
theorem run_written (s : Session) (events : List Event) :
    ∃ data last, Written s (s.run events) (events.flatMap Event.passed) data last := by
  induction events generalizing s with
  | nil => exact ⟨[], none, .of_sendingSide rfl _⟩
  | cons e events ih =>
    obtain ⟨-, data, last, hwritten⟩ := next_sending s e
    obtain ⟨data', last', hwritten'⟩ := ih (e.next s)
    exact hwritten.trans hwritten'

/-- How a session has closed behind a run, and how it goes on. -/
structure Closes (s : Session) (events : List Event) : Prop where
  /-- A direction that is closed stays closed. -/
  staysRead : (s.run events).canRead = false →
    ∀ more, (s.run (events ++ more)).canRead = false
  staysWrite : (s.run events).canWrite = false →
    ∀ more, (s.run (events ++ more)).canWrite = false
  /-- The receiving side closes where a header is due, and nowhere else: a close frame is accepted,
  or the stream ends in front of its first byte. -/
  endsRead : (s.run events).canRead = true → ∀ e, (s.run (events ++ [e])).canRead = false ↔
    ∃ u, e.ReadsAt (s.run events) u ∧ u.MeetsEnd
  /-- The sending side closes at a valid close frame, and nowhere else. -/
  endsWrite : (s.run events).canWrite = true → ∀ e, (s.run (events ++ [e])).canWrite = false ↔
    ∃ frame ∈ e.passed, IsValidClose frame
  /-- At most one close frame is written, behind everything else. -/
  written : ∃ data last, Written s (s.run events) (events.flatMap Event.passed) data last
  /-- A closed receiving side receives nothing. -/
  shutRead : (s.run events).canRead = false →
    recv (s.run events) = .error (.failed .shutdown) (s.run events)
  /-- A closed sending side sends nothing, and changes nothing. -/
  shutWrite : (s.run events).canWrite = false → ∀ frame,
    send frame (s.run events) = .error (.failed .shutdown) (s.run events) ∧
      write frame (s.run events) = .error (.failed .shutdown) (s.run events)

/-- **Every run closes the session as it should**, whatever its calls come to and whatever becomes
of the network in between. -/
theorem closes_of_run (s : Session) (events : List Event) : s.Closes events := by
  have hread (t : Session) : t.canRead = false ↔ t.readClosed = true := by simp [canRead]
  have hwrite (t : Session) : t.canWrite = false ↔ t.writeClosed = true := by simp [canWrite]
  refine ⟨?_, ?_, ?_, ?_, run_written s events, ?_, ?_⟩
  · intro hclosed more
    rw [run_append, hread]
    exact (run_closed more).1 ((hread _).1 hclosed)
  · intro hclosed more
    rw [run_append, hwrite]
    exact (run_closed more).2 ((hwrite _).1 hclosed)
  · intro hopen e
    have hopen' : (s.run events).readClosed = false := by simpa [canRead] using hopen
    rw [run_concat, hread, ← next_receiving, hopen']
    simp
  · intro hopen e
    have hopen' : (s.run events).writeClosed = false := by simpa [canWrite] using hopen
    have hcloses := (next_sending (s.run events) e).1
    rw [hopen'] at hcloses
    rw [run_concat, hwrite]
    simpa using hcloses
  · intro hclosed
    exact recv_shut ((hread _).1 hclosed)
  · intro hclosed frame
    have hshut := (hwrite _).1 hclosed
    exact ⟨send_shut hshut frame, write_shut hshut frame⟩

end Session

end WebSocket

end UrlTransfer
