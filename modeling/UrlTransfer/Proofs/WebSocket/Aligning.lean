/-
# Where receiving looks for headers

A stream of frames is one header after the other, each with its payload behind it (`WireFrame`).
Receiving should look for headers where they start (`IsStart`), also when it goes on behind an
error.  It does so exactly as long as no call has failed for a header alone, in front of a payload,
with the receiving side left open (`Strands`): such a call leaves the payload where it is, and the
next call takes it for a header.  The other errors come behind the payload, so they do no harm.

One frame is `nextPart_rejected`, where its header has a fault, and `nextPart_passed`, where it has
none; one call is the last frame that it reads (`exists_lastRead`), and a run is an induction over
its calls.  The stream may end in any way, so section 1 says of parsers what holds whatever stands
behind the bytes that they take.
-/
import UrlTransfer.Proofs.WebSocket.Closing

namespace UrlTransfer

open Act (after Keeps)

/-! ## 1. Taking bytes off a stream that may end in any way -/

namespace Parser

variable {α β : Type}

/-- What the parser takes off the front of what is ahead, the action reads, **whatever stands
behind it**. -/
def ReadBy (f : Parser α) (x : Act Error Reader α) : Prop :=
  ∀ ⦃bytes a left⦄, f bytes = .ok (a, left) → ∀ ⦃r more⦄, r.ahead = bytes ++ more →
    ∃ r', x r = .ok a r' ∧ r'.ahead = left ++ more

namespace ReadBy

theorem pure (a : α) : ReadBy (Pure.pure a) (Pure.pure a) := by
  intro bytes b left h r more hahead
  cases h
  exact ⟨r, rfl, hahead⟩

theorem fail (error : Error) (x : Act Error Reader α) : ReadBy (Parser.fail error) x := by
  intro bytes a left h
  cases h

theorem bind {f : Parser α} {x : Act Error Reader α} {k : α → Parser β}
    {g : α → Act Error Reader β} (hf : ReadBy f x) (hk : ∀ a, ReadBy (k a) (g a)) :
    ReadBy (f >>= k) (x >>= g) := by
  intro bytes b left h r more hahead
  cases hparse : f bytes with
  | error e => rw [bind_error hparse] at h; cases h
  | ok p =>
    obtain ⟨a, left'⟩ := p
    rw [bind_ok hparse] at h
    obtain ⟨r', hr', hahead'⟩ := hf hparse hahead
    obtain ⟨r'', hr'', hahead''⟩ := hk a h hahead'
    exact ⟨r'', by rw [Act.bind_ok hr', hr''], hahead''⟩

theorem ite {p : Prop} [Decidable p] {f g : Parser α} {x y : Act Error Reader α}
    (hf : ReadBy f x) (hg : ReadBy g y) : ReadBy (if p then f else g) (if p then x else y) := by
  split
  · exact hf
  · exact hg

/-- An action that returns the next `n` bytes where there are as many. -/
theorem take {n : Nat} {x : Act Error Reader Bytes}
    (hx : ∀ r, n ≤ r.ahead.length →
      ∃ r', x r = .ok (r.ahead.take n) r' ∧ Reader.Passed n r r') :
    ReadBy (Parser.take n) x := by
  intro bytes got left h r more hahead
  by_cases hshort : bytes.length < n
  · rw [take_short hshort] at h; cases h
  · have hn : n ≤ bytes.length := Nat.not_lt.1 hshort
    rw [take_enough hn] at h
    cases h
    obtain ⟨r', hread, hpassed⟩ := hx r (by rw [hahead, List.length_append]; omega)
    rw [hahead, List.take_append_of_le_length hn] at hread
    refine ⟨r', hread, ?_⟩
    rw [hpassed.ahead, hahead, List.drop_append_of_le_length hn]

end ReadBy

end Parser

namespace WebSocket

namespace FrameHeader

theorem readBy_readNumber {width : Nat} (hwidth : 0 < width) :
    (number width).ReadBy (readNumber width) := by
  refine .bind (.take fun r h => ?_) fun _ => .pure _
  obtain ⟨r', hread, hpassed⟩ := Reader.readExactly_take hwidth h
  exact ⟨r', Act.mapError_ok hread, hpassed⟩

theorem readBy_readLength (second : Nat) : (lengthParser second).ReadBy (readLength second) := by
  refine .ite (readBy_readNumber (by decide)) (.ite ?_ (.pure _))
  exact (readBy_readNumber (by decide)).bind fun length => .ite (.pure length) (.fail _ _)

theorem readBy_readKey (second : Nat) : (keyParser second).ReadBy (readKey second) :=
  .ite (.pure none) ((readBy_readNumber (by decide)).bind fun _ => .pure _)

theorem readBy_readRest (first second : Nat) :
    (restParser first second).ReadBy (readRest first second) := by
  refine .ite (.fail _ _) ?_
  cases Opcode.ofCode? (first % 16) with
  | none => exact .fail _ _
  | some op =>
    exact (readBy_readLength second).bind fun _ => (readBy_readKey second).bind fun _ => .pure _

/-- **A header that is there is read**, whatever stands behind it. -/
theorem read_of_parsed {r : Reader} {bytes left more : Bytes} {h : FrameHeader}
    (hparse : parser bytes = .ok (some h, left)) (hahead : r.ahead = bytes ++ more) :
    ∃ r', read r = .ok (some h) r' ∧ r'.ahead = left ++ more := by
  match bytes with
  | [] => cases hparse
  | [_] => cases hparse
  | first :: second :: rest =>
    obtain ⟨q, -, hq, hread⟩ := read_cons (r := r) hahead
    rw [parser] at hparse
    split at hparse
    · next hrest =>
      cases hparse
      obtain ⟨r', hr', hahead'⟩ := readBy_readRest _ _ hrest hq
      exact ⟨r', by rw [hread, Act.bind_ok hr']; rfl, hahead'⟩
    · cases hparse

/-- Where nothing is ahead no header is read, and nothing is ahead then. -/
theorem read_empty {r : Reader} (h : r.ahead = []) :
    ∃ r', r'.ahead = [] ∧
      (read r = .ok none r' ∨ ∃ halt : Halt IoError, read r = .error (halt.map .io) r') := by
  have hends := Reader.ends_readExactly? (n := 2) (by decide) r
  rw [if_neg (by rw [h]; simp), h] at hends
  cases hending : r.inflow.ending with
  | eof =>
    obtain ⟨r', hpassed, hread⟩ := read_none h hending
    exact ⟨r', by rw [hpassed.ahead, h]; rfl, .inl hread⟩
  | hang =>
    rw [hending] at hends
    obtain ⟨r', hread, hpassed⟩ := hends
    refine ⟨r', by rw [hpassed.ahead, h]; rfl, .inr ⟨.stalled, ?_⟩⟩
    exact Act.bind_error (Act.mapError_error hread)
  | fault error =>
    rw [hending] at hends
    obtain ⟨r', hread, hpassed⟩ := hends
    refine ⟨r', by rw [hpassed.ahead, h]; rfl, .inr ⟨.failed error, ?_⟩⟩
    exact Act.bind_error (Act.mapError_error hread)

end FrameHeader

/-! ## 2. Streams of frames -/

/-- A frame on the wire: bytes that are a header, and the payload that it announces. -/
structure WireFrame where
  lead : Bytes
  header : FrameHeader
  payload : Bytes
  decodes : FrameHeader.parser lead = .ok (some header, [])
  length_payload : payload.length = header.length

namespace WireFrame

/-- The bytes of a frame. -/
def bytes (frame : WireFrame) : Bytes := frame.lead ++ frame.payload

/-- The bytes of frames, one after the other. -/
def stream (frames : List WireFrame) : Bytes := frames.flatMap bytes

/-- A frame starts with these bytes, the rest of the stream, or the stream ends there. -/
def IsStart (frames : List WireFrame) (rest : Bytes) : Prop :=
  ∃ later, later <:+ frames ∧ rest = stream later

theorem stream_cons (frame : WireFrame) (later : List WireFrame) :
    stream (frame :: later) = frame.lead ++ (frame.payload ++ stream later) := by
  rw [stream, List.flatMap_cons, bytes, List.append_assoc]
  rfl

theorem lead_ne_nil (frame : WireFrame) : frame.lead ≠ [] := by
  intro h
  have hdecodes := frame.decodes
  rw [h] at hdecodes
  cases hdecodes

theorem length_stream_le {early late : List WireFrame} (h : early <:+ late) :
    (stream early).length ≤ (stream late).length := by
  obtain ⟨front, rfl⟩ := h
  rw [stream, stream, List.flatMap_append, List.length_append]
  exact Nat.le_add_left _ _

/-- **Within a frame, behind its header, no frame starts.** -/
theorem not_isStart {frames later : List WireFrame} {frame : WireFrame}
    (h : frame :: later <:+ frames) (hpayload : frame.payload ≠ []) :
    ¬ IsStart frames (frame.payload ++ stream later) := by
  rintro ⟨others, hothers, heq⟩
  have hlead : 0 < frame.lead.length := List.length_pos_iff.2 frame.lead_ne_nil
  have hpos : 0 < frame.payload.length := List.length_pos_iff.2 hpayload
  have hlength := congrArg List.length heq
  rw [List.length_append] at hlength
  rcases List.suffix_or_suffix_of_suffix hothers h with hshort | hlong
  · rcases List.suffix_cons_iff.1 hshort with rfl | hshort
    · rw [stream_cons, List.length_append, List.length_append] at hlength
      omega
    · have := length_stream_le hshort
      omega
  · have := length_stream_le hlong
    rw [stream_cons, List.length_append, List.length_append] at this
    omega

end WireFrame

open WireFrame (stream IsStart)

namespace Session

/-! ## 3. One frame -/

/-- How much is there of the message that a data frame continues or starts. -/
def pending (s : Session) (h : FrameHeader) : Nat :=
  if h.op.isControl then 0 else (s.message.getD (h.op, [])).2.length

/-- Why a header is refused: for its kind and its place, or for its mask. -/
def objection? (s : Session) (h : FrameHeader) : Option WebSocketError :=
  match if h.op.isControl then checkControl h else checkData s.continuing h with
  | .error fault => some fault
  | .ok () => if h.key.isSome && s.isClient then some .serverMasked else none

/-- What is wrong with a header by itself: it is refused, or announces more than a message can
be. -/
def headerFault? (s : Session) (h : FrameHeader) : Option WebSocketError :=
  (s.objection? h).or
    (if s.maxMessageLength < s.pending h + h.length then some .messageTooLong else none)

/-- What is still to be received, while the receiving side is open. -/
def position (s : Session) : Option Bytes :=
  if s.readClosed then none else some s.reader.ahead

theorem readBy_readExact (n : Nat) : (Parser.take n).ReadBy (readExact n) := by
  refine .take fun r h => ?_
  have hends := ends_readExact r n
  rwa [if_pos h] at hends

/-- What is left behind a drained session is not received any more. -/
theorem keeps_drainIfClosed_position : Keeps position drainIfClosed := by
  intro s
  by_cases hclosed : s.isClosed = true
  · have hread : s.readClosed = true := by
      rw [isClosed, Bool.and_eq_true] at hclosed
      exact hclosed.1
    have hread' : (after drainIfClosed s).readClosed = true := by
      rw [keeps_drainIfClosed blind_readClosed s, hread]
    rw [position, position, if_pos hread, if_pos hread']
  · have hrun : drainIfClosed s = .ok () s := if_neg hclosed
    rw [Act.after_ok hrun]

/-- What follows the payload of a control frame moves nothing. -/
theorem position_readControl {s : Session} {h : FrameHeader} {r : Reader} {got : Bytes}
    (hread : readExact h.length s.reader = .ok got r) :
    (after (readControl h) s).position = position { s with reader := r } := by
  unfold readControl
  rw [Act.after_bind_ok (onReader_run hread)]
  dsimp only
  split
  · rfl
  · rfl
  · split
    · rfl
    · exact (keeps_drainIfClosed_position.bind fun _ => .pure _) _

/-- A part of a message that is too long is not read. -/
theorem readPart_long {s : Session} {h : FrameHeader}
    (hlong : (s.message.getD (h.op, [])).2.length + h.length > s.maxMessageLength) :
    readPart h s = .error (.failed (.webSocket .messageTooLong))
      { s with message := some (s.message.getD (h.op, [])) } := by
  unfold readPart
  rw [Act.bind_ok (show (get : Act Error Session Session) s = .ok s s from rfl)]
  dsimp only
  rw [Act.bind_ok (show keep _ s = .ok () _ from rfl), if_pos hlong]
  rfl

/-- A part of a message that fits: what follows its payload moves nothing. -/
theorem position_readPart {s : Session} {h : FrameHeader} {r : Reader} {got : Bytes}
    (hread : readExact h.length s.reader = .ok got r)
    (hfits : ¬ (s.message.getD (h.op, [])).2.length + h.length > s.maxMessageLength) :
    (after (readPart h) s).position = position { s with reader := r } := by
  have hkeep (message : Option (Opcode × Bytes)) : Keeps position (keep message) := fun _ => rfl
  unfold readPart
  rw [Act.after_bind_ok (show (get : Act Error Session Session) s = .ok s s from rfl)]
  dsimp only
  rw [Act.after_bind_ok (show keep _ s = .ok () _ from rfl), if_neg hfits]
  generalize some ((s.message.getD (h.op, [])).1, (s.message.getD (h.op, [])).2) = kept
  rw [Act.after_bind_ok (onReader_run (s := { s with message := kept }) hread)]
  split
  · exact ((hkeep _).bind fun _ => .pure _) _
  · exact ((hkeep _).bind fun _ => (Keeps.ofExcept _).bind fun _ => .pure _) _

/-- A header is refused for its reason, or accepted. -/
theorem acceptHeader_objection (s : Session) (h : FrameHeader) :
    match s.objection? h with
    | some fault => ∃ continuing,
        acceptHeader h s = .error (.failed (.webSocket fault)) { s with continuing }
    | none => acceptHeader h s = .ok () (s.follow h) := by
  unfold objection? acceptHeader
  cases (if h.op.isControl then checkControl h else checkData s.continuing h) with
  | error fault => exact ⟨s.continuing, rfl⟩
  | ok u =>
    by_cases hmasked : (h.key.isSome && s.isClient) = true
    · simp only [if_pos hmasked]
      exact ⟨_, rfl⟩
    · simp only [if_neg hmasked]

variable {s : Session} {frame : WireFrame} {rest : Bytes}

/-- **The header of a frame is read, and judged by itself.** -/
theorem readHeader_frame (hopen : s.readClosed = false)
    (hahead : s.reader.ahead = frame.bytes ++ rest) :
    ∃ t, t.reader.ahead = frame.payload ++ rest ∧ t.message = s.message ∧
      t.maxMessageLength = s.maxMessageLength ∧
      readHeader s = match s.objection? frame.header with
        | some fault => .error (.failed (.webSocket fault)) t
        | none => .ok (some frame.header) t := by
  rw [WireFrame.bytes, List.append_assoc] at hahead
  obtain ⟨r, hread, hr⟩ := FrameHeader.read_of_parsed frame.decodes hahead
  have haccept := acceptHeader_objection { s with reader := r } frame.header
  rw [show objection? { s with reader := r } frame.header = s.objection? frame.header from rfl]
    at haccept
  unfold readHeader
  rw [if_neg (by simp [hopen]), onReader_run hread]
  cases hobjection : s.objection? frame.header with
  | some fault =>
    rw [hobjection] at haccept
    obtain ⟨continuing, haccept⟩ := haccept
    refine ⟨{ s with reader := r, continuing }, hr, rfl, rfl, ?_⟩
    simp only [haccept]
  | none =>
    rw [hobjection] at haccept
    refine ⟨follow { s with reader := r } frame.header, hr, rfl, rfl, ?_⟩
    simp only [haccept]

/-- **A header that is wrong by itself is reported, and its payload stays where it is.** -/
theorem nextPart_rejected (hopen : s.readClosed = false)
    (hahead : s.reader.ahead = frame.bytes ++ rest) {fault : WebSocketError}
    (hfault : s.headerFault? frame.header = some fault) :
    ∃ t, nextPart s = .error (.failed (.webSocket fault)) t ∧
      t.reader.ahead = frame.payload ++ rest := by
  obtain ⟨t, ht, hmessage, hmax, hread⟩ := readHeader_frame hopen hahead
  unfold headerFault? at hfault
  cases hobjection : s.objection? frame.header with
  | some fault' =>
    rw [hobjection] at hread hfault
    cases hfault
    exact ⟨t, Act.bind_error hread, ht⟩
  | none =>
    -- The header is accepted, so what is wrong is the length.
    rw [hobjection] at hread hfault
    rw [Option.none_or] at hfault
    split at hfault
    · next hlong =>
      cases hfault
      rw [nextPart_some hread, hmax]
      by_cases halone : frame.header.length > s.maxMessageLength
      · rw [if_pos halone]
        exact ⟨t, rfl, ht⟩
      · have hdata : ¬ frame.header.op.isControl = true := by
          intro hcontrol
          rw [pending, if_pos hcontrol] at hlong
          omega
        rw [pending, if_neg hdata, ← hmessage, ← hmax] at hlong
        rw [if_neg halone, if_neg hdata]
        exact ⟨_, readPart_long hlong, ht⟩
    · cases hfault

/-- **Behind a frame whose header has no fault the next frame is received**, whatever becomes of
its payload, unless the receiving side is closed then. -/
theorem nextPart_passed (hopen : s.readClosed = false)
    (hahead : s.reader.ahead = frame.bytes ++ rest)
    (hfault : s.headerFault? frame.header = none)
    (hopen' : (after nextPart s).readClosed = false) : (after nextPart s).reader.ahead = rest := by
  obtain ⟨t, ht, hmessage, hmax, hread⟩ := readHeader_frame hopen hahead
  obtain ⟨hobjection, hlength⟩ := Option.or_eq_none_iff.1 hfault
  rw [hobjection] at hread
  have hfits : ¬ s.maxMessageLength < s.pending frame.header + frame.header.length := by
    intro hlong
    rw [if_pos hlong] at hlength
    cases hlength
  have htake : Parser.take frame.header.length frame.payload = .ok (frame.payload, []) := by
    have happend := Parser.take_append frame.length_payload []
    rwa [List.append_nil] at happend
  obtain ⟨r, hexact, hr⟩ := readBy_readExact frame.header.length htake ht
  rw [List.nil_append] at hr
  -- Whichever kind of frame it is, the session is behind its payload.
  have hposition : (after nextPart s).position = position { t with reader := r } := by
    rw [Act.after_congr (nextPart_some hread), hmax, if_neg (by omega)]
    by_cases hcontrol : frame.header.op.isControl = true
    · rw [if_pos hcontrol, Act.after_bind_pure]
      exact position_readControl hexact
    · rw [if_neg hcontrol]
      rw [pending, if_neg hcontrol, ← hmessage, ← hmax] at hfits
      exact position_readPart hexact hfits
  rw [position, if_neg (by simp [hopen']), position] at hposition
  split at hposition
  · cases hposition
  · exact (Option.some.inj hposition).trans hr

/-! ## 4. One call -/

/-- Where the session looks for a header a frame starts, as long as the receiving side is open. -/
def Aligned (frames : List WireFrame) (s : Session) : Prop :=
  s.readClosed = false → IsStart frames s.reader.ahead

/-- Receiving fails for the header of a frame alone, in front of its payload, and leaves the
receiving side open. -/
structure Strands (frames : List WireFrame) (s : Session) (frame : WireFrame)
    (later : List WireFrame) (fault : WebSocketError) : Prop where
  among : frame :: later <:+ frames
  at_header : ∃ u, ReadsAt s u ∧ u.readClosed = false ∧
    u.reader.ahead = stream (frame :: later) ∧ u.headerFault? frame.header = some fault
  payload : frame.payload ≠ []
  stays_open : (after recv s).readClosed = false

theorem recv_of_readsAt {s u : Session} (h : ReadsAt s u) : recv s = recv u := by
  induction h with
  | first s => rfl
  | next hpart _ ih => rw [recv_part hpart, ih]

/-- **A call ends with the last header that it reads.** -/
theorem exists_lastRead (s : Session) :
    ∃ u, ReadsAt s u ∧ after recv s = after nextPart u := by
  induction hsize : s.ahead using Nat.strongRecOn generalizing s with
  | ind size ih =>
    cases hnext : nextPart s with
    | error halt t =>
      exact ⟨s, .first s, by rw [Act.after_error (recv_error hnext), Act.after_error hnext]⟩
    | ok o t =>
      cases o with
      | some received =>
        exact ⟨s, .first s, by rw [Act.after_ok (recv_frame hnext), Act.after_ok hnext]⟩
      | none =>
        obtain ⟨u, hu, hafter⟩ := ih t.ahead (hsize ▸ progress_nextPart hnext) t rfl
        exact ⟨u, .next hnext hu, by rw [after_recv_part hnext, hafter]⟩

/-- A closed session receives nothing. -/
theorem nextPart_shut {s : Session} (hclosed : s.readClosed = true) :
    nextPart s = .error (.failed .shutdown) s :=
  Act.bind_error (readHeader_shut hclosed)

/-- Where nothing is ahead the end of the stream is received as a close frame, or the stream hangs
or breaks. -/
theorem nextPart_exhausted {s : Session} (hopen : s.readClosed = false)
    (hahead : s.reader.ahead = []) :
    ∃ r, r.ahead = [] ∧
      (nextPart s = .ok (some (.close CloseCode.noClose.number .empty))
          { s with reader := r, readClosed := true } ∨
        ∃ halt : Halt IoError, nextPart s = .error (halt.map .io) { s with reader := r }) := by
  obtain ⟨r, hr, hread⟩ := FrameHeader.read_empty hahead
  refine ⟨r, hr, hread.imp (fun hread => ?_) fun ⟨halt, hread⟩ => ⟨halt, ?_⟩⟩
  · have hheader : readHeader s = .ok none { s with reader := r, readClosed := true } := by
      unfold readHeader
      rw [if_neg (by simp [hopen]), onReader_run hread]
    exact Act.bind_ok hheader
  · have hheader : readHeader s = .error (halt.map .io) { s with reader := r } := by
      unfold readHeader
      rw [if_neg (by simp [hopen]), onReader_fail hread]
    exact Act.bind_error hheader

/-- Where nothing is ahead the receiving side closes, or nothing is ahead then. -/
theorem nextPart_empty {s : Session} (hahead : s.reader.ahead = [])
    (hopen : (after nextPart s).readClosed = false) : (after nextPart s).reader.ahead = [] := by
  cases hopen' : s.readClosed with
  | true =>
    rw [Act.after_error (nextPart_shut hopen'), hopen'] at hopen
    cases hopen
  | false =>
    obtain ⟨r, hr, hnext | ⟨halt, hnext⟩⟩ := nextPart_exhausted hopen' hahead
    · rw [Act.after_ok hnext] at hopen
      cases hopen
    · rw [Act.after_error hnext]
      exact hr

variable {frames : List WireFrame} {s : Session}

/-- **A frame keeps the session aligned**, unless its header has a fault. -/
theorem nextPart_aligned (h : Aligned frames s) :
    Aligned frames (after nextPart s) ∨
      ∃ frame later fault, frame :: later <:+ frames ∧ s.readClosed = false ∧
        s.reader.ahead = stream (frame :: later) ∧
        s.headerFault? frame.header = some fault := by
  cases hopen : s.readClosed with
  | true =>
    left
    rw [Act.after_error (nextPart_shut hopen)]
    exact h
  | false =>
    obtain ⟨rest, hrest, hahead⟩ := h hopen
    cases rest with
    | nil =>
      left
      intro hopen'
      exact ⟨[], hrest, nextPart_empty hahead hopen'⟩
    | cons frame later =>
      cases hfault : s.headerFault? frame.header with
      | some fault => exact .inr ⟨frame, later, fault, hrest, rfl, hahead, hfault⟩
      | none =>
        left
        intro hopen'
        exact ⟨later, (List.suffix_cons frame later).trans hrest,
          nextPart_passed hopen hahead hfault hopen'⟩

/-- Within a call no header is looked for elsewhere. -/
theorem Aligned.of_readsAt {u : Session} (hu : ReadsAt s u) (h : Aligned frames s) :
    Aligned frames u := by
  induction hu with
  | first s => exact h
  | next hpart _ ih =>
    apply ih
    rcases nextPart_aligned h with halign | ⟨frame, later, fault, -, hopen, hahead, hfault⟩
    · rw [Act.after_ok hpart] at halign
      exact halign
    · obtain ⟨t, hnext, -⟩ := nextPart_rejected hopen hahead hfault
      rw [hpart] at hnext
      cases hnext

/-- **A call that strands a payload stands in front of it then.** -/
theorem Strands.recv {frame : WireFrame} {later : List WireFrame} {fault : WebSocketError}
    (h : Strands frames s frame later fault) :
    ∃ t, Session.recv s = .error (.failed (.webSocket fault)) t ∧
      t.reader.ahead = frame.payload ++ stream later := by
  obtain ⟨u, hu, hopen, hahead, hfault⟩ := h.at_header
  obtain ⟨t, hnext, ht⟩ := nextPart_rejected hopen hahead hfault
  exact ⟨t, (recv_of_readsAt hu).trans (recv_error hnext), ht⟩

/-- **A call keeps the session aligned exactly if it strands no payload.** -/
theorem aligned_recv_iff (h : Aligned frames s) :
    Aligned frames (after Session.recv s) ↔
      ∀ frame later fault, ¬ Strands frames s frame later fault := by
  constructor
  · intro halign frame later fault hstrands
    obtain ⟨t, hrecv, ht⟩ := hstrands.recv
    have hstart := halign hstrands.stays_open
    rw [Act.after_error hrecv, ht] at hstart
    exact WireFrame.not_isStart hstrands.among hstrands.payload hstart
  · intro hnone
    obtain ⟨u, hu, hafter⟩ := exists_lastRead s
    rw [hafter]
    rcases nextPart_aligned (h.of_readsAt hu) with
      halign | ⟨frame, later, fault, hamong, hopen, hahead, hfault⟩
    · exact halign
    · intro hopen'
      obtain ⟨t, hnext, ht⟩ := nextPart_rejected hopen hahead hfault
      -- Only a frame without a payload can be left behind in this way.
      have hpayload : frame.payload = [] := by
        refine Decidable.byContradiction fun hpayload => hnone frame later fault ?_
        exact ⟨hamong, ⟨u, hu, hopen, hahead, hfault⟩, hpayload, by rw [hafter]; exact hopen'⟩
      refine ⟨later, (List.suffix_cons frame later).trans hamong, ?_⟩
      rw [Act.after_error hnext, ht, hpayload]
      rfl

/-! ## 5. Runs -/

/-- The session behind `n` calls, however they ended. -/
def calls : Nat → Session → Session
  | 0, s => s
  | n + 1, s => after recv (calls n s)

@[simp] theorem calls_succ (n : Nat) (s : Session) : calls (n + 1) s = after recv (calls n s) := rfl

/-- No call among the first `n` strands a payload. -/
def StrandsNone (frames : List WireFrame) (n : Nat) (s : Session) : Prop :=
  ∀ m < n, ∀ frame later fault, ¬ Strands frames (calls m s) frame later fault

/-- **Calls that strand nothing keep the session aligned.** -/
theorem aligned_calls (h : Aligned frames s) {n : Nat} (hnone : StrandsNone frames n s) :
    Aligned frames (calls n s) := by
  induction n with
  | zero => exact h
  | succ n ih =>
    rw [calls_succ]
    have hbefore := ih fun m hm => hnone m (Nat.lt_succ_of_lt hm)
    exact (aligned_recv_iff hbefore).2 (hnone n (Nat.lt_succ_self n))

/-- A header is read in `u`, and is this one. -/
def Decodes (u : Session) (h : FrameHeader) : Prop :=
  u.readClosed = false ∧ ∃ r, FrameHeader.read u.reader = .ok (some h) r

/-- **On every stream of frames, headers are looked for where frames start exactly as long as no
call has stranded a payload**, so that each header that is read then is the header of a frame.  The
first call that strands one fails for its header, and whatever header the payload spells, with what
stands behind it, is read by the next call. -/
theorem starts_iff_strandsNone (h : s.reader.ahead = stream frames) (n : Nat) :
    ((∀ m ≤ n, ∀ u, ReadsAt (calls m s) u → u.readClosed = false →
        IsStart frames u.reader.ahead) ↔ StrandsNone frames n s) ∧
    (StrandsNone frames n s → ∀ m ≤ n, ∀ u header, ReadsAt (calls m s) u → Decodes u header →
      ∃ frame later, frame :: later <:+ frames ∧ frame.header = header ∧
        u.reader.ahead = stream (frame :: later)) ∧
    ∀ frame later fault, StrandsNone frames n s →
      Strands frames (calls n s) frame later fault →
      recv (calls n s) = .error (.failed (.webSocket fault)) (calls (n + 1) s) ∧
      (calls (n + 1) s).reader.ahead = frame.payload ++ stream later ∧
      ¬ IsStart frames (frame.payload ++ stream later) ∧
      ∀ header left, FrameHeader.parser (frame.payload ++ stream later) = .ok (some header, left) →
        Decodes (calls (n + 1) s) header := by
  have hstart : Aligned frames s := fun _ => ⟨frames, List.suffix_refl _, h⟩
  have hbefore (m : Nat) (hm : m ≤ n) (hnone : StrandsNone frames n s) :
      Aligned frames (calls m s) :=
    aligned_calls hstart fun k hk => hnone k (Nat.lt_of_lt_of_le hk hm)
  refine ⟨⟨?_, ?_⟩, ?_, ?_⟩
  · intro hall m hm frame later fault hstrands
    have halign : Aligned frames (calls m s) := hall m (Nat.le_of_lt hm) _ (.first _)
    have hnext : Aligned frames (calls (m + 1) s) := hall (m + 1) hm _ (.first _)
    rw [calls_succ] at hnext
    exact (aligned_recv_iff halign).1 hnext frame later fault hstrands
  · intro hnone m hm u hu
    exact (hbefore m hm hnone).of_readsAt hu
  · rintro hnone m hm u header hu ⟨hopen, r, hread⟩
    obtain ⟨rest, hrest, hahead⟩ := (hbefore m hm hnone).of_readsAt hu hopen
    cases rest with
    | nil =>
      obtain ⟨r', -, hread' | ⟨halt, hread'⟩⟩ := FrameHeader.read_empty hahead
      all_goals rw [hread] at hread'; cases hread'
    | cons frame later =>
      obtain ⟨r', hread', -⟩ := FrameHeader.read_of_parsed frame.decodes
        (hahead.trans (WireFrame.stream_cons frame later))
      rw [hread] at hread'
      cases hread'
      exact ⟨frame, later, hrest, rfl, hahead⟩
  · intro frame later fault hnone hstrands
    obtain ⟨t, hrecv, ht⟩ := hstrands.recv
    rw [calls_succ, Act.after_error hrecv]
    refine ⟨hrecv, ht, WireFrame.not_isStart hstrands.among hstrands.payload, ?_⟩
    intro header left hparse
    have hopen := hstrands.stays_open
    rw [Act.after_error hrecv] at hopen
    obtain ⟨r, hread, -⟩ := FrameHeader.read_of_parsed hparse (by rw [ht, List.append_nil])
    exact ⟨hopen, r, hread⟩

/-- A text message that is no text: it is refused behind its payload. -/
def garbled : WireFrame where
  lead := [129, 2]
  header := ⟨true, .text, none, 2⟩
  payload := [195, 40]
  decodes := rfl
  length_payload := rfl

/-- A ping that is not marked as the last part, which is refused in front of its payload; the
payload is an empty text message itself. -/
def hollow : WireFrame where
  lead := [9, 2]
  header := ⟨false, .ping, none, 2⟩
  payload := [129, 0]
  decodes := rfl
  length_payload := rfl

/-- A binary message. -/
def single : WireFrame where
  lead := [130, 1]
  header := ⟨true, .binary, none, 1⟩
  payload := [7]
  decodes := rfl
  length_payload := rfl

/-- A server to whom the three are sent. -/
def smuggling : Session :=
  { reader := .ofInflow ⟨[[129, 2, 195, 40], [9, 2, 129, 0, 130, 1, 7]], .eof⟩
    outflow := {}
    link := 0
    entropy := {}
    isClient := false
    maxMessageLength := 125
    closeTimeout := .ofSeconds 30 }

theorem starts_iff_strandsNone_smuggling :
    smuggling.reader.ahead = stream [garbled, hollow, single] ∧
      StrandsNone [garbled, hollow, single] 1 smuggling ∧
      (∀ m ≤ 1, ∀ u, ReadsAt (calls m smuggling) u → u.readClosed = false →
        IsStart [garbled, hollow, single] u.reader.ahead) ∧
      (calls 2 smuggling).reader.ahead = [129, 0, 130, 1, 7] ∧
      Decodes (calls 2 smuggling) ⟨true, .text, none, 0⟩ := by
  have hahead : smuggling.reader.ahead = stream [garbled, hollow, single] := rfl
  have hnone : StrandsNone [garbled, hollow, single] 1 smuggling := by
    intro m hm
    obtain rfl : m = 0 := by omega
    have hstart : Aligned [garbled, hollow, single] smuggling :=
      fun _ => ⟨_, List.suffix_refl _, hahead⟩
    exact (aligned_recv_iff hstart).1 fun _ =>
      ⟨[hollow, single], List.suffix_cons _ _, by decide +kernel⟩
  have hstrands : Strands [garbled, hollow, single] (calls 1 smuggling) hollow [single]
      (.invalidControlFrame "fin not set on control frame") := by
    refine ⟨List.suffix_cons _ _, ⟨_, .first _, ?_⟩, by decide, by decide +kernel⟩
    exact ⟨by decide +kernel, by decide +kernel, by decide +kernel⟩
  obtain ⟨hstarts, -, hnext⟩ := starts_iff_strandsNone hahead 1
  obtain ⟨-, hleft, -, hdecodes⟩ := hnext _ _ _ hnone hstrands
  exact ⟨hahead, hnone, hstarts.2 hnone, hleft, hdecodes _ _ rfl⟩

/-- **The third call reads a header where no frame starts**, and receives the text that the payload
of the ping spells. -/
theorem decodes_within_hollow :
    smuggling.Fresh ∧ smuggling.reader.ahead = stream [garbled, hollow, single] ∧
      Decodes (calls 2 smuggling) ⟨true, .text, none, 0⟩ ∧
      ¬ IsStart [garbled, hollow, single] (calls 2 smuggling).reader.ahead ∧
      Act.value? recv (calls 2 smuggling) = some (.text "") := by
  have hahead : (calls 2 smuggling).reader.ahead = hollow.payload ++ stream [single] := by
    decide +kernel
  refine ⟨⟨rfl, rfl, rfl⟩, rfl, ⟨by decide +kernel, ?_⟩, ?_, by decide +kernel⟩
  · have hparse : FrameHeader.parser hollow.payload = .ok (some ⟨true, .text, none, 0⟩, []) := rfl
    obtain ⟨r, hread, -⟩ := FrameHeader.read_of_parsed hparse hahead
    exact ⟨r, hread⟩
  · rw [hahead]
    exact WireFrame.not_isStart (List.suffix_cons _ _) (by decide)

end Session

end WebSocket

end UrlTransfer
