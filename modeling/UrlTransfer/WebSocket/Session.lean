/-
# Sessions

A session is one side of a connection on which the handshake is done.  It is closed for each
direction on its own: sending a close frame closes the sending side, receiving one or the end of
the stream the receiving side.  When both are closed, what the peer still sends is thrown away
until it ends the connection or the limit of time does.

Receiving puts the parts of a message together and returns control frames in between; it ends,
because every header that is read shortens what is ahead, and finding no header closes the
receiving side (`progress_nextPart`).
-/
import UrlTransfer.Net.System
import UrlTransfer.Text.Duration
import UrlTransfer.WebSocket.Header

namespace UrlTransfer

namespace WebSocket

/-- Settings of a session and of the handshake before it. -/
structure Options where
  /-- How long the handshake may take, with connecting. -/
  handshakeTimeout : Duration := .ofSeconds 60
  /-- How long a message from the peer may be. -/
  maxMessageLength : Nat := 134217728
  /-- How long to wait for the peer to end the connection. -/
  closeTimeout : Duration := .ofSeconds 30
deriving Repr, DecidableEq

/-- One side of a connection. -/
structure Session where
  reader : Reader
  outflow : Outflow
  /-- The link of the connection. -/
  link : Nat
  /-- Where masking keys come from. -/
  entropy : Entropy
  isClient : Bool
  maxMessageLength : Nat
  closeTimeout : Duration
  readClosed : Bool := false
  writeClosed : Bool := false
  /-- Whether the next data frame has to continue a message. -/
  continuing : Bool := false
  /-- The kind of the message that is being received, and what is there of it. -/
  message : Option (Opcode × Bytes) := none
  /-- The kind of the message that is being sent. -/
  sending : Option Opcode := none
deriving Repr, DecidableEq

namespace Session

/-- A session on a connection, behind what the handshake left in the buffer. -/
def ofReader (reader : Reader) (link : Nat) (options : Options) (isClient : Bool) (s : System) :
    Session :=
  { reader := reader.rewrap
    outflow := s.outflow link
    link
    entropy := s.entropy
    isClient
    maxMessageLength := options.maxMessageLength
    closeTimeout := options.closeTimeout }

/-- Records in the system what the session sent and drew. -/
def settle (s : Session) (system : System) : System :=
  { system.changeLink s.link (Link.setOutflow s.outflow) with entropy := s.entropy }

/-- May frames still be received? -/
def canRead (s : Session) : Bool := !s.readClosed

/-- May frames still be sent? -/
def canWrite (s : Session) : Bool := !s.writeClosed

/-- Are both directions closed? -/
def isClosed (s : Session) : Bool := s.readClosed && s.writeClosed

/-- An action on what the peer sends. -/
def onReader {α : Type} (x : Act Error Reader α) : Act Error Session α :=
  Act.within Session.reader (fun reader s => { s with reader }) x

/-- An action on what is sent. -/
def onOutflow {α : Type} (x : Act IoError Outflow α) : Act Error Session α :=
  Act.mapError .io (Act.within Session.outflow (fun outflow s => { s with outflow }) x)

/-- Throws away all that the peer still sends, up to its end or that of the time. -/
def drain : Act Error Session Unit := fun s =>
  .ok () { s with reader := { s.reader.discard with inflow := ⟨[], s.reader.inflow.ending⟩ } }

/-- Throws away what the peer still sends if both directions are closed. -/
def drainIfClosed : Act Error Session Unit := fun s => if s.isClosed then drain s else .ok () s

/-! ## 1. Receiving frame by frame -/

/-- What a control frame must be. -/
def checkControl (h : FrameHeader) : Except WebSocketError Unit :=
  if !h.fin then .error (.invalidControlFrame "fin not set on control frame")
  else if h.length > maxControl then .error (.invalidControlFrame "control frame too long")
  else .ok ()

/-- What a data frame must be, where a message has to be continued or not. -/
def checkData (continuing : Bool) (h : FrameHeader) : Except WebSocketError Unit :=
  if continuing && h.op != .continuation then .error .expectedContinuation
  else if !continuing && h.op == .continuation then .error .unexpectedContinuation
  else .ok ()

/-- What an accepted header changes. -/
def follow (s : Session) (h : FrameHeader) : Session :=
  { s with
    continuing := if h.op.isControl then s.continuing else !h.fin
    readClosed := s.readClosed || h.op == .close }

/-- Accepts a header: checks it, and keeps in mind what it says about the next one.  A masked
frame from a server has been counted as a part of its message. -/
def acceptHeader (h : FrameHeader) : Act Error Session Unit := fun s =>
  match if h.op.isControl then checkControl h else checkData s.continuing h with
  | .error fault => .error (.failed (.webSocket fault)) s
  | .ok () =>
    if h.key.isSome && s.isClient then
      .error (.failed (.webSocket .serverMasked)) { s.follow h with readClosed := s.readClosed }
    else .ok () (s.follow h)

/-- Reads the next header, or finds the end of the stream, which closes the receiving side. -/
def readHeader : Act Error Session (Option FrameHeader) := fun s =>
  if s.readClosed then .error (.failed .shutdown) s
  else
    match onReader FrameHeader.read s with
    | .error halt s' => .error halt s'
    | .ok none s' => .ok none { s' with readClosed := true }
    | .ok (some h) s' =>
      match acceptHeader h s' with
      | .ok () s'' => .ok (some h) s''
      | .error halt s'' => .error halt s''

/-- Reads exactly `n` bytes of a payload. -/
def readExact (n : Nat) : Act Error Reader Bytes := do
  let got ← Act.mapError .io (Reader.readFully n)
  if got.length < n then Act.fail (.io .eof) else return got

/-- Reads at most `n` bytes of the payload of a frame, as they are; returns also the header with
what is left. -/
def readData (h : FrameHeader) (n : Nat) : Act Error Session (Bytes × FrameHeader) := do
  let got ← onReader (readExact (min h.length n))
  return (got, { h with length := h.length - got.length })

/-- Skips `left` bytes of a payload; the state says how many are left. -/
def skip : Act Error (Nat × Reader) Unit := fun (left, r) =>
  if left ≤ r.unread.length then .ok () (0, r.consume left)
  else
    match _h : r.discard.fill with
    | .error halt r' => .error (halt.map .io) (left - r.unread.length, r')
    | .ok 0 r' => .error (.failed (.io .eof)) (left - r.unread.length, r')
    | .ok (_ + 1) r' => skip (left - r.unread.length, r')
termination_by p => p.2.inflow.size
decreasing_by
  have := Reader.inflow_size_fill _h
  simp only [Reader.discard] at this
  omega

/-- Skips what is left of the payload of a frame; the header is part of the state. -/
def discardData : Act Error (FrameHeader × Session) Unit :=
  Act.within (fun (h, s) => (h.length, s.reader))
    (fun (length, reader) (h, s) => ({ h with length }, { s with reader })) skip

/-! ## 2. Receiving messages -/

/-- Status code and reason in the payload of a close frame. -/
def closeFrame (payload : ControlPayload) : Except WebSocketError Frame :=
  match payload.content with
  | [] => .ok (.close CloseCode.noStatusCode.number payload)
  | [_] => .error (.invalidControlFrame "close payload of one byte")
  | high :: low :: _ => .ok (.close (high.toNat * 256 + low.toNat) (payload.advance 2))

/-- Reads the payload of a control frame. -/
def readControl (h : FrameHeader) : Act Error Session Frame := do
  let payload := ControlPayload.ofPrefix (maskBy h.key (← onReader (readExact h.length)))
  match h.op with
  | .ping => return .ping payload
  | .pong => return .pong payload
  | _ =>
    match closeFrame payload with
    | .error fault => Act.fail (.webSocket fault)
    | .ok frame =>
      drainIfClosed
      return frame

/-- The message of a kind that these bytes are. -/
def messageFrame (op : Opcode) (content : Bytes) : Except Error Frame :=
  if op = .text then
    match Utf8.decode? content with
    | some text => .ok (.text text)
    | none => .error .invalidUtf8
  else .ok (.binary content)

/-- Keeps a message that is not complete. -/
def keep (message : Option (Opcode × Bytes)) : Act Error Session Unit := fun s =>
  .ok () { s with message }

/-- Reads the payload of a data frame; with the last one the message is complete. -/
def readPart (h : FrameHeader) : Act Error Session (Option Frame) := do
  let s ← get
  let (op, before) := s.message.getD (h.op, [])
  keep (some (op, before))
  if before.length + h.length > s.maxMessageLength then Act.fail (.webSocket .messageTooLong)
  else
    let content := before ++ maskBy h.key (← onReader (readExact h.length))
    if !h.fin then
      keep (some (op, content))
      return none
    else
      keep none
      return some (← Act.ofExcept (messageFrame op content))

/-- Reads the next frame: none if it is a part of a message that goes on. -/
def nextPart : Act Error Session (Option Frame) := do
  match ← readHeader with
  | none => return some (.close CloseCode.noClose.number .empty)
  | some h =>
    if h.length > (← get).maxMessageLength then Act.fail (.webSocket .messageTooLong)
    else if h.op.isControl then return some (← readControl h)
    else readPart h

/-! ## 3. Progress -/

/-- How much can still be received: what is ahead, and the end of the stream. -/
def ahead (s : Session) : Nat := s.reader.size + (if s.readClosed then 0 else 1)

theorem shrinks_readNumber (width : Nat) :
    Act.Shrinks Reader.size (FrameHeader.readNumber width) :=
  ((Reader.shrinks_readExactly width).mapError _).bind fun _ => Act.Shrinks.pure _

theorem shrinks_readRest (first second : Nat) :
    Act.Shrinks Reader.size (FrameHeader.readRest first second) := by
  unfold FrameHeader.readRest
  dsimp only
  split
  · exact Act.Shrinks.fail _
  · split
    · exact Act.Shrinks.fail _
    · refine Act.Shrinks.bind ?_ fun length => Act.Shrinks.bind ?_ fun key => Act.Shrinks.pure _
      · unfold FrameHeader.readLength
        dsimp only
        split
        · exact shrinks_readNumber 2
        · split
          · refine (shrinks_readNumber 8).bind fun length => ?_
            split
            · exact Act.Shrinks.pure _
            · exact Act.Shrinks.fail _
          · exact Act.Shrinks.pure _
      · unfold FrameHeader.readKey
        split
        · exact Act.Shrinks.pure _
        · exact (shrinks_readNumber 4).bind fun _ => Act.Shrinks.pure _

/-- **A header takes at least two bytes.** -/
theorem size_read_header {r r' : Reader} {h : FrameHeader}
    (hr : FrameHeader.read r = .ok (some h) r') : r'.size + 2 ≤ r.size := by
  unfold FrameHeader.read at hr
  obtain ⟨o, r₁, htwo, hr⟩ := Act.bind_eq_ok.1 hr
  have hsize := Reader.size_readExactly? (Act.mapError_eq_ok.1 htwo)
  split at hr
  · next first second =>
    obtain ⟨h', r₂, hrest, hr⟩ := Act.bind_eq_ok.1 hr
    cases hr
    have hless := shrinks_readRest _ _ hrest
    have htwo : [first, second].length + r₁.size = r.size := hsize
    rw [List.length_cons, List.length_singleton] at htwo
    omega
  · cases hr

theorem shrinks_read_header : Act.Shrinks Reader.size FrameHeader.read := by
  intro r o r' h
  cases o with
  | some h' =>
    have hsize := size_read_header h
    omega
  | none =>
    unfold FrameHeader.read at h
    obtain ⟨o, r₁, htwo, h⟩ := Act.bind_eq_ok.1 h
    have hless := Reader.shrinks_readExactly? 2 (Act.mapError_eq_ok.1 htwo)
    split at h
    · obtain ⟨_, _, _, h⟩ := Act.bind_eq_ok.1 h
      cases h
    · cases h
      exact hless

theorem onReader_ok {α : Type} {x : Act Error Reader α} {s s' : Session} {a : α}
    (h : onReader x s = .ok a s') :
    ∃ r, x s.reader = .ok a r ∧ s' = { s with reader := r } :=
  Act.within_ok h

theorem acceptHeader_ok {h : FrameHeader} {s s' : Session} (hs : acceptHeader h s = .ok () s') :
    s'.reader = s.reader ∧ s'.ahead ≤ s.ahead := by
  unfold acceptHeader at hs
  split at hs
  · cases hs
  · split at hs
    · cases hs
    · cases hs
      simp only [follow, ahead, true_and]
      by_cases hread : s.readClosed <;> by_cases hclose : h.op == .close <;> simp [hread, hclose]

/-- **Reading a header is progress**: it takes bytes, or closes the receiving side. -/
theorem progress_readHeader {s s' : Session} {o : Option FrameHeader}
    (h : readHeader s = .ok o s') : s'.ahead < s.ahead := by
  unfold readHeader at h
  split at h
  · cases h
  · next hopen =>
    split at h
    · cases h
    · next s1 hread =>
      cases h
      obtain ⟨r, hr, rfl⟩ := onReader_ok hread
      have := shrinks_read_header hr
      simp [ahead, hopen]
      omega
    · next header s1 hread =>
      obtain ⟨r, hr, rfl⟩ := onReader_ok hread
      have hsize := size_read_header hr
      split at h
      · next haccept =>
        cases h
        have := (acceptHeader_ok haccept).2
        simp [ahead, hopen] at this ⊢
        omega
      · cases h

theorem shrinks_onReader {α : Type} {x : Act Error Reader α} (hx : Act.Shrinks Reader.size x) :
    Act.Shrinks ahead (onReader x) :=
  hx.within fun _ _ hsize => Nat.add_le_add_right hsize _

theorem shrinks_readExact (n : Nat) : Act.Shrinks Reader.size (readExact n) := by
  unfold readExact
  refine ((Reader.shrinks_readFully n).mapError _).bind fun got => ?_
  split
  · exact Act.Shrinks.fail _
  · exact Act.Shrinks.pure _

theorem shrinks_drainIfClosed : Act.Shrinks ahead drainIfClosed := by
  intro s a s' h
  unfold drainIfClosed at h
  split at h
  · cases h
    simp [ahead, Reader.size, Reader.ahead, Reader.discard, Inflow.rest]
  · cases h; exact Nat.le_refl _

theorem shrinks_keep (message : Option (Opcode × Bytes)) : Act.Shrinks ahead (keep message) := by
  intro s a s' h
  cases h
  exact Nat.le_refl _

theorem shrinks_readControl (h : FrameHeader) : Act.Shrinks ahead (readControl h) := by
  unfold readControl
  refine (shrinks_onReader (shrinks_readExact h.length)).bind fun got => ?_
  dsimp only
  split
  · exact Act.Shrinks.pure _
  · exact Act.Shrinks.pure _
  · split
    · exact Act.Shrinks.fail _
    · exact shrinks_drainIfClosed.bind fun _ => Act.Shrinks.pure _

theorem shrinks_readPart (h : FrameHeader) : Act.Shrinks ahead (readPart h) := by
  unfold readPart
  refine Act.Shrinks.getState.bind fun s => ?_
  dsimp only
  refine (shrinks_keep _).bind fun _ => ?_
  split
  · exact Act.Shrinks.fail _
  · refine (shrinks_onReader (shrinks_readExact h.length)).bind fun got => ?_
    split
    · exact (shrinks_keep _).bind fun _ => Act.Shrinks.pure _
    · exact (shrinks_keep _).bind fun _ =>
        (Act.Shrinks.ofExcept _).bind fun _ => Act.Shrinks.pure _

/-- **Receiving a frame is progress.** -/
theorem progress_nextPart {s s' : Session} {o : Option Frame} (h : nextPart s = .ok o s') :
    s'.ahead < s.ahead := by
  unfold nextPart at h
  obtain ⟨header, s1, h1, h⟩ := Act.bind_eq_ok.1 h
  have hlt := progress_readHeader h1
  split at h
  · cases h; exact hlt
  · next header =>
    obtain ⟨s2, s3, h2, h⟩ := Act.bind_eq_ok.1 h
    cases h2
    split at h
    · cases h
    · split at h
      · obtain ⟨frame, s4, h4, h⟩ := Act.bind_eq_ok.1 h
        cases h
        have := shrinks_readControl _ h4
        omega
      · have := shrinks_readPart _ h
        omega

/-! ## 4. Receiving -/

/-- Receives the next control frame or whole message.  **The end of the stream is received as a
close frame** with a code that is never sent. -/
def recv : Act Error Session Frame := fun s =>
  match _h : nextPart s with
  | .error halt s' => .error halt s'
  | .ok (some frame) s' => .ok frame s'
  | .ok none s' => recv s'
termination_by s => s.ahead
decreasing_by exact progress_nextPart _h

theorem progress_recv {s s' : Session} {frame : Frame} (h : recv s = .ok frame s') :
    s'.ahead < s.ahead := by
  fun_induction recv s with
  | case1 => cases h
  | case2 s frame s'' hnext => cases h; exact progress_nextPart hnext
  | case3 s s'' hnext ih => have := ih h; have := progress_nextPart hnext; omega

/-- What a session received up to the end: the frames, and why they end, if not by closing. -/
structure Received where
  frames : List Frame
  halt : Option (Halt Error)
  session : Session

/-- Receives frames as long as the receiving side is open; `got` came before, the last first. -/
def recvAllFrom (got : List Frame) (s : Session) : Received :=
  if s.readClosed then ⟨got.reverse, none, s⟩
  else
    match _h : recv s with
    | .error halt s' => ⟨got.reverse, some halt, s'⟩
    | .ok frame s' => recvAllFrom (frame :: got) s'
termination_by s.ahead
decreasing_by exact progress_recv _h

/-- Receives frames as long as the receiving side is open. -/
def recvAll (s : Session) : Received := recvAllFrom [] s

/-! ## 5. Sending -/

/-- A masking key, which only clients use. -/
def drawKey : Act Error Session (Option UInt32) := fun s =>
  if s.isClient then
    let (bytes, entropy) := s.entropy.draw 4
    .ok (some (UInt32.ofNat (Bytes.toNat bytes))) { s with entropy }
  else .ok none s

/-- How long the payload of a control frame to be sent can be; a close frame has its code too. -/
def controlLimit (op : Opcode) : Nat := if op = .close then maxControl - 2 else maxControl

/-- The kind of frame that a part of a message is sent as.  **A part behind the first continues the
message**, and has to be of its kind. -/
def dataKind (frame : Outgoing) : Act Error Session Opcode := fun s =>
  match s.sending with
  | some op =>
    if op = frame.op then
      .ok .continuation { s with sending := if frame.fin then none else some op }
    else .error (.failed (.webSocket .dataTypeMismatch)) s
  | none => .ok frame.op { s with sending := if frame.fin then none else some frame.op }

/-- The kind that a frame is sent as. -/
def kind (frame : Outgoing) : Act Error Session Opcode :=
  if frame.op.isControl then
    if frame.payload.length > controlLimit frame.op then
      Act.fail (.webSocket .userInvalidControlFrame)
    else pure frame.op
  else dataKind frame

/-- The bytes of a frame. -/
def frameBytes (key : Option UInt32) (op : Opcode) (frame : Outgoing) : Bytes :=
  let content := (if op = .close then Bytes.ofNat 2 frame.closeCode else []) ++ frame.payload
  let header : FrameHeader := { fin := frame.fin, op, key, length := content.length }
  header.encode ++ maskBy key content

/-- Sends the last bytes of a connection and ends the sending direction, within the limit of
time. -/
def writeLast (bytes : Bytes) : Act Error Session Unit := do
  let _ ← Act.timely (onOutflow (do Outflow.write bytes; Outflow.close))
  return ()

/-- Sends a frame.  **A close frame closes the sending side** even where it cannot be sent. -/
def write (frame : Outgoing) : Act Error Session Unit := do
  if (← get).writeClosed then Act.fail .shutdown
  else
    let key ← drawKey
    let op ← kind frame
    let bytes := frameBytes key op frame
    if op = .close then
      modify fun s => { s with writeClosed := true }
      writeLast bytes
    else onOutflow (Outflow.write bytes)

/-- Sends a frame; behind a close frame that answers one, the peer is waited for. -/
def send (frame : Outgoing) : Act Error Session Unit := do
  write frame
  if frame.op = .close then drainIfClosed

/-! ## 6. Sending receives nothing -/

theorem shrinks_drawKey : Act.Shrinks ahead drawKey := by
  intro s a s' h
  unfold drawKey at h
  split at h <;> (cases h; exact Nat.le_refl _)

theorem shrinks_kind (frame : Outgoing) : Act.Shrinks ahead (kind frame) := by
  unfold kind
  split
  · split
    · exact Act.Shrinks.fail _
    · exact Act.Shrinks.pure _
  · intro s a s' h
    unfold dataKind at h
    split at h
    · split at h
      · cases h; exact Nat.le_refl _
      · cases h
    · cases h; exact Nat.le_refl _

theorem shrinks_onOutflow {α : Type} (x : Act IoError Outflow α) :
    Act.Shrinks ahead (onOutflow x) := by
  intro s a s' h
  obtain ⟨o, -, rfl⟩ := Act.within_ok (Act.mapError_eq_ok.1 h)
  exact Nat.le_refl _

theorem shrinks_writeLast (bytes : Bytes) : Act.Shrinks ahead (writeLast bytes) := by
  unfold writeLast
  refine Act.Shrinks.bind ?_ fun _ => Act.Shrinks.pure _
  intro s a s' h
  unfold Act.timely onOutflow Act.mapError Act.within at h
  generalize hx :
    (do Outflow.write bytes; Outflow.close : Act IoError Outflow Unit) s.outflow = x at h
  cases x with
  | ok b o => cases h; exact Nat.le_refl _
  | error e o =>
    cases e with
    | stalled => cases h; exact Nat.le_refl _
    | failed error => cases h

theorem shrinks_write (frame : Outgoing) : Act.Shrinks ahead (write frame) := by
  unfold write
  refine Act.Shrinks.getState.bind fun s => ?_
  split
  · exact Act.Shrinks.fail _
  · refine shrinks_drawKey.bind fun key => (shrinks_kind frame).bind fun op => ?_
    dsimp only
    split
    · refine Act.Shrinks.bind ?_ fun _ => shrinks_writeLast _
      intro s a s' h
      cases h
      exact Nat.le_refl _
    · exact shrinks_onOutflow _

/-- **Sending does not add to what can be received.** -/
theorem shrinks_send (frame : Outgoing) : Act.Shrinks ahead (send frame) := by
  unfold send
  refine (shrinks_write frame).bind fun _ => ?_
  split
  · exact shrinks_drainIfClosed
  · exact Act.Shrinks.pure _

end Session

end WebSocket

end UrlTransfer
