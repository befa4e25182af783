/-
# What one session sends, the other receives

A session that sends and a session that receives keep different books: the one knows the kind of
the message that is open, the other collects its parts.  Both stand against the same list of
frames here.  `transcript` says what the frames come to when nothing is known about headers and
masks: control frames as they are, and each message once, complete, at the place of its last part.

The two halves meet in the tokens of the bytes that were written.  A written frame is one token
(`nextToken?_frameBytes`), at which the automaton gives what the transcript has at its place
(`step_control`, `step_close`, `step_part`).  `Mirrors` is the invariant: the kind that the sender
keeps and the parts that the receiver keeps belong to one message, and a text among them is the
UTF-8 of some string.  The run (`receive_sendEach`) follows by induction over the frames.
-/
import UrlTransfer.Proofs.WebSocket.Receiving
import UrlTransfer.Proofs.WebSocket.Sending

namespace UrlTransfer

namespace WebSocket

/-! ## 1. Frames and what they come to -/

/-- The frames that can be built: parts of texts and of binary messages, and control frames. -/
inductive Outgoing.Built : Outgoing → Prop where
  | text (content : String) (fin : Bool) : Built (.ofText content fin)
  | binary (content : Bytes) (fin : Bool) : Built (.ofBytes content fin)
  | ping (payload : Bytes) : Built (.ping payload)
  | pong (payload : Bytes) : Built (.pong payload)
  | close (code : UInt16) (reason : Bytes) : Built (.close code.toNat reason)

theorem ControlPayload.ext {p q : ControlPayload} (h : p.content = q.content) : p = q := by
  cases p
  cases q
  cases h
  rfl

/-- **A frame that was received is known from the frame that it would be sent as.** -/
theorem Outgoing.ofFrame_injective : Function.Injective Outgoing.ofFrame := by
  intro a b h
  have hop := congrArg Outgoing.op h
  have hpayload := congrArg Outgoing.payload h
  have hcode := congrArg Outgoing.closeCode h
  cases a with
  | ping p =>
    cases b <;> simp [ofFrame, ping, pong, close, ofText, ofBytes] at hop
    exact congrArg Frame.ping (ControlPayload.ext hpayload)
  | pong p =>
    cases b <;> simp [ofFrame, ping, pong, close, ofText, ofBytes] at hop
    exact congrArg Frame.pong (ControlPayload.ext hpayload)
  | close code reason =>
    cases b <;> simp [ofFrame, ping, pong, close, ofText, ofBytes] at hop
    exact congr (congrArg Frame.close hcode) (ControlPayload.ext hpayload)
  | text text =>
    cases b <;> simp [ofFrame, ping, pong, close, ofText, ofBytes] at hop
    have htext := congrArg Utf8.decode? hpayload
    simp only [ofFrame, ofText, Utf8.decode?_ofString, Option.some.injEq] at htext
    rw [htext]
  | binary content =>
    cases b <;> simp [ofFrame, ping, pong, close, ofText, ofBytes] at hop
    exact congrArg Frame.binary hpayload

/-- The frames with the parts of each message put together, at the place of the last; `before` is
what came before of the message that is open. -/
def collect (before : Bytes) : List Outgoing → List Outgoing
  | [] => []
  | frame :: rest =>
    if frame.op.isControl then frame :: collect before rest
    else if frame.fin then { frame with payload := before ++ frame.payload } :: collect [] rest
    else collect (before ++ frame.payload) rest

/-- The contents of all messages, **finished or not**. -/
def contents (before : Bytes) : List Outgoing → List Bytes
  | [] => [before]
  | frame :: rest =>
    if frame.op.isControl then contents before rest
    else if frame.fin then (before ++ frame.payload) :: contents [] rest
    else contents (before ++ frame.payload) rest

/-- What the frames come to up to the end.  **Where none of them closes, the end of the stream
does.** -/
def transcriptFrom (before : Bytes) (frames : List Outgoing) : List Outgoing :=
  collect before frames ++
    if frames.any (·.op == .close) then [] else [.close CloseCode.noClose.number []]

/-- What the frames of a fresh session come to. -/
def transcript (frames : List Outgoing) : List Outgoing := transcriptFrom [] frames

section

variable {frame : Outgoing} (before : Bytes) (rest : List Outgoing)

theorem transcriptFrom_close (hop : frame.op = .close) :
    transcriptFrom before [frame] = [frame] := by
  have hcontrol : frame.op.isControl = true := by rw [hop]; rfl
  simp only [transcriptFrom, collect, if_pos hcontrol]
  simp [hop]

theorem transcriptFrom_control (hcontrol : frame.op.isControl = true) (hop : frame.op ≠ .close) :
    transcriptFrom before (frame :: rest) = frame :: transcriptFrom before rest := by
  simp [transcriptFrom, collect, hcontrol, hop]

theorem ne_close_of_data (hdata : frame.op.isControl = false) : frame.op ≠ .close := by
  intro hop
  rw [hop] at hdata
  cases hdata

theorem transcriptFrom_last (hdata : frame.op.isControl = false) (hfin : frame.fin = true) :
    transcriptFrom before (frame :: rest) =
      { frame with payload := before ++ frame.payload } :: transcriptFrom [] rest := by
  simp [transcriptFrom, collect, hdata, hfin, ne_close_of_data hdata]

theorem transcriptFrom_part (hdata : frame.op.isControl = false) (hfin : frame.fin = false) :
    transcriptFrom before (frame :: rest) = transcriptFrom (before ++ frame.payload) rest := by
  simp [transcriptFrom, collect, hdata, hfin, ne_close_of_data hdata]

end

/-- What is there of the open message is a part of a content. -/
theorem length_le_of_contents {before : Bytes} {frames : List Outgoing} {n : Nat}
    (h : ∀ content ∈ contents before frames, content.length ≤ n) : before.length ≤ n := by
  induction frames generalizing before with
  | nil => exact h before (List.mem_singleton_self _)
  | cons frame rest ih =>
    rw [contents] at h
    split at h
    · exact ih h
    · split at h
      · have := h _ List.mem_cons_self
        rw [List.length_append] at this
        omega
      · have := ih h
        rw [List.length_append] at this
        omega

namespace Session

/-! ## 2. Sending frame after frame -/

/-- Is this the refusal of a frame?  Every other failure is one of the connection. -/
def isRefusal : Halt Error → Bool
  | .failed .shutdown => true
  | .failed (.webSocket .userInvalidControlFrame) => true
  | .failed (.webSocket .dataTypeMismatch) => true
  | _ => false

/-- Sends frames one after the other, whatever becomes of each; returns those that were not
refused. -/
def sendEach : List Outgoing → Session → List Outgoing × Session
  | [], s => ([], s)
  | frame :: rest, s =>
    match send frame s with
    | .ok () s' => (frame :: (sendEach rest s').1, (sendEach rest s').2)
    | .error halt s' =>
      (if isRefusal halt then (sendEach rest s').1 else frame :: (sendEach rest s').1,
        (sendEach rest s').2)

theorem isRefusal_refusal? {s : Session} {frame : Outgoing} {e : Error}
    (h : s.refusal? frame = some e) : isRefusal (.failed e) = true := by
  unfold refusal? fault? at h
  split at h
  · cases h; rfl
  · obtain ⟨fault, hfault, rfl⟩ := Option.map_eq_some_iff.1 h
    split at hfault
    · split at hfault <;> cases hfault
      rfl
    · split at hfault
      · cases hfault
      · split at hfault <;> cases hfault
        rfl

/-- A refused frame is left out. -/
theorem sendEach_refused {s : Session} {frame : Outgoing} {e : Error}
    (h : s.refusal? frame = some e) (rest : List Outgoing) :
    ∃ entropy, sendEach (frame :: rest) s = sendEach rest { s with entropy } := by
  obtain ⟨entropy, hsend⟩ := send_refused h
  refine ⟨entropy, ?_⟩
  rw [sendEach, hsend]
  dsimp only
  rw [if_pos (isRefusal_refusal? h)]

/-- Any other frame is sent. -/
theorem sendEach_accepted {s : Session} {frame : Outgoing} (htakes : s.outflow.Takes)
    (h : s.refusal? frame = none) (rest : List Outgoing) :
    ∃ key s', Writes s frame key s' ∧
      sendEach (frame :: rest) s = (frame :: (sendEach rest s').1, (sendEach rest s').2) := by
  rcases send_accepted htakes h with ⟨key, s', hwrites, hsend | ⟨e, hsend⟩⟩
  · exact ⟨key, s', hwrites, by rw [sendEach, hsend]⟩
  · exact ⟨key, s', hwrites, by rw [sendEach, hsend]; rfl⟩

/-- **Behind a close frame nothing is sent.** -/
theorem sendEach_closed {s : Session} (hclosed : s.writeClosed = true) (frames : List Outgoing) :
    (sendEach frames s).1 = [] ∧ (sendEach frames s).2.outflow = s.outflow := by
  induction frames generalizing s with
  | nil => exact ⟨rfl, rfl⟩
  | cons frame rest ih =>
    have hrefused : s.refusal? frame = some .shutdown := if_pos hclosed
    obtain ⟨entropy, hrest⟩ := sendEach_refused hrefused rest
    rw [hrest]
    exact ih (s := { s with entropy }) hclosed

/-- What is sent comes behind what has been sent. -/
theorem sendEach_sent {s : Session} (htakes : s.outflow.Takes) (frames : List Outgoing) :
    ∃ written, (sendEach frames s).2.outflow.sent = s.outflow.sent ++ written := by
  induction frames generalizing s with
  | nil => exact ⟨[], (List.append_nil _).symm⟩
  | cons frame rest ih =>
    cases hrefusal : s.refusal? frame with
    | some e =>
      obtain ⟨entropy, hsend⟩ := sendEach_refused hrefusal rest
      rw [hsend]
      exact ih (s := { s with entropy }) htakes
    | none =>
      obtain ⟨key, s', hwrites, hsend⟩ := sendEach_accepted htakes hrefusal rest
      obtain ⟨written, hwritten⟩ := ih hwrites.takes
      rw [hsend, hwritten, hwrites.sent, List.append_assoc]
      exact ⟨_, rfl⟩

/-! ## 3. Written frames as tokens -/

/-- The payload of a frame as it is sent; that of a close frame starts with its code. -/
def wirePayload (frame : Outgoing) : Bytes :=
  (if frame.op = .close then Bytes.ofNat 2 frame.closeCode else []) ++ frame.payload

/-- The header of a frame as it is sent. -/
def wireHeader (sending : Option Opcode) (key : Option UInt32) (frame : Outgoing) :
    FrameHeader :=
  { fin := frame.fin, op := wireKind sending frame, key, length := (wirePayload frame).length }

theorem frameBytes_eq (sending : Option Opcode) (key : Option UInt32) (frame : Outgoing) :
    frameBytes key (wireKind sending frame) frame =
      (wireHeader sending key frame).encode ++ maskBy key (wirePayload frame) := by
  unfold frameBytes wireHeader wirePayload
  simp only [wireKind_eq_close]

theorem maskBy_maskBy (key : Option UInt32) (content : Bytes) :
    maskBy key (maskBy key content) = content := by
  cases key with
  | none => rfl
  | some key => exact mask_mask key content

/-- **A written frame is one token**, and leaves what is written behind it. -/
theorem nextToken?_frameBytes {frame : Outgoing} (hlength : (wirePayload frame).length < 2 ^ 63)
    (sending : Option Opcode) (key : Option UInt32) (rest : Bytes) :
    nextToken? (frameBytes key (wireKind sending frame) frame ++ rest) =
      some (.frame (wireHeader sending key frame) (wirePayload frame), rest) := by
  have hmasked : (maskBy key (wirePayload frame)).length =
      (wireHeader sending key frame).length := length_maskBy key _
  unfold nextToken?
  rw [frameBytes_eq, List.append_assoc, FrameHeader.parser_encode hlength]
  dsimp only
  rw [payloadToken_enough (by rw [List.length_append]; omega), ← hmasked, List.take_left,
    List.drop_left]
  exact congrArg (fun payload => some (Token.frame _ payload, rest)) (maskBy_maskBy key _)

/-! ## 4. Sender and receiver in step -/

/-- A message of parts that were built: **a text is the UTF-8 of some string**. -/
def Made (m : Fragments) : Prop :=
  m.kind = .text ∧ (∃ text, m.content = Bytes.ofString text) ∨ m.kind = .binary

/-- A message that is complete is received as it would be sent as a whole. -/
theorem Made.frame? {m : Fragments} (h : Made m) :
    ∃ frame, m.frame? = some frame ∧
      Outgoing.ofFrame frame = { op := m.kind, payload := m.content } := by
  unfold Fragments.frame?
  rcases h with ⟨hkind, text, hcontent⟩ | hkind
  · refine ⟨.text text, ?_, ?_⟩
    · simp only [hkind, hcontent, Utf8.decode?_ofString, Option.map_some]
    · rw [hkind, hcontent]
      rfl
  · refine ⟨.binary m.content, ?_, ?_⟩
    · simp only [hkind]
    · rw [hkind]
      rfl

/-- The message that the sender has open is the one that the receiver collects, and `before` is
what there is of it. -/
structure Mirrors (sending : Option Opcode) (message : Option Fragments) (before : Bytes) :
    Prop where
  kind : sending = message.map (·.kind)
  content : (message.map (·.content)).getD [] = before
  made : ∀ m, message = some m → Made m

theorem Mirrors.fresh : Mirrors none none [] := ⟨rfl, rfl, nofun⟩

theorem Mirrors.lengthOf {sending : Option Opcode} {message : Option Fragments} {before : Bytes}
    (h : Mirrors sending message before) : lengthOf message = before.length := by
  rw [← h.content]
  cases message <;> rfl

/-- A control frame is never a part. -/
theorem Built.fin {frame : Outgoing} (hbuilt : frame.Built) (hcontrol : frame.op.isControl = true) :
    frame.fin = true := by
  cases hbuilt with
  | text => simp [Outgoing.ofText, Opcode.isControl, Opcode.code] at hcontrol
  | binary => simp [Outgoing.ofBytes, Opcode.isControl, Opcode.code] at hcontrol
  | ping | pong | close => rfl

/-- Any other frame is a part of a text or of a binary message. -/
theorem Built.part {frame : Outgoing} (hbuilt : frame.Built)
    (hdata : frame.op.isControl = false) : frame.closeCode = 0 ∧
      (frame.op = .text ∧ (∃ text, frame.payload = Bytes.ofString text) ∨ frame.op = .binary) := by
  cases hbuilt with
  | text content fin => exact ⟨rfl, .inl ⟨rfl, content, rfl⟩⟩
  | binary content fin => exact ⟨rfl, .inr rfl⟩
  | ping => simp [Outgoing.ping, Opcode.isControl, Opcode.code] at hdata
  | pong => simp [Outgoing.pong, Opcode.isControl, Opcode.code] at hdata
  | close => simp [Outgoing.close, Opcode.isControl, Opcode.code] at hdata

/-- No frame can be built that continues a message; **only sending makes it one**. -/
theorem Built.op_ne {frame : Outgoing} (hbuilt : frame.Built) : frame.op ≠ .continuation := by
  cases hbuilt <;> exact Opcode.noConfusion

/-- A control frame that is sent is short, **with its code**. -/
theorem length_wirePayload {sending : Option Opcode} {frame : Outgoing}
    (hcontrol : frame.op.isControl = true) (hfault : fault? sending frame = none) :
    (wirePayload frame).length ≤ maxControl := by
  unfold fault? at hfault
  rw [if_pos hcontrol] at hfault
  split at hfault
  · cases hfault
  · next hlength =>
    unfold controlLimit at hlength
    unfold wirePayload
    rw [List.length_append]
    split at hlength
    · next hop =>
      rw [if_pos hop, Bytes.length_ofNat]
      unfold maxControl at hlength ⊢
      omega
    · next hop =>
      rw [if_neg hop, List.length_nil]
      omega

/-- The receiver finds no fault in a frame that is not refused. -/
theorem protocolFault?_wireHeader {side : Receiver} {message : Option Fragments} {before : Bytes}
    {sending : Option Opcode} {key : Option UInt32} {frame : Outgoing} (hbuilt : frame.Built)
    (hmirrors : Mirrors sending message before) (hfault : fault? sending frame = none)
    (hmask : (key.isSome && side.isClient) = false) :
    side.protocolFault? message (wireHeader sending key frame) = none := by
  have hkind : sending.isSome = message.isSome := by rw [hmirrors.kind, Option.isSome_map]
  unfold Receiver.protocolFault? wireHeader
  dsimp only
  rw [hmask]
  cases hcontrol : frame.op.isControl with
  | true =>
    have hwire : wireKind sending frame = frame.op := by simp [wireKind, hcontrol]
    have hlength := length_wirePayload hcontrol hfault
    have hfin := Built.fin hbuilt hcontrol
    simp [hwire, hcontrol, hfin, Nat.not_lt.2 hlength]
  | false =>
    cases message with
    | some m =>
      have hwire : wireKind sending frame = .continuation := by simp [wireKind, hcontrol, hkind]
      simp [hwire, Opcode.isControl, Opcode.code]
    | none =>
      have hwire : wireKind sending frame = frame.op := by simp [wireKind, hcontrol, hkind]
      simp [hwire, hcontrol, Built.op_ne hbuilt]

@[simp] theorem isControl_wireKind (sending : Option Opcode) (frame : Outgoing) :
    (wireKind sending frame).isControl = frame.op.isControl := by
  unfold wireKind
  split
  · next h =>
    rw [Bool.and_eq_true, Bool.not_eq_true'] at h
    rw [h.1]
    rfl
  · rfl

theorem wirePayload_data {frame : Outgoing} (hdata : frame.op.isControl = false) :
    wirePayload frame = frame.payload := by
  unfold wirePayload
  rw [if_neg (ne_close_of_data hdata), List.nil_append]

/-- The header of a frame as it is sent is accepted, if its message does not become too long. -/
theorem fault?_wireHeader {side : Receiver} {message : Option Fragments} {before : Bytes}
    {sending : Option Opcode} {key : Option UInt32} {frame : Outgoing} (hbuilt : frame.Built)
    (hmirrors : Mirrors sending message before) (hfault : fault? sending frame = none)
    (hmask : (key.isSome && side.isClient) = false)
    (hlength : frame.op.isControl = false →
      (before ++ frame.payload).length ≤ side.maxMessageLength) :
    side.fault? message (wireHeader sending key frame) = none := by
  have hprotocol := protocolFault?_wireHeader hbuilt hmirrors hfault hmask
  have hwire : (wireHeader sending key frame).op.isControl = frame.op.isControl :=
    isControl_wireKind sending frame
  cases hcontrol : frame.op.isControl with
  | true => exact Receiver.fault?_control hprotocol (hwire.trans hcontrol)
  | false =>
    have hfits := hlength hcontrol
    rw [List.length_append] at hfits
    rw [Receiver.fault?_data hprotocol (hwire.trans hcontrol), hmirrors.lengthOf]
    unfold wireHeader
    rw [wirePayload_data hcontrol]
    exact if_neg (Nat.not_lt.2 hfits)

/-- A message without parts is one of any kind. -/
theorem Made.start {frame : Outgoing} (hbuilt : frame.Built)
    (hdata : frame.op.isControl = false) : Made ⟨frame.op, []⟩ := by
  rcases Built.part hbuilt hdata with ⟨-, ⟨hop, -⟩ | hop⟩
  · exact .inl ⟨hop, "", rfl⟩
  · exact .inr hop

/-- One more part of the same kind. -/
theorem Made.add {m : Fragments} {frame : Outgoing} (hmade : Made m) (hbuilt : frame.Built)
    (hdata : frame.op.isControl = false) (hkind : m.kind = frame.op) :
    Made (m.add frame.payload) := by
  rcases Built.part hbuilt hdata with ⟨-, ⟨hop, text, hpayload⟩ | hop⟩
  · rcases hmade with ⟨htext, before, hcontent⟩ | hbinary
    · refine .inl ⟨htext, before ++ text, ?_⟩
      rw [Fragments.content_add, hcontent, hpayload, Bytes.ofString_append]
    · rw [hbinary, hop] at hkind
      cases hkind
  · exact .inr (hkind.trans hop)

/-- **The next part of a message, on both sides.** -/
theorem mirrors_add {sending : Option Opcode} {message : Option Fragments} {before : Bytes}
    {frame : Outgoing} (hbuilt : frame.Built) (hdata : frame.op.isControl = false)
    (hmirrors : Mirrors sending message before) (hfault : fault? sending frame = none) :
    ∃ m, (message.getD ⟨wireKind sending frame, []⟩).add frame.payload = m ∧
      m.kind = frame.op ∧ m.content = before ++ frame.payload ∧ Made m := by
  obtain ⟨hkind, rfl, hmade⟩ := hmirrors
  subst hkind
  refine ⟨_, rfl, ?_⟩
  rw [Fragments.content_add]
  cases message with
  | none =>
    have hwire : wireKind none frame = frame.op := by simp [wireKind]
    rw [Option.map_none, hwire]
    exact ⟨rfl, rfl, (Made.start hbuilt hdata).add hbuilt hdata rfl⟩
  | some m =>
    have hkind : m.kind = frame.op := by
      unfold fault? at hfault
      simp only [hdata, Option.map_some] at hfault
      by_cases hkind : m.kind = frame.op
      · exact hkind
      · simp [hkind] at hfault
    exact ⟨hkind, rfl, (hmade m rfl).add hbuilt hdata hkind⟩

/-! ## 5. The receiver at a written frame -/

/-- A close frame is read back, with its code. -/
theorem closeWith_wirePayload (code : UInt16) (reason : Bytes) :
    Receiver.closeWith (wirePayload (.close code.toNat reason)) =
      .closes (.close code.toNat (.ofPrefix reason)) := by
  obtain ⟨high, low, hcode⟩ : ∃ high low, Bytes.ofNat 2 code.toNat = [high, low] := ⟨_, _, rfl⟩
  have hpayload : wirePayload (.close code.toNat reason) = high :: low :: reason :=
    congrArg (· ++ reason) hcode
  have hvalue : high.toNat * 256 + low.toNat = code.toNat := by
    have hnumber : Bytes.toNat (Bytes.ofNat 2 code.toNat) = code.toNat :=
      Bytes.toNat_ofNat code.toNat_lt
    rw [hcode] at hnumber
    rw [← hnumber]
    simp [Bytes.toNat]
  rw [hpayload, Receiver.closeWith, hvalue]

/-- **A control frame is received as it was sent.** -/
theorem frameWith_control {sending : Option Opcode} {frame : Outgoing} (hbuilt : frame.Built)
    (hcontrol : frame.op.isControl = true) (hfault : fault? sending frame = none)
    (message : Option Fragments) (key : Option UInt32) :
    ∃ given, Outgoing.ofFrame given = frame ∧
      Receiver.frameWith message (wireHeader sending key frame) (wirePayload frame) =
        if frame.op = .close then .closes given else .gives given message := by
  have hlength := length_wirePayload hcontrol hfault
  have hwire : (wireHeader sending key frame).op = frame.op := by
    simp [wireHeader, wireKind, hcontrol]
  unfold Receiver.frameWith
  rw [hwire]
  cases hbuilt with
  | text => simp [Outgoing.ofText, Opcode.isControl, Opcode.code] at hcontrol
  | binary => simp [Outgoing.ofBytes, Opcode.isControl, Opcode.code] at hcontrol
  | ping payload =>
    exact ⟨.ping (.ofPrefix payload), congrArg Outgoing.ping (ofPrefix_content hlength), rfl⟩
  | pong payload =>
    exact ⟨.pong (.ofPrefix payload), congrArg Outgoing.pong (ofPrefix_content hlength), rfl⟩
  | close code reason =>
    have hreason : reason.length ≤ maxControl := by
      refine Nat.le_trans ?_ hlength
      unfold wirePayload
      rw [List.length_append]
      exact Nat.le_add_left _ _
    exact ⟨.close code.toNat (.ofPrefix reason),
      congrArg (Outgoing.close code.toNat) (ofPrefix_content hreason),
      closeWith_wirePayload code reason⟩

/-- **A part is added to its message**, which is received with its last part. -/
theorem frameWith_part {sending : Option Opcode} {message : Option Fragments} {before : Bytes}
    {frame : Outgoing} (hbuilt : frame.Built) (hdata : frame.op.isControl = false)
    (hmirrors : Mirrors sending message before) (hfault : fault? sending frame = none)
    (key : Option UInt32) :
    if frame.fin then
      ∃ given, Outgoing.ofFrame given = { frame with payload := before ++ frame.payload } ∧
        Receiver.frameWith message (wireHeader sending key frame) (wirePayload frame) =
          .gives given none
    else
      ∃ message',
        Mirrors (sendingBehind sending frame) message' (before ++ frame.payload) ∧
        Receiver.frameWith message (wireHeader sending key frame) (wirePayload frame) =
          .takes message' := by
  obtain ⟨m, hm, hkind, hcontent, hmade⟩ := mirrors_add hbuilt hdata hmirrors hfault
  obtain ⟨given, hgiven, hframe⟩ := hmade.frame?
  have hwith : Receiver.frameWith message (wireHeader sending key frame) (wirePayload frame) =
      if !frame.fin then .takes (some m) else .gives given none := by
    rw [Receiver.frameWith_data ((isControl_wireKind sending frame).trans hdata),
      wirePayload_data hdata]
    exact Receiver.dataWith_made hm hgiven
  rw [hwith]
  cases hfin : frame.fin with
  | true =>
    refine ⟨given, ?_, rfl⟩
    rw [hframe, hkind, hcontent]
    obtain ⟨op, payload, fin, closeCode⟩ := frame
    have hcode : closeCode = 0 := (Built.part hbuilt hdata).1
    rw [hcode, show fin = true from hfin]
  | false =>
    refine ⟨some m, ⟨?_, hcontent, ?_⟩, rfl⟩
    · simp [sendingBehind, hdata, hfin, hkind]
    · rintro _ ⟨⟩
      exact hmade

/-! ## 6. A run -/

/-- The receiver receives the frames from these bytes, unless a message is too long for it. -/
def Hears (side : Receiver) (message : Option Fragments) (before written : Bytes)
    (frames : List Outgoing) : Prop :=
  (∀ content ∈ contents before frames, content.length ≤ side.maxMessageLength) →
    (side.receive message (tokens written)).1.map Outgoing.ofFrame =
        transcriptFrom before frames ∧
      (side.receive message (tokens written)).2 = none

theorem hears_nil (side : Receiver) (message : Option Fragments) (before : Bytes) :
    Hears side message before [] [] := by
  intro _
  rw [tokens_none rfl]
  exact ⟨rfl, rfl⟩

/-- What is written of a frame is short enough for a header. -/
theorem length_wirePayload_lt {sending : Option Opcode} {frame : Outgoing}
    (hfault : fault? sending frame = none) (hlength : frame.payload.length < 2 ^ 63) :
    (wirePayload frame).length < 2 ^ 63 := by
  cases hcontrol : frame.op.isControl with
  | true =>
    have := length_wirePayload hcontrol hfault
    unfold maxControl at this
    omega
  | false =>
    rw [wirePayload_data hcontrol]
    exact hlength

/-- A frame of one session that the other can receive: it was built and not refused, and no
client is sent a mask. -/
structure Crosses (side : Receiver) (message : Option Fragments) (before : Bytes)
    (sending : Option Opcode) (key : Option UInt32) (frame : Outgoing) : Prop where
  built : frame.Built
  length : frame.payload.length < 2 ^ 63
  mirrors : Mirrors sending message before
  fault : fault? sending frame = none
  mask : (key.isSome && side.isClient) = false

section

variable {side : Receiver} {message : Option Fragments} {before : Bytes}
  {sending : Option Opcode} {key : Option UInt32} {frame : Outgoing} {written : Bytes}
  {rest : List Outgoing}

/-- The bytes of a frame are received first, and then those behind it. -/
theorem Crosses.receive (h : Crosses side message before sending key frame)
    (hfits : frame.op.isControl = false →
      (before ++ frame.payload).length ≤ side.maxMessageLength) (written : Bytes) :
    side.receive message (tokens (frameBytes key (wireKind sending frame) frame ++ written)) =
      (Receiver.frameWith message (wireHeader sending key frame) (wirePayload frame)).proceed
        fun message' => side.receive message' (tokens written) := by
  have htoken :=
    nextToken?_frameBytes (length_wirePayload_lt h.fault h.length) sending key written
  rw [tokens_some htoken, Receiver.receive, Receiver.step,
    fault?_wireHeader h.built h.mirrors h.fault h.mask hfits]

/-- A close frame is the last that is received. -/
theorem Crosses.hears_close (h : Crosses side message before sending key frame)
    (hop : frame.op = .close) :
    Hears side message before (frameBytes key (wireKind sending frame) frame) [frame] := by
  have hcontrol : frame.op.isControl = true := by rw [hop]; rfl
  obtain ⟨given, hgiven, hwith⟩ :=
    frameWith_control h.built hcontrol h.fault message key
  intro _
  have hreceive := h.receive (by simp [hcontrol]) []
  rw [List.append_nil, hwith, if_pos hop] at hreceive
  rw [hreceive, transcriptFrom_close before hop]
  exact ⟨congrArg (fun frame => [frame]) hgiven, rfl⟩

/-- Any other control frame is received in front of what follows. -/
theorem Crosses.hears_control (h : Crosses side message before sending key frame)
    (hcontrol : frame.op.isControl = true) (hop : frame.op ≠ .close)
    (hrest : Hears side message before written rest) :
    Hears side message before (frameBytes key (wireKind sending frame) frame ++ written)
      (frame :: rest) := by
  obtain ⟨given, hgiven, hwith⟩ :=
    frameWith_control h.built hcontrol h.fault message key
  intro hcontents
  have hreceive := h.receive (by simp [hcontrol]) written
  rw [contents, if_pos hcontrol] at hcontents
  obtain ⟨hframes, herror⟩ := hrest hcontents
  rw [hwith, if_neg hop] at hreceive
  rw [hreceive, transcriptFrom_control before rest hcontrol hop, ← hframes, ← hgiven]
  exact ⟨rfl, herror⟩

/-- The last part of a message is received as the message. -/
theorem Crosses.hears_last (h : Crosses side message before sending key frame)
    (hdata : frame.op.isControl = false) (hfin : frame.fin = true)
    (hrest : Hears side none [] written rest) :
    Hears side message before (frameBytes key (wireKind sending frame) frame ++ written)
      (frame :: rest) := by
  have hwith := frameWith_part h.built hdata h.mirrors h.fault key
  rw [if_pos hfin] at hwith
  obtain ⟨given, hgiven, hwith⟩ := hwith
  intro hcontents
  rw [contents, if_neg (by simp [hdata]), if_pos hfin] at hcontents
  have hreceive := h.receive (fun _ => hcontents _ List.mem_cons_self) written
  obtain ⟨hframes, herror⟩ := hrest fun content hmem =>
    hcontents content (List.mem_cons_of_mem _ hmem)
  rw [hwith] at hreceive
  rw [hreceive, transcriptFrom_last before rest hdata hfin, ← hframes, ← hgiven]
  exact ⟨rfl, herror⟩

/-- A part of a message that goes on is not received yet. -/
theorem Crosses.hears_part (h : Crosses side message before sending key frame)
    (hdata : frame.op.isControl = false) (hfin : frame.fin = false)
    (hrest : ∀ message', Mirrors (sendingBehind sending frame) message' (before ++ frame.payload) →
      Hears side message' (before ++ frame.payload) written rest) :
    Hears side message before (frameBytes key (wireKind sending frame) frame ++ written)
      (frame :: rest) := by
  have hwith := frameWith_part h.built hdata h.mirrors h.fault key
  rw [if_neg (by simp [hfin])] at hwith
  obtain ⟨message', hmirrors, hwith⟩ := hwith
  intro hcontents
  rw [contents, if_neg (by simp [hdata]), if_neg (by simp [hfin])] at hcontents
  have hreceive := h.receive (fun _ => length_le_of_contents hcontents) written
  obtain ⟨hframes, herror⟩ := hrest message' hmirrors hcontents
  rw [hwith] at hreceive
  rw [hreceive, transcriptFrom_part before rest hdata hfin]
  exact ⟨hframes, herror⟩

end

/-- **Whatever is sent is received**: the receiver hears the frames that are not refused. -/
theorem hears_sendEach {frames : List Outgoing} {s : Session} {side : Receiver}
    {message : Option Fragments} {before written : Bytes}
    (hbuilt : ∀ frame ∈ frames, frame.Built ∧ frame.payload.length < 2 ^ 63)
    (hopen : s.writeClosed = false) (htakes : s.outflow.Takes)
    (hmirrors : Mirrors s.sending message before) (hrole : side.isClient = !s.isClient)
    (hwritten : (sendEach frames s).2.outflow.sent = s.outflow.sent ++ written) :
    Hears side message before written (sendEach frames s).1 := by
  -- On the frames; `Mirrors` is what one frame hands to the next, whether it is refused or not.
  induction frames generalizing s message before written with
  | nil =>
    rw [List.self_eq_append_right.1 hwritten]
    exact hears_nil side message before
  | cons frame rest ih =>
    obtain ⟨hframe, hlength⟩ := hbuilt frame List.mem_cons_self
    have hrest := fun frame hmem => hbuilt frame (List.mem_cons_of_mem _ hmem)
    cases hrefusal : s.refusal? frame with
    | some e =>
      obtain ⟨entropy, hsend⟩ := sendEach_refused hrefusal rest
      rw [hsend] at hwritten ⊢
      exact ih (s := { s with entropy }) hrest hopen htakes hmirrors hrole hwritten
    | none =>
      obtain ⟨key, s', hwrites, hsend⟩ := sendEach_accepted htakes hrefusal rest
      have hcrosses : Crosses side message before s.sending key frame := by
        refine ⟨hframe, hlength, hmirrors, ?_, ?_⟩
        · unfold refusal? at hrefusal
          rw [if_neg (by simp [hopen])] at hrefusal
          exact Option.map_eq_none_iff.1 hrefusal
        · rw [hwrites.masked, hrole]
          exact Bool.and_not_self _
      have hrole' : side.isClient = !s'.isClient := by rw [hwrites.isClient]; exact hrole
      obtain ⟨written', hsent⟩ := sendEach_sent hwrites.takes rest
      rw [hsend] at hwritten ⊢
      rw [hsent, hwrites.sent, List.append_assoc] at hwritten
      rw [← List.append_cancel_left hwritten]
      by_cases hop : frame.op = .close
      · have hclosed : s'.writeClosed = true := by rw [hwrites.writeClosed, hop]; rfl
        obtain ⟨hnone, hflow⟩ := sendEach_closed hclosed rest
        rw [hflow] at hsent
        rw [hnone, List.self_eq_append_right.1 hsent, List.append_nil]
        exact hcrosses.hears_close hop
      have hopen' : s'.writeClosed = false := by rw [hwrites.writeClosed]; simpa using hop
      have hsending := hwrites.sending
      cases hcontrol : frame.op.isControl with
      | true =>
        refine hcrosses.hears_control hcontrol hop
          (ih hrest hopen' hwrites.takes ?_ hrole' hsent)
        rw [hsending, sendingBehind, if_pos hcontrol]
        exact hmirrors
      | false =>
        cases hfin : frame.fin with
        | true =>
          refine hcrosses.hears_last hcontrol hfin
            (ih hrest hopen' hwrites.takes ?_ hrole' hsent)
          rw [hsending, sendingBehind, if_neg (by simp [hcontrol]), if_pos hfin]
          exact .fresh
        | false =>
          refine hcrosses.hears_part hcontrol hfin fun message' hmirrors' =>
            ih hrest hopen' hwrites.takes ?_ hrole' hsent
          rw [hsending]
          exact hmirrors'

/-- **What one session sends, the other receives.**  Any frames are sent one after the other; those
that are not refused come to a transcript.  The bytes that were written for them, cut in any way,
are received by a fresh session of the other role without an error, as this transcript, if no
message is too long for it.  No payload has 2^63 bytes or more, as no memory has. -/
theorem recvAll_sendEach {frames : List Outgoing} {s : Session}
    (hbuilt : ∀ frame ∈ frames, frame.Built ∧ frame.payload.length < 2 ^ 63)
    (hopen : s.writeClosed = false) (hsending : s.sending = none) (htakes : s.outflow.Takes) :
    ∃ written, (sendEach frames s).2.outflow.sent = s.outflow.sent ++ written ∧
      ∀ t : Session, t.Fresh → t.isClient = !s.isClient → t.reader.inflow.ending = .eof →
        t.reader.ahead = written → maxControl ≤ t.maxMessageLength →
        (∀ content ∈ contents [] (sendEach frames s).1, content.length ≤ t.maxMessageLength) →
        t.recvAll.frames.map Outgoing.ofFrame = transcript (sendEach frames s).1 ∧
          t.recvAll.halt = none := by
  obtain ⟨written, hwritten⟩ := sendEach_sent htakes frames
  refine ⟨written, hwritten, ?_⟩
  intro t hfresh hrole hend hahead hmax hcontents
  have hmirrors : Mirrors s.sending none [] := by rw [hsending]; exact .fresh
  have hhears : Hears t.receiver none [] written (sendEach frames s).1 :=
    hears_sendEach hbuilt hopen htakes hmirrors hrole hwritten
  obtain ⟨hframes, herror⟩ := hhears hcontents
  obtain ⟨hgot, hhalt⟩ := recvAllFrom_receive (hfresh.inSync hend) hmax []
  rw [hahead] at hgot hhalt
  unfold recvAll
  rw [hgot, hhalt, herror]
  exact ⟨hframes, rfl⟩

/-- A client that has sent nothing. -/
def sender : Session :=
  { reader := .ofInflow .empty
    outflow := {}
    link := 0
    entropy := ⟨[1, 2, 3, 4], 0⟩
    isClient := true
    maxMessageLength := 125
    closeTimeout := .ofSeconds 30 }

/-- A message in two parts, a ping between them, and a part of a text that is refused there. -/
def interleaved : List Outgoing :=
  [.ofBytes [10] false, .ping [20], .ofText "" true, .ofBytes [30] true]

/-- A server that receives what was written, in two pieces. -/
def hearer (written : Bytes) : Session :=
  { sender with
    reader := .ofInflow ⟨[written.take 8, written.drop 8], .eof⟩
    isClient := false }

theorem recvAll_sendEach_interleaved :
    (hearer (sendEach interleaved sender).2.outflow.sent).recvAll.frames.map Outgoing.ofFrame =
        [.ping [20], .ofBytes [10, 30] true, .close 1006 []] ∧
      (hearer (sendEach interleaved sender).2.outflow.sent).recvAll.halt = none := by
  have hbuilt : ∀ frame ∈ interleaved, frame.Built ∧ frame.payload.length < 2 ^ 63 := by
    unfold interleaved
    simp only [List.forall_mem_cons]
    exact ⟨⟨.binary _ _, by decide⟩, ⟨.ping _, by decide⟩, ⟨.text _ _, by decide⟩,
      ⟨.binary _ _, by decide⟩, nofun⟩
  obtain ⟨written, hwritten, hreceive⟩ :=
    recvAll_sendEach (s := sender) hbuilt rfl rfl ⟨rfl, rfl⟩
  rw [show sender.outflow.sent ++ written = written from rfl] at hwritten
  rw [hwritten]
  have hahead : (hearer written).reader.ahead = written := by
    show [] ++ [written.take 8, written.drop 8].flatten = written
    simp
  refine hreceive (hearer written) ⟨rfl, rfl, rfl⟩ rfl rfl hahead (Nat.le_refl 125) ?_
  show ∀ content ∈ ([[10, 30], []] : List Bytes), content.length ≤ 125
  decide

end Session

end WebSocket

end UrlTransfer
