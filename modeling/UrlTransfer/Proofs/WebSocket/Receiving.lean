/-
# A session receives what the reference decoder gives

A session keeps what it knows about the stream in three places: whether the receiving side is
open, whether the next data frame has to continue a message, and the message itself.  They are
changed by different actions, at different times.  `InSync` says what they have to do with the one
state of the automaton in `WebSocket/Decoding`: the receiving side is open, a continuation is
expected exactly if there is a message, and the content of the message is that of its parts.

One lemma for each action (`readHeader_step`, `readControl_step`, `readPart_step`) shows that the
session does at a frame what the automaton does and stays in step with it, so a single frame
(`nextPart_step`) and then a whole run (`recvAllFrom_receive`) follow by the recursion of the
loops.  Since readers enter only through the bytes ahead, it does not matter how the stream is cut.
-/
import UrlTransfer.Proofs.Stream.Cutting
import UrlTransfer.Proofs.WebSocket.Decoding
import UrlTransfer.WebSocket.Session

namespace UrlTransfer

namespace WebSocket

namespace Session

/-! ## 1. A session and the automaton -/

/-- The session as the automaton sees it. -/
def receiver (s : Session) : Receiver := ⟨s.isClient, s.maxMessageLength⟩

/-- The session is in the state of the automaton. -/
structure InSync (s : Session) (message : Option Fragments) : Prop where
  isOpen : s.readClosed = false
  continuing : s.continuing = message.isSome
  message : s.message = message.map fun m => (m.kind, m.content)
  ends : s.reader.inflow.ending = .eof

/-- The receiving side is open, and this is what is there of a message; the stream may end in any
way. -/
structure Holds (s : Session) (message : Option Fragments) : Prop where
  isOpen : s.readClosed = false
  continuing : s.continuing = message.isSome
  message : s.message = message.map fun m => (m.kind, m.content)

theorem InSync.holds {s : Session} {message : Option Fragments} (h : s.InSync message) :
    s.Holds message := ⟨h.isOpen, h.continuing, h.message⟩

theorem Holds.inSync {s : Session} {message : Option Fragments} (h : s.Holds message)
    (hend : s.reader.inflow.ending = .eof) : s.InSync message :=
  ⟨h.isOpen, h.continuing, h.message, hend⟩

/-- Nothing has been received, and the stream ends at some time. -/
structure Fresh (s : Session) : Prop where
  isOpen : s.readClosed = false
  continuing : s.continuing = false
  message : s.message = none

theorem Fresh.holds {s : Session} (h : s.Fresh) : s.Holds none :=
  ⟨h.isOpen, h.continuing, h.message⟩

theorem Fresh.inSync {s : Session} (h : s.Fresh) (hend : s.reader.inflow.ending = .eof) :
    s.InSync none := h.holds.inSync hend

/-! ## 2. Actions on the reader -/

@[simp] theorem length_maskBy (key : Option UInt32) (content : Bytes) :
    (maskBy key content).length = content.length := by
  cases key with
  | none => rfl
  | some key => exact length_mask key content

theorem onReader_run {α : Type} {x : Act Error Reader α} {s : Session} {a : α} {r : Reader}
    (h : x s.reader = .ok a r) : onReader x s = .ok a { s with reader := r } :=
  Act.within_run h

theorem onReader_fail {α : Type} {x : Act Error Reader α} {s : Session} {e : Halt Error}
    {r : Reader} (h : x s.reader = .error e r) :
    onReader x s = .error e { s with reader := r } :=
  Act.within_error h

/-- Exactly so many bytes are read, or the end of the stream is met behind all that there are. -/
theorem ends_readExact (r : Reader) (n : Nat) :
    Reader.Ends (readExact n) r n (if n ≤ r.ahead.length then .ok (r.ahead.take n)
      else .error (r.inflow.ending.halt (.io .eof))) := by
  have hends := Reader.ends_readFully r n
  by_cases hthere : n ≤ r.ahead.length
  · rw [if_pos hthere] at hends ⊢
    obtain ⟨q, hread, hpassed⟩ := hends
    refine ⟨q, ?_, hpassed⟩
    unfold readExact
    rw [Act.bind_ok (Act.mapError_ok hread), if_neg (by rw [List.length_take]; omega)]
    rfl
  · rw [if_neg hthere] at hends ⊢
    generalize r.inflow.ending = ending at hends ⊢
    cases ending with
    | eof =>
      obtain ⟨q, hread, hpassed⟩ := hends
      refine ⟨q, ?_, hpassed⟩
      unfold readExact
      rw [Act.bind_ok (Act.mapError_ok hread), if_pos (Nat.lt_of_not_le hthere)]
      rfl
    | hang =>
      obtain ⟨q, hread, hpassed⟩ := hends
      exact ⟨q, Act.bind_error (Act.mapError_error hread), hpassed⟩
    | fault error =>
      obtain ⟨q, hread, hpassed⟩ := hends
      exact ⟨q, Act.bind_error (Act.mapError_error hread), hpassed⟩

/-- **Reading a payload is taking it.** -/
theorem computes_readExact {K : Readers} (n : Nat) :
    K.Computes (readExact n) (Parser.take n) := by
  constructor
  · intro r bytes rest hmem h
    have hends := ends_readExact r n
    by_cases hlength : r.ahead.length < n
    · rw [Parser.take_short hlength] at h; cases h
    · rw [Parser.take_enough (Nat.not_lt.1 hlength)] at h
      cases h
      rw [if_pos (Nat.not_lt.1 hlength)] at hends
      obtain ⟨r', hread, hpassed⟩ := hends
      exact ⟨r', hread, hpassed.ahead, K.stays hpassed hmem⟩
  · intro r e hmem h
    have hends := ends_readExact r n
    by_cases hlength : r.ahead.length < n
    · rw [Parser.take_short hlength] at h
      cases h
      rw [if_neg (Nat.not_le_of_lt hlength), K.ends hmem] at hends
      obtain ⟨r', hread, -⟩ := hends
      exact ⟨r', hread⟩
    · rw [Parser.take_enough (Nat.not_lt.1 hlength)] at h; cases h

/-- A payload that is there. -/
theorem readExact_there {r : Reader} {n : Nat} (hend : r.inflow.ending = .eof)
    (h : n ≤ r.ahead.length) :
    ∃ r', readExact n r = .ok (r.ahead.take n) r' ∧ r'.ahead = r.ahead.drop n ∧
      r'.inflow.ending = .eof :=
  (computes_readExact (K := .ending) n).ok hend (Parser.take_enough h)

/-- A payload that is cut short. -/
theorem onReader_readExact_short {s : Session} {n : Nat}
    (hend : s.reader.inflow.ending = .eof) (h : s.reader.ahead.length < n) :
    ∃ s', onReader (readExact n) s = .error (.failed (.io .eof)) s' := by
  obtain ⟨r, hread⟩ :=
    (computes_readExact (K := .ending) n).error hend (Parser.take_short h)
  exact ⟨_, onReader_fail hread⟩

/-! ## 3. Headers -/

/-- **A header is accepted exactly if the protocol finds no fault in it.** -/
theorem acceptHeader_step {s : Session} {message : Option Fragments}
    (hcont : s.continuing = message.isSome) (h : FrameHeader) :
    match s.receiver.protocolFault? message h with
    | some fault => ∃ s', acceptHeader h s = .error (.failed (.webSocket fault)) s'
    | none => acceptHeader h s = .ok () (s.follow h) := by
  unfold Receiver.protocolFault? receiver acceptHeader
  rw [hcont]
  by_cases hmask : (h.key.isSome && s.isClient) = true
  all_goals
    -- A control frame and a part of a message are judged by rules of their own.
    cases hcontrol : h.op.isControl with
    | true =>
      unfold checkControl
      cases hfin : h.fin
      · simp
      · by_cases hlength : maxControl < h.length <;> simp [hlength, hmask]
    | false =>
      unfold checkData
      by_cases hop : h.op = .continuation <;> cases message <;> simp [hop, hmask]

/-- **Reading a header takes it off the bytes ahead and judges it by the rules of the protocol.** -/
theorem readHeader_step {s : Session} {message : Option Fragments} (hsync : s.InSync message) :
    match FrameHeader.parser s.reader.ahead with
    | .error e => ∃ s', readHeader s = .error (.failed e) s'
    | .ok (none, _) => ∃ s', readHeader s = .ok none s' ∧ s'.readClosed = true
    | .ok (some h, rest) =>
      match s.receiver.protocolFault? message h with
      | some fault => ∃ s', readHeader s = .error (.failed (.webSocket fault)) s'
      | none =>
        ∃ r, readHeader s = .ok (some h) ({ s with reader := r }.follow h) ∧
          r.ahead = rest ∧ r.inflow.ending = .eof := by
  have hcomputes : Readers.ending.Computes FrameHeader.read FrameHeader.parser :=
    FrameHeader.computes_read
  unfold readHeader
  rw [if_neg (by simp [hsync.isOpen])]
  cases hparse : FrameHeader.parser s.reader.ahead with
  | error e =>
    obtain ⟨r, hread⟩ := hcomputes.error hsync.ends hparse
    rw [onReader_fail hread]
    exact ⟨_, rfl⟩
  | ok p =>
    obtain ⟨o, rest⟩ := p
    obtain ⟨r, hread, hahead, hend⟩ := hcomputes.ok hsync.ends hparse
    rw [onReader_run hread]
    cases o with
    | none => exact ⟨_, rfl, rfl⟩
    | some h =>
      have haccept := acceptHeader_step (s := { s with reader := r }) hsync.continuing h
      dsimp only
      cases hfault : s.receiver.protocolFault? message h with
      | some fault =>
        rw [show Receiver.protocolFault? (receiver { s with reader := r }) message h = some fault
          from hfault] at haccept
        obtain ⟨s', hs'⟩ := haccept
        rw [hs']
        exact ⟨s', rfl⟩
      | none =>
        rw [show Receiver.protocolFault? (receiver { s with reader := r }) message h = none
          from hfault] at haccept
        dsimp only at haccept
        rw [haccept]
        exact ⟨r, rfl, hahead, hend⟩

/-! ## 4. One frame -/

/-- What the session has done is what the automaton does: `rest` is ahead of it then. -/
def Agrees (side : Receiver) (rest : Bytes) :
    Outcome → EStateM.Result (Halt Error) Session (Option Frame) → Prop
  | .fails e, result => ∃ s', result = .error (.failed e) s'
  | .takes message, result =>
    ∃ s', result = .ok none s' ∧ s'.InSync message ∧ s'.receiver = side ∧ s'.reader.ahead = rest
  | .gives frame message, result =>
    ∃ s', result = .ok (some frame) s' ∧ s'.InSync message ∧ s'.receiver = side ∧
      s'.reader.ahead = rest
  | .closes frame, result => ∃ s', result = .ok (some frame) s' ∧ s'.readClosed = true

/-- What the session has done is what the automaton does, with `r` in the place of its reader. -/
def Does (side : Receiver) (r : Reader) :
    Outcome → EStateM.Result (Halt Error) Session (Option Frame) → Prop
  | .fails e, result => ∃ s', result = .error (.failed e) s'
  | .takes message, result =>
    ∃ s', result = .ok none s' ∧ s'.Holds message ∧ s'.receiver = side ∧ s'.reader = r
  | .gives frame message, result =>
    ∃ s', result = .ok (some frame) s' ∧ s'.Holds message ∧ s'.receiver = side ∧ s'.reader = r
  | .closes frame, result => ∃ s', result = .ok (some frame) s' ∧ s'.readClosed = true

/-- Where the stream ends at some time, that is all there is to say about the reader. -/
theorem Does.agrees {side : Receiver} {r : Reader} {outcome : Outcome}
    {result : EStateM.Result (Halt Error) Session (Option Frame)} (h : Does side r outcome result)
    (hend : r.inflow.ending = .eof) : Agrees side r.ahead outcome result := by
  cases outcome with
  | fails e => exact h
  | closes frame => exact h
  | takes message =>
    obtain ⟨s', hresult, hholds, hside, hreader⟩ := h
    exact ⟨s', hresult, hholds.inSync (by rw [hreader]; exact hend), hside, by rw [hreader]⟩
  | gives frame message =>
    obtain ⟨s', hresult, hholds, hside, hreader⟩ := h
    exact ⟨s', hresult, hholds.inSync (by rw [hreader]; exact hend), hside, by rw [hreader]⟩

theorem drainIfClosed_run (s : Session) :
    ∃ s', drainIfClosed s = .ok () s' ∧ s'.readClosed = s.readClosed := by
  unfold drainIfClosed
  split
  · exact ⟨_, rfl, rfl⟩
  · exact ⟨s, rfl, rfl⟩

theorem ofPrefix_content {bytes : Bytes} (h : bytes.length ≤ maxControl) :
    (ControlPayload.ofPrefix bytes).content = bytes := List.take_of_length_le h

/-- The payload of a close frame says what the automaton reads in it. -/
theorem closeFrame_closeWith {payload : Bytes} (h : payload.length ≤ maxControl) :
    match closeFrame (.ofPrefix payload) with
    | .ok frame => Receiver.closeWith payload = .closes frame
    | .error fault => Receiver.closeWith payload = .fails (.webSocket fault) := by
  unfold closeFrame
  rw [ofPrefix_content h]
  match payload with
  | [] => rfl
  | [_] => rfl
  | high :: low :: reason =>
    simp only [Receiver.closeWith]
    congr 2
    simp only [List.length_cons] at h
    simp only [ControlPayload.ofPrefix, ControlPayload.advance, ControlPayload.mk.injEq]
    rw [List.take_of_length_le (by omega), List.take_of_length_le (by simp; omega)]
    rfl

/-- What is read of a close frame whose payload is there. -/
theorem readControl_close {s s' : Session} {h : FrameHeader} {got : Bytes} (hop : h.op = .close)
    (hread : onReader (readExact h.length) s = .ok got s') :
    match closeFrame (.ofPrefix (maskBy h.key got)) with
    | .error fault => readControl h s = .error (.failed (.webSocket fault)) s'
    | .ok frame => ∃ s'', readControl h s = .ok frame s'' ∧ s''.readClosed = s'.readClosed := by
  unfold readControl
  rw [Act.bind_ok hread]
  simp only [hop]
  cases closeFrame (.ofPrefix (maskBy h.key got)) with
  | error fault => rfl
  | ok frame =>
    obtain ⟨s'', hdrain, hclosed⟩ := drainIfClosed_run s'
    dsimp only
    rw [Act.bind_ok hdrain]
    exact ⟨s'', rfl, hclosed⟩

/-- What a control frame is received as. -/
theorem readControl_ok {s s' : Session} {h : FrameHeader} {frame : Frame}
    (hread : readControl h s = .ok frame s') :
    (∃ payload, frame = .ping payload ∨ frame = .pong payload) ∨
      ∃ payload, closeFrame payload = .ok frame := by
  unfold readControl at hread
  obtain ⟨got, s'', -, hread⟩ := Act.bind_eq_ok.1 hread
  cases hop : h.op with
  | ping => rw [hop] at hread; cases hread; exact .inl ⟨_, .inl rfl⟩
  | pong => rw [hop] at hread; cases hread; exact .inl ⟨_, .inr rfl⟩
  | _ =>
    rw [hop] at hread
    cases hclose : closeFrame (.ofPrefix (maskBy h.key got)) with
    | error fault => rw [hclose] at hread; cases hread
    | ok closing =>
      rw [hclose] at hread
      obtain ⟨_, _, -, hread⟩ := Act.bind_eq_ok.1 hread
      cases hread
      exact .inr ⟨_, hclose⟩

/-- **A control frame whose payload has been read leaves the message alone**; a close frame is the
last. -/
theorem readControl_does {s : Session} {message : Option Fragments} {h : FrameHeader}
    {got : Bytes} {r : Reader} (hholds : s.Holds message) (hcontrol : h.op.isControl = true)
    (hlength : got.length ≤ maxControl) (hgot : readExact h.length s.reader = .ok got r) :
    Does s.receiver r (Receiver.frameWith message h (maskBy h.key got))
      ((readControl h >>= fun frame => pure (some frame)) (s.follow h)) := by
  have hread : onReader (readExact h.length) (s.follow h) =
      .ok got { s.follow h with reader := r } := onReader_run hgot
  have hfollow : h.op ≠ .close → Holds { s.follow h with reader := r } message := by
    intro hop
    refine ⟨?_, ?_, hholds.message⟩
    · simp [follow, hholds.isOpen, hop]
    · simp [follow, hcontrol, hholds.continuing]
  unfold Receiver.frameWith
  cases hop : h.op with
  | continuation => rw [hop] at hcontrol; cases hcontrol
  | text => rw [hop] at hcontrol; cases hcontrol
  | binary => rw [hop] at hcontrol; cases hcontrol
  | ping =>
    unfold readControl
    rw [bind_assoc, Act.bind_ok hread, hop]
    exact ⟨_, rfl, hfollow (by simp [hop]), rfl, rfl⟩
  | pong =>
    unfold readControl
    rw [bind_assoc, Act.bind_ok hread, hop]
    exact ⟨_, rfl, hfollow (by simp [hop]), rfl, rfl⟩
  | close =>
    have hpayload : (maskBy h.key got).length ≤ maxControl := by
      rw [length_maskBy]
      exact hlength
    have hclose := closeFrame_closeWith hpayload
    have hrun := readControl_close hop hread
    cases hframe : closeFrame (.ofPrefix (maskBy h.key got)) with
    | error fault =>
      rw [hframe] at hclose hrun
      dsimp only at hclose hrun ⊢
      rw [hclose, Act.bind_error hrun]
      exact ⟨_, rfl⟩
    | ok frame =>
      rw [hframe] at hclose hrun
      dsimp only at hclose hrun ⊢
      obtain ⟨s'', hs'', hclosed⟩ := hrun
      rw [hclose, Act.bind_ok hs'']
      refine ⟨s'', rfl, ?_⟩
      rw [hclosed]
      simp [follow, hop]

/-- A control frame whose payload is there. -/
theorem readControl_step {s : Session} {message : Option Fragments} {h : FrameHeader}
    (hsync : s.InSync message) (hcontrol : h.op.isControl = true)
    (hlength : h.length ≤ maxControl) (hthere : h.length ≤ s.reader.ahead.length) :
    Agrees s.receiver (s.reader.ahead.drop h.length)
      (Receiver.frameWith message h (maskBy h.key (s.reader.ahead.take h.length)))
      ((readControl h >>= fun frame => pure (some frame)) (s.follow h)) := by
  obtain ⟨r, hread, hahead, hend⟩ := readExact_there hsync.ends hthere
  rw [← hahead]
  refine (readControl_does hsync.holds hcontrol ?_ hread).agrees hend
  rw [List.length_take]
  exact Nat.le_trans (Nat.min_le_left _ _) hlength

/-- The message that a part belongs to, as the session and as the automaton have it. -/
theorem message_getD {s : Session} {message : Option Fragments} (h : s.Holds message)
    (op : Opcode) :
    s.message.getD (op, []) =
      ((message.getD ⟨op, []⟩).kind, (message.getD ⟨op, []⟩).content) := by
  rw [h.message]
  cases message <;> rfl

theorem lengthOf_eq (message : Option Fragments) (op : Opcode) :
    lengthOf message = (message.getD ⟨op, []⟩).content.length := by
  cases message <;> rfl

/-- A message that is complete is the frame that the automaton gives. -/
theorem messageFrame_frame? (m : Fragments) :
    match m.frame? with
    | some frame => messageFrame m.kind m.content = .ok frame
    | none => messageFrame m.kind m.content = .error .invalidUtf8 := by
  unfold Fragments.frame? messageFrame
  cases m.kind with
  | text => cases Utf8.decode? m.content <;> rfl
  | _ => rfl

/-- A part that makes a message too long is not read. -/
theorem readPart_tooLong {s : Session} {message : Option Fragments} {h : FrameHeader}
    (hholds : s.Holds message) (hlong : s.maxMessageLength < lengthOf message + h.length) :
    ∃ s', readPart h (s.follow h) = .error (.failed (.webSocket .messageTooLong)) s' := by
  have hmessage : (s.follow h).message.getD (h.op, []) = _ := message_getD hholds h.op
  have hlimit : (message.getD ⟨h.op, []⟩).content.length + h.length >
      (s.follow h).maxMessageLength := by
    rw [← lengthOf_eq]
    exact hlong
  unfold readPart
  rw [Act.bind_ok (show (get : Act Error Session Session) (s.follow h) =
    .ok (s.follow h) (s.follow h) from rfl), hmessage]
  dsimp only
  rw [if_pos hlimit]
  exact ⟨_, rfl⟩

/-- A part within the limit: its payload is read, and put behind what is there of the message. -/
theorem readPart_within {s : Session} {message : Option Fragments} {h : FrameHeader}
    (hholds : s.Holds message) (hlimit : lengthOf message + h.length ≤ s.maxMessageLength) :
    ∃ kept, readPart h (s.follow h) = (onReader (readExact h.length) >>= fun got =>
        if !h.fin then do
          keep (some ((message.getD ⟨h.op, []⟩).kind,
            (message.getD ⟨h.op, []⟩).content ++ maskBy h.key got))
          return none
        else do
          keep none
          return some (← Act.ofExcept (messageFrame (message.getD ⟨h.op, []⟩).kind
            ((message.getD ⟨h.op, []⟩).content ++ maskBy h.key got))))
      { s.follow h with message := kept } := by
  have hmessage : (s.follow h).message.getD (h.op, []) = _ := message_getD hholds h.op
  have hlimit' : ¬ (message.getD ⟨h.op, []⟩).content.length + h.length >
      (s.follow h).maxMessageLength := by
    rw [← lengthOf_eq]
    exact Nat.not_lt.2 hlimit
  refine ⟨some ((message.getD ⟨h.op, []⟩).kind, (message.getD ⟨h.op, []⟩).content), ?_⟩
  unfold readPart
  rw [Act.bind_ok (show (get : Act Error Session Session) (s.follow h) =
    .ok (s.follow h) (s.follow h) from rfl), hmessage]
  dsimp only
  rw [Act.bind_ok (show keep _ (s.follow h) = .ok () _ from rfl), if_neg hlimit']

/-- A part whose payload is cut short. -/
theorem readPart_short {s : Session} {message : Option Fragments} {h : FrameHeader}
    (hsync : s.InSync message) (hlimit : lengthOf message + h.length ≤ s.maxMessageLength)
    (hshort : s.reader.ahead.length < h.length) :
    ∃ s', readPart h (s.follow h) = .error (.failed (.io .eof)) s' := by
  obtain ⟨kept, hkept⟩ := readPart_within hsync.holds hlimit
  obtain ⟨s', hread⟩ :=
    onReader_readExact_short (s := { s.follow h with message := kept }) hsync.ends hshort
  rw [hkept, Act.bind_error hread]
  exact ⟨s', rfl⟩

/-- **A part whose payload has been read is added to its message**, and the last part gives the
message. -/
theorem readPart_does {s : Session} {message : Option Fragments} {h : FrameHeader} {got : Bytes}
    {r : Reader} (hholds : s.Holds message) (hdata : h.op.isControl = false)
    (hlimit : lengthOf message + h.length ≤ s.maxMessageLength)
    (hgot : readExact h.length s.reader = .ok got r) :
    Does s.receiver r (Receiver.dataWith message h (maskBy h.key got))
      (readPart h (s.follow h)) := by
  obtain ⟨kept, hkept⟩ := readPart_within hholds hlimit
  have hread : onReader (readExact h.length) { s.follow h with message := kept } =
      .ok got { s.follow h with message := kept, reader := r } := onReader_run hgot
  have hopen : (s.follow h).readClosed = false := by
    have hop : h.op ≠ .close := by
      intro hop
      rw [hop] at hdata
      cases hdata
    simp [follow, hholds.isOpen, hop]
  have hcontinuing : (s.follow h).continuing = !h.fin := by
    simp [follow, hdata]
  rw [hkept, Act.bind_ok hread]
  have hframe := messageFrame_frame? ((message.getD ⟨h.op, []⟩).add (maskBy h.key got))
  rw [Fragments.content_add] at hframe
  unfold Receiver.dataWith
  cases hfin : h.fin with
  | false =>
    refine ⟨_, rfl, ⟨hopen, ?_, ?_⟩, rfl, rfl⟩
    · simp [hcontinuing, hfin]
    · simp [Fragments.add, Fragments.content]
  | true =>
    dsimp only
    cases hgives : Fragments.frame? ((message.getD ⟨h.op, []⟩).add (maskBy h.key got)) with
    | none =>
      rw [hgives] at hframe
      have hmessage : messageFrame (message.getD ⟨h.op, []⟩).kind _ = _ := hframe
      rw [hmessage]
      exact ⟨_, rfl⟩
    | some frame =>
      rw [hgives] at hframe
      have hmessage : messageFrame (message.getD ⟨h.op, []⟩).kind _ = _ := hframe
      rw [hmessage]
      refine ⟨_, rfl, ⟨hopen, ?_, rfl⟩, rfl, rfl⟩
      simp [hcontinuing, hfin]

/-- A part whose payload is there. -/
theorem readPart_step {s : Session} {message : Option Fragments} {h : FrameHeader}
    (hsync : s.InSync message) (hdata : h.op.isControl = false)
    (hlimit : lengthOf message + h.length ≤ s.maxMessageLength)
    (hthere : h.length ≤ s.reader.ahead.length) :
    Agrees s.receiver (s.reader.ahead.drop h.length)
      (Receiver.dataWith message h (maskBy h.key (s.reader.ahead.take h.length)))
      (readPart h (s.follow h)) := by
  obtain ⟨r, hread, hahead, hend⟩ := readExact_there hsync.ends hthere
  rw [← hahead]
  exact (readPart_does hsync.holds hdata hlimit hread).agrees hend

/-! ## 5. A run -/

/-- Reads what follows a header that was accepted. -/
theorem nextPart_some {s s' : Session} {h : FrameHeader} (hread : readHeader s = .ok (some h) s') :
    nextPart s = (if h.length > s'.maxMessageLength then Act.fail (.webSocket .messageTooLong)
      else if h.op.isControl then readControl h >>= fun frame => pure (some frame)
      else readPart h : Act Error Session (Option Frame)) s' := by
  unfold nextPart
  rw [Act.bind_ok hread]
  rfl

/-- **The rest of a frame** whose header the protocol finds no fault in. -/
theorem readPayload_step {s : Session} {message : Option Fragments} {h : FrameHeader}
    (hsync : s.InSync message) (hmax : maxControl ≤ s.maxMessageLength)
    (hfault : s.receiver.protocolFault? message h = none) :
    Agrees s.receiver (payloadToken h s.reader.ahead).2
      (s.receiver.step message (payloadToken h s.reader.ahead).1)
      ((if h.length > s.maxMessageLength then Act.fail (.webSocket .messageTooLong)
        else if h.op.isControl then readControl h >>= fun frame => pure (some frame)
        else readPart h : Act Error Session (Option Frame)) (s.follow h)) := by
  cases hcontrol : h.op.isControl with
  | true =>
    have hlength := Receiver.length_of_protocolFault? hfault hcontrol
    have hfault' := Receiver.fault?_control hfault hcontrol
    rw [if_neg (by omega), if_pos rfl]
    by_cases hshort : s.reader.ahead.length < h.length
    · obtain ⟨s', hread⟩ := onReader_readExact_short (s := s.follow h) hsync.ends hshort
      rw [payloadToken_short hshort, Receiver.step, hfault']
      refine ⟨s', ?_⟩
      unfold readControl
      rw [bind_assoc, Act.bind_error hread]
    · rw [payloadToken_enough (Nat.not_lt.1 hshort), Receiver.step, hfault']
      exact readControl_step hsync hcontrol hlength (Nat.not_lt.1 hshort)
  | false =>
    have hfault' := Receiver.fault?_data hfault hcontrol
    rw [if_neg (c := false = true) (by simp)]
    by_cases hlong : s.receiver.maxMessageLength < lengthOf message + h.length
    · rw [if_pos hlong] at hfault'
      have hstep : s.receiver.step message (payloadToken h s.reader.ahead).1 =
          .fails (.webSocket .messageTooLong) := by
        unfold payloadToken
        split <;> rw [Receiver.step, hfault']
      rw [hstep]
      split
      · exact ⟨_, rfl⟩
      · exact readPart_tooLong hsync.holds hlong
    · have hlimit : lengthOf message + h.length ≤ s.maxMessageLength := Nat.not_lt.1 hlong
      rw [if_neg hlong] at hfault'
      rw [if_neg (by omega)]
      by_cases hshort : s.reader.ahead.length < h.length
      · rw [payloadToken_short hshort, Receiver.step, hfault']
        exact readPart_short hsync hlimit hshort
      · rw [payloadToken_enough (Nat.not_lt.1 hshort), Receiver.step, hfault']
        dsimp only
        rw [Receiver.frameWith_data hcontrol]
        exact readPart_step hsync hcontrol hlimit (Nat.not_lt.1 hshort)

/-- **A session does at the next frame what the automaton does.** -/
theorem nextPart_step {s : Session} {message : Option Fragments} (hsync : s.InSync message)
    (hmax : maxControl ≤ s.maxMessageLength) :
    match nextToken? s.reader.ahead with
    | none => ∃ s', nextPart s = .ok (some (.close CloseCode.noClose.number .empty)) s' ∧
        s'.readClosed = true
    | some (token, rest) =>
      Agrees s.receiver rest (s.receiver.step message token) (nextPart s) := by
  have hheader := readHeader_step hsync
  unfold nextToken?
  cases hparse : FrameHeader.parser s.reader.ahead with
  | error e =>
    rw [hparse] at hheader
    obtain ⟨s', hs'⟩ := hheader
    exact ⟨s', Act.bind_error hs'⟩
  | ok p =>
    obtain ⟨o, rest⟩ := p
    rw [hparse] at hheader
    cases o with
    | none =>
      obtain ⟨s', hs', hclosed⟩ := hheader
      exact ⟨s', Act.bind_ok hs', hclosed⟩
    | some h =>
      dsimp only at hheader ⊢
      cases hfault : s.receiver.protocolFault? message h with
      | some fault =>
        rw [hfault] at hheader
        obtain ⟨s', hs'⟩ := hheader
        have hstep : s.receiver.step message (payloadToken h rest).1 =
            .fails (.webSocket fault) := by
          unfold payloadToken
          split <;> simp only [Receiver.step, Receiver.fault?, hfault]
        rw [hstep]
        exact ⟨s', Act.bind_error hs'⟩
      | none =>
        rw [hfault] at hheader
        obtain ⟨r, hr, hahead, hend⟩ := hheader
        rw [nextPart_some hr, ← hahead]
        exact readPayload_step (s := { s with reader := r })
          ⟨hsync.isOpen, hsync.continuing, hsync.message, hend⟩ hmax hfault

/-! ## 6. A run -/

theorem recv_frame {s s' : Session} {frame : Frame} (h : nextPart s = .ok (some frame) s') :
    recv s = .ok frame s' := by
  rw [recv]
  split
  · next h' => rw [h] at h'; cases h'
  · next h' => rw [h] at h'; cases h'; rfl
  · next h' => rw [h] at h'; cases h'

theorem recv_part {s s' : Session} (h : nextPart s = .ok none s') : recv s = recv s' := by
  rw [recv]
  split
  · next h' => rw [h] at h'; cases h'
  · next h' => rw [h] at h'; cases h'
  · next h' => rw [h] at h'; cases h'; rfl

theorem recv_error {s s' : Session} {halt : Halt Error} (h : nextPart s = .error halt s') :
    recv s = .error halt s' := by
  rw [recv]
  split
  · next h' => rw [h] at h'; cases h'; rfl
  · next h' => rw [h] at h'; cases h'
  · next h' => rw [h] at h'; cases h'

theorem recvAllFrom_closed {s : Session} (hclosed : s.readClosed = true) (got : List Frame) :
    recvAllFrom got s = ⟨got.reverse, none, s⟩ := by
  rw [recvAllFrom, if_pos hclosed]

theorem recvAllFrom_frame {s s' : Session} {frame : Frame} (hopen : s.readClosed = false)
    (h : recv s = .ok frame s') (got : List Frame) :
    recvAllFrom got s = recvAllFrom (frame :: got) s' := by
  rw [recvAllFrom, if_neg (by simp [hopen])]
  split
  · next h' => rw [h] at h'; cases h'
  · next h' => rw [h] at h'; cases h'; rfl

theorem recvAllFrom_error {s s' : Session} {halt : Halt Error} (hopen : s.readClosed = false)
    (h : recv s = .error halt s') (got : List Frame) :
    recvAllFrom got s = ⟨got.reverse, some halt, s'⟩ := by
  rw [recvAllFrom, if_neg (by simp [hopen])]
  split
  · next h' => rw [h] at h'; cases h'; rfl
  · next h' => rw [h] at h'; cases h'

/-- A part of a message that goes on is not seen outside. -/
theorem recvAllFrom_part {s s' : Session} (hopen : s.readClosed = false)
    (hopen' : s'.readClosed = false) (h : nextPart s = .ok none s') (got : List Frame) :
    recvAllFrom got s = recvAllFrom got s' := by
  have hrecv := recv_part h
  cases hresult : recv s' with
  | ok frame s'' =>
    rw [recvAllFrom_frame hopen (hrecv.trans hresult), recvAllFrom_frame hopen' hresult]
  | error halt s'' =>
    rw [recvAllFrom_error hopen (hrecv.trans hresult), recvAllFrom_error hopen' hresult]

/-- What the session has received, and how it ended, is this. -/
def Received.Is (received : Received) (result : List Frame × Option Error) : Prop :=
  received.frames = result.1 ∧ received.halt = result.2.map Halt.failed

/-- **A run of the session is a run of the automaton.** -/
theorem recvAllFrom_receive {s : Session} {message : Option Fragments} (hsync : s.InSync message)
    (hmax : maxControl ≤ s.maxMessageLength) (got : List Frame) :
    (recvAllFrom got s).Is
      (got.reverse ++ (s.receiver.receive message (tokens s.reader.ahead)).1,
        (s.receiver.receive message (tokens s.reader.ahead)).2) := by
  -- On the tokens that are ahead; `InSync` is what a step hands to the next.
  induction hall : tokens s.reader.ahead generalizing s message got with
  | nil =>
    have hnext := nextPart_step hsync hmax
    cases htoken : nextToken? s.reader.ahead with
    | none =>
      rw [htoken] at hnext
      obtain ⟨s', hs', hclosed⟩ := hnext
      rw [recvAllFrom_frame hsync.isOpen (recv_frame hs'), recvAllFrom_closed hclosed]
      exact ⟨List.reverse_cons, rfl⟩
    | some p =>
      obtain ⟨token, rest⟩ := p
      rw [tokens_some htoken] at hall
      cases hall
  | cons token rest ih =>
    have hnext := nextPart_step hsync hmax
    cases htoken : nextToken? s.reader.ahead with
    | none => rw [tokens_none htoken] at hall; cases hall
    | some p =>
      obtain ⟨token', rest'⟩ := p
      rw [tokens_some htoken] at hall
      obtain ⟨rfl, hrest⟩ := List.cons.inj hall
      rw [htoken] at hnext
      rw [Receiver.receive]
      dsimp only at hnext
      cases hstep : s.receiver.step message token' with
      | fails e =>
        rw [hstep] at hnext
        obtain ⟨s', hs'⟩ := hnext
        rw [recvAllFrom_error hsync.isOpen (recv_error hs')]
        exact ⟨(List.append_nil _).symm, rfl⟩
      | takes message' =>
        rw [hstep] at hnext
        obtain ⟨s', hs', hsync', hside, hahead⟩ := hnext
        have hmax' : s'.maxMessageLength = s.maxMessageLength :=
          congrArg Receiver.maxMessageLength hside
        rw [recvAllFrom_part hsync.isOpen hsync'.isOpen hs', ← hside]
        exact ih hsync' (by rw [hmax']; exact hmax) got (by rw [hahead]; exact hrest)
      | gives frame message' =>
        rw [hstep] at hnext
        obtain ⟨s', hs', hsync', hside, hahead⟩ := hnext
        have hmax' : s'.maxMessageLength = s.maxMessageLength :=
          congrArg Receiver.maxMessageLength hside
        rw [recvAllFrom_frame hsync.isOpen (recv_frame hs'), ← hside]
        have hrun := ih hsync' (by rw [hmax']; exact hmax) (frame :: got)
          (by rw [hahead]; exact hrest)
        rw [List.reverse_cons, List.append_assoc] at hrun
        exact hrun
      | closes frame =>
        rw [hstep] at hnext
        obtain ⟨s', hs', hclosed⟩ := hnext
        rw [recvAllFrom_frame hsync.isOpen (recv_frame hs'), recvAllFrom_closed hclosed]
        exact ⟨List.reverse_cons, rfl⟩

end Session

end WebSocket

end UrlTransfer
