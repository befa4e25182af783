/-
# Frames

What is received is a `Frame`: a control frame with a payload of at most 125 bytes, or a whole
message.  What is sent is an `Outgoing`: a control frame, or a part of a message.  Every frame
received can be sent.
-/
import UrlTransfer.Text.Numeral
import UrlTransfer.Text.Utf8
import UrlTransfer.WebSocket.Opcode

namespace UrlTransfer

namespace WebSocket

/-- How long the payload of a control frame can be. -/
def maxControl : Nat := 125

/-- The payload of a control frame. -/
structure ControlPayload where
  content : Bytes
  length_le : content.length ≤ maxControl
deriving DecidableEq

namespace ControlPayload

/-- The empty payload. -/
def empty : ControlPayload := ⟨[], Nat.zero_le _⟩

instance : Inhabited ControlPayload := ⟨empty⟩

/-- The payload of these bytes, if there are not too many. -/
def ofBytes? (bytes : Bytes) : Option ControlPayload :=
  if h : bytes.length ≤ maxControl then some ⟨bytes, h⟩ else none

/-- The payload of the first bytes, as many as fit. -/
def ofPrefix (bytes : Bytes) : ControlPayload :=
  ⟨bytes.take maxControl, List.length_take_le _ _⟩

/-- A payload of the same byte everywhere, as long as is asked and fits. -/
def fill (length : Nat) (b : UInt8) : ControlPayload :=
  ⟨List.replicate (min length maxControl) b,
    by rw [List.length_replicate]; exact Nat.min_le_right _ _⟩

/-- The payload without its first `n` bytes. -/
def advance (n : Nat) (p : ControlPayload) : ControlPayload :=
  ⟨p.content.drop n, by have := p.length_le; rw [List.length_drop]; omega⟩

/-- The bytes of a payload as numbers. -/
def text (p : ControlPayload) : String :=
  "ControlFrame([" ++ ", ".intercalate (p.content.map fun b => Numeral.decimal b.toNat) ++ "])"

end ControlPayload

/-- What is received: a control frame or a whole message. -/
inductive Frame where
  | ping (payload : ControlPayload)
  | pong (payload : ControlPayload)
  | close (code : Nat) (reason : ControlPayload)
  | text (content : String)
  | binary (content : Bytes)
deriving DecidableEq

/-- A number of bytes in words. -/
def bytesText (n : Nat) : String := "(" ++ Numeral.decimal n ++ " bytes)"

/-- The text of a frame: that of a message, or what kind of frame it is. -/
def Frame.describe : Frame → String
  | ping payload => "ping " ++ bytesText payload.content.length
  | pong payload => "pong " ++ bytesText payload.content.length
  | close code reason =>
    "close " ++ Numeral.decimal code ++
      (if reason.content.isEmpty then "" else ": " ++ Utf8.decodeLossy reason.content)
  | text content => content
  | binary content => "binary " ++ bytesText content.length

/-- What is sent: a control frame, or a part of a message. -/
structure Outgoing where
  op : Opcode
  payload : Bytes
  /-- Whether it is the last part of its message. -/
  fin : Bool := true
  /-- The status code of a close frame. -/
  closeCode : Nat := 0
deriving Repr, DecidableEq

namespace Outgoing

/-- A part of a text message. -/
def ofText (content : String) (fin : Bool) : Outgoing :=
  { op := .text, payload := Bytes.ofString content, fin }

/-- A part of a binary message. -/
def ofBytes (content : Bytes) (fin : Bool) : Outgoing := { op := .binary, payload := content, fin }

/-- A question whether the peer is there. -/
def ping (payload : Bytes) : Outgoing := { op := .ping, payload }

/-- The answer to a ping. -/
def pong (payload : Bytes) : Outgoing := { op := .pong, payload }

/-- The last frame of a connection. -/
def close (code : Nat) (reason : Bytes) : Outgoing :=
  { op := .close, payload := reason, closeCode := code }

/-- The same frame to be sent. -/
def ofFrame : Frame → Outgoing
  | .ping payload => ping payload.content
  | .pong payload => pong payload.content
  | .close code reason => close code reason.content
  | .text content => ofText content true
  | .binary content => ofBytes content true

end Outgoing

end WebSocket

end UrlTransfer
