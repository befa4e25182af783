/-
# Faults of a message connection

What is wrong with the handshake or the frames of a peer, or with a frame that a caller sends.
-/
import UrlTransfer.Http.Status

namespace UrlTransfer

namespace WebSocket

/-- What is wrong with a handshake or a frame. -/
inductive WebSocketError where
  | serverRejected (status : Http.Status)
  /-- A header of the server's answer is missing or wrong. -/
  | invalidHandshake (name : String)
  | invalidClientRequest (reason : String)
  | handshakeTimeout
  | invalidKey
  | invalidOpcode (code : Nat)
  /-- Bits are set that only an extension could use. -/
  | reservedBits (bits : Nat)
  | invalidLength
  | invalidControlFrame (reason : String)
  | expectedContinuation
  | unexpectedContinuation
  | serverMasked
  | messageTooLong
  /-- The payload of a control frame to be sent is too long. -/
  | userInvalidControlFrame
  /-- A message was to be continued with data of another type. -/
  | dataTypeMismatch
deriving DecidableEq

/-- The wording of a fault. -/
def WebSocketError.message : WebSocketError → String
  | serverRejected status =>
    "server rejected the WebSocket upgrade with status " ++ status.text
  | invalidHandshake name => "invalid '" ++ name ++ "' header in the server handshake"
  | invalidClientRequest reason => "invalid client upgrade request: " ++ reason
  | handshakeTimeout => "WebSocket handshake timed out"
  | invalidKey => "invalid Sec-WebSocket-Key"
  | invalidOpcode code => "invalid opcode 0x" ++ Numeral.hex code
  | reservedBits bits => "reserved bits set in frame header: 0x" ++ Numeral.hex bits
  | invalidLength => "invalid payload length: most significant bit is set"
  | invalidControlFrame reason => "invalid control frame: " ++ reason
  | expectedContinuation => "expected a continuation frame"
  | unexpectedContinuation => "unexpected continuation frame"
  | serverMasked => "server sent a masked frame"
  | messageTooLong => "message too long"
  | userInvalidControlFrame => "control frame payload too long"
  | dataTypeMismatch => "data type of continuation frame does not match the message"

/-- The name of a fault. -/
def WebSocketError.name : WebSocketError → String
  | serverRejected _ => "server-rejected"
  | invalidHandshake _ => "invalid-handshake"
  | invalidClientRequest _ => "invalid-client-request"
  | handshakeTimeout => "handshake-timeout"
  | invalidKey => "invalid-key"
  | invalidOpcode _ => "invalid-opcode"
  | reservedBits _ => "reserved-bits"
  | invalidLength => "invalid-length"
  | invalidControlFrame _ => "invalid-control-frame"
  | expectedContinuation => "expected-continuation"
  | unexpectedContinuation => "unexpected-continuation"
  | serverMasked => "server-masked"
  | messageTooLong => "message-too-long"
  | userInvalidControlFrame => "user-invalid-control-frame"
  | dataTypeMismatch => "data-type-mismatch"

end WebSocket

end UrlTransfer
