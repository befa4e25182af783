/-
# Kinds of frame

Six kinds of frame have a code.  Those with a code of eight or more are control frames, which may
stand between the parts of a message.  A close frame carries a status code, of which thirteen have
a meaning.
-/
import UrlTransfer.Bytes

namespace UrlTransfer

namespace WebSocket

/-- A kind of frame. -/
inductive Opcode where
  | continuation
  | text
  | binary
  | close
  | ping
  | pong
deriving Repr, DecidableEq, Inhabited

namespace Opcode

/-- Every kind. -/
def all : List Opcode := [continuation, text, binary, close, ping, pong]

/-- The code of a kind. -/
def code : Opcode → Nat
  | continuation => 0
  | text => 1
  | binary => 2
  | close => 8
  | ping => 9
  | pong => 10

/-- The name of a kind. -/
def name : Opcode → String
  | continuation => "continuation"
  | text => "text"
  | binary => "binary"
  | close => "close"
  | ping => "ping"
  | pong => "pong"

/-- The kind with a code. -/
def ofCode? (n : Nat) : Option Opcode := all.find? (·.code == n)

/-- Is it a control frame? -/
def isControl (op : Opcode) : Bool := op.code / 8 % 2 == 1

/-- **Codes are read back.** -/
theorem ofCode?_code (op : Opcode) : ofCode? op.code = some op := by cases op <;> rfl

theorem code_lt (op : Opcode) : op.code < 16 := by cases op <;> decide

end Opcode

/-- The status codes of close frames that have a meaning. -/
inductive CloseCode where
  | normal
  | goingAway
  | protocolError
  | unsupportedDataKind
  | reserved
  /-- The close frame had no status code; never sent. -/
  | noStatusCode
  /-- The connection ended without a close frame; never sent. -/
  | noClose
  | invalidMessageData
  | policyViolation
  | messageTooLong
  | extensionsExpected
  | internalServerError
  | tlsHandshakeFailure
deriving Repr, DecidableEq

namespace CloseCode

/-- Every code. -/
def all : List CloseCode :=
  [normal, goingAway, protocolError, unsupportedDataKind, reserved, noStatusCode, noClose,
    invalidMessageData, policyViolation, messageTooLong, extensionsExpected,
    internalServerError, tlsHandshakeFailure]

/-- The number of a code. -/
def number : CloseCode → Nat
  | normal => 1000
  | goingAway => 1001
  | protocolError => 1002
  | unsupportedDataKind => 1003
  | reserved => 1004
  | noStatusCode => 1005
  | noClose => 1006
  | invalidMessageData => 1007
  | policyViolation => 1008
  | messageTooLong => 1009
  | extensionsExpected => 1010
  | internalServerError => 1011
  | tlsHandshakeFailure => 1015

/-- The name of a code. -/
def name : CloseCode → String
  | normal => "normal"
  | goingAway => "going-away"
  | protocolError => "protocol-error"
  | unsupportedDataKind => "unsupported-data-kind"
  | reserved => "reserved"
  | noStatusCode => "no-status-code"
  | noClose => "no-close"
  | invalidMessageData => "invalid-message-data"
  | policyViolation => "policy-violation"
  | messageTooLong => "message-too-long"
  | extensionsExpected => "extensions-expected"
  | internalServerError => "internal-server-error"
  | tlsHandshakeFailure => "tls-handshake-failure"

/-- The code with a number. -/
def ofNumber? (n : Nat) : Option CloseCode := all.find? (·.number == n)

end CloseCode

end WebSocket

end UrlTransfer
