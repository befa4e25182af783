/-
# Faults of the operating system

What the system reports when a read, a write or a file operation fails: one of a fixed set of
kinds, sometimes with a text of its own, and with the texts of what lies behind it.
`IoError.message` is the one place where the wording is decided.
-/

namespace UrlTransfer

/-- The kinds of fault that the system tells apart. -/
inductive IoKind where
  | notFound
  | permissionDenied
  | connectionRefused
  | connectionReset
  | connectionAborted
  | notConnected
  | addrInUse
  | addrNotAvailable
  | brokenPipe
  | alreadyExists
  | wouldBlock
  | notADirectory
  | isADirectory
  | invalidInput
  | invalidData
  | timedOut
  | writeZero
  | interrupted
  | unsupported
  | unexpectedEof
  | outOfMemory
  | hostUnreachable
  | networkUnreachable
  | networkDown
  | other
deriving Repr, DecidableEq

/-- The text of a kind where the fault has none of its own. -/
def IoKind.message : IoKind → String
  | notFound => "entity not found"
  | permissionDenied => "permission denied"
  | connectionRefused => "connection refused"
  | connectionReset => "connection reset"
  | connectionAborted => "connection aborted"
  | notConnected => "not connected"
  | addrInUse => "address in use"
  | addrNotAvailable => "address not available"
  | brokenPipe => "broken pipe"
  | alreadyExists => "entity already exists"
  | wouldBlock => "operation would block"
  | notADirectory => "not a directory"
  | isADirectory => "is a directory"
  | invalidInput => "invalid input parameter"
  | invalidData => "invalid data"
  | timedOut => "timed out"
  | writeZero => "write zero"
  | interrupted => "operation interrupted"
  | unsupported => "unsupported"
  | unexpectedEof => "unexpected end of file"
  | outOfMemory => "out of memory"
  | hostUnreachable => "host unreachable"
  | networkUnreachable => "network unreachable"
  | networkDown => "network down"
  | other => "other error"

/-- Every kind. -/
def IoKind.all : List IoKind :=
  [notFound, permissionDenied, connectionRefused, connectionReset, connectionAborted,
    notConnected, addrInUse, addrNotAvailable, brokenPipe, alreadyExists, wouldBlock,
    notADirectory, isADirectory, invalidInput, invalidData, timedOut, writeZero,
    interrupted, unsupported, unexpectedEof, outOfMemory, hostUnreachable,
    networkUnreachable, networkDown, other]

/-- The name of a kind. -/
def IoKind.name : IoKind → String
  | notFound => "not-found"
  | permissionDenied => "permission-denied"
  | connectionRefused => "connection-refused"
  | connectionReset => "connection-reset"
  | connectionAborted => "connection-aborted"
  | notConnected => "not-connected"
  | addrInUse => "addr-in-use"
  | addrNotAvailable => "addr-not-available"
  | brokenPipe => "broken-pipe"
  | alreadyExists => "already-exists"
  | wouldBlock => "would-block"
  | notADirectory => "not-a-directory"
  | isADirectory => "is-a-directory"
  | invalidInput => "invalid-input"
  | invalidData => "invalid-data"
  | timedOut => "timed-out"
  | writeZero => "write-zero"
  | interrupted => "interrupted"
  | unsupported => "unsupported"
  | unexpectedEof => "unexpected-eof"
  | outOfMemory => "out-of-memory"
  | hostUnreachable => "host-unreachable"
  | networkUnreachable => "network-unreachable"
  | networkDown => "network-down"
  | other => "other"

/-- A fault: its kind, a text that replaces the usual one, and what caused it, nearest first. -/
structure IoError where
  kind : IoKind
  detail : Option String := none
  causes : List String := []
deriving Repr, DecidableEq

namespace IoError

/-- The wording of a fault. -/
def message (e : IoError) : String := e.detail.getD e.kind.message

/-- The stream ended where more was due. -/
def eof : IoError := { kind := .unexpectedEof }

/-- A fault with the usual text of its kind. -/
def ofKind (kind : IoKind) : IoError := { kind }

/-- What the system itself says about a fault of a kind that it numbers. -/
def systemText : IoKind → String
  | .notFound => "No such file or directory (os error 2)"
  | .notADirectory => "Not a directory (os error 20)"
  | .isADirectory => "Is a directory (os error 21)"
  | .invalidInput => "Invalid argument (os error 22)"
  | kind => kind.message

/-- A fault in the words of the system. -/
def ofSystem (kind : IoKind) : IoError := { kind, detail := some (systemText kind) }

/-- The same fault behind a text that says what was tried. -/
def inContext (text : String) (e : IoError) : IoError :=
  { kind := e.kind, detail := some text, causes := e.message :: e.causes }

end IoError

end UrlTransfer
