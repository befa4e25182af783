/-
# Faults of a transfer

What is wrong with the messages of a peer, or with the headers that a caller asked for.
-/
import UrlTransfer.Http.Headers
import UrlTransfer.Http.Status

namespace UrlTransfer

namespace Http

/-- What is wrong with a message. -/
inductive HttpError where
  | headersTooLong
  | invalidStatusLine (line : String)
  | unexpectedVersion (version : Version)
  | invalidHeader (name : HeaderName) (value : String)
  | invalidHeaderName
  | invalidHeaderValue
  | invalidChunkSize
  | chunkTooLarge
  /-- The data of a chunk was not followed by the end of its line. -/
  | invalidChunkEnd
  /-- Trailers were asked for while data of the body was unread. -/
  | bodyRemaining
deriving Repr, DecidableEq

namespace HttpError

/-- What a name that is none is told. -/
def nameText : String := "invalid HTTP header name"

/-- What a value that is none is told. -/
def valueText : String := "failed to parse header value"

/-- The wording of a fault. -/
def message : HttpError → String
  | headersTooLong => "headers too long"
  | invalidStatusLine line => "invalid HTTP status line '" ++ line ++ "'"
  | unexpectedVersion version => "unexpected HTTP version " ++ version.text
  | invalidHeader name value => "invalid value '" ++ value ++ "' for header " ++ name.text
  | invalidHeaderName => "invalid header name: " ++ nameText
  | invalidHeaderValue => "invalid header value: " ++ valueText
  | invalidChunkSize => "invalid chunk size"
  | chunkTooLarge => "chunk too large"
  | invalidChunkEnd => "invalid end of chunk"
  | bodyRemaining => "body not fully read"

/-- The name of a fault. -/
def name : HttpError → String
  | headersTooLong => "headers-too-long"
  | invalidStatusLine _ => "invalid-status-line"
  | unexpectedVersion _ => "unexpected-version"
  | invalidHeader _ _ => "invalid-header"
  | invalidHeaderName => "invalid-header-name"
  | invalidHeaderValue => "invalid-header-value"
  | invalidChunkSize => "invalid-chunk-size"
  | chunkTooLarge => "chunk-too-large"
  | invalidChunkEnd => "invalid-chunk-end"
  | bodyRemaining => "body-remaining"

/-- What lies behind a fault. -/
def causes : HttpError → List String
  | invalidHeaderName => [nameText]
  | invalidHeaderValue => [valueText]
  | _ => []

end HttpError

end Http

end UrlTransfer
