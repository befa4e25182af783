/-
# Heads of messages

The head of a request is its first line and its headers, to which the length or the encoding of
the payload is added where the caller has not set it.  The head of a response is its status line
and its headers, up to the empty line.  A response that does not start like one of the protocol is
one of its oldest version, which has no head (`takeHead`).
-/
import UrlTransfer.Http.Request

namespace UrlTransfer

namespace Http

/-! ## 1. Requests -/

/-- The host that a request names, with the port where it is not the usual one. -/
def hostHeader (url : Url) : HeaderValue := .ofText url.hostPortText

/-- Is the payload sent in chunks?  A stream is, unless the caller knows its length. -/
def isChunked (headers : Headers) (payload : Option Payload) : Bool :=
  payload.any fun p => !p.isRepeatable && !headers.contains .contentLength

/-- The headers that a payload adds to those of the caller. -/
def framingHeaders (headers : Headers) (payload : Option Payload) :
    List (HeaderName × HeaderValue) :=
  match payload with
  | none => []
  | some (.bytes content) =>
    if headers.contains .contentLength then []
    else [(.contentLength, .ofText (Numeral.decimal content.length))]
  | some (.stream _) =>
    if headers.contains .contentLength || headers.contains .transferEncoding then []
    else [(.transferEncoding, .ofText "chunked")]

/-- The head of a request. -/
def requestHead (method : Method) (url : Url) (headers : List (HeaderName × HeaderValue)) : Bytes :=
  Bytes.ofString (method.text ++ " " ++ url.target ++ " " ++ Version.http11.text) ++ Bytes.crlf ++
    Headers.lines headers ++ Bytes.crlf

/-! ## 2. Responses -/

/-- The head of a response. -/
structure Head where
  version : Version
  status : Status
  headers : Headers
deriving DecidableEq

/-- What every response but those of the oldest version starts with. -/
def mark : Bytes := Bytes.ofString "HTTP/"

/-- Fills the buffer until it can be told whether a response starts with the mark. -/
def awaitMark : Act Error Reader Unit := fun r =>
  if mark.length ≤ r.unread.length then .ok () r
  else
    match _h : r.fill with
    | .error halt r' => .error (halt.map .io) r'
    | .ok 0 r' => .error (.failed (.io .eof)) r'
    | .ok (_ + 1) r' => awaitMark r'
termination_by r => r.inflow.size
decreasing_by
  have := Reader.inflow_size_fill _h
  omega

/-- Takes the status line, if there is one, and tells how many bytes it took. -/
def takeStatus : Act Error Reader (Version × Status × Nat) := do
  awaitMark
  let r ← get
  if mark.isPrefixOf r.unread then
    let (line, size) ← takeLine
    match parseStatusLine? line with
    | some (version, status) => return (version, status, size)
    | none => Act.fail (.http (.invalidStatusLine line))
  else return (.http09, .okay, 0)

/-- Takes header fields of at most `limit` bytes, and the empty line behind them. -/
def takeHeaders (limit : Nat) : Act Error Reader Headers := fun r =>
  match takeFields (some limit) (r, .empty) with
  | .ok () (r', headers) => .ok headers r'
  | .error halt (r', _) => .error halt r'

/-- Takes the head of a response to a request. -/
def takeHead (request : Request) : Act Error Reader Head := do
  let (version, status, size) ← takeStatus
  if !version.isWithin request.minVersion request.maxVersion then
    Act.fail (.http (.unexpectedVersion version))
  else if version = .http09 then return ⟨version, status, .empty⟩
  else if request.maxHeaderSize < size then Act.fail (.http .headersTooLong)
  else return ⟨version, status, ← takeHeaders (request.maxHeaderSize - size)⟩

end Http

end UrlTransfer
