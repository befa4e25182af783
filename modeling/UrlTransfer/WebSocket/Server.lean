/-
# Opening a session as a server

A server reads the request of a client up to its empty line (`takeUpgrade`), and answers it: by
agreeing to a session, or by refusing a request that does not ask for one in the way of the
protocol.  Of several things that are wrong the first counts (`checkRequest`).
-/
import UrlTransfer.Http.Line
import UrlTransfer.WebSocket.Handshake
import UrlTransfer.WebSocket.Session

namespace UrlTransfer

namespace WebSocket

/-- A request for a session, as far as a server looks at it. -/
structure Upgrade where
  method : String
  version : String
  headers : Http.Headers

namespace Upgrade

/-- Does the client ask to change the protocol? -/
def asksToChange (u : Upgrade) : Bool :=
  (Text.pieces ',' (valueOf .connection u.headers)).any (isWord "upgrade")

/-- Why a request is refused, if it is. -/
def refusal? (u : Upgrade) : Option String :=
  if u.method ≠ "GET" then some "method must be GET"
  else if u.version ≠ "HTTP/1.1" then some "version must be HTTP/1.1"
  else if !u.asksToChange then some "missing 'Connection: upgrade'"
  else if !isWord "websocket" (valueOf .upgrade u.headers) then some "missing 'Upgrade: websocket'"
  else if Text.trimmed (valueOf .webSocketVersion u.headers) ≠ protocolVersion then
    some "unsupported WebSocket version"
  else if !isKey (valueOf .webSocketKey u.headers) then some "invalid Sec-WebSocket-Key"
  else none

/-- What a refused client is sent. -/
def refusalText : String :=
  "HTTP/1.1 400 Bad Request\r\nConnection: close\r\nContent-Length: 0\r\n\r\n"

/-- What an accepted client is sent. -/
def agreementText (key : String) : String :=
  "HTTP/1.1 101 Switching Protocols\r\nConnection: Upgrade\r\nUpgrade: websocket\r\n" ++
    "Sec-WebSocket-Accept: " ++ answer key ++ "\r\n\r\n"

end Upgrade

/-- How long the head of a request may be. -/
def maxHeadSize : Nat := 131072

/-- Takes the request of a client: its first line, and the headers up to the empty line. -/
def takeUpgrade : Act Error Reader Upgrade := do
  let (line, size) ← Http.takeLine
  let words := (Text.pieces ' ' line).filter (· ≠ "")
  let headers ← fun r =>
    match Http.takeFields (some (maxHeadSize - size)) (r, .empty) with
    | .ok () (r, headers) => .ok headers r
    | .error halt (r, _) => .error halt r
  return { method := words.head?.getD "", version := (words[2]?).getD "", headers }

/-- Answers the request of a client on a connection, and returns what is to be read behind it. -/
def respond (conn : Conn) : Act Error System Reader := do
  let (request, reader) ← Act.aside takeUpgrade (Reader.ofInflow conn.inflow)
  let write (text : String) : Act Error System Unit :=
    Act.mapError .io (System.onLink conn.link (Outflow.write (Bytes.ofString text)))
  match request.refusal? with
  | some reason =>
    write Upgrade.refusalText
    Act.fail (.webSocket (.invalidClientRequest reason))
  | none =>
    write (Upgrade.agreementText (valueOf .webSocketKey request.headers))
    return reader

/-- Agrees on a session with a client that has connected, within the limit of time. -/
def serve (options : Options) (conn : Conn) : Act Error System Session := do
  match ← Act.timely (respond conn) with
  | none => Act.fail (.webSocket .handshakeTimeout)
  | some reader => return Session.ofReader reader conn.link options false (← get)

end WebSocket

end UrlTransfer
