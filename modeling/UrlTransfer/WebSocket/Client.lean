/-
# Opening a session as a client

A client asks for a session with a request that asks to change the protocol (`open`).  The session
starts where the server agreed to all of it; any other answer is an error, and of several things
that are wrong the first counts (`checkAgreement`).  One limit of time bounds everything up to the
head of the answer.
-/
import UrlTransfer.Http.Transfer
import UrlTransfer.WebSocket.Handshake
import UrlTransfer.WebSocket.Session

namespace UrlTransfer

namespace WebSocket

/-- A request for a session. -/
structure Request where
  http : Http.Request
  options : Options := {}

namespace Request

/-- A request for a URL. -/
def ofUrl (url : String) : Request := { http := Http.Request.ofSchemes "ws" "wss" .get url }

/-- The request with the headers that ask for a session. -/
def askWith (key : String) (r : Http.Request) : Http.Request :=
  r.setHeader Http.HeaderName.connection.text "Upgrade"
    |>.setHeader Http.HeaderName.upgrade.text "websocket"
    |>.setHeader Http.HeaderName.webSocketVersion.text protocolVersion
    |>.setHeader Http.HeaderName.webSocketKey.text key

end Request

/-- Does the server agree to the session that was asked for with the key?  **The status counts
first**, then the protocol, then the answer to the key. -/
def checkAgreement (key : String) (head : Http.Head) : Except WebSocketError Unit :=
  if head.status.code ≠ 101 then .error (.serverRejected head.status)
  else if !isWord "upgrade" (valueOf .connection head.headers) then
    .error (.invalidHandshake "Connection")
  else if !isWord "websocket" (valueOf .upgrade head.headers) then
    .error (.invalidHandshake "Upgrade")
  else if head.headers.get? .webSocketAccept ≠ some (.ofText (answer key)) then
    .error (.invalidHandshake "Sec-WebSocket-Accept")
  else .ok ()

/-- A request for a session, and the client that runs it. -/
abbrev Opening := Request × Client

/-- An action on the underlying request. -/
def onHttp {α : Type} (x : Act Error Http.Running α) : Act Error Opening α :=
  Act.within (fun (r, c) => (r.http, c)) (fun (http, c) (r, _) => ({ r with http }, c)) x

/-- Connects, and agrees on a session. -/
def Request.run : Act Error Opening Session := do
  let key ← Act.second (Client.onSystem (System.random keyLength))
  modify fun (r, c) => ({ r with http := Request.askWith (keyText key) r.http }, c)
  match ← Act.timely (onHttp Http.transfer) with
  | none => Act.fail (.webSocket .handshakeTimeout)
  | some result =>
    Act.ofExcept ((checkAgreement (keyText key) result.head).mapError .webSocket)
    let (r, c) ← get
    return Session.ofReader result.reader result.link r.options true c.system

end WebSocket

end UrlTransfer
