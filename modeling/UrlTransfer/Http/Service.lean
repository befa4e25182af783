/-
# A small server

A server of one request for each connection: it takes the request (`takeRequest`), hands it to a
handler, and sends back whatever bytes that returns.  Connections are served one after the other;
one that brings no whole request is dropped.
-/
import UrlTransfer.Http.Body
import UrlTransfer.Net.System

namespace UrlTransfer

namespace Http

/-- A request that arrived. -/
structure Received where
  method : Method
  target : String
  headers : Headers
  body : Bytes

/-- Do the headers announce a body? -/
def announceBody (headers : Headers) : Bool :=
  headers.contains .contentLength || headers.contains .transferEncoding

/-- Takes header fields up to the empty line, however many. -/
def takeAllFields : Act Error Reader Headers := fun r =>
  match takeFields none (r, .empty) with
  | .ok () (r, headers) => .ok headers r
  | .error halt (r, _) => .error halt r

/-- Takes a body that is framed like that of a response. -/
def takeBody (method : Method) (headers : Headers) : Act Error Reader Bytes := fun r =>
  match Body.ofHead method .okay headers r with
  | .error fault => .error (.failed (.http fault)) r
  | .ok body =>
    match Body.bytes body with
    | .ok content b => .ok content b.reader
    | .error halt b => .error halt b.reader

/-- Takes a request.  A word that is no method stands for the usual one. -/
def takeRequest : Act Error Reader Received := do
  let (line, _) ← takeLine
  let words := Text.pieces ' ' line
  let method := ((words.head?.bind Method.parse?)).getD .get
  let headers ← takeAllFields
  let body ← if announceBody headers then takeBody method headers else pure []
  return { method, target := (words[1]?).getD "", headers, body }

/-- The address of a path on the server. -/
def localUrl (path : String) : String := "http://" ++ System.listener.text ++ path

/-- A response with a header that tells the length of its body. -/
def responseBytes (status : Nat) (headers : List (String × String)) (body : Bytes) : Bytes :=
  let reason := if 100 ≤ status && status < 1000 then Status.reason? status else none
  let fields := headers ++ [("Content-Length", Numeral.decimal body.length)]
  Bytes.ofString
    ("HTTP/1.1 " ++ Numeral.decimal status ++ " " ++ reason.getD "Unknown" ++ "\r\n" ++
      String.join (fields.map fun (name, value) => name ++ ": " ++ value ++ "\r\n") ++ "\r\n")
    ++ body

/-- Serves one connection: a request is recorded before it is answered, and **an answer that cannot
be sent changes nothing about that**. -/
def serveOne (handler : Received → Bytes) (conn : Conn) (state : List Received × System) :
    List Received × System :=
  match takeRequest (Reader.ofInflow conn.inflow) with
  | .error _ _ => state
  | .ok request _ =>
    match System.onLink conn.link (Outflow.write (handler request)) state.2 with
    | .ok () s | .error _ s => (state.1 ++ [request], s)

/-- Serves the connections that others will make, and returns the requests in the order of their
arrival. -/
def serveAll (handler : Received → Bytes) (s : System) : List Received × System :=
  match System.serveAll (serveOne handler) ([], s) with
  | .ok () state | .error _ state => state

end Http

end UrlTransfer
