/-
# Transfers

A transfer connects to the host of a URL, sends the request, and takes the head of the response.
While the response points elsewhere and redirections are left, it goes on there (`follow`): to a
URL of the same scheme only, and without a payload that could be sent but once.

The connection is left in front of the body.
-/
import UrlTransfer.Http.Head
import UrlTransfer.Net.Connect

namespace UrlTransfer

namespace Http

/-! ## 1. Sending -/

/-- How much of a stream is sent in one chunk. -/
def chunkRoom : Nat := 16384

/-- How much of a stream of known length is sent at once. -/
def copyRoom : Nat := 8192

/-- Data as a chunk; no data make the last one. -/
def chunk (content : Bytes) : Bytes :=
  Bytes.ofString (Numeral.hex content.length) ++ Bytes.crlf ++ content ++ Bytes.crlf

/-- Sends what a stream brings, in the form that `form` gives to each part; the empty part at its
end has a form too. -/
def sendStream (link room : Nat) (form : Bytes → Bytes) :
    Act Error (Inflow × System) Unit := fun (source, s) =>
  match _h : source.read room with
  | .error halt source' => .error (halt.map .io) (source', s)
  | .ok [] source' =>
    match System.onLink link (Outflow.write (form [])) s with
    | .ok () s' => .ok () (source', s')
    | .error halt s' => .error (halt.map .io) (source', s')
  | .ok (b :: part) source' =>
    match System.onLink link (Outflow.write (form (b :: part))) s with
    | .ok () s' => sendStream link room form (source', s')
    | .error halt s' => .error (halt.map .io) (source', s')
termination_by p => p.1.size
decreasing_by
  have := Inflow.size_read _h
  simp at this
  omega

/-- Sends a request, and returns what is left of its payload. -/
def send (link : Nat) (request : Request) (url : Url) (payload : Option Payload) :
    Act Error System (Option Payload) := do
  let headers := request.headers.toList ++ framingHeaders request.headers payload
  Act.mapError .io (System.onLink link (Outflow.write (requestHead request.method url headers)))
  match payload with
  | none => return none
  | some (.bytes content) =>
    Act.mapError .io (System.onLink link (Outflow.write content))
    return payload
  | some (.stream source) =>
    let chunked := isChunked request.headers payload
    let (_, source) ← fun s =>
      match sendStream link (if chunked then chunkRoom else copyRoom)
          (if chunked then chunk else id) (source, s) with
      | .ok () (source, s) => .ok ((), source) s
      | .error halt (_, s) => .error halt s
    return some (.stream source)

/-! ## 2. One exchange -/

/-- A request, and the client that runs it. -/
abbrev Running := Request × Client

/-- What an exchange brought: the head of the response, and the connection in front of its
body. -/
structure Exchange where
  head : Head
  reader : Reader
  link : Nat
  tries : Nat
  secure : Bool
  /-- The URL, if it is not that of the request. -/
  url : Option Url := none

/-- Connects to the host of a URL. -/
def connect (url : Url) : Act Error Running Connected := do
  let (request, _) ← get
  match url.host with
  | none => Act.fail .invalidRequest
  | some host =>
    let destination : Destination :=
      { host := host.name
        port := request.portFor url
        strategy := request.strategy
        timeout := request.timeout
        noDelay := true }
    Act.within (fun (r, c) => (r.resolver, c))
      (fun (resolver, c) (r, _) => ({ r with resolver }, c)) (do
        Client.needResolver
        if request.secure then
          let roots ← Act.second Client.prepareRoots
          Client.onResolver (destination.connectSecure roots)
        else Client.onResolver destination.connect)

/-- Names the host of a URL in the headers of the request. -/
def nameHost (url : Url) : Act Error Running Unit :=
  modify fun (r, c) => ({ r with headers := r.headers.insert .host (hostHeader url) }, c)

/-- Sends the request to a URL, and takes the head of the response.  Returns also what is left of
the payload. -/
def exchange (named : Bool) (url : Url) (payload : Option Payload) :
    Act Error Running (Exchange × Option Payload) := do
  if !named then nameHost url
  let connected ← connect url
  let (request, _) ← get
  let conn := connected.conn
  let payload ← Act.second (Client.onSystem (send conn.link request url payload))
  let (head, reader) ← Act.aside (takeHead request) (Reader.ofInflow conn.inflow)
  return ({ head, reader, link := conn.link, tries := connected.tries, secure := conn.secure },
    payload)

/-! ## 3. Redirections -/

/-- Where a response points to. -/
def Head.location? (head : Head) : Option HeaderValue :=
  if head.status.isRedirection then head.headers.get? .location else none

/-- The URL that a location found at `url` stands for.  **Its scheme has to be that of the
request.** -/
def redirect (scheme : String) (url : Url) (location : HeaderValue) : Except Error Url :=
  match location.text? with
  | none => .error (.invalidRedirectUrl location.lossyText)
  | some text =>
    match url.join text with
    | .error _ => .error (.invalidRedirectUrl text)
    | .ok next => if next.scheme = scheme then .ok next else .error (.redirectForbidden next.scheme)

/-- Ends a transfer: what is left of the payload goes back to the request. -/
def finish (result : Exchange) (url : Option Url) (payload : Option Payload) :
    Act Error Running Exchange := do
  modify fun (r, c) => ({ r with payload }, c)
  return { result with url }

/-- Runs exchanges one after the other, as long as the responses point elsewhere, with at most so
many redirections; `moved` says whether there was one before. -/
def follow (scheme : String) (named : Bool) :
    Nat → Url → Bool → Option Payload → Act Error Running Exchange
  | 0, url, moved, payload => do
    let (result, payload) ← exchange named url payload
    finish result (if moved then some url else none) payload
  | redirects + 1, url, moved, payload => do
    let (result, payload) ← exchange named url payload
    match result.head.location? with
    | none => finish result (if moved then some url else none) payload
    | some location =>
      let next ← Act.ofExcept (redirect scheme url location)
      follow scheme named redirects next true (payload.filter Payload.isRepeatable)

/-- Runs a request up to the head of the last response.  The payload is taken from the request,
and comes back only if the transfer succeeds. -/
def transfer : Act Error Running Exchange := do
  let url ← Act.within (fun (r, _) => r.target) (fun target (r, c) => ({ r with target }, c))
    Target.finalize
  let (request, _) ← get
  modify fun (r, c) => ({ r with payload := none }, c)
  follow url.scheme (request.headers.contains .host) request.redirects url false request.payload

end Http

end UrlTransfer
