/-
# Errors

Every operation of the library that can fail does so with an `Error`.  It names the cause, and
keeps the fault of the part that failed; `Error.message` is the one place where the wording of
the whole is decided.

An error can be handed on as a fault of the system (`Error.toIo`): a fault of the system stays
what it is, every other error becomes one that says the same, of a kind that keeps whether it is
a timeout or an early end.
-/
import UrlTransfer.Dns.Fault
import UrlTransfer.Http.Fault
import UrlTransfer.Json.Reader
import UrlTransfer.Stream.Fault
import UrlTransfer.Tls.Fault
import UrlTransfer.Url.Reader
import UrlTransfer.WebSocket.Fault

namespace UrlTransfer

/-- Why an operation failed. -/
inductive Error where
  | io (fault : IoError)
  | invalidUrl (fault : UrlError)
  | invalidScheme (scheme : String)
  /-- The request was run already, or its first failure has been reported. -/
  | invalidRequest
  | invalidRedirectUrl (location : String)
  | redirectForbidden (scheme : String)
  | partialFile
  | noAddresses
  | timedOut (operation : String)
  | shutdown
  | invalidUtf8
  | invalidServerName (host : String)
  | tls (fault : Tls.TlsError)
  | json (fault : Json.Error)
  | dns (fault : Dns.DnsError)
  | http (fault : Http.HttpError)
  | webSocket (fault : WebSocket.WebSocketError)

namespace Error

/-- The wording of an error. -/
def message : Error → String
  | io fault => "I/O error: " ++ fault.message
  | invalidUrl fault => "invalid URL: " ++ fault.message
  | invalidScheme scheme => "URL scheme '" ++ scheme ++ "' is invalid for this request"
  | invalidRequest => "invalid request"
  | invalidRedirectUrl location => "invalid redirect URL '" ++ location ++ "'"
  | redirectForbidden scheme =>
    "redirect forbidden due to change in URL scheme to '" ++ scheme ++ "'"
  | partialFile => "partial file"
  | noAddresses => "no addresses to connect to"
  | timedOut operation => operation ++ " timed out"
  | shutdown => "stream has been shut down"
  | invalidUtf8 => "invalid UTF-8 data"
  | invalidServerName host => "invalid server name '" ++ host ++ "'"
  | tls fault => "TLS error: " ++ fault.message
  | json fault => "cannot decode JSON: " ++ fault.message
  | dns fault => "DNS error: " ++ fault.message
  | http fault => "HTTP error: " ++ fault.message
  | webSocket fault => "WebSocket error: " ++ fault.message

/-- The name of an error; that of a fault stands behind the part that it comes from. -/
def name : Error → String
  | io fault => "io." ++ fault.kind.name
  | invalidUrl fault => "invalid-url." ++ fault.name
  | invalidScheme _ => "invalid-scheme"
  | invalidRequest => "invalid-request"
  | invalidRedirectUrl _ => "invalid-redirect-url"
  | redirectForbidden _ => "redirect-forbidden"
  | partialFile => "partial-file"
  | noAddresses => "no-addresses"
  | timedOut _ => "timed-out"
  | shutdown => "shutdown"
  | invalidUtf8 => "invalid-utf8"
  | invalidServerName _ => "invalid-server-name"
  | tls _ => "tls"
  | json _ => "json"
  | dns fault => "dns." ++ fault.name
  | http fault => "http." ++ fault.name
  | webSocket fault => "web-socket." ++ fault.name

/-- Did some operation wait too long? -/
def isTimeout : Error → Bool
  | timedOut _ | dns .timedOut | webSocket .handshakeTimeout => true
  | io fault => fault.kind == .timedOut
  | _ => false

/-- Did a stream end too early? -/
def isEof : Error → Bool
  | partialFile => true
  | io fault => fault.kind == .unexpectedEof
  | _ => false

/-- What lies behind an error, the nearest first. -/
def causes : Error → List String
  | io fault => fault.message :: fault.causes
  | invalidUrl fault => [fault.message]
  | tls fault => [fault.message]
  | json fault => [fault.message]
  | dns fault => fault.message :: fault.causes
  | http fault => fault.message :: fault.causes
  | webSocket fault => [fault.message]
  | _ => []

/-- The error as a fault of the system.  **What is a timeout or an early end stays one.** -/
def toIo (e : Error) : IoError :=
  match e with
  | io fault => fault
  | _ =>
    let kind := if e.isTimeout then IoKind.timedOut else if e.isEof then .unexpectedEof else .other
    { kind, detail := some e.message, causes := e.causes }

end Error

end UrlTransfer
