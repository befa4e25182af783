/-
# Requests

A request says what is wanted and how to get it.  It is built step by step; a header that is none
spoils its target, which is reported when the request runs.
-/
import UrlTransfer.Http.Line
import UrlTransfer.Http.Method
import UrlTransfer.Net.Client
import UrlTransfer.Net.Strategy
import UrlTransfer.Target

namespace UrlTransfer

namespace Http

/-- What is sent with a request. -/
inductive Payload where
  /-- Bytes of known length. -/
  | bytes (content : Bytes)
  /-- What a stream brings. -/
  | stream (source : Inflow)
deriving Repr, DecidableEq

namespace Payload

/-- What kind of payload it is. -/
def describe : Payload → String
  | bytes content => "Bytes(" ++ Numeral.decimal content.length ++ ")"
  | stream _ => "Stream"

/-- Can it be sent again? -/
def isRepeatable : Payload → Bool
  | bytes _ => true
  | stream _ => false

end Payload

/-- A request. -/
structure Request where
  target : Target
  method : Method
  headers : Headers := .empty
  payload : Option Payload := none
  /-- Whether to use the secure protocol. -/
  secure : Bool
  /-- The port where the URL has none; zero stands for the usual one. -/
  port : Nat := 0
  strategy : Strategy := .default
  /-- How long connecting may take. -/
  timeout : Option Duration := none
  /-- A resolver of its own, in the place of the shared one. -/
  resolver : Option Dns.Resolver := none
  /-- The oldest version that is accepted. -/
  minVersion : Version := .http10
  /-- The newest version that is accepted. -/
  maxVersion : Version := .http11
  /-- How many redirections to follow. -/
  redirects : Nat := 5
  /-- How long the head of a response may be. -/
  maxHeaderSize : Nat := 131072

namespace Request

/-- A request for a URL with one of two schemes, of which the second is the secure one. -/
def ofSchemes (usual safe : String) (method : Method) (url : String) : Request :=
  let target := Target.parse (fun scheme => scheme == usual || scheme == safe) url
  { target, method, secure := target.url?.any (·.scheme == safe) }

/-- A request for a URL. -/
def ofUrl (method : Method) (url : String) : Request := ofSchemes "http" "https" method url

/-- Sets a header, in the place of any values before; one that is none spoils the request. -/
def setHeader (name value : String) (r : Request) : Request :=
  match parseHeader name value with
  | .ok (name, value) => { r with headers := r.headers.insert name value }
  | .error fault => { r with target := r.target.fail (.http fault) }

/-- The port to connect to. -/
def portFor (url : Url) (r : Request) : Nat :=
  match url.port.getD r.port with
  | 0 => if r.secure then 443 else 80
  | port => port

end Request

end Http

end UrlTransfer
