/-
# URLs

A URL is kept in its parts, each in the form in which it is written: scheme and host in small
letters, the default port left out, the path without dot segments, all parts percent-encoded.
Hence `Url.text` only puts the parts together.
-/
import UrlTransfer.Url.Host

namespace UrlTransfer

/-- The path of a URL: segments behind slashes, or a text that is not divided. -/
inductive UrlPath where
  | segments (list : List String)
  | undivided (text : String)
deriving Repr, DecidableEq

/-- A URL in its parts. -/
structure Url where
  scheme : String
  username : String := ""
  password : String := ""
  /-- Whether `//` and an authority, perhaps an empty one, follow the scheme. -/
  authority : Bool := true
  host : Option Url.Host := none
  /-- The port, unless it is the default one of the scheme. -/
  port : Option Nat := none
  path : UrlPath := .segments []
  query : Option String := none
  fragment : Option String := none
deriving DecidableEq

namespace Url

/-- The port that a scheme stands for. -/
def defaultPort? (scheme : String) : Option Nat :=
  [("http", 80), ("ws", 80), ("https", 443), ("wss", 443), ("ftp", 21)].lookup scheme

/-- Is it a scheme whose URLs have hosts and paths of the usual form? -/
def isSpecial (scheme : String) : Bool := scheme == "file" || (defaultPort? scheme).isSome

/-- The path as it is written. -/
def pathText (u : Url) : String :=
  match u.path with
  | .undivided text => text
  | .segments list => String.join (list.map ("/" ++ ·))

/-- Path and query, as a request names them. -/
def target (u : Url) : String :=
  u.pathText ++ (match u.query with | some q => "?" ++ q | none => "")

/-- User name and password, with the mark behind them. -/
def userText (u : Url) : String :=
  if u.username.isEmpty && u.password.isEmpty then ""
  else if u.password.isEmpty then u.username ++ "@"
  else u.username ++ ":" ++ u.password ++ "@"

/-- Host and port as they are written. -/
def hostPortText (u : Url) : String :=
  (match u.host with | some h => h.text | none => "") ++
    (match u.port with | some p => ":" ++ Numeral.decimal p | none => "")

/-- What stands between scheme and path: the authority, or without one the mark that keeps a path
with two slashes in front from being read as one. -/
def authorityText (u : Url) : String :=
  if u.authority then "//" ++ u.userText ++ u.hostPortText
  else if u.pathText.startsWith "//" then "/." else ""

/-- The URL as it is written. -/
def text (u : Url) : String :=
  u.scheme ++ ":" ++ u.authorityText ++ u.target ++
    (match u.fragment with | some f => "#" ++ f | none => "")

end Url

end UrlTransfer
