/-
# Names of servers

A client knows by which name it wants to reach a server, and the certificate of the server says
which names it is for.  These are host names, of which the first label may be a star, and
addresses.
-/
import UrlTransfer.Net.Address

namespace UrlTransfer

namespace Tls

/-! ## 1. Servers -/

/-- The name that a client expects a server to have. -/
inductive ServerName where
  | domain (name : String)
  | address (ip : IpAddr)
deriving DecidableEq

namespace ServerName

/-- Is it a label of a host name? -/
def isLabel (label : List Char) : Bool :=
  !label.isEmpty && label.length ≤ 63 && label.head? != some '-' && label.getLast? != some '-' &&
    label.all fun c => c.isAlphanum || c == '-' || c == '_'

/-- Is it a host name: labels of which the last is no number, perhaps with a dot at the end? -/
def isDomain (name : List Char) : Bool :=
  let labels := Text.splitAt '.' name
  let labels := if labels.getLast? = some [] then labels.dropLast else labels
  name.length ≤ 253 && !labels.isEmpty && labels.all isLabel &&
    labels.getLast?.any fun label => !label.all Char.isDigit

/-- The name that a host has towards its clients. -/
def parse? (host : String) : Option ServerName :=
  if isDomain host.toList then some (domain host) else (IpAddr.parse? host).map address

/-- The text of a name. -/
def text : ServerName → String
  | domain name => name
  | address ip => ip.text

end ServerName

/-! ## 2. Names in certificates -/

/-- A name that a certificate is for. -/
inductive SubjectName where
  | domain (name : String)
  | address (ip : IpAddr)
deriving DecidableEq

namespace SubjectName

/-- The name as it is listed. -/
def text : SubjectName → String
  | domain name => "DnsName(\"" ++ name ++ "\")"
  | address ip => "IpAddress(" ++ ip.text ++ ")"

/-- The labels of a host name in small letters, without an empty one at the end. -/
def labels (name : String) : List (List Char) :=
  let labels := Text.splitAt '.' (name.toList.map Char.toLower)
  if labels.getLast? = some [] then labels.dropLast else labels

/-- Is it a name for this server?  **A star stands for exactly one label**, the first. -/
def isFor (server : ServerName) (subject : SubjectName) : Bool :=
  match subject, server with
  | domain pattern, .domain name =>
    match labels pattern, labels name with
    | ['*'] :: pattern, _ :: name => pattern == name
    | pattern, name => pattern == name
  | address ip, .address other => ip == other
  | _, _ => false

end SubjectName

end Tls

end UrlTransfer
