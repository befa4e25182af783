/-
# Responses

A response is the head that a transfer ended with, and a body that is read on demand.
-/
import UrlTransfer.Http.Body
import UrlTransfer.Http.Transfer

namespace UrlTransfer

namespace Http

/-- A response. -/
structure Response where
  head : Head
  /-- The URL it came from, if it is not that of the request. -/
  url : Option Url
  /-- How many addresses were tried for the last connection. -/
  tries : Nat
  /-- Whether it came by the secure protocol. -/
  secure : Bool
  body : Body

/-- Runs a request. -/
def Request.run : Act Error Running Response := do
  let result ← transfer
  let (request, _) ← get
  match Body.ofHead request.method result.head.status result.head.headers result.reader with
  | .ok body =>
    return { head := result.head, url := result.url, tries := result.tries,
             secure := result.secure, body }
  | .error fault => Act.fail (.http fault)

/-! ## Texts of a response -/

/-- A text in quotes. -/
def quoted (s : String) : String :=
  String.ofList ('"' :: s.toList.flatMap (fun c =>
    if c == '"' || c == '\\' then ['\\', c] else [c]) ++ ['"'])

/-- A value that may be missing. -/
def optional (value : Option String) : String :=
  match value with
  | some text => "Some(" ++ text ++ ")"
  | none => "None"

/-- Named values in braces. -/
def fieldsText (fields : List (String × String)) : String :=
  "\x7b " ++ ", ".intercalate (fields.map fun (name, value) => name ++ ": " ++ value) ++ " \x7d"

/-- A host by its kind. -/
def hostText : Url.Host → String
  | .domain name => "Domain(" ++ quoted name ++ ")"
  | .ipv4 ip => "Ipv4(" ++ ip.text ++ ")"
  | .ipv6 ip => "Ipv6(" ++ ip.text ++ ")"

/-- A URL in its parts. -/
def urlText (u : Url) : String :=
  let isUndivided := match u.path with | .undivided _ => true | .segments _ => false
  "Url " ++ fieldsText [
    ("scheme", quoted u.scheme),
    ("cannot_be_a_base", if isUndivided then "true" else "false"),
    ("username", quoted u.username),
    ("password", optional (if u.password.isEmpty then none else some (quoted u.password))),
    ("host", optional (u.host.map hostText)),
    ("port", optional (u.port.map Numeral.decimal)),
    ("path", quoted u.pathText),
    ("query", optional (u.query.map quoted)),
    ("fragment", optional (u.fragment.map quoted))]

/-- The name of a version without its marks. -/
def versionText : Version → String
  | .http09 => "Http09"
  | .http10 => "Http10"
  | .http11 => "Http11"
  | .http20 => "Http20"
  | .http30 => "Http30"

/-- Headers in braces. -/
def headersText (h : Headers) : String :=
  "\x7b" ++ ", ".intercalate (h.toList.map fun (name, value) =>
    quoted name.text ++ ": " ++ value.quoted) ++ "\x7d"

/-- A response without its body. -/
def Response.describe (r : Response) : String :=
  "Response " ++ fieldsText [
    ("version", versionText r.head.version),
    ("status", Numeral.decimal r.head.status.code),
    ("headers", headersText r.head.headers),
    ("url", optional (r.url.map urlText))]

end Http

end UrlTransfer
