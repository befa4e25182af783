/-
# Status codes and the status line

A status code is a number of three digits, from 100 to 999.  Most of the registered ones have a
reason, which is printed with them and never read: a status line is a version, a space, a code,
and anything at all behind another space.
-/
import UrlTransfer.Http.Version
import UrlTransfer.Text.Blank

namespace UrlTransfer

namespace Http

/-- A status code: a number of three digits that does not start with zero. -/
structure Status where
  code : Nat
  least : 100 ≤ code
  greatest : code < 1000
deriving DecidableEq

namespace Status

/-- The status with a given code. -/
def ofNat? (code : Nat) : Option Status :=
  if h : 100 ≤ code ∧ code < 1000 then some ⟨code, h.1, h.2⟩ else none

/-- The request succeeded. -/
def okay : Status := ⟨200, by omega, by omega⟩

/-- The connection goes on with another protocol. -/
def switchingProtocols : Status := ⟨101, by omega, by omega⟩

instance : Inhabited Status := ⟨okay⟩

/-- The codes that have a reason. -/
def reasons : List (Nat × String) := [
  (100, "Continue"), (101, "Switching Protocols"), (102, "Processing"),
  (103, "Early Hints"), (200, "OK"),
  (201, "Created"), (202, "Accepted"), (203, "Non Authoritative Information"),
  (204, "No Content"), (205, "Reset Content"), (206, "Partial Content"), (207, "Multi-Status"),
  (208, "Already Reported"), (226, "IM Used"), (300, "Multiple Choices"),
  (301, "Moved Permanently"), (302, "Found"), (303, "See Other"), (304, "Not Modified"),
  (305, "Use Proxy"), (307, "Temporary Redirect"), (308, "Permanent Redirect"),
  (400, "Bad Request"), (401, "Unauthorized"), (402, "Payment Required"), (403, "Forbidden"),
  (404, "Not Found"), (405, "Method Not Allowed"), (406, "Not Acceptable"),
  (407, "Proxy Authentication Required"), (408, "Request Timeout"), (409, "Conflict"),
  (410, "Gone"), (411, "Length Required"), (412, "Precondition Failed"),
  (413, "Payload Too Large"), (414, "URI Too Long"), (415, "Unsupported Media Type"),
  (416, "Range Not Satisfiable"), (417, "Expectation Failed"), (418, "I'm a teapot"),
  (421, "Misdirected Request"), (422, "Unprocessable Entity"), (423, "Locked"),
  (424, "Failed Dependency"), (425, "Too Early"), (426, "Upgrade Required"),
  (428, "Precondition Required"),
  (429, "Too Many Requests"), (431, "Request Header Fields Too Large"),
  (451, "Unavailable For Legal Reasons"), (500, "Internal Server Error"),
  (501, "Not Implemented"), (502, "Bad Gateway"), (503, "Service Unavailable"),
  (504, "Gateway Timeout"), (505, "HTTP Version Not Supported"),
  (506, "Variant Also Negotiates"), (507, "Insufficient Storage"), (508, "Loop Detected"),
  (510, "Not Extended"), (511, "Network Authentication Required")]

/-- The reason that belongs to a code. -/
def reason? (code : Nat) : Option String := reasons.lookup code

/-- Code and reason. -/
def text (s : Status) : String :=
  Numeral.decimal s.code ++ " " ++ (reason? s.code).getD "<unknown status code>"

/-- Does the response point to another place? -/
def isRedirection (s : Status) : Bool := 300 ≤ s.code && s.code < 400

/-- Reads a code: exactly three digits, of which the first is not zero. -/
def parse? (cs : List Char) : Option Status :=
  match cs with
  | [_, _, _] => (Numeral.read? 10 cs).bind ofNat?
  | _ => none

end Status

/-- Reads a status line: a version and a code, and nothing else up to the next space. -/
def parseStatusLine? (line : String) : Option (Version × Status) :=
  match Text.splitAt ' ' line.toList with
  | version :: code :: _ => do return (← Version.parse? version, ← Status.parse? code)
  | _ => none

end Http

end UrlTransfer
