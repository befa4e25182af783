/-
# Times of a transfer

How long the phases of a transfer took.  Phases that a transfer did not have are not shown.
-/
import UrlTransfer.Text.Duration

namespace UrlTransfer

namespace Http

/-- Times of the phases of connecting. -/
structure ConnectTimes where
  lookup : Duration
  tries : Nat
  connect : Duration
deriving Repr, DecidableEq

/-- Times of the phases of a transfer. -/
structure Stats where
  /-- Following redirections, before the last request was sent. -/
  redirect : Option Duration := none
  connect : Option ConnectTimes := none
  /-- Agreeing on the secure protocol. -/
  secure : Option Duration := none
  /-- Sending the request. -/
  stall : Duration := ⟨0⟩
  /-- From the request to the first byte of the response. -/
  wait : Duration := ⟨0⟩
  /-- From the request to the end of the response's head. -/
  response : Duration := ⟨0⟩
deriving Repr, DecidableEq

namespace Stats

/-- The times that a transfer has, each with its name. -/
def fields (s : Stats) : List (String × String) :=
  (s.redirect.map fun d => ("redirect", d.text)).toList ++
    (match s.connect with
      | none => []
      | some c =>
        [("lookup", c.lookup.text), ("connect", c.connect.text),
          ("tries", Numeral.decimal c.tries)]) ++
    (s.secure.map fun d => ("tls", d.text)).toList ++
    [("stall", s.stall.text), ("wait", s.wait.text), ("response", s.response.text)]

/-- The text of the times. -/
def text (s : Stats) : String :=
  "Stats \x7b " ++
    ", ".intercalate (s.fields.map fun (name, value) => name ++ ": " ++ value) ++ " \x7d"

end Stats

end Http

end UrlTransfer
