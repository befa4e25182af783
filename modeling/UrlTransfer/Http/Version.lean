/-
# Versions of the protocol

Five versions have a name of the form `HTTP/x.y`, and no other text names one
(`parse?_eq_some_iff`, in `Proofs.Http.StatusLine`).  They are ordered by age, so that a request can
accept a range of them.
-/
import UrlTransfer.Text.Numeral

namespace UrlTransfer

namespace Http

/-- A version of the protocol. -/
inductive Version where
  | http09
  | http10
  | http11
  | http20
  | http30
deriving Repr, DecidableEq, Inhabited

namespace Version

/-- The name of a version. -/
def text : Version → String
  | http09 => "HTTP/0.9"
  | http10 => "HTTP/1.0"
  | http11 => "HTTP/1.1"
  | http20 => "HTTP/2.0"
  | http30 => "HTTP/3.0"

/-- The place of a version in the order of age. -/
def rank : Version → Nat
  | http09 => 0
  | http10 => 1
  | http11 => 2
  | http20 => 3
  | http30 => 4

/-- Does the version lie between two others, both of them included? -/
def isWithin (v least greatest : Version) : Bool :=
  least.rank ≤ v.rank && v.rank ≤ greatest.rank

/-- The version of a major and a minor number. -/
def ofNumbers? (major minor : Nat) : Option Version :=
  match major, minor with
  | 0, 9 => some http09
  | 1, 0 => some http10
  | 1, 1 => some http11
  | 2, 0 => some http20
  | 3, 0 => some http30
  | _, _ => none

/-- Reads the name of a version: `HTTP/`, a digit, a dot and a digit. -/
def parse? (cs : List Char) : Option Version :=
  match cs with
  | ['H', 'T', 'T', 'P', '/', major, '.', minor] => do
    ofNumbers? (← Numeral.digit? 10 major) (← Numeral.digit? 10 minor)
  | _ => none

/-- **Names are read back.** -/
theorem parse?_text (v : Version) : parse? v.text.toList = some v := by
  cases v <;> decide

end Version

end Http

end UrlTransfer
