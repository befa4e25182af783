/-
# Targets of requests

A request is built step by step, and no step fails at once: what is wrong with the URL, or with a
later step, is kept in its `Target` and reported when the request runs.  Only the last fault is
kept, and it is reported once; a request that has reported its fault is an invalid one.
-/
import UrlTransfer.Act
import UrlTransfer.Error

namespace UrlTransfer

/-- The URL of a request, or why it has none. -/
structure Target where
  state : Except Error Url

namespace Target

/-- The target of a text, which has to be a URL with one of some schemes. -/
def parse (allowed : String → Bool) (text : String) : Target :=
  match Url.parse text with
  | .error fault => ⟨.error (.invalidUrl fault)⟩
  | .ok url => if allowed url.scheme then ⟨.ok url⟩ else ⟨.error (.invalidScheme url.scheme)⟩

/-- Keeps a fault, in the place of what was there before. -/
def fail (error : Error) (_ : Target) : Target := ⟨.error error⟩

/-- The URL, if nothing is wrong. -/
def url? (t : Target) : Option Url :=
  match t.state with
  | .ok url => some url
  | .error _ => none

/-- The URL, or the fault that is reported now.  **The same fault is not reported twice.** -/
def finalize : Act Error Target Url := fun t =>
  match t.state with
  | .ok url => .ok url t
  | .error error => .error (.failed error) ⟨.error .invalidRequest⟩

/-- A copy, which does not report the fault. -/
def copy (t : Target) : Target :=
  match t.state with
  | .ok url => ⟨.ok url⟩
  | .error _ => ⟨.error .invalidRequest⟩

theorem finalize_ok {t : Target} {url : Url} (h : t.state = .ok url) :
    finalize t = .ok url t := by
  simp [finalize, h]

theorem finalize_error {t : Target} {error : Error} (h : t.state = .error error) :
    finalize t = .error (.failed error) ⟨.error .invalidRequest⟩ := by
  simp [finalize, h]

end Target

end UrlTransfer
