/-
# Methods

What a request asks a server to do with a resource: one word of token characters, whose case
matters.
-/
import UrlTransfer.Http.Headers

namespace UrlTransfer

namespace Http

/-- A method. -/
structure Method where
  text : String
deriving Repr, DecidableEq, Inhabited

namespace Method

/-- Reads a method: one or more token characters. -/
def parse? (s : String) : Option Method :=
  if s.isEmpty || !s.toList.all isTokenChar then none else some ⟨s⟩

/-- Asks for a resource. -/
def get : Method := ⟨"GET"⟩

/-- Asks for the head of the response alone. -/
def head : Method := ⟨"HEAD"⟩

end Method

end Http

end UrlTransfer
