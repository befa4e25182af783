/-
# ASCII capitals

A text in capitals, as far as the capitals are ASCII letters.  A few letters beyond ASCII have
such capitals too, some of them more than one; every other character stays as it is.
-/

namespace UrlTransfer

namespace Uppercase

/-- The ASCII capitals of letters beyond ASCII. -/
def beyondAscii : List (Char × String) := [
  ('\u00DF', "SS"), ('\u0131', "I"), ('\u017F', "S"), ('\uFB00', "FF"), ('\uFB01', "FI"),
  ('\uFB02', "FL"), ('\uFB03', "FFI"), ('\uFB04', "FFL"), ('\uFB05', "ST"), ('\uFB06', "ST")]

/-- The capitals of a character. -/
def ofChar (c : Char) : List Char :=
  match beyondAscii.lookup c with
  | some capitals => capitals.toList
  | none => [c.toUpper]

/-- The text in capitals. -/
def text (s : String) : String := String.ofList (s.toList.flatMap ofChar)

end Uppercase

end UrlTransfer
