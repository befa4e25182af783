/-
# White space, lines and words

`Char.isBlank` is the Unicode property White_Space.  The functions here work on lists of
characters: cutting the blanks off both ends, splitting into words, lines, or at a separator.
-/

namespace UrlTransfer

/-- The Unicode property White_Space: twenty-five characters. -/
def isBlank (c : Char) : Bool :=
  ('\t' ≤ c && c ≤ '\r') || c == ' ' || c == '\u0085' || c == '\u00A0' || c == '\u1680' ||
    ('\u2000' ≤ c && c ≤ '\u200A') || c == '\u2028' || c == '\u2029' || c == '\u202F' ||
    c == '\u205F' || c == '\u3000'

namespace Text

/-- The characters without the blanks at the front. -/
def trimStart (cs : List Char) : List Char := cs.dropWhile isBlank

/-- The characters without the blanks at the end. -/
def trimEnd (cs : List Char) : List Char := (cs.reverse.dropWhile isBlank).reverse

/-- The characters without the blanks at both ends. -/
def trim (cs : List Char) : List Char := trimEnd (trimStart cs)

/-- `s` without the blanks at both ends. -/
def trimmed (s : String) : String := String.ofList (trim s.toList)

/-- The pieces between the separators, of which there is always one more than separators. -/
def splitAt (separator : Char) (cs : List Char) : List (List Char) :=
  cs.splitOn separator

/-- The pieces of `s` between the separators. -/
def pieces (separator : Char) (s : String) : List String :=
  (splitAt separator s.toList).map String.ofList

/-- What stands before and after the first separator. -/
def splitOnce (separator : Char) (s : String) : Option (String × String) :=
  let cs := s.toList
  match cs.dropWhile (· ≠ separator) with
  | [] => none
  | _ :: after => some (String.ofList (cs.takeWhile (· ≠ separator)), String.ofList after)

/-- The longest runs without blanks. -/
def words (s : String) : List String :=
  ((s.toList.splitOnP isBlank).filter (· ≠ [])).map String.ofList

/-- A text without one carriage return at its end. -/
def dropReturn (cs : List Char) : List Char :=
  match cs.reverse with
  | '\r' :: rest => rest.reverse
  | _ => cs

/-- The lines of `s`: they end at a line feed, an unended last line counts if it is not empty,
and one carriage return before a line feed is dropped. -/
def lines (s : String) : List String :=
  let parts := splitAt '\n' s.toList
  let ended := parts.dropLast.map fun line => String.ofList (dropReturn line)
  match parts.getLast? with
  | none | some [] => ended
  | some last => ended ++ [String.ofList last]

end Text

end UrlTransfer
