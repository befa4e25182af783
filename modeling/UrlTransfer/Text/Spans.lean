/-
# Tables of characters

Properties of characters are kept in tables of spans: a first and a last code point, and what holds
for all from the one to the other.  The spans of a table ascend and do not overlap, so the span of a
character is found by halving the table (`Spans.find?`).

A table is written as a text of words like `41-5A:61`: the code points in hexadecimal, of which the
second may be left out, and the value behind a colon.
-/
import UrlTransfer.Text.Blank
import UrlTransfer.Text.Numeral

namespace UrlTransfer

/-- The code points from `first` to `last`, and the value that they share. -/
structure Span (α : Type) where
  first : Nat
  last : Nat
  value : α
deriving Repr, Inhabited

/-- A table of spans in ascending order. -/
abbrev Spans (α : Type) := Array (Span α)

namespace Spans

variable {α : Type}

/-- The code point that hexadecimal digits stand for. -/
def codePoint (digits : List Char) : Nat := (Numeral.read? 16 digits).getD 0

/-- The code points that stand between dots. -/
def codePoints (cs : List Char) : List Nat := (cs.splitOn '.').map codePoint

/-- The span that a word stands for. -/
def ofWord (value : List Char → α) (word : List Char) : Span α :=
  let places := word.takeWhile (· ≠ ':')
  let first := places.takeWhile (· ≠ '-')
  let last := (places.drop first.length).drop 1
  ⟨codePoint first, codePoint (if last.isEmpty then first else last),
    value ((word.drop places.length).drop 1)⟩

/-- The table that a text stands for, given the values that the texts behind the colons stand
for. -/
def ofText (value : List Char → α) (text : String) : Spans α :=
  ((Text.words text).map fun word => ofWord value word.toList).toArray

/-- The table of a set, whose spans have no values. -/
def set (text : String) : Spans Unit := ofText (fun _ => ()) text

/-- The span of a code point among those at the places from `low` to before `high`. -/
def findBetween? (spans : Spans α) (n low high : Nat) : Option (Span α) :=
  if low < high then
    match spans[(low + high) / 2]? with
    | none => none
    | some span =>
      if n < span.first then findBetween? spans n low ((low + high) / 2)
      else if span.last < n then findBetween? spans n ((low + high) / 2 + 1) high
      else some span
  else none
termination_by high - low

/-- The span of a character. -/
def find? (spans : Spans α) (c : Char) : Option (Span α) :=
  findBetween? spans c.toNat 0 spans.size

/-- The value of a character. -/
def value? (spans : Spans α) (c : Char) : Option α := (spans.find? c).map Span.value

/-- Is the character in one of the spans? -/
def contains (spans : Spans α) (c : Char) : Bool := (spans.find? c).isSome

/-- The characters that a character becomes, in a table of such: **where one becomes one, the
characters of a span move together**. -/
def image? (spans : Spans (List Nat)) (c : Char) : Option (List Char) :=
  (spans.find? c).map fun span => span.value.map fun n => Char.ofNat (n + (c.toNat - span.first))

end Spans

end UrlTransfer
