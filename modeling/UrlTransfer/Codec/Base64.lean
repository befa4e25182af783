/-
# Base 64

Three bytes become four characters of a fixed alphabet; a last group that is short is filled up
with `=`.  Strict reading (`decode?`) wants the padding to be there, and the bits behind the last
byte to be zero, so each byte string has one written form.  Lenient reading (`decodeLenient?`)
passes over blanks and these bits, and takes all of the padding or none.
-/
import UrlTransfer.Bytes

namespace UrlTransfer

namespace Base64

/-- The character of a value below 64. -/
def char (value : Nat) : Char :=
  if value < 26 then Char.ofNat (65 + value)
  else if value < 52 then Char.ofNat (71 + value)
  else if value < 62 then Char.ofNat (value - 4)
  else if value = 62 then '+'
  else '/'

/-- The value of a character. -/
def value? (c : Char) : Option Nat :=
  if 'A' ≤ c && c ≤ 'Z' then some (c.toNat - 65)
  else if 'a' ≤ c && c ≤ 'z' then some (c.toNat - 71)
  else if '0' ≤ c && c ≤ '9' then some (c.toNat + 4)
  else if c == '+' then some 62
  else if c == '/' then some 63
  else none

/-- The written form of a byte string. -/
def encode : Bytes → List Char
  | a :: b :: c :: rest =>
    char (a.toNat / 4) :: char (a.toNat % 4 * 16 + b.toNat / 16) ::
      char (b.toNat % 16 * 4 + c.toNat / 64) :: char (c.toNat % 64) :: encode rest
  | [a, b] =>
    [char (a.toNat / 4), char (a.toNat % 4 * 16 + b.toNat / 16), char (b.toNat % 16 * 4), '=']
  | [a] => [char (a.toNat / 4), char (a.toNat % 4 * 16), '=', '=']
  | [] => []

/-- The bytes of a written form; `read` holds those before it, the last first. -/
def decodeFrom (read : Bytes) : List Char → Option Bytes
  | [] => some read.reverse
  | [a, b, '=', '='] => do
    let a ← value? a
    let b ← value? b
    if b % 16 = 0 then some ((UInt8.ofNat (a * 4 + b / 16) :: read).reverse) else none
  | [a, b, c, '='] => do
    let a ← value? a
    let b ← value? b
    let c ← value? c
    if c % 4 = 0 then
      some ((UInt8.ofNat (b * 16 + c / 4) :: UInt8.ofNat (a * 4 + b / 16) :: read).reverse)
    else none
  | a :: b :: c :: d :: rest => do
    let a ← value? a
    let b ← value? b
    let c ← value? c
    let d ← value? d
    decodeFrom (UInt8.ofNat (c * 64 + d) :: UInt8.ofNat (b * 16 + c / 4) ::
      UInt8.ofNat (a * 4 + b / 16) :: read) rest
  | _ => none

/-- The bytes of a written form. -/
def decode? (cs : List Char) : Option Bytes := decodeFrom [] cs

/-- Does the character not count in lenient reading: a blank, or one that ends a line or page? -/
def isSpace (c : Char) : Bool := c == ' ' || ('\t' ≤ c && c ≤ '\r')

/-- The bytes of values below 64; `read` holds those before them, the last first.  A short last
group is cut off at the last whole byte. -/
def ofValues (read : Bytes) : List Nat → Bytes
  | a :: b :: c :: d :: rest =>
    ofValues (UInt8.ofNat (c * 64 + d) :: UInt8.ofNat (b * 16 + c / 4) ::
      UInt8.ofNat (a * 4 + b / 16) :: read) rest
  | [a, b, c] => (UInt8.ofNat (b * 16 + c / 4) :: UInt8.ofNat (a * 4 + b / 16) :: read).reverse
  | [a, b] => (UInt8.ofNat (a * 4 + b / 16) :: read).reverse
  | _ => read.reverse

/-- The bytes of a form that was written with blanks anywhere, and perhaps without padding.  **A
single character is no group**, and padding fills up the last group or is missing. -/
def decodeLenient? (cs : List Char) : Option Bytes := do
  let cs := cs.filter (!isSpace ·)
  let digits := cs.takeWhile (· ≠ '=')
  let padding := cs.drop digits.length
  let values ← digits.mapM value?
  let short := digits.length % 4
  if short = 1 || padding.any (· ≠ '=') then none
  else if padding.isEmpty || (2 ≤ short && padding.length + short = 4) then
    some (ofValues [] values)
  else none

end Base64

end UrlTransfer
