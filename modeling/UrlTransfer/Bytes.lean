/-
# Byte strings

What travels on a connection is a list of bytes.  This file has the few operations that the
protocols share: the bytes of a text, numbers in network order, and comparison that ignores the
case of ASCII letters.
-/

-- A power of numbers is the one of the core library, whatever else a file imports.
attribute [instance (high), default_instance 20000] instPowNat

namespace UrlTransfer

/-- A byte string. -/
abbrev Bytes := List UInt8

namespace Bytes

/-- The UTF-8 form of a text. -/
def ofString (s : String) : Bytes := s.toList.flatMap String.utf8EncodeChar

/-- Carriage return and line feed. -/
def crlf : Bytes := [13, 10]

/-- The line feed, which ends a line. -/
def lf : UInt8 := 10

/-- The number whose base-256 digits these are, the most significant first. -/
def toNat (bytes : Bytes) : Nat := bytes.foldl (fun n b => n * 256 + b.toNat) 0

/-- The last `width` base-256 digits of a number, the most significant first. -/
def ofNat (width n : Nat) : Bytes :=
  match width with
  | 0 => []
  | width + 1 => UInt8.ofNat (n / 256 ^ width) :: ofNat width n

@[simp] theorem length_ofNat (width n : Nat) : (ofNat width n).length = width := by
  induction width with
  | zero => rfl
  | succ width ih => simp [ofNat, ih]

/-- Is the byte an ASCII capital letter? -/
def isUpper (b : UInt8) : Bool := 65 ≤ b && b ≤ 90

/-- An ASCII capital letter becomes small; every other byte stays. -/
def lowerByte (b : UInt8) : UInt8 := if isUpper b then b + 32 else b

/-- ASCII capital letters become small. -/
def toLower (bytes : Bytes) : Bytes := bytes.map lowerByte

/-- Equality that ignores the case of ASCII letters. -/
def equalsIgnoringCase (a b : Bytes) : Bool := toLower a == toLower b

@[simp] theorem ofString_empty : ofString "" = [] := rfl

@[simp] theorem ofString_append (s t : String) : ofString (s ++ t) = ofString s ++ ofString t := by
  simp [ofString]

end Bytes

end UrlTransfer
