/-
# Numerals

Numbers are written in base ten or sixteen without leading zeros, and read back digit by digit.
Reading accepts what users write: an optional plus sign, then at least one digit.
-/
import UrlTransfer.Bytes

namespace UrlTransfer

namespace Numeral

/-- The value of a digit, which has to be below `base` (at most sixteen). -/
def digit? (base : Nat) (c : Char) : Option Nat :=
  let value :=
    if '0' ≤ c && c ≤ '9' then some (c.toNat - 48)
    else if 'a' ≤ c && c ≤ 'f' then some (c.toNat - 87)
    else if 'A' ≤ c && c ≤ 'F' then some (c.toNat - 55)
    else none
  value.filter (· < base)

/-- The digits of a number in base `base`, small letters from ten on. -/
def write (base n : Nat) : List Char := Nat.toDigits base n

/-- The number that the digits stand for, where all are digits; no digits stand for zero. -/
def valueFrom? (base : Nat) (start : Nat) : List Char → Option Nat
  | [] => some start
  | c :: rest =>
    match digit? base c with
    | some d => valueFrom? base (start * base + d) rest
    | none => none

/-- The number that one or more digits stand for. -/
def read? (base : Nat) (cs : List Char) : Option Nat :=
  if cs.isEmpty then none else valueFrom? base 0 cs

/-- Reads a number below `bound`: an optional plus sign, then one or more digits. -/
def parse? (base bound : Nat) (cs : List Char) : Option Nat :=
  let digits := match cs with
    | '+' :: rest => rest
    | _ => cs
  (read? base digits).filter (· < bound)

/-- The decimal text of a number. -/
def decimal (n : Nat) : String := String.ofList (write 10 n)

/-- The hexadecimal text of a number. -/
def hex (n : Nat) : String := String.ofList (write 16 n)

end Numeral

end UrlTransfer
