/-
# Numbers of JSON

A number without fraction and exponent is kept exactly as long as sixty-four bits hold it.  Every
other number is kept in binary floating point, as `mantissa * 2 ^ exponent` with fifty-three bits
for the mantissa.

Such a number is not rounded once: its leading digits and the power of ten are rounded for
themselves, and then their product or quotient is (`Number.scale?`).  Hence the last bit may differ
from the nearest one, and some numbers count as too great that are not.
-/
import UrlTransfer.Bytes

namespace UrlTransfer

namespace Json

/-! ## 1. Binary floating point -/

/-- A number in binary floating point that is not negative: `mantissa * 2 ^ exponent`. -/
structure Binary64 where
  mantissa : Nat
  exponent : Int
deriving Repr, DecidableEq, Inhabited

namespace Binary64

/-- Zero. -/
def zero : Binary64 := ⟨0, 0⟩

/-- The quotient `num / den` rounded to a natural number, **a half to the even neighbour**. -/
def divideToEven (num den : Nat) : Nat :=
  let quotient := num / den
  let rest := num % den
  if 2 * rest > den || (2 * rest = den && quotient % 2 = 1) then quotient + 1 else quotient

/-- The fraction `num / den` times `2 ^ exponent`, as a fraction. -/
def shift (num den : Nat) (exponent : Int) : Nat × Nat :=
  match exponent with
  | .ofNat e => (num * 2 ^ e, den)
  | .negSucc e => (num, den * 2 ^ (e + 1))

/-- The greatest `e` with `2 ^ e ≤ num / den`. -/
def magnitude (num den : Nat) : Int :=
  let e : Int := (num.log2 : Int) - den.log2
  let (n, d) := shift num den (-e)
  if n < d then e - 1 else e

/-- The number of the format that is nearest to `num / den`, if it is not beyond all of them. -/
def round? (num den : Nat) : Option Binary64 :=
  if num = 0 then some zero
  else
    let exponent := max (-1074) (magnitude num den - 52)
    let (n, d) := shift num den (-exponent)
    let mantissa := divideToEven n d
    let (n, d) := shift mantissa 1 (exponent - 1024)
    if n < d then some ⟨mantissa, exponent⟩ else none

/-- The number of the format that is nearest to a natural number. -/
def ofNat? (n : Nat) : Option Binary64 := round? n 1

/-- The rounded product. -/
def multiply? (x y : Binary64) : Option Binary64 :=
  let (n, d) := shift (x.mantissa * y.mantissa) 1 (x.exponent + y.exponent)
  round? n d

/-- The rounded quotient. -/
def divide? (x y : Binary64) : Option Binary64 :=
  let (n, d) := shift x.mantissa y.mantissa (x.exponent - y.exponent)
  round? n d

/-- The number in decimal: its digits, and how many of them stand behind the point, at least one. -/
def decimal (x : Binary64) : Nat × Nat :=
  match x.exponent with
  | .ofNat e => (x.mantissa * 2 ^ e * 10, 1)
  | .negSucc e => (x.mantissa * 5 ^ (e + 1), e + 1)

end Binary64

/-! ## 2. Numbers -/

/-- A number of JSON. -/
inductive Number where
  | integer (n : Int)
  | float (negative : Bool) (magnitude : Binary64)
deriving Repr, DecidableEq, Inhabited

namespace Number

/-- The greatest power of ten in binary floating point. -/
def maxPower : Nat := 308

/-- A power of ten, rounded. -/
def power? (e : Nat) : Option Binary64 :=
  if e ≤ maxPower then Binary64.ofNat? (10 ^ e) else none

/-- Divides by a power of ten, in two steps if one does not do. -/
def divideByPower? (x : Binary64) (e : Nat) : Option Binary64 := do
  if e ≤ maxPower then x.divide? (← power? e)
  else if e ≤ 2 * maxPower then
    (← x.divide? (← power? maxPower)).divide? (← power? (e - maxPower))
  else some .zero

/-- The number `digits * 10 ^ exponent` in binary floating point, unless it is too great. -/
def scale? (digits : Nat) (exponent : Int) : Option Binary64 := do
  let x ← Binary64.ofNat? digits
  if digits = 0 then some .zero
  else
    match exponent with
    | .ofNat e => x.multiply? (← power? e)
    | .negSucc e => divideByPower? x (e + 1)

/-- The number that an integer without fraction and exponent stands for, as long as `digits` has
sixty-four bits: with a minus sign it needs one of them for itself, and zero keeps its sign. -/
def ofDigits? (negative : Bool) (digits : Nat) : Option Number :=
  if !negative then some (.integer digits)
  else if 0 < digits && digits ≤ 2 ^ 63 then some (.integer (-(digits : Int)))
  else (Binary64.ofNat? digits).map (.float true)

end Number

end Json

end UrlTransfer
