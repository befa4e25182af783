/-
# International labels in ASCII

A label with characters beyond ASCII is written as its ASCII characters, a hyphen, and a row of
numbers that say where the others are inserted.  Each number counts the steps from one insertion
to the next, through all places of the label and then through all places with the next code
point; it is written in digits whose weights adapt to the numbers before it.
-/
import UrlTransfer.Text.Numeral

namespace UrlTransfer

namespace Punycode

/-- How many digits there are. -/
def base : Nat := 36

/-- The value up to which a digit at weight place `k` is the last one. -/
def threshold (k bias : Nat) : Nat := min 26 (max 1 (k - bias))

/-- How often the adapted number can be cut down, and what is left. -/
def cutDown (delta k : Nat) : Nat × Nat :=
  if delta > 455 then cutDown (delta / 35) (k + base) else (delta, k)
termination_by delta
decreasing_by omega

/-- The bias after a number `delta`, with `count` characters in place. -/
def adapt (delta count : Nat) (first : Bool) : Nat :=
  let damped := if first then delta / 700 else delta / 2
  let (delta, k) := cutDown (damped + damped / count) 0
  k + base * delta / (delta + 38)

/-- The digit of a value below 36: the letters, then `0` to `9`. -/
def digit (value : Nat) : Char :=
  if value < 26 then Char.ofNat (97 + value) else Char.ofNat (22 + value)

/-- The value of a digit. -/
def value? (c : Char) : Option Nat :=
  if 'a' ≤ c && c ≤ 'z' then some (c.toNat - 97)
  else if 'A' ≤ c && c ≤ 'Z' then some (c.toNat - 65)
  else if '0' ≤ c && c ≤ '9' then some (c.toNat - 22)
  else none

/-- The digits of a number, from weight place `k` on. -/
def digits (q k bias : Nat) : List Char :=
  if q < threshold k bias then [digit q]
  else
    digit (threshold k bias + (q - threshold k bias) % (base - threshold k bias)) ::
      digits ((q - threshold k bias) / (base - threshold k bias)) (k + base) bias
termination_by q
decreasing_by
  have h1 : 1 ≤ threshold k bias := by unfold threshold; omega
  have h2 : threshold k bias ≤ 26 := by unfold threshold; omega
  have : (q - threshold k bias) / (base - threshold k bias) ≤ q - threshold k bias :=
    Nat.div_le_self _ _
  omega

/-- The state of writing: steps since the last insertion, bias, characters in place, output in
reverse. -/
structure Writing where
  delta : Nat
  bias : Nat
  placed : Nat
  basic : Nat
  output : List Char

/-- Passes one character of the label, in the round for code point `m`. -/
def Writing.pass (m : Nat) (w : Writing) (c : Char) : Writing :=
  if c.toNat < m then { w with delta := w.delta + 1 }
  else if c.toNat = m then
    { w with
      delta := 0
      bias := adapt w.delta (w.placed + 1) (w.placed == w.basic)
      placed := w.placed + 1
      output := (digits w.delta base w.bias).reverse ++ w.output }
  else w

/-- The code points beyond ASCII of a label, each once, in ascending order. -/
def beyondAscii (cs : List Char) : List Nat :=
  ((cs.map Char.toNat).filter (128 ≤ ·)).mergeSort.eraseDups

/-- The rounds for the given code points; `n` is the next code point that has had no round. -/
def rounds (cs : List Char) : List Nat → Nat → Writing → Writing
  | [], _, w => w
  | m :: rest, n, w =>
    let w := { w with delta := w.delta + (m - n) * (w.placed + 1) }
    let w := cs.foldl (Writing.pass m) w
    rounds cs rest (m + 1) { w with delta := w.delta + 1 }

/-- The ASCII form of a label, without its mark. -/
def encode (cs : List Char) : List Char :=
  let basic := cs.filter (·.toNat < 128)
  let start : List Char := if basic.isEmpty then [] else basic ++ ['-']
  let written := rounds cs (beyondAscii cs) 128 ⟨0, 72, basic.length, basic.length, start.reverse⟩
  written.output.reverse

/-- The state of reading: what is in place, the last code point and place, the bias; and of the
number being read, its value so far, its place value and its weight place. -/
structure Reading where
  output : List Nat
  codePoint : Nat
  place : Nat
  bias : Nat
  sum : Nat
  weight : Nat
  k : Nat

/-- Reads the rest of the digits. -/
def insertions (r : Reading) : List Char → Option (List Nat)
  | [] => if r.k = base then some r.output else none
  | c :: rest => do
    let d ← value? c
    let sum := r.sum + d * r.weight
    let t := threshold r.k r.bias
    if d < t then
      let count := r.output.length + 1
      let codePoint := r.codePoint + sum / count
      let place := sum % count
      if codePoint > 0x10FFFF then none
      insertions
        { output := r.output.take place ++ codePoint :: r.output.drop place
          codePoint := codePoint
          place := place + 1
          bias := adapt (sum - r.place) count (r.place == 0)
          sum := place + 1
          weight := 1
          k := base } rest
    else
      insertions { r with sum := sum, weight := r.weight * (base - t), k := r.k + base } rest

/-- The last hyphen's place: what stands before it and after it. -/
def splitLastHyphen (cs : List Char) : List Char × List Char :=
  match cs.reverse.dropWhile (· ≠ '-') with
  | [] => ([], cs)
  | _ :: before => (before.reverse, (cs.reverse.takeWhile (· ≠ '-')).reverse)

/-- Is this the number of a character? -/
def isScalar (n : Nat) : Bool := n < 0xD800 || (0xDFFF < n && n ≤ 0x10FFFF)

/-- The label of an ASCII form. -/
def decode? (cs : List Char) : Option (List Char) := do
  let (basic, digits) := splitLastHyphen cs
  if basic.any (128 ≤ ·.toNat) then none
  let points ← insertions ⟨basic.map Char.toNat, 128, 0, 72, 0, 1, base⟩ digits
  if points.all isScalar then some (points.map Char.ofNat) else none

end Punycode

end UrlTransfer
