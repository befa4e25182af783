/-
# Lengths of time

A duration is a number of nanoseconds.  It is shown in the largest of the units second,
millisecond, microsecond and nanosecond that it reaches, with as many decimal places as it needs.
-/
import UrlTransfer.Text.Numeral

namespace UrlTransfer

/-- A length of time in nanoseconds. -/
structure Duration where
  nanoseconds : Nat
deriving Repr, DecidableEq, Inhabited

namespace Duration

/-- A number of milliseconds. -/
def ofMilliseconds (n : Nat) : Duration := ⟨n * 1000000⟩

/-- A number of seconds. -/
def ofSeconds (n : Nat) : Duration := ⟨n * 1000000000⟩

/-- The whole milliseconds in a duration. -/
def milliseconds (d : Duration) : Nat := d.nanoseconds / 1000000

/-- The decimal places of `rest / 10 ^ places`, without zeros at the end. -/
def fraction (places rest : Nat) : List Char :=
  let digits := Numeral.write 10 rest
  let padded := List.replicate (places - digits.length) '0' ++ digits
  (padded.reverse.dropWhile (· == '0')).reverse

/-- `n` divided by `10 ^ places`, in decimals. -/
def scaled (places n : Nat) : String :=
  let whole := Numeral.decimal (n / 10 ^ places)
  match fraction places (n % 10 ^ places) with
  | [] => whole
  | digits => whole ++ "." ++ String.ofList digits

/-- The text of a duration in its largest fitting unit. -/
def text (d : Duration) : String :=
  if d.nanoseconds ≥ 1000000000 then scaled 9 d.nanoseconds ++ "s"
  else if d.nanoseconds ≥ 1000000 then scaled 6 d.nanoseconds ++ "ms"
  else if d.nanoseconds ≥ 1000 then scaled 3 d.nanoseconds ++ "µs"
  else Numeral.decimal d.nanoseconds ++ "ns"

end Duration

end UrlTransfer
