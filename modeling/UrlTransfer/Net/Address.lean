/-
# Internet addresses

Addresses of version 4 and version 6, with their usual text: four decimal octets, or eight groups
of hexadecimal digits whose first longest run of zeros is written `::`.  Reading is strict: octets
have no leading zeros, groups have one to four digits, and the last two groups of a version 6
address may be written as octets.
-/
import UrlTransfer.Text.Blank
import UrlTransfer.Text.Numeral

namespace UrlTransfer

/-- An address of version 4. -/
structure Ipv4 where
  a : UInt8
  b : UInt8
  c : UInt8
  d : UInt8
deriving Repr, DecidableEq, Inhabited

namespace Ipv4

/-- The four octets. -/
def octets (ip : Ipv4) : Bytes := [ip.a, ip.b, ip.c, ip.d]

/-- The address with these four octets. -/
def ofOctets? : Bytes → Option Ipv4
  | [a, b, c, d] => some ⟨a, b, c, d⟩
  | _ => none

/-- The address as a number of 32 bits. -/
def toNat (ip : Ipv4) : Nat := Bytes.toNat ip.octets

/-- The address with the given number. -/
def ofNat (n : Nat) : Ipv4 :=
  ⟨.ofNat (n / 16777216), .ofNat (n / 65536), .ofNat (n / 256), .ofNat n⟩

/-- The usual text of an address. -/
def text (ip : Ipv4) : String :=
  ".".intercalate (ip.octets.map fun b => Numeral.decimal b.toNat)

/-- Reads one octet: at most three digits, no leading zero, at most 255. -/
def octet? (cs : List Char) : Option UInt8 := do
  if cs.length > 3 || (cs.length > 1 && cs.head? == some '0') then none
  let n ← Numeral.read? 10 cs
  if n < 256 then some (.ofNat n) else none

/-- Reads the text of an address. -/
def parse? (s : String) : Option Ipv4 := do
  ofOctets? (← (Text.splitAt '.' s.toList).mapM octet?)

end Ipv4

/-- An address of version 6: eight groups of sixteen bits. -/
structure Ipv6 where
  groups : List UInt16
  length_groups : groups.length = 8
deriving DecidableEq

namespace Ipv6

/-- The address of eight groups. -/
def ofGroups? (groups : List UInt16) : Option Ipv6 :=
  if h : groups.length = 8 then some ⟨groups, h⟩ else none

/-- The sixteen bytes of an address. -/
def bytes (ip : Ipv6) : Bytes := ip.groups.flatMap fun g => Bytes.ofNat 2 g.toNat

/-- The groups that pairs of bytes stand for. -/
def groupsOfBytes : Bytes → List UInt16
  | hi :: lo :: rest => .ofNat (hi.toNat * 256 + lo.toNat) :: groupsOfBytes rest
  | _ => []

/-- The address of sixteen bytes. -/
def ofBytes? (bytes : Bytes) : Option Ipv6 :=
  if bytes.length = 16 then ofGroups? (groupsOfBytes bytes) else none

/-- The lengths of the runs of zeros that start at each place. -/
def zeroRuns : List UInt16 → List Nat
  | [] => []
  | g :: rest =>
    let runs := zeroRuns rest
    (if g == 0 then runs.headD 0 + 1 else 0) :: runs

/-- Where the first longest run of at least two zeros starts, and its length. -/
def longestRun? (groups : List UInt16) : Option (Nat × Nat) :=
  let runs := zeroRuns groups
  let longest := runs.foldl max 0
  if longest < 2 then none else (runs.idxOf? longest).map (·, longest)

/-- Groups in hexadecimal, with colons between them. -/
def groupsText (groups : List UInt16) : String :=
  ":".intercalate (groups.map fun g => Numeral.hex g.toNat)

/-- The text with every group in hexadecimal. -/
def hexText (ip : Ipv6) : String :=
  match longestRun? ip.groups with
  | none => groupsText ip.groups
  | some (start, length) =>
    groupsText (ip.groups.take start) ++ "::" ++ groupsText (ip.groups.drop (start + length))

/-- The version 4 address that this one stands for, if its first ten bytes are zero and the next
two are `ffff`. -/
def mapped? (ip : Ipv6) : Option Ipv4 :=
  if ip.groups.take 6 = [0, 0, 0, 0, 0, 0xFFFF] then Ipv4.ofOctets? (ip.bytes.drop 12) else none

/-- The usual text: a version 4 address inside is written in octets. -/
def text (ip : Ipv6) : String :=
  match ip.mapped? with
  | some inner => "::ffff:" ++ inner.text
  | none => ip.hexText

/-- Reads one group of one to four hexadecimal digits. -/
def group? (cs : List Char) : Option UInt16 :=
  if cs.length > 4 then none else (Numeral.read? 16 cs).map .ofNat

/-- Reads the groups between colons; the last piece may be octets where `octets` allows it. -/
def groupsOf? (octets : Bool) : List (List Char) → Option (List UInt16)
  | [] => some []
  | [last] =>
    match group? last with
    | some g => some [g]
    | none =>
      if octets then
        (Ipv4.parse? (String.ofList last)).map fun ip => groupsOfBytes ip.octets
      else none
  | piece :: rest => do return (← group? piece) :: (← groupsOf? octets rest)

/-- Reads the groups of a text, which may have none. -/
def side? (octets : Bool) (cs : List Char) : Option (List UInt16) :=
  if cs.isEmpty then some [] else groupsOf? octets (Text.splitAt ':' cs)

/-- What stands before and after the first `::`. -/
def splitGap : List Char → Option (List Char × List Char)
  | ':' :: ':' :: rest => some ([], rest)
  | c :: rest => (splitGap rest).map fun (before, after) => (c :: before, after)
  | [] => none

/-- Reads the text of an address. -/
def parse? (s : String) : Option Ipv6 := do
  let cs := s.toList
  match splitGap cs with
  | none => ofGroups? (← side? true cs)
  | some (before, after) =>
    let head ← side? false before
    let tail ← side? true after
    if head.length + tail.length > 7 then none
    ofGroups? (head ++ List.replicate (8 - head.length - tail.length) 0 ++ tail)

end Ipv6

/-- An address of either version. -/
inductive IpAddr where
  | v4 (ip : Ipv4)
  | v6 (ip : Ipv6)
deriving DecidableEq

namespace IpAddr

/-- The usual text of an address. -/
def text : IpAddr → String
  | v4 ip => ip.text
  | v6 ip => ip.text

/-- Reads an address of either version. -/
def parse? (s : String) : Option IpAddr :=
  match Ipv4.parse? s with
  | some ip => some (v4 ip)
  | none => (Ipv6.parse? s).map v6

end IpAddr

/-- An address and a port; a version 6 address is perhaps valid on one link only, whose number is
its scope. -/
structure SocketAddr where
  ip : IpAddr
  port : Nat
  scope : Nat := 0
deriving DecidableEq

namespace SocketAddr

/-- The mark and the number of a scope, unless it is zero. -/
def scopeText (scope : Nat) : String := if scope = 0 then "" else "%" ++ Numeral.decimal scope

/-- Address and port with a colon between them, a version 6 address in brackets. -/
def text (addr : SocketAddr) : String :=
  match addr.ip with
  | .v4 ip => ip.text ++ ":" ++ Numeral.decimal addr.port
  | .v6 ip => "[" ++ ip.text ++ scopeText addr.scope ++ "]:" ++ Numeral.decimal addr.port

/-- The text after the last colon, and what stands before it. -/
def splitPort? (cs : List Char) : Option (List Char × List Char) :=
  let port := (cs.reverse.takeWhile (· ≠ ':')).reverse
  match cs.reverse.dropWhile (· ≠ ':') with
  | [] => none
  | _ :: before => some (before.reverse, port)

/-- Reads a version 6 address, perhaps with the number of its scope, below 2 ^ 32. -/
def scoped? (cs : List Char) : Option (Ipv6 × Nat) := do
  let ip := cs.takeWhile (· ≠ '%')
  let scope ← match cs.drop ip.length with
    | [] => some 0
    | _ :: digits => (Numeral.read? 10 digits).filter (· < 2 ^ 32)
  return (← Ipv6.parse? (String.ofList ip), scope)

/-- Reads address, colon and port. -/
def parse? (s : String) : Option SocketAddr := do
  let (host, port) ← splitPort? s.toList
  let port ← (Numeral.read? 10 port).filter (· < 65536)
  match host with
  | '[' :: inner =>
    if inner.getLast? ≠ some ']' then none
    let (ip, scope) ← scoped? inner.dropLast
    return { ip := .v6 ip, port, scope }
  | _ => return { ip := .v4 (← Ipv4.parse? (String.ofList host)), port }

end SocketAddr

end UrlTransfer
