/-
# Data of records

What a record says depends on its type; types without a form of their own are raw bytes.  Data of
which the bytes are not all used, or not enough, is no data, and neither is any of a type that
only questions have.
-/
import UrlTransfer.Dns.Authorization
import UrlTransfer.Dns.RecordType
import UrlTransfer.Dns.ServiceBinding

namespace UrlTransfer

namespace Dns

/-- The data of a record. -/
inductive RecordData where
  | ipv4 (ip : Ipv4)
  | ipv6 (ip : Ipv6)
  /-- A host or an alias. -/
  | name (name : Name)
  /-- A mail exchange with its preference. -/
  | exchange (preference : Nat) (host : Name)
  /-- The start of a zone: its server, who is responsible, and five numbers. -/
  | authority (server responsible : Name) (numbers : List Int)
  /-- A service: priority, weight, port and host. -/
  | service (priority weight port : Nat) (host : Name)
  /-- Strings. -/
  | strings (parts : List Bytes)
  /-- Kind of machine and operating system. -/
  | host (cpu os : Bytes)
  /-- A rule that rewrites a text into a name or an address. -/
  | rule (order preference : Nat) (flags services pattern : Bytes) (replacement : Name)
  /-- A digest or a certificate after numbers that say what it is for. -/
  | digest (kinds : List Nat) (bytes : Bytes)
  /-- Which types the zone above has to take over, from which version on. -/
  | synchronization (serial flags : Nat) (types : List RecordType)
  | authorization (statement : Authorization)
  | binding (bound : ServiceBinding)
  /-- Data of a type that has no form here. -/
  | raw (bytes : Bytes)
deriving DecidableEq

namespace RecordData

/-! ## 1. To text -/

/-- The text of a byte with two digits. -/
def byteText (b : UInt8) : String :=
  (if b < 16 then "0" else "") ++ Numeral.hex b.toNat

/-- A text in quotation marks; those in it stay as they are. -/
def quoted (bytes : Bytes) : String := "\"" ++ Utf8.decodeLossy bytes ++ "\""

/-- The text of a record's data. -/
def text : RecordData → String
  | ipv4 ip => ip.text
  | ipv6 ip => ip.text
  | name n => n.text
  | exchange preference server => Numeral.decimal preference ++ " " ++ server.text
  | authority server responsible numbers =>
    " ".intercalate (server.text :: responsible.text :: numbers.map toString)
  | service priority weight port server =>
    " ".intercalate
      [Numeral.decimal priority, Numeral.decimal weight, Numeral.decimal port, server.text]
  | strings parts => String.join (parts.map Utf8.decodeLossy)
  | host cpu os => Utf8.decodeLossy cpu ++ " " ++ Utf8.decodeLossy os
  | rule order preference flags services pattern replacement =>
    " ".intercalate
      [Numeral.decimal order, Numeral.decimal preference, quoted flags, quoted services,
        quoted pattern, replacement.text]
  | digest kinds bytes =>
    " ".intercalate (kinds.map Numeral.decimal ++ [String.join (bytes.map byteText)])
  | synchronization serial flags types =>
    " ".intercalate (Numeral.decimal serial :: Numeral.decimal flags :: types.map RecordType.text)
  | authorization statement => statement.text
  | binding bound => bound.text
  | raw bytes => String.ofList (Base64.encode bytes)

/-! ## 2. Extensions

The data of a record with extensions is a sequence of options, each of them a number, a length and
its bytes. -/

/-- The number of the option that names the network of who asks. -/
def subnetOption : Nat := 8

/-- How many bytes hold an address of a family. -/
def addressSize? (family : Nat) : Option Nat := [(1, 4), (2, 16)].lookup family

/-- Is it the network of who asks: the family of its address, the number of bits that matter there
and in the answer, and the bytes that hold these bits? -/
def isSubnet : Bytes → Bool
  | high :: low :: bits :: _ :: address =>
    (addressSize? (high.toNat * 256 + low.toNat)).any fun size =>
      min size ((bits.toNat + 7) / 8) ≤ address.length
  | _ => false

/-- Are these options, of a record with `total` bytes of data?  The last one may be cut short
behind its number or in its bytes. -/
def areOptions (total : Nat) : Bytes → Bool
  | a :: b :: c :: d :: rest =>
    let size := c.toNat * 256 + d.toNat
    decide (size ≤ total) &&
      (decide (rest.length < size) ||
        (a.toNat * 256 + b.toNat != subnetOption || isSubnet (rest.take size)) &&
          areOptions total (rest.drop size))
  | bytes => bytes.length != 1 && bytes.length != 3
termination_by bytes => bytes.length
decreasing_by
  simp only [List.length_drop, List.length_cons]
  omega

/-! ## 3. From messages -/

/-- A number of 32 bits with its sign. -/
def signed32 (n : Nat) : Int := if n < 2147483648 then n else (n : Int) - 4294967296

/-- Reads the start of a zone. -/
def readAuthority : Wire RecordData := do
  let server ← Name.read
  let responsible ← Name.read
  let serial ← Wire.number 4
  let times ← Wire.times (Wire.number 4) 3
  let minimum ← Wire.number 4
  return authority server responsible
    ((serial : Int) :: times.map signed32 ++ [(minimum : Int)])

/-- Reads a service. -/
def readService : Wire RecordData := do
  let priority ← Wire.number 2
  let weight ← Wire.number 2
  let port ← Wire.number 2
  return service priority weight port (← Name.read)

/-- Reads a rule; its flags are letters and digits. -/
def readRule : Wire RecordData := do
  let order ← Wire.number 2
  let preference ← Wire.number 2
  let flags ← Wire.string
  if !flags.all fun b => (Char.ofNat b.toNat).isAlphanum then failure
  let services ← Wire.string
  let pattern ← Wire.string
  return rule order preference flags services pattern (← Name.read)

/-- Reads a digest that ends at the position `stop`, behind `kinds` numbers. -/
def readDigest (kinds stop : Nat) : Wire RecordData := do
  return digest (← Wire.times (Wire.number 1) kinds) (← Wire.upTo stop)

/-- Reads what to synchronize.  Of the flags the lowest two have a meaning, and the highest eight
do not matter; the others may not be set. -/
def readSynchronization (stop : Nat) : Wire RecordData := do
  let serial ← Wire.number 4
  let flags ← Wire.number 2
  if flags % 256 ≥ 4 then failure
  return synchronization serial (flags % 4)
    (← Wire.found (RecordType.ofWindows? (← Wire.upTo stop)))

/-- Reads data of a type up to the position `stop`. -/
def readForm (type : RecordType) (stop : Nat) : Wire RecordData :=
  match type.code with
  | 1 => do return ipv4 (← Wire.found (Ipv4.ofOctets? (← Wire.take 4)))
  | 28 => do return ipv6 (← Wire.found (Ipv6.ofBytes? (← Wire.take 16)))
  | 2 | 5 | 12 | 65305 => name <$> Name.read
  | 6 => readAuthority
  | 13 => do return host (← Wire.string) (← Wire.string)
  | 15 => do return exchange (← Wire.number 2) (← Name.read)
  | 16 => strings <$> Wire.itemsUpTo Wire.string stop stop
  | 33 => readService
  | 35 => readRule
  | 41 => do
    let bytes ← Wire.upTo stop
    if areOptions bytes.length bytes then return raw bytes else failure
  | 44 => readDigest 2 stop
  | 52 => readDigest 3 stop
  | 62 => readSynchronization stop
  | 64 | 65 => binding <$> ServiceBinding.read stop
  | 257 => authorization <$> Authorization.read stop
  | 0 | 251 | 252 | 255 => failure
  | _ => raw <$> Wire.upTo stop

/-- Reads the `length` bytes of data of a record of type `type`. -/
def read (type : RecordType) (length : Nat) : Wire RecordData := do
  let stop := (← get) + length
  let data ← readForm type stop
  if (← get) = stop then return data else failure

end RecordData

end Dns

end UrlTransfer
