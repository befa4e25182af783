/-
# Bindings of services

A binding says where a service is, and what there is to know before connecting to it, as
parameters in the order of their keys.

Printed, every item of a list has a comma behind it, the last one too.
-/
import UrlTransfer.Codec.Base64
import UrlTransfer.Dns.Wire
import UrlTransfer.Net.Address

namespace UrlTransfer

namespace Dns

/-! ## 1. Parameters -/

/-- The key of a parameter, by its number. -/
structure BindingKey where
  code : Nat
deriving Repr, DecidableEq, Inhabited

namespace BindingKey

/-- The keys with a meaning. -/
def names : List (Nat × String) := [
  (0, "mandatory"), (1, "alpn"), (2, "no-default-alpn"), (3, "port"), (4, "ipv4hint"),
  (5, "echconfig"), (6, "ipv6hint")]

/-- The text of a key; the keys from 65280 on are for private use. -/
def text (k : BindingKey) : String :=
  (names.lookup k.code).getD
    ((if 65280 ≤ k.code then "key" else "unknown") ++ Numeral.decimal k.code)

/-- Reads a key. -/
def read : Wire BindingKey := do return ⟨← Wire.number 2⟩

end BindingKey

/-- The value of a parameter. -/
inductive BindingValue where
  /-- The keys that have to be understood. -/
  | mandatory (keys : List BindingKey)
  /-- The protocols that are spoken. -/
  | protocols (names : List String)
  /-- The usual protocol is not spoken. -/
  | unusual
  | port (number : Nat)
  | ipv4Hint (ips : List Ipv4)
  /-- How the beginning of a connection is kept secret. -/
  | secrecy (settings : Bytes)
  | ipv6Hint (ips : List Ipv6)
  | other (bytes : Bytes)
deriving DecidableEq

namespace BindingValue

/-- The text of a list. -/
def listText {α : Type} (itemText : α → String) (items : List α) : String :=
  String.join (items.map fun item => itemText item ++ ",")

/-- The text of a value. -/
def text : BindingValue → String
  | mandatory keys => listText BindingKey.text keys
  | protocols names => listText id names
  | unusual => ""
  | port number => Numeral.decimal number
  | ipv4Hint ips => listText Ipv4.text ips
  | secrecy settings => "\"" ++ String.ofList (Base64.encode settings) ++ "\""
  | ipv6Hint ips => listText Ipv6.text ips
  | other bytes => "\"" ++ Utf8.decodeLossy bytes ++ "\","

/-- Reads an address of version 4. -/
def readIpv4 : Wire Ipv4 := do Wire.found (Ipv4.ofOctets? (← Wire.take 4))

/-- Reads an address of version 6. -/
def readIpv6 : Wire Ipv6 := do Wire.found (Ipv6.ofBytes? (← Wire.take 16))

/-- Reads the name of a protocol. -/
def readProtocol : Wire String := do Wire.found (Utf8.decode? (← Wire.string))

/-- The list, unless it is empty. -/
def nonEmpty? {α : Type} (items : List α) : Option (List α) :=
  if items.isEmpty then none else some items

/-- The value under a key that some bytes hold.  Behind a port and behind the settings for
secrecy, which have a length of their own, there may be more bytes. -/
def ofBytes? (key : BindingKey) (bytes : Bytes) : Option BindingValue :=
  match key.code with
  | 0 => (Wire.parseAll? BindingKey.read bytes).bind nonEmpty? |>.map mandatory
  | 1 => (Wire.parseAll? readProtocol bytes).bind nonEmpty? |>.map protocols
  | 2 => if bytes.isEmpty then some unusual else none
  | 3 => (Wire.parse? (Wire.number 2) bytes).map port
  | 4 => (Wire.parseAll? readIpv4 bytes).map ipv4Hint
  | 5 => (Wire.parse? (do Wire.take (← Wire.number 2)) bytes).map secrecy
  | 6 => (Wire.parseAll? readIpv6 bytes).map ipv6Hint
  | _ => some (other bytes)

end BindingValue

/-! ## 2. Bindings -/

/-- A binding of a service. -/
structure ServiceBinding where
  priority : Nat
  target : Name
  parameters : List (BindingKey × BindingValue)
deriving DecidableEq

namespace ServiceBinding

/-- The text of a binding. -/
def text (b : ServiceBinding) : String :=
  " ".intercalate (Numeral.decimal b.priority :: b.target.text ::
    b.parameters.map fun (key, value) => key.text ++ "=" ++ value.text)

/-- Reads a parameter. -/
def readParameter : Wire (BindingKey × BindingValue) := do
  let key ← BindingKey.read
  let bytes ← Wire.take (← Wire.number 2)
  return (key, ← Wire.found (BindingValue.ofBytes? key bytes))

/-- Are the keys in ascending order, without a key that is there twice? -/
def isAscending : List BindingKey → Bool
  | a :: b :: rest => a.code < b.code && isAscending (b :: rest)
  | _ => true

/-- Reads a binding that ends at the position `stop`; a parameter takes at least four bytes. -/
def read (stop : Nat) : Wire ServiceBinding := do
  let priority ← Wire.number 2
  let target ← Name.read
  let parameters ← Wire.itemsUpTo readParameter (stop - 3) stop
  if !isAscending (parameters.map (·.1)) then failure
  return ⟨priority, target, parameters⟩

end ServiceBinding

end Dns

end UrlTransfer
