/-
# Hosts of URLs

The host of a URL is an internet address or a domain name.  A version 4 address may be written in
up to four parts, each in decimal, octal or hexadecimal; a host whose last part is a number has to
be one.  A version 6 address stands in brackets.  All other hosts are domains, brought into their
ASCII form.
-/
import UrlTransfer.Idna.Domain
import UrlTransfer.Net.Address
import UrlTransfer.Text.Utf8
import UrlTransfer.Url.Percent

namespace UrlTransfer

/-- What is wrong with a text that is no URL. -/
inductive UrlError where
  | emptyHost
  | idnaError
  | invalidPort
  | invalidIpv4Address
  | invalidIpv6Address
  | invalidDomainCharacter
  | relativeUrlWithoutBase
  | relativeUrlWithCannotBeABaseBase
deriving Repr, DecidableEq

/-- The wording of an error. -/
def UrlError.message : UrlError → String
  | emptyHost => "empty host"
  | idnaError => "invalid international domain name"
  | invalidPort => "invalid port number"
  | invalidIpv4Address => "invalid IPv4 address"
  | invalidIpv6Address => "invalid IPv6 address"
  | invalidDomainCharacter => "invalid domain character"
  | relativeUrlWithoutBase => "relative URL without a base"
  | relativeUrlWithCannotBeABaseBase => "relative URL with a cannot-be-a-base base"

/-- The name of an error. -/
def UrlError.name : UrlError → String
  | emptyHost => "empty-host"
  | idnaError => "idna-error"
  | invalidPort => "invalid-port"
  | invalidIpv4Address => "invalid-ipv4-address"
  | invalidIpv6Address => "invalid-ipv6-address"
  | invalidDomainCharacter => "invalid-domain-character"
  | relativeUrlWithoutBase => "relative-url-without-base"
  | relativeUrlWithCannotBeABaseBase => "relative-url-with-cannot-be-a-base-base"

namespace Url

/-- The host of a URL. -/
inductive Host where
  | domain (name : String)
  | ipv4 (ip : Ipv4)
  | ipv6 (ip : Ipv6)
deriving DecidableEq

namespace Host

/-- The host as it stands in a URL. -/
def text : Host → String
  | domain name => name
  | ipv4 ip => ip.text
  | ipv6 ip => "[" ++ ip.hexText ++ "]"

/-- The host without the brackets of a version 6 address. -/
def name : Host → String
  | domain name => name
  | ipv4 ip => ip.text
  | ipv6 ip => ip.text

/-! ## Addresses of version 4 -/

/-- Reads a number in decimal, octal or hexadecimal; its size is not bounded here. -/
def number? (cs : List Char) : Option Nat :=
  match cs with
  | [] => none
  | ['0'] => some 0
  | '0' :: 'x' :: rest | '0' :: 'X' :: rest => Numeral.valueFrom? 16 0 rest
  | '0' :: rest => Numeral.valueFrom? 8 0 rest
  | _ => Numeral.valueFrom? 10 0 cs

/-- The parts between dots, without an empty one at the end. -/
def parts (cs : List Char) : List (List Char) :=
  let parts := Text.splitAt '.' cs
  if parts.getLast? = some [] then parts.dropLast else parts

/-- Does the domain end in a number, so that it has to be an address? -/
def endsInNumber (cs : List Char) : Bool :=
  match (parts cs).getLast? with
  | none => false
  | some last => (!last.isEmpty && last.all Char.isDigit) || (number? last).isSome

/-- Reads an address of up to four numbers: the last fills all bytes that are left. -/
def ipv4? (cs : List Char) : Option Ipv4 := do
  let numbers ← (parts cs).mapM number?
  if numbers.length > 4 then none
  let last ← numbers.getLast?
  let before := numbers.dropLast
  if before.any (255 < ·) || last ≥ 256 ^ (4 - before.length) then none
  let high := before.zipIdx.foldl (fun high (n, i) => high + n * 256 ^ (3 - i)) 0
  return Ipv4.ofNat (high + last)

/-! ## Reading a host -/

/-- May the character not stand in a domain, even after mapping? -/
def isForbidden (c : Char) : Bool :=
  c.toNat ≤ 32 || c.toNat == 127 || "#%/:<>?@[\\]^|".toList.contains c

/-- Reads the host of a URL with one of the special schemes. -/
def parse (cs : List Char) : Except UrlError Host :=
  match cs with
  | '[' :: inner =>
    if inner.getLast? = some ']' then
      match Ipv6.parse? (String.ofList inner.dropLast) with
      | some ip => .ok (.ipv6 ip)
      | none => .error .invalidIpv6Address
    else .error .invalidIpv6Address
  | _ =>
    match (Utf8.decode? (Percent.decode cs)).bind fun s => Idna.toAscii? s.toList with
    | none => .error .idnaError
    | some ascii =>
      if ascii.any isForbidden then .error .idnaError
      else if ascii.isEmpty then .error .emptyHost
      else if endsInNumber ascii then
        match ipv4? ascii with
        | some ip => .ok (.ipv4 ip)
        | none => .error .invalidIpv4Address
      else .ok (.domain (String.ofList ascii))

/-- Reads the host of a URL with another scheme, where it is not interpreted. -/
def parseOther (cs : List Char) : Except UrlError Host :=
  match cs with
  | '[' :: inner =>
    if inner.getLast? = some ']' then
      match Ipv6.parse? (String.ofList inner.dropLast) with
      | some ip => .ok (.ipv6 ip)
      | none => .error .invalidIpv6Address
    else .error .invalidIpv6Address
  | _ =>
    if cs.any fun c => c.toNat == 0 || " #/:<>?@[\\]^|".toList.contains c then
      .error .invalidDomainCharacter
    else .ok (.domain (String.ofList (Percent.encode Percent.inControls cs)))

end Host

end Url

end UrlTransfer
