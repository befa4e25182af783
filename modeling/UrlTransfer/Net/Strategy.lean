/-
# Choice of address family

A host may have addresses of both versions.  A `Strategy` says which of them are tried, and in
which order; within one version the resolver's order is kept.
-/
import UrlTransfer.Net.Address

namespace UrlTransfer

/-- Which address versions to try, and in which order. -/
inductive Strategy where
  /-- The same as `preferIpv6`. -/
  | default
  | ipv4Only
  | ipv6Only
  | preferIpv4
  | preferIpv6
deriving Repr, DecidableEq, Inhabited

namespace Strategy

/-- Every strategy. -/
def all : List Strategy := [default, ipv4Only, ipv6Only, preferIpv4, preferIpv6]

/-- The name of a strategy. -/
def text : Strategy → String
  | default => "default"
  | ipv4Only => "ipv4-only"
  | ipv6Only => "ipv6-only"
  | preferIpv4 => "prefer-ipv4"
  | preferIpv6 => "prefer-ipv6"

/-- The strategy of a name. -/
def parse? (s : String) : Option Strategy := all.find? (·.text == s)

/-- **Names are read back.** -/
theorem parse?_text (s : Strategy) : parse? s.text = some s := by cases s <;> decide

/-- The addresses to try, in their order. -/
def order (s : Strategy) (v4 : List Ipv4) (v6 : List Ipv6) : List IpAddr :=
  match s with
  | ipv4Only => v4.map .v4
  | ipv6Only => v6.map .v6
  | preferIpv4 => v4.map .v4 ++ v6.map .v6
  | default | preferIpv6 => v6.map .v6 ++ v4.map .v4

end Strategy

end UrlTransfer
