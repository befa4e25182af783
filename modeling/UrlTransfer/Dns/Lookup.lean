/-
# Results of lookups

Records that answer a query, and how long they may be kept, where that is limited.
-/
import UrlTransfer.Dns.Fault

namespace UrlTransfer

namespace Dns

/-- Records that answer a query. -/
structure Lookup where
  query : Query
  records : List Record
  /-- For how many seconds the records are valid. -/
  validFor : Option Nat := none
deriving DecidableEq

/-- The addresses of a host. -/
structure Addresses where
  v4 : List Ipv4 := []
  v6 : List Ipv6 := []
deriving DecidableEq

namespace Addresses

/-- The one address of a host that is named by it. -/
def ofIp : IpAddr → Addresses
  | .v4 ip => { v4 := [ip] }
  | .v6 ip => { v6 := [ip] }

/-- The version 4 address in a record. -/
def recordV4? (record : Record) : Option Ipv4 :=
  match record.data with
  | some (.ipv4 ip) => some ip
  | _ => none

/-- The version 6 address in a record. -/
def recordV6? (record : Record) : Option Ipv6 :=
  match record.data with
  | some (.ipv6 ip) => some ip
  | _ => none

/-- Adds the addresses of records. -/
def add (records : List Record) (a : Addresses) : Addresses :=
  { v4 := a.v4 ++ records.filterMap recordV4?, v6 := a.v6 ++ records.filterMap recordV6? }

/-- Are there none? -/
def isEmpty (a : Addresses) : Bool := a.v4.isEmpty && a.v6.isEmpty

end Addresses

end Dns

end UrlTransfer
