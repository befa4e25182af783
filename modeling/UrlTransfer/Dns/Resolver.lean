/-
# The resolver

A resolver finds the addresses of a host: in the table of hosts, and if it is not there, from name
servers, one after the other.  The table always comes first.  With rotation, the name servers
start at another one in each round.  How services are gone through is `Dns.Roster`; here is what
they are.
-/
import UrlTransfer.Dns.Hosts
import UrlTransfer.Dns.Roster
import UrlTransfer.Dns.Settings

namespace UrlTransfer

namespace Dns

/-- Where a resolver looks. -/
inductive Service where
  | hosts (table : Hosts)
  | nameServer (server : NameServer)
deriving DecidableEq

namespace Service

/-- The name of a service in messages. -/
def describe : Service → String
  | hosts _ => "hosts"
  | nameServer server => server.describe

/-- Answers a query. -/
def lookup (query : Query) : Service → Act Error System Lookup
  | hosts table => Act.ofExcept ((table.lookup query).mapError .dns)
  | nameServer server => server.lookup query

end Service

/-- A table of hosts, name servers, and how to go through them. -/
abbrev Resolver := Roster Service

namespace Resolver

/-- The resolver of a table alone. -/
def ofHosts (hosts : Hosts) : Resolver := { services := [.hosts hosts] }

/-- The resolver of settings and a table. -/
def ofSettings (settings : Settings) (hosts : Hosts) : Resolver :=
  { services := .hosts hosts :: settings.servers.map fun server =>
      .nameServer { server with timeout := settings.timeout }
    attempts := max settings.attempts 1
    rotate := settings.rotate }

/-- Reads settings and table from their files. -/
def load (settings hosts : Bytes) (files : Tree) : Except IoError Resolver := do
  return ofSettings (← Settings.load settings files) (← Hosts.load hosts files)

/-- The addresses of a host, which may be named by one of them. -/
def resolve (host : String) : Act Error (Resolver × System) Addresses :=
  Roster.resolve Service.lookup host

end Resolver

end Dns

end UrlTransfer
