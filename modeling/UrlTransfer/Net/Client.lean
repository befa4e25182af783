/-
# A client and what its requests share

The requests of a client share a resolver and a set of trusted certificates.  Each is made from
its files when a request first needs it, and kept until the client is reset; what is configured
later has no effect on what was made before.
-/
import UrlTransfer.Dns.Resolver
import UrlTransfer.Tls.Handshake
import UrlTransfer.Tls.Roots

namespace UrlTransfer

/-- Where the files are that a client is set up from. -/
structure Locations where
  settings : Bytes := Bytes.ofString "/etc/resolv.conf"
  hosts : Bytes := Bytes.ofString "/etc/hosts"
  certificates : Bytes := Bytes.ofString "/etc/ssl/certs"
deriving Repr, DecidableEq

/-- The system that a client runs on, and what its requests share. -/
structure Client where
  system : System := {}
  locations : Locations := {}
  resolver : Option Dns.Resolver := none
  /-- How many resolvers have been made. -/
  resolversMade : Nat := 0
  roots : Option (List Tls.TrustAnchor) := none

namespace Client

/-- An action on the system. -/
def onSystem {ε α : Type} (x : Act ε System α) : Act ε Client α :=
  Act.within Client.system (fun system c => { c with system }) x

/-- Sets where the files are. -/
def configure (locations : Locations) (c : Client) : Client := { c with locations }

/-- Drops what the requests share. -/
def reset (c : Client) : Client := { c with resolver := none, roots := none }

/-- Makes the shared resolver if it is not there. -/
def prepareResolver : Act Error Client Unit := fun c =>
  match c.resolver with
  | some _ => .ok () c
  | none =>
    match Dns.Resolver.load c.locations.settings c.locations.hosts c.system.files with
    | .ok resolver =>
      .ok () { c with resolver := some resolver, resolversMade := c.resolversMade + 1 }
    | .error fault => .error (.failed (.io fault)) c

/-- The shared set of trusted certificates, which is made if it is not there. -/
def prepareRoots : Act Error Client (List Tls.TrustAnchor) := fun c =>
  match c.roots with
  | some roots => .ok roots c
  | none =>
    match Tls.loadRoots c.locations.certificates c.system.files with
    | .ok roots => .ok roots { c with roots := some roots }
    | .error fault => .error (.failed (.io fault)) c

/-- An action on a resolver and the system: a resolver of one's own, or else the shared one. -/
def onResolver {ε α : Type} (x : Act ε (Dns.Resolver × System) α) :
    Act ε (Option Dns.Resolver × Client) α :=
  Act.within (fun (own, c) => (own.getD (c.resolver.getD {}), c.system))
    (fun (resolver, system) (own, c) =>
      match own with
      | some _ => (some resolver, { c with system })
      | none => (none, { c with system, resolver := some resolver }))
    x

/-- Sees to it that there is a resolver, one's own or the shared one. -/
def needResolver : Act Error (Option Dns.Resolver × Client) Unit := do
  let (own, _) ← get
  if own.isNone then Act.second prepareResolver

/-- An action with the shared resolver. -/
def shared {ε α : Type} (x : Act ε (Option Dns.Resolver × Client) α) : Act ε Client α :=
  Act.within (fun c => (none, c)) (fun (_, c) _ => c) x

/-- The addresses of a host, by the shared resolver. -/
def resolve (host : String) : Act Error Client Dns.Addresses :=
  shared (do needResolver; onResolver (Dns.Resolver.resolve host))

end Client

end UrlTransfer
