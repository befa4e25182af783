/-
# Connecting

The addresses of a host are tried in the order of a strategy, one at a time, up to the first that
takes the connection; if none does, the error is that of the last.  A limit of time bounds the
trying as a whole, but neither the search for the addresses before nor the agreement on the secure
protocol after it.
-/
import UrlTransfer.Net.Client
import UrlTransfer.Net.Strategy

namespace UrlTransfer

/-- Where to connect to, and how. -/
structure Destination where
  host : String
  port : Nat
  strategy : Strategy := .default
  timeout : Option Duration := none
  noDelay : Bool := false
  timeToLive : Option Nat := none

/-- A connection, and how many addresses were tried for it. -/
structure Connected where
  conn : Conn
  tries : Nat

namespace Destination

/-- Tries addresses one after the other; `tries` were tried before, the last of them with the
fault `last`. -/
def tryEach (port tries : Nat) (last : Option IoError) :
    List IpAddr → Act Error System Connected
  | [] => Act.fail ((last.map Error.io).getD .noAddresses)
  | ip :: rest => do
    match ← Act.attempt (System.dial { ip, port }) with
    | .ok conn => return ⟨conn, tries + 1⟩
    | .error fault => tryEach port (tries + 1) (some fault) rest

/-- Tries addresses within the limit of time, if there is one. -/
def tryAll (d : Destination) (addresses : List IpAddr) : Act Error System Connected :=
  match d.timeout with
  | none => tryEach d.port 0 none addresses
  | some _ => do
    match ← Act.timely (tryEach d.port 0 none addresses) with
    | some connected => return connected
    | none => Act.fail (.timedOut "connect")

/-- Sets the options of a connection.  A socket can refuse an option, and connecting fails with its
fault then; **this outcome is left out**, since the connections of a `System` take all of them. -/
def setOptions (d : Destination) (o : Outflow) : Outflow :=
  { o with
    noDelay := o.noDelay || d.noDelay
    timeToLive := d.timeToLive.orElse fun _ => o.timeToLive }

/-- Connects to the host, without saying anything yet. -/
def reach (d : Destination) : Act Error (Dns.Resolver × System) Connected := do
  let addresses ← Dns.Resolver.resolve d.host
  let connected ← Act.second (d.tryAll (d.strategy.order addresses.v4 addresses.v6))
  Act.second (Act.mapError .io (System.onLink connected.conn.link (modify d.setOptions)))
  return connected

/-- Connects to the host without the secure protocol. -/
def connect (d : Destination) : Act Error (Dns.Resolver × System) Connected := do
  let connected ← d.reach
  let conn ← Act.second connected.conn.plain
  return { connected with conn }

/-- Connects to the host by the secure protocol.  **A host that can be no server's name is not
looked for.** -/
def connectSecure (roots : List Tls.TrustAnchor) (d : Destination) :
    Act Error (Dns.Resolver × System) Connected :=
  match Tls.ServerName.parse? d.host with
  | none => Act.fail (.invalidServerName d.host)
  | some server => do
    let connected ← d.reach
    let conn ← Act.second (connected.conn.encrypt roots server)
    return { connected with conn }

end Destination

end UrlTransfer
