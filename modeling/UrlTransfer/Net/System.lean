/-
# The system underneath

Everything that the library asks of its surroundings goes through a `System`: connections to peers
and from peers, datagrams, files, random numbers, standard input and output.  What the
surroundings will do is part of the value, and so is the record of what was done to them, in
order: every connection that was tried is a `Link`, every message sent a `Datagram`.

A connection is in two halves.  What the peer sends belongs to whoever reads it (`Conn.inflow`);
what it is sent belongs to the record, and `System.onLink` is the way to it.
-/
import UrlTransfer.File.Tree
import UrlTransfer.Stream.Inflow
import UrlTransfer.Stream.Outflow
import UrlTransfer.Tls.Identity

namespace UrlTransfer

/-! ## 1. Random numbers -/

/-- A source of random bytes: a feed that repeats for ever, or zeros if it is empty. -/
structure Entropy where
  feed : Bytes := []
  drawn : Nat := 0
deriving Repr, DecidableEq

namespace Entropy

/-- The byte at a place of the feed. -/
def byteAt (e : Entropy) (place : Nat) : UInt8 := (e.feed[place % e.feed.length]?).getD 0

/-- The next `n` bytes, and the source behind them. -/
def draw (n : Nat) (e : Entropy) : Bytes × Entropy :=
  ((List.range n).map fun i => e.byteAt (e.drawn + i), { e with drawn := e.drawn + n })

end Entropy

/-! ## 2. Peers and links -/

/-- The other side of a connection: what it sends, what it takes, and who it proves to be if it
speaks the secure protocol. -/
structure Peer where
  inflow : Inflow := .empty
  outflow : Outflow := {}
  identity : Option Tls.Identity := none

/-- How the attempt to connect ends. -/
inductive Contact where
  | refused (halt : Halt IoError)
  | made (peer : Peer)

/-- How a client speaks to a peer. -/
inductive Manner where
  /-- Both speak the same protocol. -/
  | matched
  /-- The client opened the secure protocol, which the peer does not speak. -/
  | misdirected
deriving Repr, DecidableEq

/-- A connection as it is recorded: one that failed, or what was sent on it. -/
inductive Link where
  | failed (peer : SocketAddr) (halt : Halt IoError)
  | opened (peer : SocketAddr) (secure : Bool) (manner : Manner) (outflow : Outflow)

/-- The sending side of a link, which a failed one does not have. -/
def Link.outflow : Link → Outflow
  | failed _ _ => {}
  | opened _ _ _ outflow => outflow

/-- A link with another sending side. -/
def Link.setOutflow (outflow : Outflow) : Link → Link
  | failed peer halt => failed peer halt
  | opened peer secure manner _ => opened peer secure manner outflow

/-- A connection: the number of its link, its peer, and what the peer sends. -/
structure Conn where
  link : Nat
  peer : SocketAddr
  inflow : Inflow
  identity : Option Tls.Identity
  /-- Whether the secure protocol was agreed on. -/
  secure : Bool

/-! ## 3. Datagrams -/

/-- A message that was sent. -/
structure Datagram where
  source : SocketAddr
  target : SocketAddr
  content : Bytes
deriving DecidableEq

/-- What comes back after a message: a datagram or a fault. -/
abbrev Echo := Except IoError Bytes

/-! ## 4. The whole -/

/-- The surroundings: what they will do, and what was done to them. -/
structure System where
  /-- How the next connections to others turn out. -/
  outgoing : List Contact := []
  /-- How the next connections from others turn out. -/
  incoming : List Contact := []
  links : List Link := []
  /-- What comes back from each address, one list for each exchange. -/
  exchanges : List (SocketAddr × List (List Echo)) := []
  datagrams : List Datagram := []
  files : Tree := {}
  entropy : Entropy := {}
  input : Inflow := .empty
  output : Bytes := []

namespace System

/-- The next `n` random bytes. -/
def random {ε : Type} (n : Nat) : Act ε System Bytes := fun s =>
  .ok (s.entropy.draw n).1 { s with entropy := (s.entropy.draw n).2 }

/-- Adds to the standard output. -/
def print {ε : Type} (bytes : Bytes) : Act ε System Unit := fun s =>
  .ok () { s with output := s.output ++ bytes }

/-- The sending side of a link. -/
def outflow (link : Nat) (s : System) : Outflow := (s.links[link]?.map Link.outflow).getD {}

/-- Changes a link. -/
def changeLink (link : Nat) (f : Link → Link) (s : System) : System :=
  { s with links := s.links.modify link f }

/-- An action on the sending side of a link. -/
def onLink {α : Type} (link : Nat) (x : Act IoError Outflow α) : Act IoError System α :=
  Act.within (outflow link) (fun o => changeLink link (Link.setOutflow o)) x

/-- Where connections from others come from. -/
def caller : SocketAddr := { ip := .v4 ⟨127, 0, 0, 1⟩, port := 40000 }

/-- Where connections from others come to. -/
def listener : SocketAddr := { ip := .v4 ⟨127, 0, 0, 1⟩, port := 8080 }

/-- A connection with a peer, and the record of it. -/
def establish (addr : SocketAddr) (peer : Peer) (s : System) : Conn × System :=
  (⟨s.links.length, addr, peer.inflow, peer.identity, false⟩,
    { s with
      links := s.links ++ [.opened addr peer.identity.isSome .matched peer.outflow] })

/-- Connects to an address.  **A connection that fails is recorded too.** -/
def dial (addr : SocketAddr) : Act IoError System Conn := fun s =>
  let failed (halt : Halt IoError) (outgoing : List Contact) :
      EStateM.Result (Halt IoError) System Conn :=
    .error halt { s with outgoing, links := s.links ++ [.failed addr halt] }
  match s.outgoing with
  | [] => failed (.failed (.ofKind .connectionRefused)) []
  | .refused halt :: rest => failed halt rest
  | .made peer :: rest =>
    let (conn, s') := establish addr peer { s with outgoing := rest }
    .ok conn s'

/-- Waits for the next connection from another. -/
def accept : Act IoError System Conn := fun s =>
  match s.incoming with
  | [] => .error (.failed (.ofKind .connectionAborted)) s
  | .refused halt :: rest => .error halt { s with incoming := rest }
  | .made peer :: rest =>
    let (conn, s') := establish caller peer { s with incoming := rest }
    .ok conn s'

/-- Accepts connections one after the other, and serves each, up to the failure to accept one;
`callers` is how many there will be. -/
def serveEach {τ : Type} (serve : Conn → τ × System → τ × System) (callers : Nat) :
    Act IoError (τ × System) Unit := do
  let conn ← Act.second accept
  modify (serve conn)
  match callers with
  | 0 => return ()
  | callers + 1 => serveEach serve callers

/-- Serves all connections from others. -/
def serveAll {τ : Type} (serve : Conn → τ × System → τ × System) : Act IoError (τ × System) Unit :=
  fun s => serveEach serve s.2.incoming.length s

/-- Takes the next exchange of an address from a table. -/
def takeExchange (addr : SocketAddr) :
    List (SocketAddr × List (List Echo)) → List Echo × List (SocketAddr × List (List Echo))
  | [] => ([], [])
  | (a, exchanges) :: rest =>
    if a = addr then
      match exchanges with
      | [] => ([], (a, []) :: rest)
      | first :: later => (first, (a, later) :: rest)
    else
      let (found, rest) := takeExchange addr rest
      (found, (a, exchanges) :: rest)

/-- The address that a message to `target` is sent from. -/
def anySource (target : SocketAddr) : SocketAddr :=
  match target.ip with
  | .v4 _ => { ip := .v4 ⟨0, 0, 0, 0⟩, port := 0 }
  | .v6 _ => { ip := .v6 ⟨[0, 0, 0, 0, 0, 0, 0, 0], rfl⟩, port := 0 }

/-- Sends a message, and returns all that will ever come back. -/
def exchange {ε : Type} (target : SocketAddr) (content : Bytes) : Act ε System (List Echo) :=
  fun s =>
    let (echoes, exchanges) := takeExchange target s.exchanges
    .ok echoes
      { s with
        exchanges
        datagrams := s.datagrams ++ [⟨anySource target, target, content⟩] }

end System

end UrlTransfer
