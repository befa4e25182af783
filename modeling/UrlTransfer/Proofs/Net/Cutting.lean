/-
# What is done on a network does not depend on how bytes arrive

Two systems are the same `but for the cutting` if the peers in them send the same bytes in pieces
that are cut in other ways.  `System.joined` is the form of a system in which every peer sends all
in one piece, so that this is an equation between two of them.

Everything up to an open connection is done alike in both: asking for the addresses of a host,
trying them, setting options, and agreeing on the secure protocol or not.  The connections that come
of it are the same but for the cutting again (`alike_connect`, `alike_connectSecure`), and the
record of what was done is the same (`SameButCut.links`).
-/
import UrlTransfer.Net.Connect
import UrlTransfer.Proofs.Agreement
import UrlTransfer.Proofs.Stream.Cutting

namespace UrlTransfer

/-! ## 1. Systems that differ in the cutting -/

/-- The peer with all that it sends in one piece. -/
def Peer.joined (p : Peer) : Peer := { p with inflow := p.inflow.joined }

/-- The same for the outcome of an attempt to connect. -/
def Contact.joined : Contact → Contact
  | .refused halt => .refused halt
  | .made peer => .made peer.joined

/-- The system in which every peer sends all in one piece. -/
def System.joined (s : System) : System :=
  { s with outgoing := s.outgoing.map Contact.joined, incoming := s.incoming.map Contact.joined }

/-- The client on such a system. -/
def Client.joined (c : Client) : Client := { c with system := c.system.joined }

/-- The connection with a peer that sends all in one piece. -/
def Conn.joined (c : Conn) : Conn := { c with inflow := c.inflow.joined }

/-- Two connections are the same, but for how the bytes of the peer are cut. -/
structure Conn.SameButCut (c c' : Conn) : Prop where
  link : c.link = c'.link
  peer : c.peer = c'.peer
  inflow : c.inflow.joined = c'.inflow.joined
  identity : c.identity = c'.identity
  secure : c.secure = c'.secure

theorem Conn.SameButCut.of_joined {c c' : Conn} (h : c.joined = c'.joined) : c.SameButCut c' := by
  obtain ⟨hlink, hpeer, hinflow, hidentity, hsecure⟩ := Conn.mk.inj h
  exact ⟨hlink, hpeer, hinflow, hidentity, hsecure⟩

namespace System

/-- Two systems are the same, but for how the bytes of the peers are cut. -/
def SameButCut (s s' : System) : Prop := s.joined = s'.joined

theorem SameButCut.links {s s' : System} (h : SameButCut s s') : s.links = s'.links := by
  have hlinks : s.joined.links = s'.joined.links := congrArg System.links h
  exact hlinks

/-- What changes nothing about the peers keeps systems the same. -/
theorem SameButCut.change {s s' : System} (h : SameButCut s s') (f : System → System)
    (hf : ∀ s, (f s).joined = f s.joined) : SameButCut (f s) (f s') := by
  unfold SameButCut at h ⊢
  rw [hf, hf, h]

/-! ## 2. What is asked of a system -/

theorem alike_random {ε : Type} (n : Nat) :
    Act.Alike (ε := ε) SameButCut Eq (random n) (random n) :=
  .of_commutes (v := id) fun _ => rfl

theorem alike_exchange {ε : Type} (target : SocketAddr) (content : Bytes) :
    Act.Alike (ε := ε) SameButCut Eq (exchange target content) (exchange target content) :=
  .of_commutes (v := id) fun _ => rfl

theorem alike_onLink {α : Type} (link : Nat) (x : Act IoError Outflow α) :
    Act.Alike SameButCut Eq (onLink link x) (onLink link x) := by
  refine .of_commutes (v := id) fun s => ?_
  unfold onLink Act.within
  rw [show outflow link s.joined = outflow link s from rfl]
  cases x (outflow link s) <;> rfl

/-- **An attempt to connect ends alike.** -/
theorem alike_dial (addr : SocketAddr) :
    Act.Alike SameButCut Conn.SameButCut (dial addr) (dial addr) := by
  refine Act.Alike.mono (.of_commutes (v := Conn.joined) fun s => ?_) fun _ _ => .of_joined
  obtain ⟨outgoing, incoming, links⟩ := s
  cases outgoing with
  | nil => rfl
  | cons contact rest => cases contact <;> rfl

end System

/-! ## 3. Names -/

open UrlTransfer.System (SameButCut)

namespace Dns

theorem NameServer.alike_ask (query : Query) (s : NameServer) :
    Act.Alike SameButCut Eq (s.ask query) (s.ask query) := by
  unfold ask
  refine (System.alike_random 2).bind_eq fun bytes => ?_
  dsimp only
  split
  · exact .fail _
  · refine ((System.alike_exchange _ _).mapError _).bind_eq fun echoes => ?_
    split
    · exact .pure rfl
    · exact .fail _
    · exact .stall

theorem NameServer.alike_lookup (query : Query) (s : NameServer) :
    Act.Alike SameButCut Eq (s.lookup query) (s.lookup query) := by
  unfold lookup
  refine (s.alike_ask query).timely.bind fun response response' h => ?_
  cases h with
  | none => exact .fail _
  | some h =>
    subst h
    exact .ofExcept (.refl _)

theorem Service.alike_lookup (query : Query) (service : Service) :
    Act.Alike SameButCut Eq (service.lookup query) (service.lookup query) := by
  cases service with
  | hosts table => exact .ofExcept (.refl _)
  | nameServer server => exact server.alike_lookup query

namespace Resolver

theorem alike_askService (name : Name) (service : Service) :
    Act.Alike SameButCut Eq (Roster.askService Service.lookup name service)
      (Roster.askService Service.lookup name service) := by
  unfold Roster.askService
  refine (service.alike_lookup _).attempt.bind fun a a' ha => ?_
  refine (service.alike_lookup _).attempt.bind fun aaaa aaaa' haaaa => ?_
  rw [ha.eq, haaaa.eq]
  split <;> exact .pure rfl

theorem alike_askServices (name : Name) (error : Option Error) (services : List Service) :
    Act.Alike SameButCut Eq (Roster.askServices Service.lookup name error services)
      (Roster.askServices Service.lookup name error services) := by
  induction services generalizing error with
  | nil => exact .pure rfl
  | cons service rest ih =>
    refine (alike_askService name service).bind_eq fun result => ?_
    cases result with
    | ok addresses => exact .pure rfl
    | error error => exact ih _

/-- A resolver, and systems that are the same but for the cutting. -/
def SameResolver (p p' : Resolver × System) : Prop := p.1 = p'.1 ∧ SameButCut p.2 p'.2

theorem alike_second {ε α : Type} {V : α → α → Prop} {x x' : Act ε System α}
    (hx : Act.Alike SameButCut V x x') :
    Act.Alike SameResolver V (Act.second x) (Act.second x') :=
  hx.within (fun _ _ h => h.2) fun _ _ _ _ ht h => ⟨h.1, ht⟩

theorem alike_search (name : Name) (error : Option Error) (rounds : Nat) :
    Act.Alike SameResolver Eq (Roster.search Service.lookup name error rounds)
      (Roster.search Service.lookup name error rounds) := by
  induction rounds generalizing error with
  | zero => exact .fail _
  | succ rounds ih =>
    have horder : Act.Alike SameResolver Eq (Roster.order (ε := Error)) Roster.order := by
      rintro ⟨r, s⟩ ⟨r', s'⟩ ⟨hr, hs⟩
      obtain rfl : r = r' := hr
      exact .ok rfl ⟨rfl, hs⟩
    refine horder.bind_eq fun services => ?_
    refine (alike_second (alike_askServices name error services)).bind_eq fun result => ?_
    cases result with
    | ok addresses => exact .pure rfl
    | error error => exact ih _

/-- **Names are looked up alike.** -/
theorem alike_resolve (host : String) :
    Act.Alike SameResolver Eq (resolve host) (resolve host) := by
  unfold resolve Roster.resolve
  split
  · exact .pure rfl
  · dsimp only
    split
    · exact .fail _
    · refine Act.Alike.getState.bind ?_
      rintro ⟨r, s⟩ ⟨r', s'⟩ ⟨hr, -⟩
      obtain rfl : r = r' := hr
      exact alike_search _ _ _

end Resolver

end Dns

/-! ## 4. Connections -/

/-- And the same for what comes of connecting. -/
def Connected.SameButCut (c c' : Connected) : Prop :=
  c.conn.SameButCut c'.conn ∧ c.tries = c'.tries

theorem Tls.misunderstanding_joined (inflow : Inflow) :
    misunderstanding inflow.joined = misunderstanding inflow := by
  have hrest : inflow.joined.rest = inflow.rest := by simp [Inflow.joined, Inflow.rest]
  unfold misunderstanding
  rw [hrest]
  rfl

namespace Conn

theorem alike_plain {ε : Type} {c c' : Conn} (h : c.SameButCut c') :
    Act.Alike (ε := ε) System.SameButCut SameButCut (plain c) (plain c') := by
  intro s s' hs
  unfold plain
  rw [← h.link, ← h.identity]
  split
  · refine .ok ?_ (hs.change (System.changeLink c.link deafen) fun _ => rfl)
    exact ⟨rfl, h.peer, rfl, rfl, h.secure⟩
  · exact .ok h hs

theorem alike_encrypt (roots : List Tls.TrustAnchor) (server : Tls.ServerName) {c c' : Conn}
    (h : c.SameButCut c') :
    Act.Alike System.SameButCut SameButCut (encrypt roots server c) (encrypt roots server c') := by
  intro s s' hs
  unfold encrypt
  rw [← h.link, ← h.identity]
  split
  · rw [← Tls.misunderstanding_joined, h.inflow, Tls.misunderstanding_joined]
    exact .error (hs.change (System.changeLink c.link misdirect) fun _ => rfl)
  · split
    · exact .ok ⟨rfl, h.peer, h.inflow, rfl, rfl⟩ hs
    · exact .error hs

end Conn

namespace Destination

theorem alike_tryEach (port tries : Nat) (last : Option IoError) (addresses : List IpAddr) :
    Act.Alike SameButCut Connected.SameButCut (tryEach port tries last addresses)
      (tryEach port tries last addresses) := by
  induction addresses generalizing tries last with
  | nil => exact .fail _
  | cons ip rest ih =>
    refine (System.alike_dial _).attempt.bind fun outcome outcome' h => ?_
    cases h with
    | ok hconn => exact .pure ⟨hconn, rfl⟩
    | error fault => exact ih _ _

theorem alike_tryAll (d : Destination) (addresses : List IpAddr) :
    Act.Alike SameButCut Connected.SameButCut (d.tryAll addresses) (d.tryAll addresses) := by
  have htry := alike_tryEach d.port 0 none addresses
  unfold tryAll
  split
  · exact htry
  · refine htry.timely.bind fun connected connected' h => ?_
    cases h with
    | none => exact .fail _
    | some h => exact .pure h

open Dns.Resolver (SameResolver alike_second)

theorem alike_reach (d : Destination) :
    Act.Alike SameResolver Connected.SameButCut d.reach d.reach := by
  unfold reach
  refine (Dns.Resolver.alike_resolve d.host).bind_eq fun addresses => ?_
  refine (alike_second (d.alike_tryAll _)).bind fun connected connected' h => ?_
  rw [h.1.link]
  exact (alike_second ((System.alike_onLink _ _).mapError _)).bind_eq fun _ => .pure h

/-- **Connecting ends alike**, without the secure protocol. -/
theorem alike_connect (d : Destination) :
    Act.Alike SameResolver Connected.SameButCut d.connect d.connect := by
  unfold connect
  refine d.alike_reach.bind fun connected connected' h => ?_
  exact (alike_second (Conn.alike_plain h.1)).bind fun conn conn' hconn => .pure ⟨hconn, h.2⟩

/-- And with it. -/
theorem alike_connectSecure (roots : List Tls.TrustAnchor) (d : Destination) :
    Act.Alike SameResolver Connected.SameButCut (d.connectSecure roots)
      (d.connectSecure roots) := by
  unfold connectSecure
  split
  · exact .fail _
  · refine d.alike_reach.bind fun connected connected' h => ?_
    refine (alike_second (Conn.alike_encrypt roots _ h.1)).bind fun conn conn' hconn => ?_
    exact .pure ⟨hconn, h.2⟩

end Destination

/-! ## 5. Clients -/

namespace Client

/-- Two clients are the same, but for how the bytes of the peers are cut. -/
def SameButCut (c c' : Client) : Prop := c.joined = c'.joined

theorem SameButCut.resolver {c c' : Client} (h : SameButCut c c') : c.resolver = c'.resolver := by
  have hresolver : c.joined.resolver = c'.joined.resolver := congrArg Client.resolver h
  exact hresolver

theorem SameButCut.system {c c' : Client} (h : SameButCut c c') :
    System.SameButCut c.system c'.system := congrArg Client.system h

/-- The same with another system. -/
theorem SameButCut.withSystem {c c' : Client} (h : SameButCut c c') {s s' : System}
    (hs : System.SameButCut s s') : SameButCut { c with system := s } { c' with system := s' } := by
  have hclients : ({ c.joined with system := s.joined } : Client) =
      { c'.joined with system := s'.joined } := by
    rw [show c.joined = c'.joined from h, show s.joined = s'.joined from hs]
  exact hclients

theorem alike_onSystem {ε α : Type} {V : α → α → Prop} {x : Act ε System α}
    (hx : Act.Alike System.SameButCut V x x) :
    Act.Alike SameButCut V (onSystem x) (onSystem x) :=
  hx.within (fun _ _ h => h.system) fun _ _ _ _ hs h => h.withSystem hs

theorem alike_prepareResolver : Act.Alike SameButCut Eq prepareResolver prepareResolver := by
  refine .of_commutes (v := id) fun c => ?_
  obtain ⟨system, locations, resolver⟩ := c
  cases resolver with
  | some resolver => rfl
  | none =>
    show prepareResolver (Client.mk system.joined locations none _ _) = _
    unfold prepareResolver
    dsimp only
    rw [show system.joined.files = system.files from rfl]
    cases Dns.Resolver.load locations.settings locations.hosts system.files <;> rfl

theorem alike_prepareRoots : Act.Alike SameButCut Eq prepareRoots prepareRoots := by
  refine .of_commutes (v := id) fun c => ?_
  obtain ⟨system, locations, resolver, made, roots⟩ := c
  cases roots with
  | some roots => rfl
  | none =>
    show prepareRoots (Client.mk system.joined locations _ _ none) = _
    unfold prepareRoots
    dsimp only
    rw [show system.joined.files = system.files from rfl]
    cases Tls.loadRoots locations.certificates system.files <;> rfl

/-- A resolver of one's own, and clients that are the same but for the cutting. -/
def SameOwner (p p' : Option Dns.Resolver × Client) : Prop := p.1 = p'.1 ∧ SameButCut p.2 p'.2

theorem alike_second {ε α : Type} {V : α → α → Prop} {x : Act ε Client α}
    (hx : Act.Alike SameButCut V x x) :
    Act.Alike SameOwner V (Act.second x) (Act.second x) :=
  hx.within (fun _ _ h => h.2) fun _ _ _ _ ht h => ⟨h.1, ht⟩

theorem alike_onResolver {ε α : Type} {V : α → α → Prop} {x : Act ε (Dns.Resolver × System) α}
    (hx : Act.Alike Dns.Resolver.SameResolver V x x) :
    Act.Alike SameOwner V (onResolver x) (onResolver x) := by
  refine hx.within ?_ ?_
  · rintro ⟨own, c⟩ ⟨own', c'⟩ ⟨hown, hc⟩
    obtain rfl : own = own' := hown
    refine ⟨?_, hc.system⟩
    show own.getD (c.resolver.getD {}) = own.getD (c'.resolver.getD {})
    rw [show c.resolver = c'.resolver from hc.resolver]
  · rintro ⟨resolver, s⟩ ⟨resolver', s'⟩ ⟨own, c⟩ ⟨own', c'⟩ ⟨hresolver, hs⟩ ⟨hown, hc⟩
    obtain rfl : own = own' := hown
    obtain rfl : resolver = resolver' := hresolver
    cases own with
    | some own => exact ⟨rfl, hc.withSystem hs⟩
    | none =>
      refine ⟨rfl, ?_⟩
      exact congrArg (fun c : Client => { c with resolver := some resolver }) (hc.withSystem hs)

theorem alike_needResolver : Act.Alike SameOwner Eq needResolver needResolver := by
  unfold needResolver
  refine Act.Alike.getState.bind ?_
  rintro ⟨own, c⟩ ⟨own', c'⟩ ⟨hown, -⟩
  obtain rfl : own = own' := hown
  dsimp only
  split
  · exact alike_second alike_prepareResolver
  · exact .pure rfl

end Client

end UrlTransfer
