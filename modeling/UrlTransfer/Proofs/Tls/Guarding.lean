/-
# Whom a secure request speaks to

Whether the secure protocol is used is decided once, when a request is built for a URL
(`Http.Request.Secured`), while the host changes with each redirection.  A secure request still
speaks only to peers that have proved to be the host of the URL that it goes to, against the
certificates that the client trusts (`Visit.Guards`): every visit connects in the same way, and no
visit changes which certificates those are (`Visit.trusts_after`).

Connecting by the secure protocol comes to nothing where there is nobody to be trusted
(`connect_unready`) or nothing to be proved (`connect_unnamed`), and otherwise is decided by the
peer who takes the connection (`Visit.connect_taken`).  So a visit either connects to a peer who
proves to be the host, or says nothing (`Visit.guards`), and one that does not connect is the last
(`transfer_of_failed`).
-/
import UrlTransfer.Proofs.WebSocket.Opening

namespace UrlTransfer

open Act (after value? Keeps)

/-! ## 1. What is trusted -/

/-- How agreeing on the secure protocol with this peer fails, if it does: the peer does not speak
it, or is not the server that was wanted. -/
def Peer.rejection? (roots : List Tls.TrustAnchor) (server : Tls.ServerName) (peer : Peer) :
    Option (Halt Error) :=
  match peer.identity with
  | none => some (Tls.misunderstanding peer.inflow)
  | some identity =>
    match identity.verify roots server with
    | .ok () => none
    | .error fault => some (.failed (.tls fault))

namespace Client

/-- The certificates that a client trusts: those that its requests share, or else those in its
files, if they can be read. -/
def trusted? (c : Client) : Option (List Tls.TrustAnchor) :=
  c.roots <|> (Tls.loadRoots c.locations.certificates c.system.files).toOption

theorem trusted_congr {c c' : Client} (hroots : c'.roots = c.roots)
    (hlocations : c'.locations = c.locations) (hfiles : c'.system.files = c.system.files) :
    c'.trusted? = c.trusted? := by
  unfold trusted?
  rw [hroots, hlocations, hfiles]

/-- **The certificates that are trusted are made ready**, or they cannot be read. -/
theorem prepareRoots_trusted (c : Client) :
    match c.trusted? with
    | none => ∃ halt, prepareRoots c = .error halt c
    | some roots => ∃ c', prepareRoots c = .ok roots c' ∧ c'.system = c.system ∧
        c'.resolver = c.resolver ∧ c'.trusted? = some roots := by
  unfold trusted? prepareRoots
  cases hroots : c.roots with
  | some own => exact ⟨c, rfl, rfl, rfl, by rw [hroots]; rfl⟩
  | none =>
    cases Tls.loadRoots c.locations.certificates c.system.files with
    | ok loaded => exact ⟨_, rfl, rfl, rfl, rfl⟩
    | error fault => exact ⟨_, rfl⟩

/-- Reading the certificates once more would bring the same. -/
theorem keeps_trusted_prepareRoots : Keeps trusted? prepareRoots := by
  intro c
  have h := c.prepareRoots_trusted
  cases htrusted : c.trusted? with
  | none =>
    rw [htrusted] at h
    obtain ⟨halt, hroots⟩ := h
    rw [Act.after_error hroots, htrusted]
  | some roots =>
    rw [htrusted] at h
    obtain ⟨c', hroots, -, -, hsame⟩ := h
    rw [Act.after_ok hroots, hsame]

theorem keeps_trusted_prepareResolver : Keeps trusted? prepareResolver := by
  intro c
  cases hresolver : c.resolver with
  | some resolver =>
    have hthere : prepareResolver c = .ok () c := by
      unfold prepareResolver
      rw [hresolver]
    rw [Act.after_ok hthere]
  | none =>
    cases hload : Dns.Resolver.load c.locations.settings c.locations.hosts c.system.files with
    | ok resolver =>
      have hmade : prepareResolver c = .ok ()
          { c with resolver := some resolver, resolversMade := c.resolversMade + 1 } := by
        unfold prepareResolver
        rw [hresolver]
        dsimp only
        rw [hload]
      rw [Act.after_ok hmade]
      rfl
    | error fault =>
      have hlost : prepareResolver c = .error (.failed (.io fault)) c := by
        unfold prepareResolver
        rw [hresolver]
        dsimp only
        rw [hload]
      rw [Act.after_error hlost]

theorem keeps_trusted_needResolver :
    Keeps (fun p : Option Dns.Resolver × Client => p.2.trusted?) needResolver := by
  refine Keeps.getState.bind fun p => ?_
  dsimp only
  split
  · exact keeps_trusted_prepareResolver.within fun _ _ h => h
  · exact .pure _

/-- What leaves the files alone leaves the certificates alone that are read from them. -/
theorem keeps_trusted_onSystem {ε α : Type} {x : Act ε System α} (hx : Keeps System.files x) :
    Keeps trusted? (onSystem x) := by
  exact hx.within fun _ _ h => trusted_congr rfl rfl h

theorem keeps_trusted_onResolver {ε α : Type} {x : Act ε (Dns.Resolver × System) α}
    (hx : Keeps (fun p => p.2.files) x) :
    Keeps (fun p : Option Dns.Resolver × Client => p.2.trusted?) (onResolver x) := by
  refine hx.within ?_
  rintro ⟨resolver, system⟩ ⟨own, c⟩ h
  have hfiles : system.files = c.system.files := h
  cases own <;> exact trusted_congr rfl rfl hfiles

end Client

/-! ## 2. What connecting and saying leave alone -/

theorem System.blind_files : System.BlindToAsking System.files := fun _ _ _ _ => rfl

theorem System.keeps_files_onLink {α : Type} (link : Nat) (x : Act IoError Outflow α) :
    Keeps System.files (System.onLink link x) := by
  have hx : Keeps (fun _ => ()) x := fun _ => rfl
  exact hx.within fun _ _ _ => rfl

namespace Destination

theorem keeps_files_tryEach (port tries : Nat) (last : Option IoError) (addresses : List IpAddr) :
    Keeps System.files (tryEach port tries last addresses) := by
  have hdial (addr : SocketAddr) : Keeps System.files (System.dial addr) := by
    intro s
    cases hout : s.outgoing with
    | nil => rw [Act.after_error (System.dial_absent addr hout)]
    | cons contact contacts =>
      cases contact with
      | refused halt => rw [Act.after_error (System.dial_refused addr hout)]
      | made peer => rw [Act.after_ok (System.dial_made addr hout)]
  induction addresses generalizing tries last with
  | nil => exact .fail _
  | cons ip rest ih =>
    rw [tryEach]
    refine (hdial _).attempt.bind fun result => ?_
    cases result with
    | ok conn => exact .pure _
    | error fault => exact ih _ _

theorem keeps_files_reach (d : Destination) :
    Keeps (fun p : Dns.Resolver × System => p.2.files) d.reach := by
  have hall (addresses : List IpAddr) : Keeps System.files (d.tryAll addresses) := by
    intro s
    rw [(d.after_tryAll addresses s).1]
    exact keeps_files_tryEach d.port 0 none addresses s
  refine (Dns.Resolver.keeps_resolve System.blind_files d.host).bind fun addresses => ?_
  refine (Dns.Resolver.keeps_second (hall _)).bind fun connected => ?_
  refine (Dns.Resolver.keeps_second ?_).bind fun _ => .pure _
  exact (System.keeps_files_onLink _ _).mapError _

/-- Whatever is settled on a connection, the files stay. -/
theorem keeps_files_settle (d : Destination) {settle : Conn → Act Error System Conn}
    (hsettle : ∀ conn, Keeps System.files (settle conn)) :
    Keeps (fun p : Dns.Resolver × System => p.2.files) (do
      let connected ← d.reach
      let conn ← Act.second (settle connected.conn)
      return { connected with conn }) := by
  refine d.keeps_files_reach.bind fun connected => ?_
  exact (Dns.Resolver.keeps_second (hsettle connected.conn)).bind fun _ => .pure _

theorem keeps_files_connect (d : Destination) :
    Keeps (fun p : Dns.Resolver × System => p.2.files) d.connect := by
  refine d.keeps_files_settle fun conn s => ?_
  unfold Conn.plain after
  cases conn.identity <;> rfl

theorem keeps_files_connectSecure (roots : List Tls.TrustAnchor) (d : Destination) :
    Keeps (fun p : Dns.Resolver × System => p.2.files) (d.connectSecure roots) := by
  unfold connectSecure
  split
  · exact .fail _
  · next server _ =>
    refine d.keeps_files_settle fun conn s => ?_
    unfold Conn.encrypt after
    cases conn.identity with
    | none => rfl
    | some identity =>
      dsimp only
      cases identity.verify roots server <;> rfl

end Destination

namespace Http

theorem keeps_files_sendSource (link room : Nat) (form : Bytes → Bytes) (source : Inflow) :
    Keeps System.files (sendSource link room form source) := by
  induction hsize : source.size using Nat.strongRecOn generalizing source with
  | ind size ih =>
    rw [sendSource_eq]
    cases hread : source.read room with
    | error halt rest => exact fun _ => rfl
    | ok part rest =>
      have hwrite := (System.keeps_files_onLink link (Outflow.write (form part))).mapError Error.io
      refine hwrite.bind fun _ => ?_
      by_cases hpart : part = []
      · rw [if_pos hpart]
        exact .pure _
      · have hless := Inflow.size_read hread
        have hpos := List.length_pos_iff.2 hpart
        rw [if_neg hpart]
        exact ih rest.size (by omega) rest rfl

theorem keeps_files_send (link : Nat) (request : Request) (url : Url) (payload : Option Payload) :
    Keeps System.files (send link request url payload) := by
  unfold send
  refine ((System.keeps_files_onLink link _).mapError Error.io).bind fun _ => ?_
  split
  · exact .pure _
  · exact ((System.keeps_files_onLink link _).mapError Error.io).bind fun _ => .pure _
  · exact (keeps_files_sendSource link _ _ _).bind fun _ => .pure _

/-! ## 3. What a transfer leaves alone -/

/-- The certificates that are trusted as a request runs. -/
def trusts (s : Running) : Option (List Tls.TrustAnchor) := s.2.trusted?

theorem keeps_trusts_connect (url : Url) : Keeps trusts (connect url) := by
  refine Keeps.getState.bind fun s => ?_
  dsimp only
  split
  · exact .fail _
  · next host _ =>
    have hopen : Keeps (fun p : Option Dns.Resolver × Client => p.2.trusted?) (do
        Client.needResolver
        if s.1.secure then
          let roots ← Act.second Client.prepareRoots
          Client.onResolver ((destination s.1 url host).connectSecure roots)
        else Client.onResolver (destination s.1 url host).connect) := by
      refine Client.keeps_trusted_needResolver.bind fun _ => ?_
      split
      · have hroots : Keeps (fun p : Option Dns.Resolver × Client => p.2.trusted?)
            (Act.second Client.prepareRoots) :=
          Client.keeps_trusted_prepareRoots.within fun _ _ h => h
        exact hroots.bind fun roots =>
          Client.keeps_trusted_onResolver (Destination.keeps_files_connectSecure roots _)
      · exact Client.keeps_trusted_onResolver (Destination.keeps_files_connect _)
    exact hopen.within fun _ _ h => h

theorem keeps_trusts_converse (url : Url) (payload : Option Payload) (connected : Connected) :
    Keeps trusts (converse url payload connected) := by
  refine Keeps.getState.bind fun s => ?_
  have hsay : Keeps trusts (say s.1 url payload connected) :=
    (Client.keeps_trusted_onSystem (keeps_files_send _ _ _ _)).within fun _ _ h => h
  exact hsay.bind fun _ => (Keeps.aside _).bind fun _ => .pure _

/-- **A visit leaves the certificates that are trusted as they are.** -/
theorem Visit.trusts_after (v : Visit) : trusts v.after = trusts v.before := by
  rw [v.after_eq]
  exact (keeps_trusts_connect v.url).bind (keeps_trusts_converse v.url v.payload) v.start

/-- All visits of a transfer trust the same certificates. -/
theorem trusts_of_mem {s : Running} {v : Visit} (h : v ∈ visits s) :
    trusts v.before = trusts s := by
  refine forall_visits (P := fun v => trusts v.before = trusts s) (fun _ _ => rfl) ?_ v h
  intro url v w _ hleads hv
  rw [hleads.before, v.trusts_after, hv]

/-- All visits of a transfer use the secure protocol, or none. -/
theorem secure_of_mem {s : Running} {v : Visit} (h : v ∈ visits s) :
    v.request.secure = s.1.secure := by
  have hsecure : v.before.1.kept.secure = s.1.kept.secure := by rw [(Visit.of_mem h).kept]
  exact hsecure

end Http

/-! ## 4. Connecting by the secure protocol -/

namespace Conn

variable {conn : Conn} {peer : Peer} {roots : List Tls.TrustAnchor} {server : Tls.ServerName}

/-- The secure protocol is agreed on with a peer who is not rejected. -/
theorem encrypt_proven (hidentity : conn.identity = peer.identity)
    (h : peer.rejection? roots server = none) (s : System) :
    conn.encrypt roots server s = .ok { conn with secure := true } s := by
  unfold Peer.rejection? at h
  unfold encrypt
  rw [hidentity]
  cases hpeer : peer.identity with
  | none =>
    rw [hpeer] at h
    cases h
  | some identity =>
    rw [hpeer] at h
    dsimp only at h ⊢
    cases hverify : identity.verify roots server with
    | ok _ => rfl
    | error fault =>
      rw [hverify] at h
      cases h

theorem encrypt_rejected (hinflow : conn.inflow = peer.inflow)
    (hidentity : conn.identity = peer.identity) {halt : Halt Error}
    (h : peer.rejection? roots server = some halt) (s : System) :
    ∃ t, conn.encrypt roots server s = .error halt t := by
  unfold Peer.rejection? at h
  unfold encrypt
  rw [hidentity, hinflow]
  cases hpeer : peer.identity with
  | none =>
    rw [hpeer] at h
    cases h
    exact ⟨_, rfl⟩
  | some identity =>
    rw [hpeer] at h
    dsimp only at h ⊢
    cases hverify : identity.verify roots server with
    | ok _ =>
      rw [hverify] at h
      cases h
    | error fault =>
      rw [hverify] at h
      cases h
      exact ⟨_, rfl⟩

end Conn

/-- A peer who is not rejected has proved who it is. -/
theorem Peer.verified_of_not_rejected {peer : Peer} {roots : List Tls.TrustAnchor}
    {server : Tls.ServerName} (h : peer.rejection? roots server = none) :
    ∃ identity, peer.identity = some identity ∧ identity.verify roots server = .ok () := by
  unfold rejection? at h
  cases hpeer : peer.identity with
  | none =>
    rw [hpeer] at h
    cases h
  | some identity =>
    rw [hpeer] at h
    dsimp only at h
    cases hverify : identity.verify roots server with
    | ok _ => exact ⟨identity, rfl, hverify⟩
    | error fault =>
      rw [hverify] at h
      cases h

namespace Destination

variable {d : Destination} {p found : Dns.Resolver × System} {addresses : Dns.Addresses}
  {refused : List Link} {addr : SocketAddr} {peer : Peer} {roots : List Tls.TrustAnchor}
  {server : Tls.ServerName}

/-- The one who takes the connection is reached, and has been told nothing. -/
theorem reach_taken (hresolve : Dns.Resolver.resolve d.host p = .ok addresses found)
    (htried : Tried d.port (d.strategy.order addresses.v4 addresses.v6) p.2.outgoing refused
      (some (addr, peer))) :
    ∃ conn tries t l, d.reach p = .ok ⟨conn, tries⟩ t ∧
      conn.link = (p.2.links ++ refused).length ∧ conn.inflow = peer.inflow ∧
      conn.identity = peer.identity ∧ t.2.links = p.2.links ++ refused ++ [l] ∧
      l.Says addr peer [] := by
  have hparts : d.reach = Dns.Resolver.resolve d.host >>= d.tryFound := rfl
  have htraffic := (Dns.Resolver.keeps_resolve System.blind_traffic d.host).ok hresolve
  have hreached := (d.reached_tryFound addresses found).of_traffic htraffic
  rw [hparts, Act.bind_ok hresolve]
  generalize hvalue : value? (d.tryFound addresses) found = outcome at hreached
  cases hreached with
  | refused tried => cases (tried.unique htried).2
  | @opened refused' _ _ l tries tried silent links =>
    obtain ⟨rfl, htaken⟩ := tried.unique htried
    cases htaken
    exact ⟨_, tries, _, l, Act.eq_ok_of_value? hvalue, rfl, rfl, rfl, links, silent⟩

/-- **Connecting fails with what the peer is rejected for**, if it is, and tells it nothing. -/
theorem connectSecure_taken (roots : List Tls.TrustAnchor)
    (hserver : Tls.ServerName.parse? d.host = some server)
    (hresolve : Dns.Resolver.resolve d.host p = .ok addresses found)
    (htried : Tried d.port (d.strategy.order addresses.v4 addresses.v6) p.2.outgoing refused
      (some (addr, peer))) :
    match peer.rejection? roots server with
    | none => ∃ connected t, d.connectSecure roots p = .ok connected t ∧
        connected.conn.secure = true
    | some halt => ∃ t l, d.connectSecure roots p = .error halt t ∧
        t.2.links = p.2.links ++ refused ++ [l] ∧ l.Says addr peer [] := by
  obtain ⟨conn, tries, t, l, hreach, hlink, hinflow, hidentity, hlinks, hsilent⟩ :=
    reach_taken hresolve htried
  unfold connectSecure
  rw [hserver]
  dsimp only
  rw [Act.bind_ok hreach]
  cases hrejection : peer.rejection? roots server with
  | none =>
    have hencrypt := Conn.encrypt_proven hidentity hrejection t.2
    rw [Act.bind_ok (Act.second_ok hencrypt)]
    exact ⟨_, _, rfl, rfl⟩
  | some halt =>
    obtain ⟨t', hencrypt⟩ := Conn.encrypt_rejected hinflow hidentity hrejection t.2
    obtain ⟨front, l', hfront, hlinks', hsays, -⟩ :=
      conn.utters_encrypt roots server hlinks hlink.symm hsilent
    rw [List.prefix_nil.1 hfront] at hsays
    rw [Act.after_error hencrypt] at hlinks'
    rw [Act.bind_error (Act.second_error hencrypt)]
    exact ⟨_, l', rfl, hlinks', hsays⟩

theorem connectSecure_unnamed (roots : List Tls.TrustAnchor)
    (h : Tls.ServerName.parse? d.host = none) (p : Dns.Resolver × System) :
    d.connectSecure roots p = .error (.failed (.invalidServerName d.host)) p := by
  unfold connectSecure
  rw [h]
  rfl

end Destination

namespace Client

/-- Connecting by the secure protocol, with whatever a client shares. -/
def openSecure (d : Destination) : Act Error (Option Dns.Resolver × Client) Connected := do
  needResolver
  let roots ← Act.second prepareRoots
  onResolver (d.connectSecure roots)

variable {d : Destination} {own : Option Dns.Resolver} {c : Client}

/-- Neither is there a connection without a resolver or without certificates, nor an attempt. -/
theorem openSecure_unready (h : c.resolver? own = none ∨ c.trusted? = none) :
    ∃ halt t, openSecure d (own, c) = .error halt t ∧ t.2.system = c.system := by
  unfold openSecure
  rcases needResolver_cases own c with ⟨halt, hneed, -⟩ | ⟨c', hneed, hsystem, hresolver⟩
  · exact ⟨halt, _, Act.bind_error hneed, rfl⟩
  · have htrusted : c'.trusted? = c.trusted? := keeps_trusted_needResolver.ok hneed
    rw [hresolver, ← htrusted] at h
    have hroots := c'.prepareRoots_trusted
    rw [h.resolve_left nofun] at hroots
    obtain ⟨halt, hroots⟩ := hroots
    rw [Act.bind_ok hneed, Act.bind_error (Act.second_error hroots)]
    exact ⟨halt, _, rfl, hsystem⟩

theorem onResolver_eq {ε α : Type} (x : Act ε (Dns.Resolver × System) α)
    (own : Option Dns.Resolver) (c : Client) :
    ∃ put : Dns.Resolver × System → Option Dns.Resolver × Client, (∀ p, (put p).2.system = p.2) ∧
      onResolver x (own, c) = Act.within (fun _ => (own.getD (c.resolver.getD {}), c.system))
        (fun p _ => put p) x (own, c) := by
  cases own with
  | some _ => exact ⟨fun p => (some p.1, { c with system := p.2 }), fun _ => rfl, rfl⟩
  | none =>
    exact ⟨fun p => (none, { c with system := p.2, resolver := some p.1 }), fun _ => rfl, rfl⟩

/-- **With both, it is connecting to the destination**, with the certificates that are trusted. -/
theorem openSecure_ready {resolver : Dns.Resolver} {roots : List Tls.TrustAnchor}
    (hown : c.resolver? own = some resolver) (htrusted : c.trusted? = some roots) :
    ∃ put : Dns.Resolver × System → Option Dns.Resolver × Client, (∀ p, (put p).2.system = p.2) ∧
      openSecure d (own, c) = Act.within (fun _ => (resolver, c.system)) (fun p _ => put p)
        (d.connectSecure roots) (own, c) := by
  unfold openSecure
  rcases needResolver_cases own c with ⟨halt, -, hnone⟩ | ⟨c', hneed, hsystem, hresolver⟩
  · rw [hnone] at hown
    cases hown
  · have hsame : c'.trusted? = some roots := (keeps_trusted_needResolver.ok hneed).trans htrusted
    have hroots := c'.prepareRoots_trusted
    rw [hsame] at hroots
    obtain ⟨c'', hroots, hsystem', hshared, -⟩ := hroots
    rw [hresolver, ← hshared] at hown
    cases hown
    obtain ⟨put, hput, hopen⟩ := onResolver_eq (d.connectSecure roots) own c''
    rw [Act.bind_ok hneed, Act.bind_ok (Act.second_ok hroots), ← hsystem, ← hsystem']
    exact ⟨put, hput, hopen⟩

end Client

namespace Http

/-- What a request has to have before it connects by the secure protocol. -/
structure Ready (url : Url) (s : Running) (host : Url.Host) (resolver : Dns.Resolver)
    (roots : List Tls.TrustAnchor) : Prop where
  host : url.host = some host
  resolver : s.2.resolver? s.1.resolver = some resolver
  roots : trusts s = some roots

variable {url : Url} {s : Running} {host : Url.Host} {resolver : Dns.Resolver}
  {roots : List Tls.TrustAnchor}

theorem connect_secure (hsecure : s.1.secure = true) (hhost : url.host = some host) :
    connect url s = Act.within (fun s : Running => (s.1.resolver, s.2))
      (fun p s => ({ s.1 with resolver := p.1 }, p.2))
      (Client.openSecure (destination s.1 url host)) s := by
  have hget : (get : Act Error Running Running) s = .ok s s := rfl
  unfold connect
  rw [Act.bind_ok hget]
  dsimp only
  rw [hhost]
  dsimp only
  rw [if_pos hsecure]
  rfl

/-- **With all of it, connecting is connecting to the host**, with the certificates that are
trusted. -/
theorem connect_ready (hsecure : s.1.secure = true) (h : Ready url s host resolver roots) :
    ∃ put : Dns.Resolver × System → Running, (∀ p, (put p).2.system = p.2) ∧
      connect url s = Act.within (fun _ => (resolver, s.2.system)) (fun p _ => put p)
        ((destination s.1 url host).connectSecure roots) s := by
  obtain ⟨put, hput, hopen⟩ := Client.openSecure_ready (d := destination s.1 url host) h.resolver
    h.roots
  refine ⟨fun p => ({ s.1 with resolver := (put p).1 }, (put p).2), hput, ?_⟩
  rw [connect_secure hsecure h.host]
  unfold Act.within
  dsimp only
  rw [hopen]
  unfold Act.within
  cases (destination s.1 url host).connectSecure roots (resolver, s.2.system) <;> rfl

/-- Without all of it, there is no connection, and no attempt. -/
theorem connect_unready (hsecure : s.1.secure = true)
    (h : ∀ host resolver roots, ¬ Ready url s host resolver roots) :
    ∃ halt t, connect url s = .error halt t ∧ t.2.system.links = s.2.system.links := by
  cases hhost : url.host with
  | none =>
    refine ⟨.failed .invalidRequest, s, ?_, rfl⟩
    have hget : (get : Act Error Running Running) s = .ok s s := rfl
    unfold connect
    rw [Act.bind_ok hget]
    dsimp only
    rw [hhost]
    rfl
  | some host =>
    have hlacking : s.2.resolver? s.1.resolver = none ∨ s.2.trusted? = none := by
      cases hresolver : s.2.resolver? s.1.resolver with
      | none => exact .inl rfl
      | some resolver =>
        refine .inr (Option.eq_none_iff_forall_ne_some.2 fun roots hroots => ?_)
        exact h host resolver roots ⟨hhost, hresolver, hroots⟩
    obtain ⟨halt, t, hopen, hsystem⟩ :=
      Client.openSecure_unready (d := destination s.1 url host) hlacking
    refine ⟨halt, ({ s.1 with resolver := t.1 }, t.2), ?_, by rw [hsystem]⟩
    rw [connect_secure hsecure hhost]
    exact Act.within_error hopen

/-- **A host that can be no server's name is not dialled.** -/
theorem connect_unnamed (hsecure : s.1.secure = true) (hhost : url.host = some host)
    (hname : Tls.ServerName.parse? host.name = none) :
    ∃ halt t, connect url s = .error halt t ∧ t.2.system.links = s.2.system.links := by
  by_cases hready : ∃ resolver roots, Ready url s host resolver roots
  · obtain ⟨resolver, roots, hready⟩ := hready
    obtain ⟨put, hput, hconnect⟩ := connect_ready hsecure hready
    have hunnamed := (destination s.1 url host).connectSecure_unnamed roots hname
      (resolver, s.2.system)
    refine ⟨.failed (.invalidServerName host.name), put (resolver, s.2.system), ?_, by rw [hput]⟩
    rw [hconnect]
    exact Act.within_error hunnamed
  · refine connect_unready hsecure fun host' resolver roots hready' => hready ?_
    obtain rfl : host' = host := Option.some.inj (hready'.host.symm.trans hhost)
    exact ⟨resolver, roots, hready'⟩

/-! ## 5. Visits by the secure protocol -/

namespace Visit

/-- The visit connects, by the secure protocol, to a peer who proves to those who trust these
certificates that it is the host of the URL. -/
inductive Proves (v : Visit) (peer : Peer) : Option (List Tls.TrustAnchor) → Prop where
  | proven {roots : List Tls.TrustAnchor} {host : Url.Host} {server : Tls.ServerName}
      {identity : Tls.Identity} {connected : Connected} {t : Running}
      (goal : v.url.host = some host) (name : Tls.ServerName.parse? host.name = some server)
      (speaks : peer.identity = some identity) (verified : identity.verify roots server = .ok ())
      (connects : connect v.url v.start = .ok connected t) (secure : connected.conn.secure = true) :
      v.Proves peer (some roots)

/-- What a visit leaves in the record that speaks to nobody but a peer who has proved to be the host
of its URL: attempts that failed, and perhaps one open connection, on which nothing has been said,
or else to such a peer. -/
inductive Guards (v : Visit) (trusted : Option (List Tls.TrustAnchor)) : List Link → Prop where
  | unopened {links : List Link} (failed : ∀ l ∈ links, l.IsFailed) : v.Guards trusted links
  | silent {refused : List Link} {addr : SocketAddr} {peer : Peer} {l : Link}
      (opens : v.Opens refused addr peer) (failed : ∀ l ∈ refused, l.IsFailed)
      (silent : l.Says addr peer []) : v.Guards trusted (refused ++ [l])
  | spoken {refused : List Link} {addr : SocketAddr} {peer : Peer} {l : Link} {said : Bytes}
      (opens : v.Opens refused addr peer) (failed : ∀ l ∈ refused, l.IsFailed)
      (proves : v.Proves peer trusted) (told : l.Says addr peer said)
      (front : said <+: v.head ++ v.body) : v.Guards trusted (refused ++ [l])

theorem Opens.failed {v : Visit} {refused : List Link} {addr : SocketAddr} {peer : Peer}
    (h : v.Opens refused addr peer) : ∀ l ∈ refused, l.IsFailed := by
  obtain ⟨_, -, htried⟩ := h
  exact htried.failed

theorem outcome_of_connect {v : Visit} {halt : Halt Error} {t : Running}
    (h : connect v.url v.start = .error halt t) : v.outcome = .error halt t := by
  rw [outcome_eq]
  exact Act.bind_error h

section

variable {v : Visit} {refused : List Link} {addr : SocketAddr} {peer : Peer} {host : Url.Host}
  {server : Tls.ServerName} {roots : List Tls.TrustAnchor}

/-- **Whether a visit connects is decided by the peer who takes the connection.** -/
theorem connect_taken (hsecure : v.request.secure = true) (hopens : v.Opens refused addr peer)
    (hhost : v.url.host = some host) (hname : Tls.ServerName.parse? host.name = some server)
    (hroots : trusts v.before = some roots) :
    match peer.rejection? roots server with
    | none => ∃ connected t, connect v.url v.start = .ok connected t ∧ connected.conn.secure = true
    | some halt => ∃ t l, connect v.url v.start = .error halt t ∧
        t.2.system.links = v.before.2.system.links ++ refused ++ [l] ∧ l.Says addr peer [] := by
  obtain ⟨_, ⟨host', resolver, found, left, hhost', hresolver, hresolve, rfl⟩, htried⟩ := hopens
  obtain rfl : host' = host := Option.some.inj (hhost'.symm.trans hhost)
  obtain ⟨put, hput, hconnect⟩ :=
    connect_ready (s := v.start) hsecure ⟨hhost', hresolver, hroots⟩
  have htaken := Destination.connectSecure_taken (d := destination v.start.1 v.url host') roots
    hname hresolve htried
  rw [hconnect]
  cases hrejection : peer.rejection? roots server with
  | none =>
    rw [hrejection] at htaken
    obtain ⟨connected, t, hok, hguarded⟩ := htaken
    exact ⟨connected, put t, Act.within_run hok, hguarded⟩
  | some halt =>
    rw [hrejection] at htaken
    obtain ⟨t, l, herror, hlinks, hsilent⟩ := htaken
    exact ⟨put t, l, Act.within_error herror, by rw [hput]; exact hlinks, hsilent⟩

/-- **A visit that connects, connects to a peer who proves to be the host.** -/
theorem proves_of_connect {connected : Connected} {t : Running} (hsecure : v.request.secure = true)
    (hconnect : connect v.url v.start = .ok connected t) (hopens : v.Opens refused addr peer) :
    v.Proves peer (trusts v.before) := by
  have hready : ∃ host resolver roots, Ready v.url v.start host resolver roots := by
    by_contra hunready
    have hnone (host resolver roots) : ¬ Ready v.url v.start host resolver roots :=
      fun hready => hunready ⟨host, resolver, roots, hready⟩
    obtain ⟨halt, t', herror, -⟩ := connect_unready (s := v.start) hsecure hnone
    rw [hconnect] at herror
    cases herror
  obtain ⟨host, resolver, roots, hready⟩ := hready
  have hroots : trusts v.before = some roots := hready.roots
  cases hname : Tls.ServerName.parse? host.name with
  | none =>
    obtain ⟨halt, t', herror, -⟩ := connect_unnamed (s := v.start) hsecure hready.host hname
    rw [hconnect] at herror
    cases herror
  | some server =>
    have htaken := connect_taken hsecure hopens hready.host hname hroots
    cases hrejection : peer.rejection? roots server with
    | none =>
      rw [hrejection] at htaken
      obtain ⟨connected', t', hok, hguarded⟩ := htaken
      obtain ⟨identity, hspeaks, hverified⟩ := Peer.verified_of_not_rejected hrejection
      rw [hroots]
      exact .proven hready.host hname hspeaks hverified hok hguarded
    | some halt =>
      rw [hrejection] at htaken
      obtain ⟨t', l, herror, -⟩ := htaken
      rw [hconnect] at herror
      cases herror

/-- **A visit by the secure protocol speaks to nobody but a peer who has proved to be the host.** -/
theorem guards (hsecure : v.request.secure = true) : v.Guards (trusts v.before) v.links := by
  cases hconnect : connect v.url v.start with
  | ok connected t =>
    have hproves {refused : List Link} {addr : SocketAddr} {peer : Peer}
        (hopens : v.Opens refused addr peer) := proves_of_connect hsecure hconnect hopens
    have hleaves := v.leaves
    generalize v.links = links, v.answer? = answer at hleaves
    cases hleaves with
    | unresolved => exact .unopened (List.forall_mem_nil _)
    | refused _ tried => exact .unopened tried.failed
    | broken opens silent => exact .silent opens opens.failed silent
    | unsent opens _ _ front spoken => exact .spoken opens opens.failed (hproves opens) spoken front
    | unanswered opens spoken =>
      exact .spoken opens opens.failed (hproves opens) spoken (List.prefix_refl _)
    | answered opens spoken =>
      exact .spoken opens opens.failed (hproves opens) spoken (List.prefix_refl _)
  | error halt t =>
    have hafter : v.after = t := Act.after_error (outcome_of_connect hconnect)
    have hlinks {links : List Link}
        (h : t.2.system.links = v.before.2.system.links ++ links) : v.links = links :=
      links_of_after (by rw [hafter]; exact h)
    have hconnects := connects v.url v.start
    rw [Act.after_error hconnect, Act.value?_error hconnect] at hconnects
    cases hconnects with
    | unresolved _ links =>
      rw [hlinks (links.trans (List.append_nil _).symm)]
      exact .unopened (List.forall_mem_nil _)
    | resolved finds meets =>
      cases meets with
      | refused tried links =>
        rw [hlinks links]
        exact .unopened tried.failed
      | broken tried silent links =>
        rw [hlinks (links.trans (List.append_assoc ..))]
        exact .silent ⟨_, finds, tried⟩ tried.failed silent

/-- A visit to a host that can be no server's name fails without an attempt to connect. -/
theorem fails_unnamed (hsecure : v.request.secure = true) (hhost : v.url.host = some host)
    (hname : Tls.ServerName.parse? host.name = none) :
    v.links = [] ∧ ∃ halt t, v.outcome = .error halt t := by
  obtain ⟨halt, t, hconnect, hlinks⟩ := connect_unnamed (s := v.start) hsecure hhost hname
  have houtcome := outcome_of_connect hconnect
  have hafter : v.after = t := Act.after_error houtcome
  rw [← hafter] at hlinks
  exact ⟨links_of_after (hlinks.trans (List.append_nil _).symm), halt, t, houtcome⟩

/-- A visit to a peer who is rejected fails, and has told it nothing. -/
theorem fails_rejected (hsecure : v.request.secure = true) (hopens : v.Opens refused addr peer)
    (hhost : v.url.host = some host) (hname : Tls.ServerName.parse? host.name = some server)
    (hroots : trusts v.before = some roots) {halt : Halt Error}
    (hrejection : peer.rejection? roots server = some halt) :
    (∃ l, v.links = refused ++ [l] ∧ l.Says addr peer []) ∧ ∃ t, v.outcome = .error halt t := by
  have htaken := connect_taken hsecure hopens hhost hname hroots
  rw [hrejection] at htaken
  obtain ⟨t, l, hconnect, hlinks, hsilent⟩ := htaken
  have houtcome := outcome_of_connect hconnect
  have hafter : v.after = t := Act.after_error houtcome
  rw [← hafter] at hlinks
  exact ⟨⟨l, links_of_after (hlinks.trans (List.append_assoc ..)), hsilent⟩, t, houtcome⟩

end

end Visit

/-! ## 6. Transfers by the secure protocol -/

/-- There is no visit behind one that fails, and the transfer fails as it does. -/
theorem transfer_of_failed {s : Running} {v : Visit} (hv : v ∈ visits s) {halt : Halt Error}
    {t : Running} (h : v.outcome = .error halt t) : ∃ t, transfer s = .error halt t := by
  obtain ⟨url, -, hjourney⟩ := journey_of_mem hv
  have hanswer : v.answer? = none := Act.value?_error h
  obtain ⟨i, hi⟩ := List.mem_iff_getElem?.1 hv
  have hlast : ¬ i + 1 < (visits s).length := fun hless => by
    obtain ⟨-, next, e, left, location, text, hsome, -⟩ := (hjourney.goesOn i v hi).1 hless
    rw [hanswer] at hsome
    cases hsome
  have hless := (List.getElem?_eq_some_iff.1 hi).1
  obtain ⟨last, hv', hends⟩ := hjourney.ends
  have hsame : v = last := by
    rw [List.getLast?_eq_getElem?, show (visits s).length - 1 = i by omega, hi] at hv'
    exact Option.some.inj hv'
  subst hsame
  generalize transfer s = result at hends ⊢
  cases hends with
  | failed outcome =>
    rw [h] at outcome
    cases outcome
    exact ⟨_, rfl⟩
  | unreadable answer => rw [hanswer] at answer; cases answer
  | unresolved answer => rw [hanswer] at answer; cases answer
  | forbidden answer => rw [hanswer] at answer; cases answer
  | arrived answer => rw [hanswer] at answer; cases answer

end Http

open Http (Visit visits)

/-- A run in some world that gives nothing away: what it leaves in the record is what its visits
leave, all of them to URLs of one scheme, and each visit speaks to nobody but a peer who has proved
to be the host of its URL.

Where the host can be no server's name nobody is dialled, a peer who is rejected is told nothing,
and in both cases the run fails. -/
structure Confidential (scheme : String) (c : Client) (visits : List Visit) (record : List Link)
    (fails : Halt Error → Prop) : Prop where
  record : record = c.system.links ++ visits.flatMap Visit.links
  schemes : ∀ v ∈ visits, v.url.scheme = scheme
  guards : ∀ v ∈ visits, v.Guards c.trusted? v.links
  unnamed : ∀ v ∈ visits, ∀ host, v.url.host = some host →
    Tls.ServerName.parse? host.name = none → v.links = [] ∧ ∃ halt, fails halt
  rejected : ∀ v ∈ visits, ∀ refused addr peer host server roots halt, v.Opens refused addr peer →
    v.url.host = some host → Tls.ServerName.parse? host.name = some server →
    c.trusted? = some roots → peer.rejection? roots server = some halt →
    (∃ l, v.links = refused ++ [l] ∧ l.Says addr peer []) ∧ fails halt

/-- **A request by the secure protocol gives nothing away**, wherever it is led. -/
theorem confidential_transfer {scheme : String} {s : Http.Running} {c : Client}
    {record : List Link} {fails : Halt Error → Prop}
    (htarget : ∀ url, s.1.target.state = .ok url → url.scheme = scheme ∧ s.1.secure = true)
    (htrusted : c.trusted? = Http.trusts s)
    (hrecord : record = c.system.links ++ (visits s).flatMap Visit.links)
    (hfails : ∀ halt t, Http.transfer s = .error halt t → fails halt) :
    Confidential scheme c (visits s) record fails := by
  have hsafe {v : Visit} (hv : v ∈ visits s) : v.request.secure = true := by
    obtain ⟨url, hstate, -⟩ := Http.journey_of_mem hv
    exact (Http.secure_of_mem hv).trans (htarget url hstate).2
  have htrusts {v : Visit} (hv : v ∈ visits s) : Http.trusts v.before = c.trusted? :=
    (Http.trusts_of_mem hv).trans htrusted.symm
  have hfailed {v : Visit} (hv : v ∈ visits s) {halt : Halt Error} {t : Http.Running}
      (h : v.outcome = .error halt t) : fails halt := by
    obtain ⟨t', htransfer⟩ := Http.transfer_of_failed hv h
    exact hfails halt t' htransfer
  refine ⟨hrecord, fun v hv => ?_, fun v hv => ?_, fun v hv host hhost hname => ?_,
    fun v hv refused addr peer host server roots halt hopens hhost hname hroots hrejection => ?_⟩
  · obtain ⟨url, hstate, hjourney⟩ := Http.journey_of_mem hv
    exact (hjourney.schemes v hv).trans (htarget url hstate).1
  · rw [← htrusts hv]
    exact Visit.guards (hsafe hv)
  · obtain ⟨hlinks, halt, t, houtcome⟩ := Visit.fails_unnamed (hsafe hv) hhost hname
    exact ⟨hlinks, halt, hfailed hv houtcome⟩
  · rw [← htrusts hv] at hroots
    obtain ⟨hlinks, t, houtcome⟩ :=
      Visit.fails_rejected (hsafe hv) hopens hhost hname hroots hrejection
    exact ⟨hlinks, hfailed hv houtcome⟩

/-! ## 7. Requests -/

namespace Http.Request

/-- A request, built for a URL, with anything set on it that can be set, and perhaps run before. -/
inductive Built : Request → Prop where
  | ofUrl (method : Method) (text : String) : Built (ofUrl method text)
  | setHeader {r : Request} (name value : String) : Built r → Built (r.setHeader name value)
  | insertHeader {r : Request} (name : HeaderName) (value : HeaderValue) : Built r →
      Built { r with headers := r.headers.insert name value }
  | configure {r : Request} (payload : Option Payload) (port : Nat) (strategy : Strategy)
      (timeout : Option Duration) (resolver : Option Dns.Resolver) (minVersion maxVersion : Version)
      (redirects maxHeaderSize : Nat) : Built r →
      Built { r with
        payload, port, strategy, timeout, resolver, minVersion, maxVersion, redirects
        maxHeaderSize }
  | run {r : Request} (c : Client) : Built r → Built (after Request.run (r, c)).1

/-- Whether a request uses the secure protocol is what the scheme of its URL says. -/
def Secured (safe : String) (r : Request) : Prop :=
  ∀ url, r.target.state = .ok url → r.secure = (url.scheme == safe)

theorem secured_ofSchemes (usual safe : String) (method : Method) (text : String) :
    (ofSchemes usual safe method text).Secured safe := by
  intro url htarget
  have hurl : (ofSchemes usual safe method text).target.url? = some url := by
    unfold Target.url?
    rw [htarget]
  show Option.any (·.scheme == safe) (ofSchemes usual safe method text).target.url? = _
  rw [hurl]
  rfl

theorem Secured.setHeader {safe : String} {r : Request} (h : r.Secured safe) (name value : String) :
    (r.setHeader name value).Secured safe := by
  unfold Request.setHeader
  split
  · exact h
  · intro url htarget
    cases htarget

/-- **A run does not change whether the secure protocol is used.** -/
theorem Secured.after_transfer {safe : String} {s : Running} (h : s.1.Secured safe) :
    (after transfer s).1.Secured safe := by
  intro url htarget
  cases hbefore : s.1.target.state with
  | error fault =>
    rw [(after_transfer_error hbefore).2] at htarget
    cases htarget
  | ok url' =>
    obtain ⟨last, -, hkept, -, -⟩ := Http.after_transfer hbefore
    have hsecure : (after transfer s).1.kept.secure = s.1.kept.secure := by rw [hkept]
    rw [target_of_kept hkept] at htarget
    exact hsecure.trans (h url htarget)

theorem Built.secured {r : Request} (h : r.Built) : r.Secured "https" := by
  induction h with
  | ofUrl method text => exact secured_ofSchemes "http" "https" method text
  | setHeader name value _ ih => exact ih.setHeader name value
  | insertHeader _ _ _ ih => exact ih
  | configure _ _ _ _ _ _ _ _ _ _ ih => exact ih
  | @run r c _ ih =>
    rw [after_run]
    exact Secured.after_transfer (s := (r, c)) ih

end Http.Request

namespace WebSocket.Request

theorem Prepared.secured {r : Request} (h : r.Prepared) : r.http.Secured "wss" := by
  induction h with
  | ofUrl text => exact Http.Request.secured_ofSchemes "ws" "wss" .get text
  | setHeader name value _ ih => exact ih.setHeader name value
  | insertHeader _ _ _ ih => exact ih
  | configure _ _ _ _ _ _ ih => exact ih
  | @run r c _ ih =>
    rw [after_run_eq]
    exact Http.Request.Secured.after_transfer (s := r.start c) ih

/-- What becomes of a transfer without a value within the limit of time for a handshake. -/
def inTime : Halt Error → Halt Error
  | .stalled => .failed (.webSocket .handshakeTimeout)
  | .failed error => .failed error

theorem run_of_halt {r : Request} {c : Client} {halt : Halt Error} {s : Http.Running}
    (h : Http.transfer (r.start c) = .error halt s) :
    ∃ o, Request.run (r, c) = .error (inTime halt) o := by
  rw [run_eq, h]
  cases halt <;> exact ⟨_, rfl⟩

end WebSocket.Request

/-- **A request for a secure URL is never sent in the clear**, whatever was set on it, however often
it has run, and wherever it is led: what is said of it is said to peers who have proved, on that
connection, to be the host of the URL that is asked for there. -/
theorem confidential_runs :
    (∀ r : Http.Request, r.Built →
      (∀ url, r.target.state = .ok url → url.scheme = "https") → ∀ c : Client,
        Confidential "https" c (visits (r, c)) (after Http.Request.run (r, c)).2.system.links
          fun halt => ∃ s, Http.Request.run (r, c) = .error halt s) ∧
    (∀ r : WebSocket.Request, r.Prepared →
      (∀ url, r.http.target.state = .ok url → url.scheme = "wss") → ∀ c : Client,
        Confidential "wss" c (visits (r.start c))
          (after WebSocket.Request.run (r, c)).2.system.links
          fun halt => ∃ o, WebSocket.Request.run (r, c) =
            .error (WebSocket.Request.inTime halt) o) := by
  constructor
  · intro r hbuilt hscheme c
    refine confidential_transfer (s := (r, c)) (fun url htarget => ?_) rfl
      (Http.links_after_run (r, c)) fun halt t htransfer => ⟨t, Act.bind_error htransfer⟩
    have hsecure := hbuilt.secured url htarget
    rw [hscheme url htarget] at hsecure
    exact ⟨hscheme url htarget, hsecure⟩
  · intro r hprepared hscheme c
    refine confidential_transfer (s := r.start c) (fun url htarget => ?_) rfl
      (r.record_of_run c) fun halt t htransfer => WebSocket.Request.run_of_halt htransfer
    have hsecure := hprepared.secured url htarget
    rw [hscheme url htarget] at hsecure
    exact ⟨hscheme url htarget, hsecure⟩

/-- The key of an issuer. -/
def vaultKey : Bytes := [0x30, 19] ++ Tls.signingKeys.headD [] ++ [0x03, 1, 0]

/-- The issuer whom a client trusts. -/
def vaultAnchor : Tls.TrustAnchor := { subject := [1], key := vaultKey }

/-- The address of a server. -/
def vaultIp : IpAddr := .v6 ⟨[0, 0, 0, 0, 0, 0, 0, 7], rfl⟩

/-- A server with a certificate of the issuer for its address. -/
def vaultPeer : Peer where
  identity := some { issuer := vaultAnchor, names := [.address vaultIp] }

/-- A client that trusts the issuer, in a world with that server in it. -/
def vaultWorld : Client where
  system := { outgoing := [.made vaultPeer] }
  resolver := some {}
  roots := some [vaultAnchor]

/-- A request for a secure URL of that server. -/
def vaultRequest : Http.Request := .ofUrl .get "https://[::7]/"

/-- A request for a session with that server. -/
def vaultSession : WebSocket.Request := .ofUrl "wss://[::7]/"

/-- Both kinds of request to that server, who proves to be the host, give nothing away. -/
theorem confidential_runs_vault :
    vaultPeer.rejection? [vaultAnchor] (.address vaultIp) = none ∧ vaultRequest.Built ∧
    Confidential "https" vaultWorld (visits (vaultRequest, vaultWorld))
      (after Http.Request.run (vaultRequest, vaultWorld)).2.system.links
      (fun halt => ∃ s, Http.Request.run (vaultRequest, vaultWorld) = .error halt s) ∧
    vaultSession.Prepared ∧
    Confidential "wss" vaultWorld (visits (vaultSession.start vaultWorld))
      (after WebSocket.Request.run (vaultSession, vaultWorld)).2.system.links
      fun halt => ∃ o, WebSocket.Request.run (vaultSession, vaultWorld) =
        .error (WebSocket.Request.inTime halt) o := by
  have hscheme {usual safe text scheme : String} {method : Http.Method} {url : Url}
      (hparse : (Url.parse text).toOption.map Url.scheme = some scheme)
      (htarget : (Http.Request.ofSchemes usual safe method text).target.state = .ok url) :
      url.scheme = scheme := by
    change (Target.parse _ text).state = .ok url at htarget
    unfold Target.parse at htarget
    cases hurl : Url.parse text with
    | error fault =>
      rw [hurl] at hparse
      cases hparse
    | ok found =>
      rw [hurl] at hparse htarget
      dsimp only at htarget
      split at htarget
      · cases htarget
        exact Option.some.inj hparse
      · cases htarget
  have hbuilt : vaultRequest.Built := .ofUrl .get "https://[::7]/"
  have hprepared : vaultSession.Prepared := .ofUrl "wss://[::7]/"
  refine ⟨by decide, hbuilt, ?_, hprepared, ?_⟩
  · exact confidential_runs.1 vaultRequest hbuilt
      (fun _ htarget => hscheme (by decide +kernel) htarget) vaultWorld
  · exact confidential_runs.2 vaultSession hprepared
      (fun _ htarget => hscheme (by decide +kernel) htarget) vaultWorld

end UrlTransfer
