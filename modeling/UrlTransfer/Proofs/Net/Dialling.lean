/-
# What connecting leaves in the record

Connecting adds links to the record of the system, and changes none that was there.  First come the
attempts that failed, one for each address from the first on; if one of the addresses takes the
connection, the link to it is the last, and nothing has been said on it.  The attempts meet the
outgoing contacts of the system in their order (`Tried`).

`Reached` says so of trying addresses (`reached_tryEach`), and `Meets` of connecting, which settles
whether the secure protocol is spoken and so changes the last link alone.  Looking for the addresses
of a host leaves the record as it is (`keeps_resolve`), and so does looking for a resolver
(`needResolver_cases`).
-/
import UrlTransfer.Proofs.Net.Links

namespace UrlTransfer

/-! ## 1. Asking for addresses -/

/-- The record of the connections, and how the next ones will turn out. -/
def System.traffic (s : System) : List Link × List Contact := (s.links, s.outgoing)

/-- The view does not show what asking a name server changes. -/
def System.BlindToAsking {γ : Type} (view : System → γ) : Prop :=
  ∀ s exchanges datagrams entropy, view { s with exchanges, datagrams, entropy } = view s

open UrlTransfer.System (BlindToAsking)

theorem System.blind_traffic : BlindToAsking System.traffic := fun _ _ _ _ => rfl

namespace Dns

variable {γ : Type} {view : System → γ}

theorem NameServer.keeps_ask (hview : BlindToAsking view) (query : Query) (s : NameServer) :
    Act.Keeps view (s.ask query) := by
  have hrandom (n : Nat) : Act.Keeps view (System.random n : Act Error System Bytes) :=
    fun t => hview t t.exchanges t.datagrams _
  have hexchange (addr : SocketAddr) (content : Bytes) :
      Act.Keeps view (System.exchange addr content : Act IoError System (List Echo)) :=
    fun t => hview t _ _ t.entropy
  unfold ask
  refine (hrandom 2).bind fun bytes => ?_
  dsimp only
  split
  · exact .fail _
  · refine Act.Keeps.bind ((hexchange _ _).mapError _) fun echoes => ?_
    split
    · exact .pure _
    · exact .fail _
    · exact .stall

theorem NameServer.keeps_lookup (hview : BlindToAsking view) (query : Query) (s : NameServer) :
    Act.Keeps view (s.lookup query) := by
  unfold lookup
  refine (s.keeps_ask hview query).timely.bind fun response => ?_
  cases response with
  | none => exact .fail _
  | some response => exact .ofExcept _

theorem Service.keeps_lookup (hview : BlindToAsking view) (query : Query) (service : Service) :
    Act.Keeps view (service.lookup query) := by
  cases service with
  | hosts table => exact .ofExcept _
  | nameServer server => exact server.keeps_lookup hview query

namespace Resolver

theorem keeps_askService (hview : BlindToAsking view) (name : Name) (service : Service) :
    Act.Keeps view (Roster.askService Service.lookup name service) := by
  unfold Roster.askService
  refine (service.keeps_lookup hview _).attempt.bind fun a => ?_
  refine (service.keeps_lookup hview _).attempt.bind fun aaaa => ?_
  split <;> exact .pure _

theorem keeps_askServices (hview : BlindToAsking view) (name : Name) (error : Option Error)
    (services : List Service) :
    Act.Keeps view (Roster.askServices Service.lookup name error services) := by
  induction services generalizing error with
  | nil => exact .pure _
  | cons service rest ih =>
    refine (keeps_askService hview name service).bind fun result => ?_
    cases result with
    | ok addresses => exact .pure _
    | error error => exact ih _

/-- What is kept of the system is kept beside a resolver. -/
theorem keeps_second {ε α : Type} {x : Act ε System α} (hx : Act.Keeps view x) :
    Act.Keeps (fun p : Resolver × System => view p.2) (Act.second x) :=
  hx.within fun _ _ h => h

theorem keeps_search (hview : BlindToAsking view) (name : Name) (error : Option Error)
    (rounds : Nat) :
    Act.Keeps (fun p : Resolver × System => view p.2)
      (Roster.search Service.lookup name error rounds) := by
  induction rounds generalizing error with
  | zero => exact .fail _
  | succ rounds ih =>
    refine Act.Keeps.bind (fun _ => rfl) fun services => ?_
    refine (keeps_second (keeps_askServices hview name error services)).bind fun result => ?_
    cases result with
    | ok addresses => exact .pure _
    | error error => exact ih _

/-- **Looking for a host changes nothing** but what is left to ask, and has been asked. -/
theorem keeps_resolve (hview : BlindToAsking view) (host : String) :
    Act.Keeps (fun p : Resolver × System => view p.2) (resolve host) := by
  unfold resolve Roster.resolve
  split
  · exact .pure _
  · dsimp only
    split
    · exact .fail _
    · exact Act.Keeps.getState.bind fun p => keeps_search hview _ _ _

end Resolver

end Dns

/-! ## 2. Attempts -/

/-- What trying addresses comes to: the attempts that fail, one for each address from the first on,
and who takes the connection, if anybody does.  The attempts meet the contacts in their order; where
there are no more contacts, nobody is there. -/
inductive Tried (port : Nat) :
    List IpAddr → List Contact → List Link → Option (SocketAddr × Peer) → Prop where
  | none (contacts : List Contact) : Tried port [] contacts [] none
  | refused {ip : IpAddr} {fault : IoError} {addresses : List IpAddr} {contacts : List Contact}
      {links : List Link} {taken : Option (SocketAddr × Peer)} :
      Tried port addresses contacts links taken →
      Tried port (ip :: addresses) (.refused (.failed fault) :: contacts)
        (.failed { ip, port } (.failed fault) :: links) taken
  | absent {ip : IpAddr} {addresses : List IpAddr} {links : List Link}
      {taken : Option (SocketAddr × Peer)} : Tried port addresses [] links taken →
      Tried port (ip :: addresses) []
        (.failed { ip, port } (.failed (.ofKind .connectionRefused)) :: links) taken
  | stalled {ip : IpAddr} {addresses : List IpAddr} {contacts : List Contact} :
      Tried port (ip :: addresses) (.refused .stalled :: contacts) [.failed { ip, port } .stalled]
        none
  | taken {ip : IpAddr} {peer : Peer} {addresses : List IpAddr} {contacts : List Contact} :
      Tried port (ip :: addresses) (.made peer :: contacts) [] (some ({ ip, port }, peer))

/-- **The contacts decide** which attempts fail, and who takes the connection. -/
theorem Tried.unique {port : Nat} {addresses : List IpAddr} {contacts : List Contact}
    {links links' : List Link} {taken taken' : Option (SocketAddr × Peer)}
    (h : Tried port addresses contacts links taken)
    (h' : Tried port addresses contacts links' taken') : links = links' ∧ taken = taken' := by
  induction h generalizing links' taken' with
  | none => cases h'; exact ⟨rfl, rfl⟩
  | refused _ ih =>
    cases h' with
    | refused hrest =>
      obtain ⟨rfl, rfl⟩ := ih hrest
      exact ⟨rfl, rfl⟩
  | absent _ ih =>
    cases h' with
    | absent hrest =>
      obtain ⟨rfl, rfl⟩ := ih hrest
      exact ⟨rfl, rfl⟩
  | stalled => cases h'; exact ⟨rfl, rfl⟩
  | taken => cases h'; exact ⟨rfl, rfl⟩

/-- Nobody has taken the connection. -/
def Link.IsFailed (l : Link) : Prop := ∃ addr halt, l = .failed addr halt

/-- The attempts that come before the connection have failed. -/
theorem Tried.failed {port : Nat} {addresses : List IpAddr} {contacts : List Contact}
    {links : List Link} {taken : Option (SocketAddr × Peer)}
    (h : Tried port addresses contacts links taken) : ∀ l ∈ links, l.IsFailed := by
  induction h with
  | none => simp
  | refused _ ih => exact List.forall_mem_cons.2 ⟨⟨_, _, rfl⟩, ih⟩
  | absent _ ih => exact List.forall_mem_cons.2 ⟨⟨_, _, rfl⟩, ih⟩
  | stalled => exact List.forall_mem_singleton.2 ⟨_, _, rfl⟩
  | taken => simp

/-- Whom trying addresses reaches: the attempts that failed are recorded, and the connection behind
them, if there is one. -/
inductive Reached (port : Nat) (addresses : List IpAddr) (s s' : System) :
    Option Connected → Prop where
  | refused {refused : List Link} (tried : Tried port addresses s.outgoing refused none)
      (links : s'.links = s.links ++ refused) : Reached port addresses s s' none
  | opened {refused : List Link} {addr : SocketAddr} {peer : Peer} {l : Link} {tries : Nat}
      (tried : Tried port addresses s.outgoing refused (some (addr, peer)))
      (silent : l.Says addr peer []) (links : s'.links = s.links ++ refused ++ [l]) :
      Reached port addresses s s'
        (some ⟨⟨(s.links ++ refused).length, addr, peer.inflow, peer.identity, false⟩, tries⟩)

/-- What connecting leaves: the attempts that failed, and behind them perhaps an open link, on which
nothing has been said.  Only with that there is a connection, and without the secure protocol, there
is one as soon as somebody takes it. -/
inductive Meets (secure : Bool) (port : Nat) (addresses : List IpAddr) (s s' : System) :
    Option Connected → Prop where
  | refused {refused : List Link} (tried : Tried port addresses s.outgoing refused none)
      (links : s'.links = s.links ++ refused) : Meets secure port addresses s s' none
  | broken {refused : List Link} {addr : SocketAddr} {peer : Peer} {l : Link}
      (tried : Tried port addresses s.outgoing refused (some (addr, peer)))
      (silent : l.Says addr peer []) (links : s'.links = s.links ++ refused ++ [l])
      (disagrees : secure = true) : Meets secure port addresses s s' none
  | opened {refused : List Link} {addr : SocketAddr} {peer : Peer} {l : Link}
      {connected : Connected}
      (tried : Tried port addresses s.outgoing refused (some (addr, peer)))
      (silent : l.Says addr peer []) (links : s'.links = s.links ++ refused ++ [l])
      (link : connected.conn.link = (s.links ++ refused).length)
      (hears : connected.conn.inflow = peer.heard secure) :
      Meets secure port addresses s s' (some connected)

/-! ## 3. Trying addresses -/

section

variable {port : Nat} {addresses : List IpAddr} {s s' t : System}

theorem System.dial_absent (addr : SocketAddr) (h : s.outgoing = []) :
    dial addr s = .error (.failed (.ofKind .connectionRefused))
      { s with
        outgoing := []
        links := s.links ++ [.failed addr (.failed (.ofKind .connectionRefused))] } := by
  unfold dial
  rw [h]

theorem System.dial_refused (addr : SocketAddr) {halt : Halt IoError} {contacts : List Contact}
    (h : s.outgoing = .refused halt :: contacts) :
    dial addr s =
      .error halt { s with outgoing := contacts, links := s.links ++ [.failed addr halt] } := by
  unfold dial
  rw [h]

theorem System.dial_made (addr : SocketAddr) {peer : Peer} {contacts : List Contact}
    (h : s.outgoing = .made peer :: contacts) :
    dial addr s = .ok ⟨s.links.length, addr, peer.inflow, peer.identity, false⟩
      { s with
        outgoing := contacts
        links := s.links ++ [.opened addr peer.identity.isSome .matched peer.outflow] } := by
  unfold dial
  rw [h]
  rfl

/-- One more address that was refused, in front of what is reached behind it. -/
theorem Reached.behind {l : Link} {ip : IpAddr} {outcome : Option Connected}
    (hlinks : t.links = s.links ++ [l])
    (hrefused : ∀ {refused taken}, Tried port addresses t.outgoing refused taken →
      Tried port (ip :: addresses) s.outgoing (l :: refused) taken)
    (h : Reached port addresses t s' outcome) : Reached port (ip :: addresses) s s' outcome := by
  have hassoc (refused : List Link) : t.links ++ refused = s.links ++ l :: refused := by
    rw [hlinks, List.append_assoc]
    rfl
  cases h with
  | refused htried hlinks' => exact .refused (hrefused htried) (by rw [hlinks', hassoc])
  | opened htried hsilent hlinks' =>
    rw [hassoc] at hlinks' ⊢
    exact .opened (hrefused htried) hsilent hlinks'

namespace Destination

theorem tryEach_cons (tries : Nat) (last : Option IoError) (addresses : List IpAddr) {ip : IpAddr}
    {fault : IoError} (h : System.dial { ip, port } s = .error (.failed fault) s') :
    tryEach port tries last (ip :: addresses) s =
      tryEach port (tries + 1) (some fault) addresses s' := by
  rw [tryEach, Act.bind_ok (Act.attempt_failed h)]

/-- **Addresses are tried in their order**, and none behind the one that takes the connection. -/
theorem reached_tryEach (port tries : Nat) (last : Option IoError) (addresses : List IpAddr)
    (s : System) :
    Reached port addresses s (Act.after (tryEach port tries last addresses) s)
      (Act.value? (tryEach port tries last addresses) s) := by
  induction addresses generalizing tries last s with
  | nil => exact .refused (.none _) (List.append_nil _).symm
  | cons ip rest ih =>
    -- What is tried behind an address that failed is what the rest is tried for.
    have hnext {fault : IoError} {l : Link} {t : System}
        (hdial : System.dial { ip, port } s = .error (.failed fault) t)
        (hlinks : t.links = s.links ++ [l])
        (hrefused : ∀ {refused taken}, Tried port rest t.outgoing refused taken →
          Tried port (ip :: rest) s.outgoing (l :: refused) taken) :
        Reached port (ip :: rest) s (Act.after (tryEach port tries last (ip :: rest)) s)
          (Act.value? (tryEach port tries last (ip :: rest)) s) := by
      have hsame := tryEach_cons tries last rest hdial
      unfold Act.after Act.value?
      rw [hsame]
      exact Reached.behind hlinks hrefused (ih _ _ _)
    cases hout : s.outgoing with
    | nil =>
      refine hnext (System.dial_absent _ hout) rfl fun hrest => ?_
      rw [hout]
      exact .absent hrest
    | cons contact contacts =>
      cases contact with
      | refused halt =>
        have hdial := System.dial_refused { ip, port } hout
        cases halt with
        | stalled =>
          have htry : tryEach port tries last (ip :: rest) s = .error .stalled { s with
              outgoing := contacts
              links := s.links ++ [.failed { ip, port } .stalled] } := by
            rw [tryEach, Act.bind_error (Act.attempt_stalled hdial)]
          have htried :
              Tried port (ip :: rest) s.outgoing [.failed { ip, port } .stalled] none := by
            rw [hout]
            exact .stalled
          rw [Act.after_error htry, Act.value?_error htry]
          exact .refused htried rfl
        | failed fault =>
          refine hnext hdial rfl fun hrest => ?_
          rw [hout]
          exact .refused hrest
      | made peer =>
        have hdial := System.dial_made { ip, port } hout
        have htry : tryEach port tries last (ip :: rest) s =
            .ok ⟨⟨s.links.length, { ip, port }, peer.inflow, peer.identity, false⟩, tries + 1⟩
              { s with
                outgoing := contacts
                links := s.links ++
                  [.opened { ip, port } peer.identity.isSome .matched peer.outflow] } := by
          rw [tryEach, Act.bind_ok (Act.attempt_ok hdial)]
          rfl
        have htried : Tried port (ip :: rest) s.outgoing [] (some ({ ip, port }, peer)) := by
          rw [hout]
          exact .taken
        have hopened : Reached port (ip :: rest) s
            (Act.after (tryEach port tries last (ip :: rest)) s)
            (some ⟨⟨(s.links ++ []).length, { ip, port }, peer.inflow, peer.identity, false⟩,
              tries + 1⟩) :=
          .opened htried (Link.says_nothing { ip, port } peer peer.identity.isSome .matched)
            (by rw [Act.after_ok htry, List.append_nil])
        rw [List.append_nil] at hopened
        rw [Act.value?_ok htry]
        exact hopened

/-- A limit of time changes no more than the error. -/
theorem after_tryAll (d : Destination) (addresses : List IpAddr) (s : System) :
    Act.after (d.tryAll addresses) s = Act.after (tryEach d.port 0 none addresses) s ∧
      Act.value? (d.tryAll addresses) s = Act.value? (tryEach d.port 0 none addresses) s := by
  unfold tryAll
  cases d.timeout with
  | none => exact ⟨rfl, rfl⟩
  | some limit =>
    dsimp only
    cases hs : tryEach d.port 0 none addresses s with
    | ok connected s' =>
      unfold Act.after Act.value?
      rw [Act.bind_ok (Act.timely_ok hs), hs]
      exact ⟨rfl, rfl⟩
    | error halt s' =>
      unfold Act.after Act.value?
      cases halt with
      | stalled =>
        rw [Act.bind_ok (Act.timely_stalled hs), hs]
        exact ⟨rfl, rfl⟩
      | failed error =>
        rw [Act.bind_error (Act.timely_failed hs), hs]
        exact ⟨rfl, rfl⟩

end Destination

end

/-! ## 4. Connecting -/

section

variable {σ ε : Type} {system : σ → System} {port : Nat} {addresses : List IpAddr} {t : System}
  {s : σ} {x : Act ε σ Connected}

/-- What does not fail, and says nothing, reaches the same peer. -/
theorem Reached.bind {f : Connected → Act ε σ Unit}
    (hx : Reached port addresses t (system (Act.after x s)) (Act.value? x s))
    (hf : ∀ c, Utters system c.conn.link [] (f c))
    (hfirm : ∀ c s, ∃ s', f c s = .ok () s') :
    Reached port addresses t (system (Act.after (x >>= fun c => f c >>= fun _ => pure c) s))
      (Act.value? (x >>= fun c => f c >>= fun _ => pure c) s) := by
  cases hs : x s with
  | error halt s' =>
    rw [Act.after_error hs, Act.value?_error hs] at hx
    rw [Act.after_bind_error hs, Act.value?_bind_error hs]
    exact hx
  | ok c s' =>
    obtain ⟨s'', hok⟩ := hfirm c s'
    have hutters := hf c
    rw [Act.after_ok hs, Act.value?_ok hs] at hx
    rw [Act.after_bind_ok hs, Act.value?_bind_ok hs, Act.after_bind_ok hok, Act.value?_bind_ok hok]
    cases hx with
    | opened htried hsilent hlinks =>
      obtain ⟨front, l', hfront, hlinks', hsays, -⟩ := hutters hlinks rfl hsilent
      rw [List.prefix_nil.1 hfront] at hsays
      rw [Act.after_ok hok] at hlinks'
      exact .opened htried hsays hlinks'

/-- **What is done with an open connection, and says nothing, settles it or breaks it.** -/
theorem Reached.settle {secure : Bool} {f : Connected → Act ε σ Connected}
    (hx : Reached port addresses t (system (Act.after x s)) (Act.value? x s))
    (hf : ∀ c, Utters system c.conn.link [] (f c))
    (hbreaks : ∀ {c s halt s'}, f c s = .error halt s' → secure = true)
    (hsettles : ∀ {c s c' s'}, f c s = .ok c' s' → c.conn.Settles secure c'.conn) :
    Meets secure port addresses t (system (Act.after (x >>= f) s)) (Act.value? (x >>= f) s) := by
  cases hs : x s with
  | error halt s' =>
    rw [Act.after_error hs, Act.value?_error hs] at hx
    rw [Act.after_bind_error hs, Act.value?_bind_error hs]
    cases hx with
    | refused htried hlinks => exact .refused htried hlinks
  | ok c s' =>
    rw [Act.after_ok hs, Act.value?_ok hs] at hx
    rw [Act.after_bind_ok hs, Act.value?_bind_ok hs]
    have hutters := hf c
    cases hx with
    | @opened refused addr peer l tries htried hsilent hlinks =>
      obtain ⟨front, l', hfront, hlinks', hsays, -⟩ := hutters hlinks rfl hsilent
      rw [List.prefix_nil.1 hfront] at hsays
      cases hc : f _ s' with
      | error halt s'' =>
        rw [Act.after_error hc] at hlinks' ⊢
        rw [Act.value?_error hc]
        exact .broken htried hsays hlinks' (hbreaks hc)
      | ok c' s'' =>
        have hsettled := hsettles hc
        rw [Act.after_ok hc] at hlinks' ⊢
        rw [Act.value?_ok hc]
        exact .opened htried hsays hlinks' hsettled.link (hsettled.hears peer rfl rfl)

end

/-- Whom trying addresses reaches depends on the record and the contacts alone. -/
theorem Reached.of_traffic {port : Nat} {addresses : List IpAddr} {s s' t : System}
    {outcome : Option Connected} (h : Reached port addresses s s' outcome)
    (htraffic : s.traffic = t.traffic) : Reached port addresses t s' outcome := by
  obtain ⟨hlinks, hout⟩ := Prod.mk.inj htraffic
  cases h with
  | refused htried hlinks' =>
    rw [hout] at htried
    rw [hlinks] at hlinks'
    exact .refused htried hlinks'
  | opened htried hsilent hlinks' =>
    rw [hout] at htried
    rw [hlinks] at hlinks' ⊢
    exact .opened htried hsilent hlinks'

namespace Destination

/-- Trying the addresses that were found, and setting the options of the connection. -/
def tryFound (d : Destination) (addresses : Dns.Addresses) :
    Act Error (Dns.Resolver × System) Connected := do
  let connected ← Act.second (d.tryAll (d.strategy.order addresses.v4 addresses.v6))
  Act.second (Act.mapError .io (System.onLink connected.conn.link (modify d.setOptions)))
  return connected

theorem utters_second {ε α : Type} {link : Nat} {bytes : Bytes} {x : Act ε System α}
    (hx : Utters id link bytes x) :
    Utters (σ := Dns.Resolver × System) Prod.snd link bytes (Act.second x) :=
  hx.within (fun _ => rfl) fun _ _ => rfl

theorem reached_tryFound (d : Destination) (addresses : Dns.Addresses)
    (p : Dns.Resolver × System) :
    Reached d.port (d.strategy.order addresses.v4 addresses.v6) p.2
      (Act.after (d.tryFound addresses) p).2 (Act.value? (d.tryFound addresses) p) := by
  refine Reached.bind ?_ (fun c => ?_) fun c p => ⟨_, rfl⟩
  · obtain ⟨hafter, hvalue⟩ := d.after_tryAll (d.strategy.order addresses.v4 addresses.v6) p.2
    rw [Act.after_second, Act.value?_second, hafter, hvalue]
    exact reached_tryEach d.port 0 none _ p.2
  · exact utters_second ((d.utters_setOptions _).mapError _)

/-- What connecting to a destination leaves: nothing, where no addresses were found, or whom trying
them meets. -/
inductive Dials (secure : Bool) (d : Destination) (p p' : Dns.Resolver × System) :
    Option Connected → Prop where
  | unresolved (lost : secure = false → ∀ addresses found,
        Dns.Resolver.resolve d.host p ≠ .ok addresses found)
      (links : p'.2.links = p.2.links) : Dials secure d p p' none
  | resolved {addresses : Dns.Addresses} {found : Dns.Resolver × System}
      {outcome : Option Connected} (resolve : Dns.Resolver.resolve d.host p = .ok addresses found)
      (meets : Meets secure d.port (d.strategy.order addresses.v4 addresses.v6) p.2 p'.2 outcome) :
      Dials secure d p p' outcome

/-- Finding the addresses of a host, trying them, and settling the connection. -/
theorem dials_reach {secure : Bool} (d : Destination) (p : Dns.Resolver × System)
    {f : Connected → Act Error (Dns.Resolver × System) Connected}
    (hf : ∀ c, Utters Prod.snd c.conn.link [] (f c))
    (hbreaks : ∀ {c p halt p'}, f c p = .error halt p' → secure = true)
    (hsettles : ∀ {c p c' p'}, f c p = .ok c' p' → c.conn.Settles secure c'.conn) :
    Dials secure d p (Act.after (d.reach >>= f) p) (Act.value? (d.reach >>= f) p) := by
  have hreach : d.reach >>= f =
      Dns.Resolver.resolve d.host >>= fun addresses => d.tryFound addresses >>= f := by
    unfold reach tryFound
    simp only [bind_assoc, pure_bind]
  rw [hreach]
  cases hresolve : Dns.Resolver.resolve d.host p with
  | error halt found =>
    have htraffic := (Dns.Resolver.keeps_resolve System.blind_traffic d.host).error hresolve
    rw [Act.after_bind_error hresolve, Act.value?_bind_error hresolve]
    refine .unresolved (fun _ addresses left hok => ?_) (congrArg Prod.fst htraffic)
    rw [hresolve] at hok
    cases hok
  | ok addresses found =>
    have htraffic := (Dns.Resolver.keeps_resolve System.blind_traffic d.host).ok hresolve
    have hreached := (d.reached_tryFound addresses found).of_traffic htraffic
    rw [Act.after_bind_ok hresolve, Act.value?_bind_ok hresolve]
    exact .resolved hresolve (hreached.settle hf hbreaks hsettles)

/-- **Connecting dials the addresses of the host**, and nothing else. -/
theorem dials_connect (d : Destination) (p : Dns.Resolver × System) :
    Dials false d p (Act.after d.connect p) (Act.value? d.connect p) := by
  refine d.dials_reach p (fun c => ?_) (fun {c p halt p'} h => ?_) fun {c p c' p'} h => ?_
  · exact (utters_second c.conn.utters_plain).bind fun _ => .nothing fun _ => rfl
  · obtain ⟨conn, s', hplain, -⟩ := c.conn.plain_ok (ε := Error) p.2
    rw [Act.bind_ok (Act.second_ok hplain)] at h
    cases h
  · obtain ⟨conn, s', hplain, hsettles⟩ := c.conn.plain_ok (ε := Error) p.2
    rw [Act.bind_ok (Act.second_ok hplain)] at h
    cases h
    exact hsettles

theorem dials_connectSecure (roots : List Tls.TrustAnchor) (d : Destination)
    (p : Dns.Resolver × System) :
    Dials true d p (Act.after (d.connectSecure roots) p)
      (Act.value? (d.connectSecure roots) p) := by
  unfold connectSecure
  cases Tls.ServerName.parse? d.host with
  | none => exact .unresolved nofun rfl
  | some server =>
    refine d.dials_reach p (fun c => ?_) (fun _ => rfl) fun {c p c' p'} h => ?_
    · exact (utters_second (c.conn.utters_encrypt roots server)).bind fun _ => .nothing fun _ => rfl
    · obtain ⟨conn, p'', hencrypt, hpure⟩ := Act.bind_eq_ok.1 h
      cases hpure
      obtain ⟨s', hconn, -⟩ := Act.within_ok hencrypt
      exact Conn.settles_encrypt hconn

end Destination

/-! ## 5. The resolver of a request -/

namespace Client

/-- The resolver that a request uses: its own, or else the shared one, which is made from its files
if it is not there. -/
def resolver? (own : Option Dns.Resolver) (c : Client) : Option Dns.Resolver :=
  own <|> c.resolver <|>
    (Dns.Resolver.load c.locations.settings c.locations.hosts c.system.files).toOption

/-- A resolver is there, or it cannot be made and nothing has changed. -/
theorem needResolver_cases (own : Option Dns.Resolver) (c : Client) :
    (∃ halt, needResolver (own, c) = .error halt (own, c) ∧ resolver? own c = none) ∨
      ∃ c', needResolver (own, c) = .ok () (own, c') ∧ c'.system = c.system ∧
        resolver? own c = some (own.getD (c'.resolver.getD {})) := by
  cases own with
  | some resolver => exact .inr ⟨c, rfl, rfl, rfl⟩
  | none =>
    have hneed : needResolver (none, c) = Act.second prepareResolver (none, c) := rfl
    rw [hneed]
    unfold Act.second Act.within prepareResolver resolver?
    cases hshared : c.resolver with
    | some resolver => exact .inr ⟨c, rfl, rfl, by rw [hshared]; rfl⟩
    | none =>
      dsimp only
      cases Dns.Resolver.load c.locations.settings c.locations.hosts c.system.files with
      | error fault => exact .inl ⟨.failed (.io fault), rfl, rfl⟩
      | ok resolver =>
        exact .inr ⟨{ c with resolver := some resolver, resolversMade := c.resolversMade + 1 },
          rfl, rfl, rfl⟩

theorem prepareRoots_cases (c : Client) :
    (∃ halt, prepareRoots c = .error halt c) ∨
      ∃ roots c', prepareRoots c = .ok roots c' ∧ c'.system = c.system ∧
        c'.resolver = c.resolver := by
  unfold prepareRoots
  cases hroots : c.roots with
  | some roots => exact .inr ⟨roots, c, rfl, rfl, rfl⟩
  | none =>
    dsimp only
    cases Tls.loadRoots c.locations.certificates c.system.files with
    | ok roots => exact .inr ⟨roots, _, rfl, rfl, rfl⟩
    | error fault => exact .inl ⟨_, rfl⟩

theorem after_onResolver {ε α : Type} (x : Act ε (Dns.Resolver × System) α)
    (own : Option Dns.Resolver) (c : Client) :
    (Act.after (onResolver x) (own, c)).2.system =
      (Act.after x (own.getD (c.resolver.getD {}), c.system)).2 := by
  unfold onResolver
  rw [Act.after_within]
  cases own <;> rfl

theorem value?_onResolver {ε α : Type} (x : Act ε (Dns.Resolver × System) α)
    (own : Option Dns.Resolver) (c : Client) :
    Act.value? (onResolver x) (own, c) =
      Act.value? x (own.getD (c.resolver.getD {}), c.system) := by
  unfold onResolver
  rw [Act.value?_within]

end Client

end UrlTransfer
