/-
# Connecting, attempt by attempt

The addresses of a host are dialled one after the other, and the contacts of the system say how
each attempt turns out.  All that comes before the attempt that decides is refused; that one takes
the connection, or is never answered, or is refused as well and is the last.  `Course` is what
connecting comes to in each of these cases: the value or the error, and the whole state behind it,
with the record of every attempt.

One step dials one address (`dial_refused_at`, `dial_made_at`), a run of steps passes all
addresses that refuse (`tryEach_behind`), and what is left is the attempt that decides.  Every run
takes one of the courses (`exists_course`) and the courses exclude each other, since each of them
is what connecting does (`connect_attempts`).
-/
import UrlTransfer.Proofs.Net.Dialling

namespace UrlTransfer

/-! ## 1. The order of the addresses -/

/-- The order in which a strategy has the addresses of a host tried. -/
inductive Strategy.Arranges (v4 : List Ipv4) (v6 : List Ipv6) : Strategy → List IpAddr → Prop where
  | ipv4Only : Arranges v4 v6 .ipv4Only (v4.map .v4)
  | ipv6Only : Arranges v4 v6 .ipv6Only (v6.map .v6)
  | preferIpv4 : Arranges v4 v6 .preferIpv4 (v4.map .v4 ++ v6.map .v6)
  | preferIpv6 : Arranges v4 v6 .preferIpv6 (v6.map .v6 ++ v4.map .v4)
  | default : Arranges v4 v6 .default (v6.map .v6 ++ v4.map .v4)

theorem Strategy.arranges_order (s : Strategy) (v4 : List Ipv4) (v6 : List Ipv6) :
    Arranges v4 v6 s (s.order v4 v6) := by
  cases s <;> constructor

/-! ## 2. Attempts and their record -/

/-- The address that was tried. -/
def Link.address : Link → SocketAddr
  | failed peer _ => peer
  | opened peer _ _ _ => peer

namespace System

/-- How the attempt behind `i` others will turn out; where there are no more contacts, nobody is
there. -/
def contact (i : Nat) (s : System) : Contact :=
  s.outgoing[i]?.getD (.refused (.failed (.ofKind .connectionRefused)))

/-- The next attempts will be refused, with these faults. -/
def Refuses (attempts : List (IpAddr × IoError)) (s : System) : Prop :=
  ∀ i fault, (attempts.map Prod.snd)[i]? = some fault → s.contact i = .refused (.failed fault)

/-- The record of an attempt that was refused. -/
def refusal (port : Nat) (attempt : IpAddr × IoError) : Link :=
  .failed { ip := attempt.1, port } (.failed attempt.2)

@[simp] theorem address_refusal (port : Nat) (attempt : IpAddr × IoError) :
    (refusal port attempt).address = { ip := attempt.1, port } := rfl

/-- The system behind attempts that were refused. -/
def tried (port : Nat) (attempts : List (IpAddr × IoError)) (s : System) : System :=
  { s with
    outgoing := s.outgoing.drop attempts.length
    links := s.links ++ attempts.map (refusal port) }

/-- The system behind attempts that were refused, and one more that left this link. -/
def attempted (port : Nat) (before : List (IpAddr × IoError)) (last : Link) (s : System) : System :=
  { s with
    outgoing := s.outgoing.drop (before.length + 1)
    links := s.links ++ before.map (refusal port) ++ [last] }

variable {port : Nat} {before : List (IpAddr × IoError)} {s : System}

theorem contact_drop (i n : Nat) (links : List Link) :
    contact i { s with outgoing := s.outgoing.drop n, links } = s.contact (n + i) := by
  simp [contact, List.getElem?_drop]

theorem contact_tried : contact 0 (s.tried port before) = s.contact before.length := by
  simp [tried, contact_drop]

theorem tried_concat (ip : IpAddr) (fault : IoError) :
    s.tried port (before ++ [(ip, fault)]) =
      s.attempted port before (.failed { ip, port } (.failed fault)) := by
  simp [tried, attempted, refusal]

/-- One more attempt behind those that were refused. -/
theorem attempted_eq (last : Link) :
    { s.tried port before with
      outgoing := (s.tried port before).outgoing.drop 1
      links := (s.tried port before).links ++ [last] } = s.attempted port before last := by
  simp [tried, attempted]

theorem Refuses.concat {fault : IoError} (h : s.Refuses before)
    (hlast : s.contact before.length = .refused (.failed fault)) (ip : IpAddr) :
    s.Refuses (before ++ [(ip, fault)]) := by
  intro i fault' hi
  rcases Nat.lt_trichotomy i before.length with hless | rfl | hmore
  · refine h i fault' ?_
    rwa [List.map_append, List.getElem?_append_left (by simpa using hless)] at hi
  · have hfault : fault = fault' := by simpa using hi
    rw [hlast, hfault]
  · rw [List.getElem?_eq_none (by simp; omega)] at hi
    cases hi

/-- **An address that refuses is recorded.** -/
theorem dial_refused_at (addr : SocketAddr) {halt : Halt IoError}
    (h : s.contact 0 = .refused halt) : dial addr s = .error halt
      { s with outgoing := s.outgoing.drop 1, links := s.links ++ [.failed addr halt] } := by
  cases hout : s.outgoing with
  | nil =>
    simp only [contact, hout, List.getElem?_nil, Option.getD_none, Contact.refused.injEq] at h
    rw [dial_absent addr hout, ← h]
    rfl
  | cons contact contacts =>
    simp only [System.contact, hout, List.getElem?_cons_zero, Option.getD_some] at h
    rw [h] at hout
    exact dial_refused addr hout

/-- **And so is one that takes the connection.** -/
theorem dial_made_at (addr : SocketAddr) {peer : Peer} (h : s.contact 0 = .made peer) :
    dial addr s = .ok ⟨s.links.length, addr, peer.inflow, peer.identity, false⟩
      { s with
        outgoing := s.outgoing.drop 1
        links := s.links ++ [.opened addr peer.identity.isSome .matched peer.outflow] } := by
  cases hout : s.outgoing with
  | nil =>
    simp only [contact, hout, List.getElem?_nil, Option.getD_none] at h
    cases h
  | cons contact contacts =>
    simp only [System.contact, hout, List.getElem?_cons_zero, Option.getD_some] at h
    rw [h] at hout
    exact dial_made addr hout

/-- **The record shows which addresses were tried**: the first ones, in their order. -/
theorem attempted_record {addresses later : List IpAddr} {ip : IpAddr} (s : System)
    (horder : addresses = before.map Prod.fst ++ ip :: later) (last : Link)
    (hlast : last.address = { ip, port }) :
    before.length + 1 ≤ addresses.length ∧ ∃ links,
      (s.attempted port before last).links = s.links ++ links ∧
      links.map Link.address =
        (addresses.take (before.length + 1)).map (fun ip => { ip, port }) := by
  have htake : addresses.take (before.length + 1) = before.map Prod.fst ++ [ip] := by
    simp [horder, List.take_append, List.take_of_length_le]
  refine ⟨by simp [horder], before.map (refusal port) ++ [last], List.append_assoc .., ?_⟩
  rw [htake]
  simp [hlast]

/-- The number of the last link. -/
theorem length_attempted (port : Nat) (before : List (IpAddr × IoError)) (s : System) :
    (s.links ++ before.map (refusal port)).length = s.links.length + before.length := by
  simp

theorem outflow_attempted (last : Link) :
    (s.attempted port before last).outflow (s.links.length + before.length) = last.outflow := by
  rw [← length_attempted port before s]
  exact outflow_last rfl

/-- A change of the last link leaves all others. -/
theorem changeLink_attempted (last : Link) (f : Link → Link) :
    (s.attempted port before last).changeLink (s.links.length + before.length) f =
      s.attempted port before (f last) := by
  have hlinks : (s.attempted port before last).links.modify (s.links.length + before.length) f =
      s.links ++ before.map (refusal port) ++ [f last] := by
    rw [← length_attempted port before s]
    exact changeLink_last (s := s.attempted port before last) rfl f
  simp only [changeLink, hlinks]
  rfl

end System

/-! ## 3. Trying addresses -/

namespace Destination

open UrlTransfer.System (refusal)

variable {port : Nat} {before : List (IpAddr × IoError)} {s : System}

/-- **Addresses that refuse are passed one by one**, and the last fault is kept. -/
theorem tryEach_behind (port : Nat) (h : s.Refuses before) (tries : Nat) (last : Option IoError)
    (rest : List IpAddr) :
    tryEach port tries last (before.map Prod.fst ++ rest) s =
      tryEach port (tries + before.length) ((before.map Prod.snd).getLast?.or last) rest
        (s.tried port before) := by
  induction before generalizing tries last s with
  | nil => simp [System.tried]
  | cons attempt later ih =>
    obtain ⟨ip, fault⟩ := attempt
    have hdial := System.dial_refused_at { ip, port } (h 0 fault rfl)
    have hlater : System.Refuses later { s with
        outgoing := s.outgoing.drop 1
        links := s.links ++ [.failed { ip, port } (.failed fault)] } := by
      intro i fault' hi
      rw [System.contact_drop, Nat.add_comm]
      exact h (i + 1) fault' hi
    rw [List.map_cons, List.cons_append, tryEach_cons tries last _ hdial, ih hlater]
    simp [System.tried, refusal, List.getLast?_cons, Nat.add_comm 1, Nat.add_assoc]

theorem tryEach_hangs {ip : IpAddr} (h : s.contact 0 = .refused .stalled) (tries : Nat)
    (last : Option IoError) (later : List IpAddr) :
    tryEach port tries last (ip :: later) s = .error .stalled
      { s with
        outgoing := s.outgoing.drop 1
        links := s.links ++ [.failed { ip, port } .stalled] } := by
  rw [tryEach, Act.bind_error (Act.attempt_stalled (System.dial_refused_at _ h))]

theorem tryEach_made {ip : IpAddr} {peer : Peer} (h : s.contact 0 = .made peer) (tries : Nat)
    (last : Option IoError) (later : List IpAddr) :
    tryEach port tries last (ip :: later) s =
      .ok ⟨⟨s.links.length, { ip, port }, peer.inflow, peer.identity, false⟩, tries + 1⟩
        { s with
          outgoing := s.outgoing.drop 1
          links := s.links ++
            [.opened { ip, port } peer.identity.isSome .matched peer.outflow] } := by
  rw [tryEach, Act.bind_ok (Act.attempt_ok (System.dial_made_at _ h))]
  rfl

/-- What an endless attempt comes to: it is cut off, if there is a limit of time. -/
def cutOff (d : Destination) : Halt Error :=
  if d.timeout.isSome then .failed (.timedOut "connect") else .stalled

section

variable {d : Destination} {addresses : List IpAddr} {t : System}

theorem tryAll_ok {connected : Connected}
    (h : tryEach d.port 0 none addresses s = .ok connected t) :
    d.tryAll addresses s = .ok connected t := by
  unfold tryAll
  cases d.timeout with
  | none => exact h
  | some limit => exact Act.bind_ok (Act.timely_ok h)

theorem tryAll_failed {error : Error}
    (h : tryEach d.port 0 none addresses s = .error (.failed error) t) :
    d.tryAll addresses s = .error (.failed error) t := by
  unfold tryAll
  cases d.timeout with
  | none => exact h
  | some limit => exact Act.bind_error (Act.timely_failed h)

theorem tryAll_stalled (h : tryEach d.port 0 none addresses s = .error .stalled t) :
    d.tryAll addresses s = .error d.cutOff t := by
  unfold tryAll cutOff
  cases d.timeout with
  | none => exact h
  | some limit => exact Act.bind_ok (Act.timely_stalled h)

end

/-! ## 4. Connecting -/

/-- The sending side of a connection to a peer, with the options of the destination; a peer that
speaks the secure protocol alone does not listen. -/
def sendingTo (d : Destination) (peer : Peer) : Outflow :=
  { d.setOptions peer.outflow with heard := peer.outflow.heard && peer.identity.isNone }

/-- The connection that a peer takes behind attempts that were refused. -/
def connectionTo (port : Nat) (before : List (IpAddr × IoError)) (ip : IpAddr) (peer : Peer)
    (s : System) : Conn :=
  ⟨s.links.length + before.length, { ip, port }, peer.inflow, peer.identity, false⟩

/-- What connecting comes to, once the addresses are known and in their order: the attempts that
were refused, and the one behind them that decides. -/
inductive Course (d : Destination) (addresses : List IpAddr) (p : Dns.Resolver × System) :
    EStateM.Result (Halt Error) (Dns.Resolver × System) Connected → Prop where
  /-- Without an address there is no attempt. -/
  | empty (none : addresses = []) : Course d addresses p (.error (.failed .noAddresses) p)
  /-- All attempts are refused, and the fault of the last is reported. -/
  | refused {before : List (IpAddr × IoError)} {ip : IpAddr} {fault : IoError}
      (order : addresses = before.map Prod.fst ++ [ip]) (refuses : p.2.Refuses before)
      (last : p.2.contact before.length = .refused (.failed fault)) :
      Course d addresses p (.error (.failed (.io fault))
        (p.1, p.2.attempted d.port before (.failed { ip, port := d.port } (.failed fault))))
  /-- An attempt is not answered, and those behind it are not made. -/
  | hangs {before : List (IpAddr × IoError)} {ip : IpAddr} {later : List IpAddr}
      (order : addresses = before.map Prod.fst ++ ip :: later) (refuses : p.2.Refuses before)
      (last : p.2.contact before.length = .refused .stalled) :
      Course d addresses p (.error d.cutOff
        (p.1, p.2.attempted d.port before (.failed { ip, port := d.port } .stalled)))
  /-- An attempt is taken, and those behind it are not made.  The options are set on its link. -/
  | connects {before : List (IpAddr × IoError)} {ip : IpAddr} {later : List IpAddr} {peer : Peer}
      (order : addresses = before.map Prod.fst ++ ip :: later) (refuses : p.2.Refuses before)
      (last : p.2.contact before.length = .made peer) :
      Course d addresses p (.ok
        ⟨{ connectionTo d.port before ip peer p.2 with inflow := peer.heard false },
          before.length + 1⟩
        (p.1, p.2.attempted d.port before
          (.opened { ip, port := d.port } peer.identity.isSome .matched (d.sendingTo peer))))

variable {d : Destination} {addresses : List IpAddr} {p : Dns.Resolver × System}
  {result : EStateM.Result (Halt Error) (Dns.Resolver × System) Connected}

/-- **Every run takes one of the courses.** -/
theorem exists_course (d : Destination) (addresses : List IpAddr) (p : Dns.Resolver × System) :
    ∃ result, Course d addresses p result := by
  -- On the addresses that are left behind those that refuse.
  have hbehind (rest : List IpAddr) : ∀ before : List (IpAddr × IoError),
      addresses = before.map Prod.fst ++ rest → p.2.Refuses before → rest ≠ [] →
        ∃ result, Course d addresses p result := by
    induction rest with
    | nil => intro _ _ _ hne; exact absurd rfl hne
    | cons ip later ih =>
      intro before horder hrefuses _
      cases hlast : p.2.contact before.length with
      | made peer => exact ⟨_, .connects horder hrefuses hlast⟩
      | refused halt =>
        cases halt with
        | stalled => exact ⟨_, .hangs horder hrefuses hlast⟩
        | failed fault =>
          cases later with
          | nil => exact ⟨_, .refused horder hrefuses hlast⟩
          | cons next rest =>
            exact ih (before ++ [(ip, fault)]) (by simp [horder]) (hrefuses.concat hlast ip)
              (List.cons_ne_nil _ _)
  by_cases hempty : addresses = []
  · exact ⟨_, .empty hempty⟩
  · exact hbehind addresses [] rfl (fun _ _ h => by simp at h) hempty

/-- Where trying the addresses halts, connecting does. -/
theorem connect_halts {found : Dns.Addresses} {q : Dns.Resolver × System} {halt : Halt Error}
    {s' : System} (hresolve : Dns.Resolver.resolve d.host p = .ok found q)
    (h : d.tryAll (d.strategy.order found.v4 found.v6) q.2 = .error halt s') :
    d.connect p = .error halt (q.1, s') := by
  have hreach : d.reach p = .error halt (q.1, s') := by
    unfold reach
    rw [Act.bind_ok hresolve, Act.bind_error (Act.second_error h)]
  exact Act.bind_error hreach

/-- The options are set on the last link. -/
theorem setOptions_attempted (port : Nat) (before : List (IpAddr × IoError)) (s : System)
    (d : Destination) (addr : SocketAddr) (secure : Bool) (manner : Manner) (o : Outflow) :
    System.onLink (s.links.length + before.length) (modify d.setOptions)
        (s.attempted port before (.opened addr secure manner o)) =
      .ok () (s.attempted port before (.opened addr secure manner (d.setOptions o))) := by
  have hmodify : (modify d.setOptions : Act IoError Outflow Unit)
      ((s.attempted port before (.opened addr secure manner o)).outflow
        (s.links.length + before.length)) = .ok () (d.setOptions o) := by
    rw [System.outflow_attempted]
    rfl
  exact (Act.within_run hmodify).trans (congrArg _ (System.changeLink_attempted _ _))

/-- The secure protocol is not spoken on it. -/
theorem plain_attempted (port : Nat) (before : List (IpAddr × IoError)) (s : System) (ip : IpAddr)
    (peer : Peer) (o : Outflow) (addr : SocketAddr) (secure : Bool) (manner : Manner) :
    ((connectionTo port before ip peer s).plain : Act Error System Conn)
        (s.attempted port before (.opened addr secure manner o)) =
      .ok { connectionTo port before ip peer s with inflow := peer.heard false }
        (s.attempted port before
          (.opened addr secure manner { o with heard := o.heard && peer.identity.isNone })) := by
  unfold Conn.plain connectionTo Peer.heard
  cases peer.identity with
  | none => simp
  | some identity =>
    simp only [Option.isSome_some, if_true, System.changeLink_attempted]
    simp [Conn.deafen]

/-- **Where an address takes the connection**, its link is settled and no other changes. -/
theorem connect_made {found : Dns.Addresses} {q : Dns.Resolver × System} {ip : IpAddr} {peer : Peer}
    {tries : Nat} (hresolve : Dns.Resolver.resolve d.host p = .ok found q)
    (h : d.tryAll (d.strategy.order found.v4 found.v6) q.2 =
      .ok ⟨connectionTo port before ip peer q.2, tries⟩
        (q.2.attempted port before
          (.opened { ip, port } peer.identity.isSome .matched peer.outflow))) :
    d.connect p =
      .ok ⟨{ connectionTo port before ip peer q.2 with inflow := peer.heard false }, tries⟩
        (q.1, q.2.attempted port before
          (.opened { ip, port } peer.identity.isSome .matched (d.sendingTo peer))) := by
  have hreach : d.reach p = .ok ⟨connectionTo port before ip peer q.2, tries⟩
      (q.1, q.2.attempted port before
        (.opened { ip, port } peer.identity.isSome .matched (d.setOptions peer.outflow))) := by
    have hoptions := setOptions_attempted port before q.2 d { ip, port }
      peer.identity.isSome .matched peer.outflow
    unfold reach
    rw [Act.bind_ok hresolve, Act.bind_ok (Act.second_ok h)]
    exact Act.bind_ok (Act.second_ok (p := (q.1, _)) (Act.mapError_ok hoptions))
  have hplain := plain_attempted port before q.2 ip peer (d.setOptions peer.outflow) { ip, port }
    peer.identity.isSome .matched
  unfold connect
  rw [Act.bind_ok hreach]
  exact Act.bind_ok (Act.second_ok (p := (q.1, _)) hplain)

/-- **Each course is what connecting comes to.** -/
theorem Course.connect {found : Dns.Addresses} {q : Dns.Resolver × System}
    (hresolve : Dns.Resolver.resolve d.host p = .ok found q)
    (h : Course d (d.strategy.order found.v4 found.v6) q result) : d.connect p = result := by
  cases h with
  | empty none =>
    refine connect_halts hresolve (tryAll_failed ?_)
    rw [none]
    rfl
  | @refused before ip fault order refuses last =>
    have hbehind := tryEach_behind d.port (refuses.concat last ip) 0 none []
    rw [System.tried_concat, List.map_append, List.append_nil] at hbehind
    refine connect_halts hresolve (tryAll_failed ?_)
    rw [order]
    refine hbehind.trans ?_
    simp [tryEach]
  | @hangs before ip later order refuses last =>
    have hstands : (q.2.tried d.port before).contact 0 = .refused .stalled := by
      rw [System.contact_tried, last]
    refine connect_halts hresolve (tryAll_stalled ?_)
    rw [order, tryEach_behind d.port refuses, tryEach_hangs hstands, System.attempted_eq]
  | @connects before ip later peer order refuses last =>
    have hstands : (q.2.tried d.port before).contact 0 = .made peer := by
      rw [System.contact_tried, last]
    refine connect_made hresolve (tryAll_ok ?_)
    rw [order, tryEach_behind d.port refuses, tryEach_made hstands, System.attempted_eq]
    simp [System.tried, connectionTo]

/-- **The attempts go through the addresses from the first on**, each of them once and none left
out, and a connection tells how many there were. -/
theorem Course.attempts {q : Dns.Resolver × System} (h : Course d addresses q (d.connect p)) :
    ∃ n ≤ addresses.length, ∃ links, (Act.after d.connect p).2.links = q.2.links ++ links ∧
      links.map Link.address = (addresses.take n).map (fun ip => { ip, port := d.port }) ∧
      ∀ connected, Act.value? d.connect p = some connected → connected.tries = n := by
  generalize hresult : d.connect p = result at h
  cases h with
  | empty none =>
    rw [Act.after_error hresult, Act.value?_error hresult]
    exact ⟨0, Nat.zero_le _, [], (List.append_nil _).symm, rfl, fun _ => nofun⟩
  | @refused before ip fault order refuses last =>
    rw [Act.after_error hresult, Act.value?_error hresult]
    obtain ⟨hless, links, hrecord, haddresses⟩ := q.2.attempted_record order
      (.failed { ip, port := d.port } (.failed fault)) rfl
    exact ⟨_, hless, links, hrecord, haddresses, fun _ => nofun⟩
  | @hangs before ip later order refuses last =>
    rw [Act.after_error hresult, Act.value?_error hresult]
    obtain ⟨hless, links, hrecord, haddresses⟩ := q.2.attempted_record order
      (.failed { ip, port := d.port } .stalled) rfl
    exact ⟨_, hless, links, hrecord, haddresses, fun _ => nofun⟩
  | @connects before ip later peer order refuses last =>
    rw [Act.after_ok hresult, Act.value?_ok hresult]
    obtain ⟨hless, links, hrecord, haddresses⟩ := q.2.attempted_record order
      (.opened { ip, port := d.port } peer.identity.isSome .matched (d.sendingTo peer)) rfl
    refine ⟨_, hless, links, hrecord, haddresses, ?_⟩
    rintro _ ⟨⟩
    rfl

/-! ## 5. The attempts of a connection -/

/-- **Connecting tries the addresses in the order of the strategy**, for any host, port, limit of
time and contacts: once each, none left out and none behind the attempt that decides.  What it comes
to is the course that the contacts set, and no other. -/
theorem connect_attempts (d : Destination) {p q : Dns.Resolver × System} {found : Dns.Addresses}
    (hresolve : Dns.Resolver.resolve d.host p = .ok found q) :
    q.2.links = p.2.links ∧ q.2.outgoing = p.2.outgoing ∧
      ∃ ordered, Strategy.Arranges found.v4 found.v6 d.strategy ordered ∧
        (∀ result, d.connect p = result ↔ Course d ordered q result) ∧
        ∃ n ≤ ordered.length, ∃ links,
          (Act.after d.connect p).2.links = p.2.links ++ links ∧
          links.map Link.address = (ordered.take n).map (fun ip => { ip, port := d.port }) ∧
          ∀ connected, Act.value? d.connect p = some connected → connected.tries = n := by
  have hkept := (Dns.Resolver.keeps_resolve System.blind_traffic d.host).ok hresolve
  obtain ⟨hlinks, houtgoing⟩ := Prod.mk.inj hkept
  obtain ⟨result, hcourse⟩ := exists_course d (d.strategy.order found.v4 found.v6) q
  have hresult := hcourse.connect hresolve
  have hattempts := Course.attempts (p := p) (by rwa [hresult])
  rw [hlinks] at hattempts
  refine ⟨hlinks, houtgoing, _, d.strategy.arranges_order _ _, fun other => ?_, hattempts⟩
  constructor
  · intro hother
    rwa [← hother, hresult]
  · intro hother
    exact hother.connect hresolve

/-- A host with an address of each version. -/
def twoAddresses : Dns.Resolver :=
  .ofHosts (.parse "127.0.0.1 _dns\n::1 _dns\n")

/-- Whoever is dialled first refuses, and whoever is dialled second takes the connection. -/
def secondTakes : System where
  outgoing := [.refused (.failed (.ofKind .connectionRefused)), .made {}]

/-- The host has two addresses; the first to be tried refuses, and the second is the connection,
with the option that is asked for. -/
theorem connect_attempts_second :
    let d : Destination := { host := "_dns", port := 80, noDelay := true }
    ∃ q, Dns.Resolver.resolve d.host (twoAddresses, secondTakes) =
        .ok ⟨[⟨127, 0, 0, 1⟩], [⟨[0, 0, 0, 0, 0, 0, 0, 1], rfl⟩]⟩ q ∧
      ∃ connected t, d.connect (twoAddresses, secondTakes) = .ok connected t ∧
        connected.tries = 2 ∧ connected.conn.link = 1 ∧
        t.2.links = [.failed { ip := .v6 ⟨[0, 0, 0, 0, 0, 0, 0, 1], rfl⟩, port := 80 }
            (.failed (.ofKind .connectionRefused)),
          .opened { ip := .v4 ⟨127, 0, 0, 1⟩, port := 80 } false .matched
            { noDelay := true }] := by
  intro d
  have hvalue : Act.value? (Dns.Resolver.resolve d.host) (twoAddresses, secondTakes) =
      some ⟨[⟨127, 0, 0, 1⟩], [⟨[0, 0, 0, 0, 0, 0, 0, 1], rfl⟩]⟩ := by decide +kernel
  have hresolve := Act.eq_ok_of_value? hvalue
  obtain ⟨hlinks, houtgoing, ordered, harranges, hcourse, -⟩ := connect_attempts d hresolve
  refine ⟨_, hresolve, ?_⟩
  generalize Act.after (Dns.Resolver.resolve d.host) (twoAddresses, secondTakes) = q at *
  cases harranges
  have hcontact (i : Nat) : q.2.contact i = secondTakes.contact i := by
    unfold System.contact
    rw [houtgoing]
  let refused : List (IpAddr × IoError) :=
    [(.v6 ⟨[0, 0, 0, 0, 0, 0, 0, 1], rfl⟩, .ofKind .connectionRefused)]
  have hrefuses : q.2.Refuses refused := by
    intro i fault hi
    cases i with
    | zero =>
      cases hi
      rw [hcontact]
      rfl
    | succ i => cases hi
  have horder : [.v6 ⟨[0, 0, 0, 0, 0, 0, 0, 1], rfl⟩, .v4 ⟨127, 0, 0, 1⟩] =
      refused.map Prod.fst ++ .v4 ⟨127, 0, 0, 1⟩ :: [] := rfl
  have hmade : q.2.contact refused.length = .made {} := hcontact 1
  have hconnect := (hcourse _).2 (.connects horder hrefuses hmade)
  refine ⟨_, _, hconnect, rfl, ?_, ?_⟩
  · simp [connectionTo, hlinks, secondTakes, refused]
  · simp [System.attempted, hlinks, secondTakes, System.refusal, sendingTo, setOptions, d, refused]

end Destination

end UrlTransfer
