/-
# What one exchange leaves in the record

A `Visit` is one exchange of a transfer: the URL that it goes to, the payload that it takes along,
whether the request names its host already, and the state that it starts from.  It makes one call to
connect, so the links that it adds to the record are attempts that were refused and at most one open
connection, on which the request is said (`Visit.Leaves`, `Visit.leaves`).

The parts were looked at before: connecting in `Proofs.Net.Dialling`, sending in
`Proofs.Http.Messages`, and the head of the response in `Proofs.Http.Heads`.  Nothing of the request
changes but its headers, where the host is named, and its resolver (`Visit.after_request`).
-/
import UrlTransfer.Proofs.Http.Heads
import UrlTransfer.Proofs.Http.Messages
import UrlTransfer.Proofs.Net.Dialling

namespace UrlTransfer

namespace Http

/-! ## 1. Connecting to the host of a URL -/

/-- Where a request connects to for a URL with this host. -/
def destination (request : Request) (url : Url) (host : Url.Host) : Destination where
  host := host.name
  port := request.portFor url
  strategy := request.strategy
  timeout := request.timeout
  noDelay := true

/-- The addresses of the host of a URL, in the order in which they are tried. -/
def Finds (url : Url) (s : Running) (addresses : List IpAddr) : Prop :=
  ∃ host resolver found left, url.host = some host ∧
    s.2.resolver? s.1.resolver = some resolver ∧
    Dns.Resolver.resolve host.name (resolver, s.2.system) = .ok found left ∧
    addresses = s.1.strategy.order found.v4 found.v6

/-- What connecting to the host of a URL leaves: the record as it was, where no addresses were
found, or whom trying those that were meets. -/
inductive Connects (url : Url) (s s' : Running) : Option Connected → Prop where
  | unresolved (lost : s.1.secure = false → ∀ addresses, ¬ Finds url s addresses)
      (links : s'.2.system.links = s.2.system.links) : Connects url s s' none
  | resolved {addresses : List IpAddr} {outcome : Option Connected} (finds : Finds url s addresses)
      (meets : Meets s.1.secure (s.1.portFor url) addresses s.2.system s'.2.system outcome) :
      Connects url s s' outcome

/-- **Connecting dials the addresses of the host of the URL**, and nothing else. -/
theorem connects (url : Url) (s : Running) :
    Connects url s (Act.after (connect url) s) (Act.value? (connect url) s) := by
  have hget : (get : Act Error Running Running) s = .ok s s := rfl
  unfold connect
  rw [Act.after_bind_ok hget, Act.value?_bind_ok hget]
  dsimp only
  cases hhost : url.host with
  | none =>
    refine .unresolved (fun _ addresses hfinds => ?_) rfl
    obtain ⟨host, _, _, _, hsome, -⟩ := hfinds
    rw [hhost] at hsome
    cases hsome
  | some host =>
    dsimp only
    rw [Act.after_within, Act.value?_within]
    rcases Client.needResolver_cases s.1.resolver s.2 with
      ⟨halt, hneed, hnone⟩ | ⟨c, hneed, hsystem, hresolver⟩
    · rw [Act.after_bind_error hneed, Act.value?_bind_error hneed]
      refine .unresolved (fun _ addresses hfinds => ?_) rfl
      obtain ⟨_, _, _, _, -, hsome, -⟩ := hfinds
      rw [hnone] at hsome
      cases hsome
    · -- Whatever was dialled from here was dialled by the resolver of the request.
      have hdials {s' : Running} {t : Dns.Resolver × System} {outcome : Option Connected}
          (hsystem' : s'.2.system = t.2)
          (h : Destination.Dials s.1.secure (destination s.1 url host)
            (s.1.resolver.getD (c.resolver.getD {}), c.system) t outcome) :
          Connects url s s' outcome := by
        cases h with
        | unresolved hlost hlinks =>
          refine .unresolved (fun hsecure addresses hfinds => ?_)
            (by rw [hsystem', hlinks, hsystem])
          obtain ⟨host', resolver', found, left, hhost', hresolver', hresolve, -⟩ := hfinds
          rw [hhost] at hhost'
          rw [hresolver] at hresolver'
          cases hhost'
          cases hresolver'
          rw [← hsystem] at hresolve
          exact hlost hsecure _ _ hresolve
        | @resolved addresses found _ hresolve hmeets =>
          rw [hsystem] at hresolve hmeets
          rw [← hsystem'] at hmeets
          exact .resolved ⟨host, _, addresses, found, hhost, hresolver, hresolve, rfl⟩ hmeets
      rw [Act.after_bind_ok hneed, Act.value?_bind_ok hneed]
      cases hsecure : s.1.secure with
      | false =>
        rw [hsecure] at hdials
        rw [if_neg Bool.false_ne_true, Client.value?_onResolver]
        exact hdials (Client.after_onResolver _ _ _) (Destination.dials_connect _ _)
      | true =>
        rw [if_pos rfl]
        rcases Client.prepareRoots_cases c with
          ⟨halt, hroots⟩ | ⟨roots, c', hroots, hsystem', hshared⟩
        · have herror := Act.second_error (p := (s.1.resolver, c)) hroots
          rw [Act.after_bind_error herror, Act.value?_bind_error herror]
          exact .unresolved (fun h => by rw [hsecure] at h; cases h) (by rw [hsystem])
        · have hok := Act.second_ok (p := (s.1.resolver, c)) hroots
          rw [hsecure] at hdials
          rw [Act.after_bind_ok hok, Act.value?_bind_ok hok, Client.value?_onResolver, hshared,
            hsystem']
          refine hdials (Client.after_onResolver _ _ _) ?_
          rw [hshared, hsystem']
          exact Destination.dials_connectSecure roots _ _

/-- The request without a resolver of its own. -/
def Request.unresolving (r : Request) : Request := { r with resolver := none }

/-- Connecting changes nothing of the request but its resolver. -/
theorem keeps_connect (url : Url) :
    Act.Keeps (fun s : Running => s.1.unresolving) (connect url) := by
  refine Act.Keeps.getState.bind fun s => ?_
  dsimp only
  split
  · exact .fail _
  · have hanything (x : Act Error (Option Dns.Resolver × Client) Connected) :
        Act.Keeps (fun _ => ()) x := fun _ => rfl
    exact (hanything _).within fun _ _ _ => rfl

/-! ## 2. Visits -/

/-- One exchange of a transfer. -/
structure Visit where
  /-- Whether the request named its host before the transfer. -/
  named : Bool
  url : Url
  payload : Option Payload
  /-- The request and the client before the exchange. -/
  before : Running

/-- Says a request on an open connection. -/
def say (request : Request) (url : Url) (payload : Option Payload) (connected : Connected) :
    Act Error Running (Option Payload) :=
  Act.second (Client.onSystem (send connected.conn.link request url payload))

/-- Takes the head of the response. -/
def hear (request : Request) (connected : Connected) : Act Error Running (Head × Reader) :=
  Act.aside (takeHead request) (Reader.ofInflow connected.conn.inflow)

/-- What is done on an open connection. -/
def converse (url : Url) (payload : Option Payload) (connected : Connected) :
    Act Error Running (Exchange × Option Payload) := do
  let (request, _) ← get
  let left ← say request url payload connected
  let (head, reader) ← hear request connected
  return ({ head, reader, link := connected.conn.link, tries := connected.tries,
            secure := connected.conn.secure }, left)

/-- **The parts of an exchange**: the host is named, then comes the connection, and then what is
done on it. -/
theorem exchange_eq (named : Bool) (url : Url) (payload : Option Payload) :
    exchange named url payload =
      (if named then pure () else nameHost url) >>= fun _ =>
        connect url >>= converse url payload := by
  cases named <;> rfl

namespace Visit

/-- The headers of the request, by which its host is named. -/
def headers (v : Visit) : Headers :=
  if v.named then v.before.1.headers else v.before.1.headers.insert .host (hostHeader v.url)

/-- The request as it is sent. -/
def request (v : Visit) : Request := { v.before.1 with headers := v.headers }

/-- The request and the client as they connect. -/
def start (v : Visit) : Running := (v.request, v.before.2)

/-- The bytes of the head. -/
def head (v : Visit) : Bytes := headBytes v.request v.url v.payload

/-- The bytes behind the head. -/
def body (v : Visit) : Bytes := bodyBytes v.headers v.payload

/-- How the exchange turns out. -/
def outcome (v : Visit) : EStateM.Result (Halt Error) Running (Exchange × Option Payload) :=
  exchange v.named v.url v.payload v.before

/-- The request and the client behind the exchange. -/
def after (v : Visit) : Running := Act.after (exchange v.named v.url v.payload) v.before

/-- What the exchange brought, if it did not fail. -/
def answer? (v : Visit) : Option (Exchange × Option Payload) :=
  Act.value? (exchange v.named v.url v.payload) v.before

/-- The links that the exchange added to the record. -/
def links (v : Visit) : List Link :=
  v.after.2.system.links.drop v.before.2.system.links.length

theorem outcome_eq (v : Visit) :
    v.outcome = (connect v.url >>= converse v.url v.payload) v.start := by
  obtain ⟨named, url, payload, before⟩ := v
  unfold outcome
  rw [exchange_eq]
  cases named <;> rfl

theorem after_eq (v : Visit) :
    v.after = Act.after (connect v.url >>= converse v.url v.payload) v.start := by
  have h := v.outcome_eq
  unfold outcome at h
  unfold after Act.after
  rw [h]

theorem answer?_eq (v : Visit) :
    v.answer? = Act.value? (connect v.url >>= converse v.url v.payload) v.start := by
  have h := v.outcome_eq
  unfold outcome at h
  unfold answer? Act.value?
  rw [h]

end Visit

/-! ## 3. What a visit leaves -/

theorem utters_say (request : Request) (url : Url) (payload : Option Payload)
    (connected : Connected) :
    Utters (fun s : Running => s.2.system) connected.conn.link
      (headBytes request url payload ++ bodyBytes request.headers payload)
      (say request url payload connected) := by
  have hsystem : Utters Client.system connected.conn.link _
      (Client.onSystem (send connected.conn.link request url payload)) :=
    (utters_send connected.conn.link request url payload).within (fun _ => rfl) fun _ _ => rfl
  exact hsystem.within (fun _ => rfl) fun _ _ => rfl

/-- What can be sent again is left as it is. -/
theorem say_payload {request : Request} {url : Url} {payload left : Option Payload}
    {connected : Connected} {s s' : Running}
    (h : say request url payload connected s = .ok left s') :
    left.filter Payload.isRepeatable = payload.filter Payload.isRepeatable ∧
      (payload.all Payload.isRepeatable → left = payload) := by
  unfold say Act.second Client.onSystem at h
  obtain ⟨_, hsystem, -⟩ := Act.within_ok h
  obtain ⟨_, hsend, -⟩ := Act.within_ok hsystem
  exact send_payload hsend

/-- A request whose payload ends is said, to a peer who takes it. -/
theorem succeeds_say (request : Request) (url : Url) {payload : Option Payload}
    (connected : Connected) (h : ∀ p ∈ payload, p.Ends) :
    Act.Succeeds (fun s : Running => s.2.system.Takes connected.conn.link)
      (say request url payload connected) := by
  have hsystem : Act.Succeeds (fun c : Client => c.system.Takes connected.conn.link)
      (Client.onSystem (send connected.conn.link request url payload)) :=
    (succeeds_send connected.conn.link request url h).within (fun _ h => h) fun _ _ h => h
  exact hsystem.within (fun _ h => h) fun _ _ h => h

/-- The connection is left in front of the body, or the stream does not start with a head that the
request accepts. -/
theorem hear_cases (request : Request) (connected : Connected) (s : Running) :
    (∃ halt, hear request connected s = .error halt s ∧ ∀ head rest,
        ¬ Heads Reader.defaultCapacity request connected.conn.inflow.rest head rest) ∨
      ∃ head reader, hear request connected s = .ok (head, reader) s ∧
        Heads Reader.defaultCapacity request connected.conn.inflow.rest head reader.ahead ∧
        reader.inflow.ending = connected.conn.inflow.ending := by
  have hfits := Reader.fits_ofInflow connected.conn.inflow
  unfold hear Act.aside
  cases htake : takeHead request (Reader.ofInflow connected.conn.inflow) with
  | error halt r =>
    refine .inl ⟨halt, rfl, fun head rest hheads => ?_⟩
    obtain ⟨r', hok, -⟩ := takeHead_of_heads hfits mark_fits hheads
    rw [htake] at hok
    cases hok
  | ok head reader =>
    obtain ⟨hheads, hending⟩ := heads_of_takeHead hfits htake
    exact .inr ⟨head, reader, rfl, hheads, hending⟩

namespace Visit

/-- The addresses of the host are tried in their order, and the one behind those that refuse takes
the connection. -/
def Opens (v : Visit) (refused : List Link) (addr : SocketAddr) (peer : Peer) : Prop :=
  ∃ addresses, Finds v.url v.start addresses ∧
    Tried (v.request.portFor v.url) addresses v.before.2.system.outgoing refused
      (some (addr, peer))

/-- What arrives from the peer that a visit meets. -/
def stream (v : Visit) (peer : Peer) : Inflow := peer.heard v.request.secure

/-- What a visit leaves in the record, by how it ends: attempts that were refused, and at most one
open connection.  On that the request is said, all of it unless sending fails; and where there is an
answer, its head is what the stream of the connection starts with, and the body is still ahead.

A visit ends without an answer for a reason only: nothing is known of the host, nobody takes the
connection, the secure protocol is not agreed on, the peer takes no more or the payload does not
end, or what arrives does not start with a head that the request accepts. -/
inductive Leaves (v : Visit) : List Link → Option (Exchange × Option Payload) → Prop where
  | unresolved (lost : v.request.secure = false → ∀ addresses, ¬ Finds v.url v.start addresses) :
      v.Leaves [] none
  | refused {addresses : List IpAddr} {refused : List Link} (finds : Finds v.url v.start addresses)
      (tried : Tried (v.request.portFor v.url) addresses v.before.2.system.outgoing refused none) :
      v.Leaves refused none
  | broken {refused : List Link} {addr : SocketAddr} {peer : Peer} {l : Link}
      (opens : v.Opens refused addr peer) (silent : l.Says addr peer [])
      (disagrees : v.request.secure = true) : v.Leaves (refused ++ [l]) none
  | unsent {refused : List Link} {addr : SocketAddr} {peer : Peer} {l : Link}
      {connected : Connected} {t t' : Running} {halt : Halt Error} {said : Bytes}
      (opens : v.Opens refused addr peer) (connects : connect v.url v.start = .ok connected t)
      (fails : say v.request v.url v.payload connected t = .error halt t')
      (front : said <+: v.head ++ v.body) (spoken : l.Says addr peer said)
      (hindered : peer.outflow.limit = none → ¬ ∀ p ∈ v.payload, p.Ends) :
      v.Leaves (refused ++ [l]) none
  | unanswered {refused : List Link} {addr : SocketAddr} {peer : Peer} {l : Link}
      (opens : v.Opens refused addr peer) (spoken : l.Says addr peer (v.head ++ v.body))
      (headless : ∀ head rest,
        ¬ Heads Reader.defaultCapacity v.request (v.stream peer).rest head rest) :
      v.Leaves (refused ++ [l]) none
  | answered {refused : List Link} {addr : SocketAddr} {peer : Peer} {l : Link} {e : Exchange}
      {left : Option Payload}
      (opens : v.Opens refused addr peer) (spoken : l.Says addr peer (v.head ++ v.body))
      (link : e.link = (v.before.2.system.links ++ refused).length)
      (heads : Heads Reader.defaultCapacity v.request (v.stream peer).rest e.head e.reader.ahead)
      (ending : e.reader.inflow.ending = (v.stream peer).ending) :
      v.Leaves (refused ++ [l]) (some (e, left))

end Visit

/-- What is said does not depend on the resolver. -/
theorem say_congr {r r' : Request} (h : r.unresolving = r'.unresolving) (url : Url)
    (payload : Option Payload) (connected : Connected) :
    say r url payload connected = say r' url payload connected := by
  have hheaders : r.unresolving.headers = r'.unresolving.headers := by rw [h]
  have hmethod : r.unresolving.method = r'.unresolving.method := by rw [h]
  change r.headers = r'.headers at hheaders
  change r.method = r'.method at hmethod
  unfold say send
  rw [hheaders, hmethod]

/-- What is heard does not depend on the resolver. -/
theorem hear_congr {r r' : Request} (h : r.unresolving = r'.unresolving) (connected : Connected) :
    hear r connected = hear r' connected := by
  have hleast : r.unresolving.minVersion = r'.unresolving.minVersion := by rw [h]
  have hgreatest : r.unresolving.maxVersion = r'.unresolving.maxVersion := by rw [h]
  have hsize : r.unresolving.maxHeaderSize = r'.unresolving.maxHeaderSize := by rw [h]
  change r.minVersion = r'.minVersion at hleast
  change r.maxVersion = r'.maxVersion at hgreatest
  change r.maxHeaderSize = r'.maxHeaderSize at hsize
  unfold hear takeHead
  rw [hleast, hgreatest, hsize]

namespace Visit

/-- On an open connection the request is said, and the answer heard. -/
theorem leaves_converse {v : Visit} {connected : Connected} {t : Running} {refused : List Link}
    {addr : SocketAddr} {peer : Peer} {l : Link}
    (hconnect : connect v.url v.start = .ok connected t) (hopens : v.Opens refused addr peer)
    (hsilent : l.Says addr peer [])
    (hlinks : t.2.system.links = v.before.2.system.links ++ refused ++ [l])
    (hlink : connected.conn.link = (v.before.2.system.links ++ refused).length)
    (hhears : connected.conn.inflow = v.stream peer) :
    ∃ l', (Act.after (converse v.url v.payload connected) t).2.system.links =
        v.before.2.system.links ++ (refused ++ [l']) ∧
      v.Leaves (refused ++ [l']) (Act.value? (converse v.url v.payload connected) t) := by
  have hget : (get : Act Error Running Running) t = .ok t t := rfl
  have hsame : t.1.unresolving = v.request.unresolving := (keeps_connect v.url).ok hconnect
  obtain ⟨said, l', hfront, hlinks', hsays, hall⟩ :=
    utters_say v.request v.url v.payload connected hlinks hlink.symm hsilent
  rw [List.nil_append] at hsays
  rw [List.append_assoc] at hlinks'
  refine ⟨l', ?_⟩
  unfold converse
  rw [Act.after_bind_ok hget, Act.value?_bind_ok hget]
  dsimp only
  rw [say_congr hsame]
  cases hsay : say v.request v.url v.payload connected t with
  | error halt t' =>
    rw [Act.after_error hsay] at hlinks'
    rw [Act.after_bind_error hsay, Act.value?_bind_error hsay]
    refine ⟨hlinks', .unsent hopens hconnect hsay hfront hsays fun hlimit hends => ?_⟩
    have htakes := hsilent.takes hlinks hlimit
    rw [← hlink] at htakes
    obtain ⟨left, t', hok, -⟩ := succeeds_say v.request v.url connected hends t htakes
    rw [hsay] at hok
    cases hok
  | ok left t' =>
    rw [Act.after_ok hsay] at hlinks'
    rw [Act.value?_ok hsay] at hall
    rw [Act.after_bind_ok hsay, Act.value?_bind_ok hsay]
    rw [hall rfl] at hsays
    have hcases := hear_cases v.request connected t'
    rw [hhears] at hcases
    rw [hear_congr hsame]
    rcases hcases with ⟨halt, hhear, hheadless⟩ | ⟨head, reader, hhear, hheads, hending⟩
    · rw [Act.after_bind_error hhear, Act.value?_bind_error hhear]
      exact ⟨hlinks', .unanswered hopens hsays hheadless⟩
    · rw [Act.after_bind_ok hhear, Act.value?_bind_ok hhear]
      exact ⟨hlinks', .answered hopens hsays hlink hheads hending⟩

theorem leaves_after (v : Visit) : ∃ links,
    v.after.2.system.links = v.before.2.system.links ++ links ∧ v.Leaves links v.answer? := by
  have hconnects := connects v.url v.start
  rw [after_eq, answer?_eq]
  cases hconnect : connect v.url v.start with
  | error halt t =>
    rw [Act.after_error hconnect, Act.value?_error hconnect] at hconnects
    rw [Act.after_bind_error hconnect, Act.value?_bind_error hconnect]
    cases hconnects with
    | unresolved hlost hlinks =>
      exact ⟨[], by rw [List.append_nil]; exact hlinks, .unresolved hlost⟩
    | resolved hfinds hmeets =>
      cases hmeets with
      | refused htried hlinks => exact ⟨_, hlinks, .refused hfinds htried⟩
      | broken htried hsilent hlinks hsecure =>
        exact ⟨_, hlinks.trans (List.append_assoc ..), .broken ⟨_, hfinds, htried⟩ hsilent hsecure⟩
  | ok connected t =>
    rw [Act.after_ok hconnect, Act.value?_ok hconnect] at hconnects
    rw [Act.after_bind_ok hconnect, Act.value?_bind_ok hconnect]
    cases hconnects with
    | resolved hfinds hmeets =>
      cases hmeets with
      | opened htried hsilent hlinks hlink hhears =>
        obtain ⟨l, hlinks', hleaves⟩ :=
          leaves_converse hconnect ⟨_, hfinds, htried⟩ hsilent hlinks hlink hhears
        exact ⟨_, hlinks', hleaves⟩

/-- The links of a visit are what is added to the record. -/
theorem links_of_after {v : Visit} {links : List Link}
    (h : v.after.2.system.links = v.before.2.system.links ++ links) : v.links = links := by
  unfold Visit.links
  rw [h, List.drop_left]

/-- **A visit adds its links to the record**, and changes none that was there. -/
theorem links_after (v : Visit) :
    v.after.2.system.links = v.before.2.system.links ++ v.links := by
  obtain ⟨links, hlinks, -⟩ := v.leaves_after
  rw [links_of_after hlinks]
  exact hlinks

/-- **What a visit leaves is one call to connect, and at most one request.** -/
theorem leaves (v : Visit) : v.Leaves v.links v.answer? := by
  obtain ⟨links, hlinks, hleaves⟩ := v.leaves_after
  rw [links_of_after hlinks]
  exact hleaves

/-- The addresses of a host decide who takes the connection. -/
theorem Opens.unique {v : Visit} {refused : List Link} {addr : SocketAddr} {peer : Peer}
    (h : v.Opens refused addr peer) {addresses : List IpAddr} {links : List Link}
    {taken : Option (SocketAddr × Peer)} (hfinds : Finds v.url v.start addresses)
    (htried : Tried (v.request.portFor v.url) addresses v.before.2.system.outgoing links taken) :
    refused = links ∧ some (addr, peer) = taken := by
  obtain ⟨found, ⟨host, resolver, lookup, left, hhost, hresolver, hresolve, rfl⟩, htaken⟩ := h
  obtain ⟨host', resolver', lookup', left', hhost', hresolver', hresolve', rfl⟩ := hfinds
  rw [hhost] at hhost'
  rw [hresolver] at hresolver'
  cases hhost'
  cases hresolver'
  rw [hresolve] at hresolve'
  cases hresolve'
  exact htaken.unique htried

/-- **A visit is answered** if a peer takes the connection without the secure protocol, takes what
it is sent, and sends a head that the request accepts. -/
theorem answered_of_opens {v : Visit} {refused : List Link} {addr : SocketAddr} {peer : Peer}
    {head : Head} {rest : Bytes} (hopens : v.Opens refused addr peer)
    (hplain : v.request.secure = false) (htakes : peer.outflow.limit = none)
    (hends : ∀ p ∈ v.payload, p.Ends)
    (hheads : Heads Reader.defaultCapacity v.request (v.stream peer).rest head rest) :
    ∃ e left l, v.answer? = some (e, left) ∧ v.links = refused ++ [l] ∧
      l.Says addr peer (v.head ++ v.body) ∧
      e.link = (v.before.2.system.links ++ refused).length ∧ e.head = head ∧
      e.reader.ahead = rest ∧ e.reader.inflow.ending = (v.stream peer).ending := by
  have hleaves := v.leaves
  generalize v.links = links, hanswer : v.answer? = answer at hleaves
  obtain ⟨found, hfound, -⟩ := id hopens
  cases hleaves with
  | unresolved lost => exact absurd hfound (lost hplain found)
  | refused finds tried => cases (hopens.unique finds tried).2
  | broken _ _ disagrees =>
    rw [hplain] at disagrees
    cases disagrees
  | unsent opens _ _ _ _ hindered =>
    obtain ⟨_, finds, tried⟩ := opens
    cases (hopens.unique finds tried).2
    exact absurd hends (hindered htakes)
  | unanswered opens _ headless =>
    obtain ⟨_, finds, tried⟩ := opens
    cases (hopens.unique finds tried).2
    exact absurd hheads (headless head rest)
  | answered opens spoken link heads ending =>
    obtain ⟨_, finds, tried⟩ := opens
    obtain ⟨rfl, htaken⟩ := hopens.unique finds tried
    cases htaken
    obtain ⟨hhead, hrest⟩ := heads.unique mark_fits hheads
    exact ⟨_, _, _, rfl, rfl, spoken, link, hhead, hrest, ending⟩

/-- **A visit changes nothing of the request** but its headers, and its resolver. -/
theorem after_request (v : Visit) : v.after.1.unresolving = v.request.unresolving := by
  have hkeeps (connected : Connected) : Act.Keeps (fun s : Running => s.1.unresolving)
      (converse v.url v.payload connected) := by
    refine Act.Keeps.getState.bind fun s => ?_
    have hsay : Act.Keeps (fun s : Running => s.1.unresolving)
        (say s.1 v.url v.payload connected) := fun s => by
      unfold say
      rw [Act.after_second]
    exact hsay.bind fun left => (Act.Keeps.aside _).bind fun heard => .pure _
  rw [after_eq]
  exact (keeps_connect v.url).bind hkeeps v.start

/-- An exchange is what its parts make of it. -/
theorem answer?_of_parts {v : Visit} {connected : Connected} {t t' t'' : Running}
    {left : Option Payload} {head : Head} {reader : Reader}
    (hconnect : connect v.url v.start = .ok connected t)
    (hsay : say t.1 v.url v.payload connected t = .ok left t')
    (hhear : hear t.1 connected t' = .ok (head, reader) t'') :
    v.answer? = some ({ head, reader, link := connected.conn.link, tries := connected.tries,
                        secure := connected.conn.secure }, left) := by
  have hget : (get : Act Error Running Running) t = .ok t t := rfl
  rw [answer?_eq, Act.value?_bind_ok hconnect]
  unfold converse
  rw [Act.value?_bind_ok hget, Act.value?_bind_ok hsay, Act.value?_bind_ok hhear]
  rfl

/-- What is left of the payload of a visit that has an answer. -/
theorem answer?_left {v : Visit} {e : Exchange} {left : Option Payload}
    (h : v.answer? = some (e, left)) :
    left.filter Payload.isRepeatable = v.payload.filter Payload.isRepeatable ∧
      (v.payload.all Payload.isRepeatable → left = v.payload) := by
  rw [answer?_eq] at h
  obtain ⟨connected, t, hconnect, h⟩ := Act.bind_eq_ok.1 (Act.eq_ok_of_value? h)
  obtain ⟨_, _, hget, h⟩ := Act.bind_eq_ok.1 h
  cases hget
  obtain ⟨left', t', hsay, h⟩ := Act.bind_eq_ok.1 h
  obtain ⟨heard, t'', hhear, h⟩ := Act.bind_eq_ok.1 h
  cases h
  exact say_payload hsay

end Visit

end Http

end UrlTransfer
