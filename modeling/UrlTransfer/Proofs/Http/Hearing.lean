/-
# What comes of a visit that gets through

A visit gets through if it opens a connection, and the peer takes what is said (`Visit.Through`).
Without a payload only the head of the request is said then, and the rest is up to the peer: what
the visit comes to is what taking the head of the response from the stream of the peer comes to
(`Visit.Through.heard`).

So a transfer whose last visit gets through waits for ever, fails, or brings a response as taking
that head does; and where the response points elsewhere and the transfer cannot go there, it fails
(`Heard`, `heard_of_through`).  What it fails with is never an error of a session
(`failsWith_takeHead`), which is how such errors are told from those of a handshake.
-/
import UrlTransfer.Proofs.Http.Reruns

namespace UrlTransfer

/-- The error is not one of a session. -/
def Error.OfTransfer : Error → Prop
  | .webSocket _ => False
  | _ => True

namespace Http

open Act (FailsWith)
open Error (OfTransfer)

/-! ## 1. Why a head is not taken -/

theorem OfLine.ofTransfer {e : Error} (h : OfLine e) : OfTransfer e := by
  cases h <;> trivial

theorem failsWith_takeHeaders (limit : Nat) : FailsWith OfTransfer (takeHeaders limit) := by
  intro r e r' h
  unfold takeHeaders at h
  split at h
  · cases h
  · next hfields => cases h; exact (failsWith_takeFields _ hfields).ofTransfer

theorem failsWith_awaitMark : FailsWith OfTransfer awaitMark := by
  intro r e r' h
  fun_induction awaitMark r with
  | case1 => cases h
  | case2 r _ halt r'' _ =>
    cases halt with
    | stalled => cases h
    | failed fault => cases h; trivial
  | case3 => cases h; trivial
  | case4 _ _ _ _ _ ih => exact ih h

theorem failsWith_takeStatus : FailsWith OfTransfer takeStatus := by
  unfold takeStatus
  refine failsWith_awaitMark.bind fun _ => FailsWith.getState.bind fun r => ?_
  split
  · refine (failsWith_takeLine.mono fun _ => OfLine.ofTransfer).bind fun line => ?_
    dsimp only
    split
    · exact .pure _
    · exact .fail trivial
  · exact .pure _

/-- **A head that cannot be taken is no error of a session.** -/
theorem failsWith_takeHead (request : Request) : FailsWith OfTransfer (takeHead request) := by
  unfold takeHead
  refine failsWith_takeStatus.bind fun status => ?_
  dsimp only
  split
  · exact .fail trivial
  · split
    · exact .pure _
    · split
      · exact .fail trivial
      · exact (failsWith_takeHeaders _).bind fun _ => .pure _

/-! ## 2. Visits that get through -/

/-- What a connection brings, if this is the head that is taken on it. -/
def answerOn (connected : Connected) (head : Head) (reader : Reader) : Exchange :=
  { head, reader, link := connected.conn.link, tries := connected.tries,
    secure := connected.conn.secure }

namespace Visit

/-- **Where a request is said, what is heard decides** what the visit comes to. -/
theorem outcome_of_said {v : Visit} {connected : Connected} {t t' : Running}
    {left : Option Payload} (hconnect : connect v.url v.start = .ok connected t)
    (hsay : say v.request v.url v.payload connected t = .ok left t') :
    v.outcome = match takeHead v.request (Reader.ofInflow connected.conn.inflow) with
      | .ok head reader => .ok (answerOn connected head reader, left) t'
      | .error halt _ => .error halt t' := by
  have hget : (get : Act Error Running Running) t = .ok t t := rfl
  have hsame : t.1.unresolving = v.request.unresolving := (keeps_connect v.url).ok hconnect
  have hhear : hear v.request connected t' =
      match takeHead v.request (Reader.ofInflow connected.conn.inflow) with
      | .ok head reader => .ok (head, reader) t'
      | .error halt _ => .error halt t' := by
    unfold hear Act.aside
    cases takeHead v.request (Reader.ofInflow connected.conn.inflow) <;> rfl
  rw [v.outcome_eq, Act.bind_ok hconnect]
  unfold converse
  rw [Act.bind_ok hget]
  dsimp only
  rw [say_congr hsame, hear_congr hsame, Act.bind_ok hsay]
  cases htake : takeHead v.request (Reader.ofInflow connected.conn.inflow) with
  | ok head reader =>
    rw [htake] at hhear
    rw [Act.bind_ok hhear]
    rfl
  | error halt q =>
    rw [htake] at hhear
    rw [Act.bind_error hhear]

/-- The visit opens a connection to this peer, who takes what is said. -/
structure Through (v : Visit) (peer : Peer) : Prop where
  opens : ∃ refused addr, v.Opens refused addr peer
  connected : ∃ connected t, connect v.url v.start = .ok connected t
  takes : peer.outflow.limit = none

/-- A connection to the peer is open, and nothing was said on it. -/
structure Opened (v : Visit) (peer : Peer) (connected : Connected) (t : Running)
    (refused : List Link) (l : Link) (addr : SocketAddr) : Prop where
  connects : connect v.url v.start = .ok connected t
  failed : ∀ l ∈ refused, l.IsFailed
  silent : l.Says addr peer []
  links : t.2.system.links = v.before.2.system.links ++ refused ++ [l]
  link : connected.conn.link = (v.before.2.system.links ++ refused).length
  hears : connected.conn.inflow = v.stream peer

theorem Through.opened {v : Visit} {peer : Peer} (h : v.Through peer) :
    ∃ connected t refused l addr, v.Opened peer connected t refused l addr := by
  obtain ⟨⟨refused, addr, hopens⟩, ⟨connected, t, hconnect⟩, -⟩ := h
  have hconnects := Http.connects v.url v.start
  rw [Act.after_ok hconnect, Act.value?_ok hconnect] at hconnects
  cases hconnects with
  | resolved hfinds hmeets =>
    cases hmeets with
    | @opened _ _ _ l _ htried hsilent hlinks hlink hhears =>
      obtain ⟨rfl, htaken⟩ := hopens.unique hfinds htried
      cases htaken
      exact ⟨connected, t, refused, l, addr, hconnect, htried.failed, hsilent, hlinks, hlink,
        hhears⟩

section

variable {v : Visit} {peer : Peer} {connected : Connected} {t t' : Running} {refused : List Link}
  {l : Link} {addr : SocketAddr}

/-- **A request whose payload ends is said**, to a peer who takes it. -/
theorem Opened.told (h : v.Opened peer connected t refused l addr)
    (htakes : peer.outflow.limit = none) (hends : ∀ p ∈ v.payload, p.Ends) :
    ∃ left t' l', say v.request v.url v.payload connected t = .ok left t' ∧
      t'.2.system.links = v.before.2.system.links ++ refused ++ [l'] ∧
      l'.Says addr peer (v.head ++ v.body) := by
  have hopen := h.silent.takes h.links htakes
  rw [← h.link] at hopen
  obtain ⟨left, t', hsay, -⟩ := succeeds_say v.request v.url connected hends t hopen
  obtain ⟨said, l', -, hlinks, hsays, hall⟩ :=
    utters_say v.request v.url v.payload connected h.links h.link.symm h.silent
  rw [Act.after_ok hsay] at hlinks
  rw [Act.value?_ok hsay] at hall
  rw [List.nil_append, hall rfl] at hsays
  exact ⟨left, t', l', hsay, hlinks, hsays⟩

/-- **Without a payload, the head of the request is all that is said.** -/
theorem Opened.said (h : v.Opened peer connected t refused l addr)
    (htakes : peer.outflow.limit = none) (hpayload : v.payload = none) :
    ∃ t' l', say v.request v.url v.payload connected t = .ok none t' ∧
      t'.2.system.links = v.before.2.system.links ++ refused ++ [l'] ∧
      l'.Says addr peer v.head := by
  have hends : ∀ p ∈ v.payload, p.Ends := by
    rw [hpayload]
    simp
  obtain ⟨left, t', l', hsay, hlinks, hsays⟩ := h.told htakes hends
  have hbody : v.body = [] := by
    unfold body
    rw [hpayload]
    rfl
  rw [hbody, List.append_nil] at hsays
  have hleft : left = none := by
    rw [(say_payload hsay).2 (by rw [hpayload]; rfl), hpayload]
  rw [hleft] at hsay
  exact ⟨t', l', hsay, hlinks, hsays⟩

/-- Then what is heard decides. -/
theorem Opened.outcome (h : v.Opened peer connected t refused l addr) {left : Option Payload}
    (hsay : say v.request v.url v.payload connected t = .ok left t') :
    v.outcome = match takeHead v.request (Reader.ofInflow (v.stream peer)) with
      | .ok head reader => .ok (answerOn connected head reader, left) t'
      | .error halt _ => .error halt t' := by
  rw [outcome_of_said h.connects hsay, h.hears]

/-- Listening leaves everything as it is. -/
theorem Opened.after (h : v.Opened peer connected t refused l addr) {left : Option Payload}
    (hsay : say v.request v.url v.payload connected t = .ok left t') : v.after = t' := by
  have houtcome := h.outcome hsay
  have hwhole : exchange v.named v.url v.payload v.before = v.outcome := rfl
  rw [houtcome] at hwhole
  split at hwhole
  · exact Act.after_ok hwhole
  · exact Act.after_error hwhole

end

/-- **A visit that gets through says its request**, if the payload ends. -/
theorem Through.told {v : Visit} {peer : Peer} (h : v.Through peer)
    (hends : ∀ p ∈ v.payload, p.Ends) :
    ∃ refused l addr, v.links = refused ++ [l] ∧ (∀ l ∈ refused, l.IsFailed) ∧
      l.Says addr peer (v.head ++ v.body) := by
  obtain ⟨connected, t, refused, l, addr, hopened⟩ := h.opened
  obtain ⟨left, t', l', hsay, hlinks, hsays⟩ := hopened.told h.takes hends
  rw [← hopened.after hsay, List.append_assoc] at hlinks
  exact ⟨refused, l', addr, links_of_after hlinks, hopened.failed, hsays⟩

/-- What the visit leaves and comes to: its head was said on a connection, and what is taken of the
stream of the peer is the outcome. -/
structure Hears (v : Visit) (peer : Peer) (connected : Connected) : Prop where
  links : ∃ refused l addr, v.links = refused ++ [l] ∧ (∀ l ∈ refused, l.IsFailed) ∧
    l.Says addr peer v.head
  last : v.after.2.system.links.length = connected.conn.link + 1
  outcome : v.outcome = match takeHead v.request (Reader.ofInflow (v.stream peer)) with
    | .ok head reader => .ok (answerOn connected head reader, none) v.after
    | .error halt _ => .error halt v.after

/-- **What comes of the visit is what comes of the head** that the peer sends. -/
theorem Through.hears {v : Visit} {peer : Peer} (h : v.Through peer) (hpayload : v.payload = none) :
    ∃ connected, v.Hears peer connected := by
  obtain ⟨connected, t, refused, l, addr, hopened⟩ := h.opened
  obtain ⟨t', l', hsay, hlinks, hsays⟩ := hopened.said h.takes hpayload
  have houtcome := hopened.outcome hsay
  rw [← hopened.after hsay] at hlinks houtcome
  have hrecord := links_of_after (hlinks.trans (List.append_assoc ..))
  refine ⟨connected, ⟨refused, l', addr, hrecord, hopened.failed, hsays⟩, ?_, houtcome⟩
  rw [hlinks, hopened.link, List.length_append, List.length_singleton]

/-! ## 3. Transfers -/

/-- What a transfer comes to whose last visit has led to this connection, by what is taken of the
stream of the peer.  It is lost if the response points elsewhere and the transfer cannot go there,
though it has redirections left: so many were made, of at most `limit`. -/
inductive Heard (v : Visit) (peer : Peer) (connected : Connected) (limit moves : Nat) :
    EStateM.Result (Halt Error) Running Exchange → Prop where
  | waits {q : Reader}
      (take : takeHead v.request (Reader.ofInflow (v.stream peer)) = .error .stalled q) :
      v.Heard peer connected limit moves (.error .stalled v.after)
  | fails {error : Error} {q : Reader}
      (take : takeHead v.request (Reader.ofInflow (v.stream peer)) = .error (.failed error) q) :
      v.Heard peer connected limit moves (.error (.failed error) v.after)
  | lost {error : Error} {head : Head} {reader : Reader} {location : HeaderValue}
      (take : takeHead v.request (Reader.ofInflow (v.stream peer)) = .ok head reader)
      (spare : moves < limit) (points : head.PointsTo location) (reports : error.OfTransfer) :
      v.Heard peer connected limit moves (.error (.failed error) v.after)
  | brings {e : Exchange} {t : Running}
      (take : takeHead v.request (Reader.ofInflow (v.stream peer)) = .ok e.head e.reader)
      (done : moves < limit → ∀ location, ¬ e.head.PointsTo location)
      (link : e.link = connected.conn.link) (after : t.2 = v.after.2) :
      v.Heard peer connected limit moves (.ok e t)

theorem Hears.heard {v : Visit} {peer : Peer} {connected : Connected} (h : v.Hears peer connected)
    {scheme : String} {limit moves : Nat} {result : EStateM.Result (Halt Error) Running Exchange}
    (hends : v.Ends scheme limit moves result) : v.Heard peer connected limit moves result := by
  have houtcome := h.outcome
  -- An answer is what was taken.
  have htake {e : Exchange} {left : Option Payload} (hanswer : v.answer? = some (e, left)) :
      takeHead v.request (Reader.ofInflow (v.stream peer)) = .ok e.head e.reader ∧
        e.link = connected.conn.link := by
    have hvalue : v.outcome = .ok (e, left) v.after := Act.eq_ok_of_value? hanswer
    rw [hvalue] at houtcome
    split at houtcome
    · next htake => cases houtcome; exact ⟨htake, rfl⟩
    · cases houtcome
  cases hends with
  | @failed halt hfailed =>
    rw [hfailed] at houtcome
    split at houtcome
    · cases houtcome
    · next q htake =>
      cases houtcome
      cases halt with
      | stalled => exact .waits htake
      | failed error => exact .fails htake
  | unreadable answer points spare => exact .lost (htake answer).1 spare points trivial
  | unresolved answer points spare => exact .lost (htake answer).1 spare points trivial
  | forbidden answer points spare => exact .lost (htake answer).1 spare points trivial
  | arrived answer done => exact .brings (htake answer).1 done (htake answer).2 rfl

end Visit

/-- **A transfer without a payload ends as its last visit decides.** -/
theorem heard_of_through {s : Running} {url : Url} (htarget : s.1.target.state = .ok url)
    (hpayload : s.1.payload = none) {v : Visit} {peer : Peer}
    (hlast : (visits s).getLast? = some v) (hthrough : v.Through peer) :
    ∃ connected, v.Hears peer connected ∧
      v.Heard peer connected s.1.redirects ((visits s).length - 1) (transfer s) := by
  obtain ⟨last, hlast', hends⟩ := (journey htarget).ends
  rw [hlast] at hlast'
  cases hlast'
  have hnone : v.payload = none := by
    rw [(Visit.of_mem (List.mem_of_getLast? hlast)).payload (by rw [hpayload]; rfl), hpayload]
  obtain ⟨connected, hhears⟩ := hthrough.hears hnone
  exact ⟨connected, hhears, hhears.heard hends⟩

end Http

end UrlTransfer
