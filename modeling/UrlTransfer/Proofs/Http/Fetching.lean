/-
# A response does not depend on how its bytes arrive

A request is run, all data of the body are read, and then the trailers (`fetch`).  In two worlds in
which every connection brings the same bytes and ends in the same way, wherever the bytes are cut,
all of this comes to the same: the same head, URL, data and trailers, or the same failure at the
same call; and the same bytes have been sent on the same connections (`fetch_sameButCut`).

The parts were compared before: what is done up to an open connection, the head, and the body.
Here they are put together along `exchange`, `follow`, `transfer` and `Request.run`.
-/
import UrlTransfer.Http.Response
import UrlTransfer.Proofs.Http.Cutting
import UrlTransfer.Proofs.Http.Exchanges
import UrlTransfer.Proofs.Http.Messages
import UrlTransfer.Proofs.Net.Cutting

namespace UrlTransfer

namespace Http

/-! ## 1. Sending -/

theorem alike_sendSource (link room : Nat) (form : Bytes → Bytes) (source : Inflow) :
    Act.Alike System.SameButCut Eq (sendSource link room form source)
      (sendSource link room form source) := by
  induction hsize : source.size using Nat.strongRecOn generalizing source with
  | ind size ih =>
    rw [sendSource_eq]
    cases hread : source.read room with
    | error halt rest => exact fun s s' hs => .error hs
    | ok part rest =>
      refine ((System.alike_onLink link _).mapError _).bind_eq fun _ => ?_
      split
      · exact .pure rfl
      · next hpart =>
        have hless := Inflow.size_read hread
        have hpos := List.length_pos_iff.2 hpart
        exact ih rest.size (by omega) rest rfl

theorem alike_send (link : Nat) (request : Request) (url : Url) (payload : Option Payload) :
    Act.Alike System.SameButCut Eq (send link request url payload)
      (send link request url payload) := by
  unfold send
  refine ((System.alike_onLink link _).mapError _).bind_eq fun _ => ?_
  split
  · exact .pure rfl
  · exact ((System.alike_onLink link _).mapError _).bind_eq fun _ => .pure rfl
  · next source => exact (alike_sendSource link _ _ source).bind_eq fun _ => .pure rfl

/-! ## 2. One exchange -/

/-- The same request, on clients that are the same but for the cutting. -/
def SameRunning (s s' : Running) : Prop := s.1 = s'.1 ∧ Client.SameButCut s.2 s'.2

/-- Two exchanges brought the same, and their readers are abreast. -/
structure Exchange.SameButCut (e e' : Exchange) : Prop where
  head : e.head = e'.head
  reader : Reader.Abreast Reader.defaultCapacity e.reader e'.reader
  link : e.link = e'.link
  tries : e.tries = e'.tries
  secure : e.secure = e'.secure
  url : e.url = e'.url

/-- The same exchange, and the same is left of the payload. -/
def SameExchange (p p' : Exchange × Option Payload) : Prop :=
  p.1.SameButCut p'.1 ∧ p.2 = p'.2

theorem alike_clientOnly {α : Type} {V : α → α → Prop} {x : Act Error Client α}
    (hx : Act.Alike Client.SameButCut V x x) :
    Act.Alike SameRunning V (Act.second x) (Act.second x) :=
  hx.within (fun _ _ h => h.2) fun _ _ _ _ ht h => ⟨h.1, ht⟩

theorem alike_nameHost (url : Url) : Act.Alike SameRunning Eq (nameHost url) (nameHost url) := by
  refine .modifyState ?_
  rintro ⟨r, c⟩ ⟨r', c'⟩ ⟨hr, hc⟩
  obtain rfl : r = r' := hr
  exact ⟨rfl, hc⟩

theorem alike_connect (url : Url) :
    Act.Alike SameRunning Connected.SameButCut (connect url) (connect url) := by
  unfold connect
  refine Act.Alike.getState.bind ?_
  rintro ⟨r, c⟩ ⟨r', c'⟩ ⟨hr, -⟩
  obtain rfl : r = r' := hr
  dsimp only
  split
  · exact .fail _
  · refine Act.Alike.within (T := Client.SameOwner) ?_ ?_ ?_
    · refine Client.alike_needResolver.bind_eq fun _ => ?_
      split
      · exact (Client.alike_second Client.alike_prepareRoots).bind_eq fun roots =>
          Client.alike_onResolver (Destination.alike_connectSecure roots _)
      · exact Client.alike_onResolver (Destination.alike_connect _)
    · rintro ⟨r, c⟩ ⟨r', c'⟩ ⟨hr, hc⟩
      obtain rfl : r = r' := hr
      exact ⟨rfl, hc⟩
    · rintro ⟨own, c⟩ ⟨own', c'⟩ ⟨r, d⟩ ⟨r', d'⟩ ⟨hown, hc⟩ ⟨hr, -⟩
      obtain rfl : r = r' := hr
      obtain rfl : own = own' := hown
      exact ⟨rfl, hc⟩

theorem alike_converse (url : Url) (payload : Option Payload) {connected connected' : Connected}
    (h : connected.SameButCut connected') :
    Act.Alike SameRunning SameExchange (converse url payload connected)
      (converse url payload connected') := by
  unfold converse say hear
  refine Act.Alike.getState.bind ?_
  rintro ⟨request, c⟩ ⟨request', c'⟩ ⟨hrequest, -⟩
  obtain rfl : request = request' := hrequest
  dsimp only
  rw [← h.1.link]
  refine (alike_clientOnly (Client.alike_onSystem (alike_send _ request url payload))).bind_eq
    fun payload => ?_
  refine ((alike_takeHead mark_fits request).aside (Reader.abreast_ofInflow h.1.inflow)).bind ?_
  rintro ⟨head, reader⟩ ⟨head', reader'⟩ ⟨hhead, hreader⟩
  exact .pure ⟨⟨hhead, hreader, rfl, h.2, h.1.secure, rfl⟩, rfl⟩

/-- **An exchange brings the same.** -/
theorem alike_exchange (named : Bool) (url : Url) (payload : Option Payload) :
    Act.Alike SameRunning SameExchange (exchange named url payload)
      (exchange named url payload) := by
  rw [exchange_eq]
  refine Act.Alike.bind_eq ?_ fun _ =>
    (alike_connect url).bind fun connected connected' h => alike_converse url payload h
  cases named with
  | true => exact .pure rfl
  | false => exact alike_nameHost url

/-! ## 3. Transfers -/

theorem alike_finish {e e' : Exchange} (h : e.SameButCut e') (url : Option Url)
    (payload : Option Payload) :
    Act.Alike SameRunning Exchange.SameButCut (finish e url payload) (finish e' url payload) := by
  unfold finish
  refine Act.Alike.bind_eq (.modifyState ?_) fun _ => .pure ?_
  · rintro ⟨r, c⟩ ⟨r', c'⟩ ⟨hr, hc⟩
    obtain rfl : r = r' := hr
    exact ⟨rfl, hc⟩
  · exact ⟨h.head, h.reader, h.link, h.tries, h.secure, rfl⟩

/-- **A chain of exchanges brings the same**, as what it follows is in the heads. -/
theorem alike_follow (scheme : String) (named : Bool) (redirects : Nat) (url : Url) (moved : Bool)
    (payload : Option Payload) :
    Act.Alike SameRunning Exchange.SameButCut (follow scheme named redirects url moved payload)
      (follow scheme named redirects url moved payload) := by
  induction redirects generalizing url moved payload with
  | zero =>
    refine (alike_exchange named url payload).bind ?_
    rintro ⟨e, left⟩ ⟨e', left'⟩ ⟨he, hleft⟩
    obtain rfl : left = left' := hleft
    exact alike_finish he _ _
  | succ redirects ih =>
    refine (alike_exchange named url payload).bind ?_
    rintro ⟨e, left⟩ ⟨e', left'⟩ ⟨he, hleft⟩
    obtain rfl : left = left' := hleft
    dsimp only
    rw [← show e.head = e'.head from he.head]
    split
    · exact alike_finish he _ _
    · exact (Act.Alike.ofExcept (.refl _)).bind_eq fun next => ih next true _

theorem alike_transfer : Act.Alike SameRunning Exchange.SameButCut transfer transfer := by
  unfold transfer
  refine Act.Alike.bind_eq (Act.Alike.within (T := Eq) (.same _) ?_ ?_) fun url => ?_
  · rintro ⟨r, c⟩ ⟨r', c'⟩ ⟨hr, -⟩
    obtain rfl : r = r' := hr
    rfl
  · rintro t t' ⟨r, c⟩ ⟨r', c'⟩ ht ⟨hr, hc⟩
    obtain rfl : r = r' := hr
    exact ⟨by rw [ht], hc⟩
  · refine Act.Alike.getState.bind ?_
    rintro ⟨r, c⟩ ⟨r', c'⟩ ⟨hr, -⟩
    obtain rfl : r = r' := hr
    refine Act.Alike.bind_eq (.modifyState ?_) fun _ => alike_follow _ _ _ _ _ _
    rintro ⟨r, c⟩ ⟨r', c'⟩ ⟨hr, hc⟩
    obtain rfl : r = r' := hr
    exact ⟨rfl, hc⟩

/-- Two responses are the same, and their bodies abreast. -/
structure Response.SameButCut (r r' : Response) : Prop where
  head : r.head = r'.head
  url : r.url = r'.url
  tries : r.tries = r'.tries
  secure : r.secure = r'.secure
  body : Body.Abreast Reader.defaultCapacity r.body r'.body

/-- **A request runs alike.** -/
theorem Request.alike_run : Act.Alike SameRunning Response.SameButCut run run := by
  unfold run
  refine alike_transfer.bind fun e e' he => Act.Alike.getState.bind ?_
  rintro ⟨r, c⟩ ⟨r', c'⟩ ⟨hr, -⟩
  obtain rfl : r = r' := hr
  have hbody := Body.ofHead_abreast he.reader r.method e.head.status e.head.headers
  rw [← show e.head = e'.head from he.head]
  dsimp only
  generalize Body.ofHead r.method e.head.status e.head.headers e.reader = body,
    Body.ofHead r.method e.head.status e.head.headers e'.reader = body' at hbody ⊢
  cases hbody with
  | ok hbody => exact .pure ⟨rfl, he.url, he.tries, he.secure, hbody⟩
  | error fault => exact .fail _

/-! ## 4. A response and all of its body -/

/-- What a request comes to that is run, with its data and then its trailers read: everything, or
the failure of one of the three calls behind what the ones before it brought. -/
inductive Fetched where
  | notRun (halt : Halt Error)
  | noData (head : Head) (url : Option Url) (halt : Halt Error)
  | noTrailers (head : Head) (url : Option Url) (data : Bytes) (halt : Halt Error)
  | whole (head : Head) (url : Option Url) (data : Bytes) (trailers : Headers)

/-- Reads all of a response. -/
def Response.readAll (r : Response) : Fetched :=
  match r.body.bytes with
  | .error halt _ => .noData r.head r.url halt
  | .ok data body =>
    match body.trailers with
    | .error halt _ => .noTrailers r.head r.url data halt
    | .ok trailers _ => .whole r.head r.url data trailers

/-- Runs a request, and reads all of the response. -/
def fetch (s : Running) : Fetched × Running :=
  match Request.run s with
  | .error halt s' => (.notRun halt, s')
  | .ok response s' => (response.readAll, s')

theorem Response.readAll_sameButCut {r r' : Response} (h : r.SameButCut r') :
    r.readAll = r'.readAll := by
  have hbytes := Body.alike_bytes h.body
  unfold readAll
  rw [← h.head, ← h.url]
  generalize r.body.bytes = data, r'.body.bytes = data' at hbytes ⊢
  cases hbytes with
  | error _ => rfl
  | @ok data data' b b' hdata hbody =>
    subst hdata
    have htrailers := Body.alike_trailers hbody
    dsimp only
    generalize b.trailers = trailers, b'.trailers = trailers' at htrailers ⊢
    cases htrailers with
    | error _ => rfl
    | ok htrailers _ => rw [htrailers]

/-- **How the bytes of the connections are cut does not show.** -/
theorem fetch_sameButCut {s s' : Running} (h : SameRunning s s') :
    (fetch s).1 = (fetch s').1 ∧ SameRunning (fetch s).2 (fetch s').2 ∧
      (fetch s).2.2.system.links = (fetch s').2.2.system.links := by
  have hrun := Request.alike_run h
  obtain ⟨hfetched, hleft⟩ :
      (fetch s).1 = (fetch s').1 ∧ SameRunning (fetch s).2 (fetch s').2 := by
    unfold fetch
    generalize Request.run s = r, Request.run s' = r' at hrun ⊢
    cases hrun with
    | error hs => exact ⟨rfl, hs⟩
    | ok hresponse hs => exact ⟨Response.readAll_sameButCut hresponse, hs⟩
  exact ⟨hfetched, hleft, hleft.2.system.links⟩

/-- A request for a page of a host that is named by its address. -/
def plainRequest : Request := .ofUrl .get "http://127.0.0.1/"

/-- A client on a system whose only peer sends these pieces. -/
def clientOf (pieces : List Bytes) : Client :=
  { system := { outgoing := [.made { inflow := ⟨pieces, .eof⟩ }] } }

/-- A response with two bytes of data, in one piece. -/
def inOnePiece : Running :=
  (plainRequest, clientOf
    [[72, 84, 84, 80, 47, 49, 46, 49, 32, 50, 48, 48, 32, 79, 75, 13, 10, 13, 10, 111, 107]])

/-- The same in pieces, of which the first ends within the mark, and the third within a line end. -/
def inFourPieces : Running :=
  (plainRequest, clientOf
    [[72, 84, 84], [80, 47, 49, 46, 49, 32, 50, 48, 48, 32, 79, 75], [13], [10, 13, 10, 111, 107]])

theorem fetch_sameButCut_inPieces :
    SameRunning inOnePiece inFourPieces ∧ (fetch inOnePiece).1 = (fetch inFourPieces).1 ∧
      (fetch inOnePiece).2.2.system.links = (fetch inFourPieces).2.2.system.links := by
  have hsame : SameRunning inOnePiece inFourPieces := ⟨rfl, rfl⟩
  obtain ⟨hfetched, -, hlinks⟩ := fetch_sameButCut hsame
  exact ⟨hsame, hfetched, hlinks⟩

end Http

end UrlTransfer
