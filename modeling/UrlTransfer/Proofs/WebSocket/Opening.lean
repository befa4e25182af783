/-
# What a client makes of whatever a server sends

A server may answer anything, and send a client elsewhere first.  `Agrees` says which heads agree to
a session that was asked for with a key; these are the heads that `checkAgreement` lets pass
(`checkAgreement_ok`).  Of all others it reports the status first (`checkAgreement_rejected`), and
then what is missing (`checkAgreement_disagrees`).

A caller may have set anything on the request before, also the headers that ask for a session, and
may have run it (`Request.Prepared`).  Every head that is sent still has one key in it, which is the
one that was drawn for this run (`Request.key_of_visit`), because no name stands twice in the
headers of a request (`Request.Prepared.tidy`).

So what a run comes to is decided by the last head that the client is sent, as long as it can
connect, and write (`Request.Settles`).
-/
import UrlTransfer.Proofs.Http.Hearing
import UrlTransfer.Proofs.Http.HostHeader
import UrlTransfer.Proofs.WebSocket.Upgrading

namespace UrlTransfer

open Act (after)

namespace WebSocket

open Http (Visit Heads Head HeaderName HeaderValue Headers takeHead visits valuesOf requestHead)

/-! ## 1. Agreements -/

/-- The head of a response agrees to a session that was asked for with this key. -/
structure Agrees (key : Bytes) (head : Head) : Prop where
  status : head.status.code = 101
  connection : ∃ v ∈ head.headers.get? .connection, Spells "upgrade" v.bytes
  upgrade : ∃ v ∈ head.headers.get? .upgrade, Spells "websocket" v.bytes
  accept : ∃ v ∈ head.headers.get? .webSocketAccept, v.bytes = Bytes.ofString (keyAnswer key)

theorem answer_keyText (key : Bytes) : answer (keyText key) = keyAnswer key :=
  answer_of_trimmed (Text.trimmed_graphic (graphic_keyText key))

/-- The answer to the key is compared byte for byte. -/
theorem accept_iff {key : Bytes} {headers : Headers} :
    headers.get? .webSocketAccept = some (.ofText (answer (keyText key))) ↔
      ∃ v ∈ headers.get? .webSocketAccept, v.bytes = Bytes.ofString (keyAnswer key) := by
  rw [answer_keyText]
  constructor
  · intro h
    exact ⟨_, h, rfl⟩
  · rintro ⟨⟨bytes⟩, hv, rfl⟩
    exact hv

/-- **Exactly the heads that agree to the session pass.** -/
theorem checkAgreement_ok {key : Bytes} {head : Head} :
    checkAgreement (keyText key) head = .ok () ↔ Agrees key head := by
  have hconnection : isWord "upgrade" (valueOf .connection head.headers) = true ↔
      ∃ v ∈ head.headers.get? .connection, Spells "upgrade" v.bytes :=
    isWord_valueOf ⟨by decide, by decide, by decide⟩
  have hupgrade : isWord "websocket" (valueOf .upgrade head.headers) = true ↔
      ∃ v ∈ head.headers.get? .upgrade, Spells "websocket" v.bytes :=
    isWord_valueOf ⟨by decide, by decide, by decide⟩
  unfold checkAgreement
  constructor
  · intro h
    split_ifs at h with hstatus hword hword' haccept
    exact ⟨not_not.1 hstatus, hconnection.1 (by simpa using hword),
      hupgrade.1 (by simpa using hword'), accept_iff.1 (not_not.1 haccept)⟩
  · rintro ⟨hstatus, hword, hword', haccept⟩
    rw [if_neg (not_not.2 hstatus), if_neg (by simp [hconnection.2 hword]),
      if_neg (by simp [hupgrade.2 hword']), if_neg (not_not.2 (accept_iff.2 haccept))]

/-- **The status counts first.** -/
theorem checkAgreement_rejected {key : String} {head : Head} (h : head.status.code ≠ 101) :
    checkAgreement key head = .error (.serverRejected head.status) := if_pos h

/-- Of a head with the right status, what is missing is reported. -/
theorem checkAgreement_disagrees {key : Bytes} {head : Head} (hstatus : head.status.code = 101)
    (h : ¬ Agrees key head) :
    ∃ name, checkAgreement (keyText key) head = .error (.invalidHandshake name) := by
  rw [← checkAgreement_ok] at h
  unfold checkAgreement at h ⊢
  rw [if_neg (not_not.2 hstatus)] at h ⊢
  split_ifs at h ⊢ with hword hword' haccept
  · exact ⟨_, rfl⟩
  · exact ⟨_, rfl⟩
  · exact ⟨_, rfl⟩
  · exact absurd rfl h

namespace Request

/-! ## 2. Requests as a caller may have them -/

/-- A request for a session, built for a URL, with anything set on it that can be set, and perhaps
run before. -/
inductive Prepared : Request → Prop where
  | ofUrl (text : String) : Prepared (ofUrl text)
  | setHeader {r : Request} (name value : String) : Prepared r →
      Prepared { r with http := r.http.setHeader name value }
  | insertHeader {r : Request} (name : HeaderName) (value : HeaderValue) : Prepared r →
      Prepared { r with http := { r.http with headers := r.http.headers.insert name value } }
  | configure {r : Request} (port : Nat) (strategy : Strategy) (timeout : Option Duration)
      (resolver : Option Dns.Resolver) (options : Options) : Prepared r →
      Prepared { http := { r.http with port, strategy, timeout, resolver }, options }
  | run {r : Request} (c : Client) : Prepared r → Prepared (after Request.run (r, c)).1

/-- What holds of such a request, whatever was done to it. -/
structure Tidy (r : Request) : Prop where
  method : r.http.method = .get
  payload : r.http.payload = none
  distinct : r.http.headers.Distinct
  target : ∀ fault, r.http.target.state = .error fault → fault.OfTransfer

theorem tidy_ofUrl (text : String) : (ofUrl text).Tidy where
  method := rfl
  payload := rfl
  distinct := List.nodup_nil
  target := by
    intro fault h
    have htarget : (Target.parse (fun scheme => scheme == "ws" || scheme == "wss") text).state =
        .error fault := h
    unfold Target.parse at htarget
    split at htarget
    · cases htarget; trivial
    · split at htarget
      · cases htarget
      · cases htarget; trivial

theorem Tidy.setHeader {r : Request} (h : r.Tidy) (name value : String) :
    Tidy { r with http := r.http.setHeader name value } := by
  unfold Http.Request.setHeader
  split
  · exact ⟨h.method, h.payload, h.distinct.insert _ _, h.target⟩
  · refine ⟨h.method, h.payload, h.distinct, ?_⟩
    intro fault hfault
    cases hfault
    trivial

/-- What a run leaves of the request is what its transfer leaves. -/
theorem after_run_eq (r : Request) (c : Client) : after Request.run (r, c) =
    ({ r with http := (after Http.transfer (r.start c)).1 },
      (after Http.transfer (r.start c)).2) := by
  have hrun := run_eq r c
  cases htransfer : Http.transfer (r.start c) with
  | error halt s =>
    rw [htransfer] at hrun
    rw [Act.after_error htransfer]
    cases halt <;> exact Act.after_error hrun
  | ok e s =>
    rw [htransfer] at hrun
    rw [Act.after_ok htransfer]
    dsimp only at hrun
    split at hrun
    · exact Act.after_ok hrun
    · exact Act.after_error hrun

section

variable {r : Request} {c : Client}

/-- The headers of a session are set once each. -/
theorem distinct_asked {headers : Headers} (h : headers.Distinct) (key : String) :
    (asked key headers).Distinct :=
  (((h.insert _ _).insert _ _).insert _ _).insert _ _

theorem Tidy.run (h : r.Tidy) (c : Client) : Tidy (after Request.run (r, c)).1 := by
  rw [after_run_eq]
  have hdistinct := distinct_asked h.distinct (keyText (drawnKey c))
  cases htarget : r.http.target.state with
  | error fault =>
    have hstart : (r.start c).1.target.state = .error fault := htarget
    rw [Act.after_error (Http.transfer_error hstart)]
    refine ⟨h.method, h.payload, hdistinct, ?_⟩
    intro fault hfault
    cases hfault
    trivial
  | ok url =>
    have hstart : (r.start c).1.target.state = .ok url := htarget
    have hpayload : (r.start c).1.payload = none := h.payload
    obtain ⟨last, hlast, hkept, hheaders, hleft⟩ := Http.after_transfer hstart
    have hof := Visit.of_mem (List.mem_of_getLast? hlast)
    refine ⟨?_, ?_, ?_, ?_⟩
    · exact (Http.Request.method_of_kept hkept).trans h.method
    · show (after Http.transfer (r.start c)).1.payload = none
      rw [hleft (by rw [hpayload]; rfl), hpayload]
      exact ite_self _
    · show (after Http.transfer (r.start c)).1.headers.Distinct
      rw [hheaders, hof.headers]
      split
      · exact hdistinct
      · exact hdistinct.insert _ _
    · intro fault hfault
      have hsame : (after Http.transfer (r.start c)).1.target = (r.start c).1.target :=
        Http.Request.target_of_kept hkept
      rw [show _ = (r.start c).1.target from hsame] at hfault
      exact h.target fault hfault

/-- **No header is set twice**, and the rest is as it was. -/
theorem Prepared.tidy (h : r.Prepared) : r.Tidy := by
  induction h with
  | ofUrl text => exact tidy_ofUrl text
  | setHeader name value _ ih => exact ih.setHeader name value
  | insertHeader name value _ ih => exact ⟨ih.method, ih.payload, ih.distinct.insert _ _, ih.target⟩
  | configure _ _ _ _ _ _ ih => exact ⟨ih.method, ih.payload, ih.distinct, ih.target⟩
  | run c _ ih => exact ih.run c

/-! ## 3. What is said -/

/-- The client can connect, and write, wherever a run takes it. -/
def GetsThrough (r : Request) (c : Client) : Prop :=
  ∀ v ∈ visits (r.start c), ∃ peer, v.Through peer

/-- **The key that is asked with is the one that was drawn**, whatever was set before. -/
theorem key_of_visit (h : r.Tidy) {v : Visit} (hv : v.Of (r.start c)) :
    valuesOf .webSocketKey v.headers.toList = [.ofText (keyText (drawnKey c))] := by
  have hasked := distinct_asked h.distinct (keyText (drawnKey c))
  have hkey : (asked (keyText (drawnKey c)) r.http.headers).values .webSocketKey =
      [.ofText (keyText (drawnKey c))] := by
    unfold asked
    rw [Headers.values_insert, if_pos rfl]
  have hother : ¬ HeaderName.webSocketKey = .host := by decide
  have hstart : (r.start c).1.headers = asked (keyText (drawnKey c)) r.http.headers := rfl
  rw [hv.headers, hstart]
  split
  · rw [hasked.valuesOf, hkey]
  · rw [(hasked.insert _ _).valuesOf, Headers.values_insert, if_neg hother, hkey]

/-- No visit has a payload. -/
theorem payload_of_visit (h : r.Tidy) {v : Visit} (hv : v.Of (r.start c)) : v.payload = none := by
  have hpayload : (r.start c).1.payload = none := h.payload
  rw [hv.payload (by rw [hpayload]; rfl), hpayload]

/-- **Only the head of a request is said to anybody**, and it has the key of the run in it. -/
theorem said_of_visit (h : r.Tidy) (hthrough : r.GetsThrough c) {v : Visit}
    (hv : v ∈ visits (r.start c)) :
    ∃ refused l addr peer fields, v.links = refused ++ [l] ∧ (∀ l ∈ refused, l.IsFailed) ∧
      l.Says addr peer (requestHead .get v.url fields) ∧
      valuesOf .webSocketKey fields = [.ofText (keyText (drawnKey c))] := by
  have hof := Visit.of_mem hv
  have hnone := payload_of_visit h hof
  obtain ⟨peer, hpeer⟩ := hthrough v hv
  obtain ⟨connected, hhears⟩ := hpeer.hears hnone
  obtain ⟨refused, l, addr, hlinks, hfailed, hsays⟩ := hhears.links
  have hmethod : v.request.method = .get :=
    (Http.Request.method_of_kept hof.kept).trans h.method
  have hhead : v.head = requestHead .get v.url v.headers.toList := by
    unfold Visit.head Http.headBytes
    rw [hnone, hmethod]
    exact congrArg _ (List.append_nil _)
  rw [hhead] at hsays
  exact ⟨refused, l, addr, peer, _, hlinks, hfailed, hsays, key_of_visit h hof⟩

/-- The record holds the links of the visits, and nothing else. -/
theorem record_of_run (r : Request) (c : Client) : (after Request.run (r, c)).2.system.links =
    c.system.links ++ (visits (r.start c)).flatMap Visit.links := by
  rw [after_run_eq]
  cases htarget : r.http.target.state with
  | ok url => exact (Http.journey (s := r.start c) htarget).record
  | error fault =>
    have hstart : (r.start c).1.target.state = .error fault := htarget
    rw [(Http.after_transfer_error hstart).1, Act.after_error (Http.transfer_error hstart)]
    exact (List.append_nil _).symm

/-! ## 4. What a run comes to -/

/-- The last visit of a run, and the peer that it gets through to. -/
structure Last (r : Request) (c : Client) (v : Visit) (peer : Peer) : Prop where
  last : (visits (r.start c)).getLast? = some v
  through : v.Through peer

variable {v : Visit} {peer : Peer} {head : Head} {rest : Bytes}

theorem Last.target (h : r.Last c v peer) : ∃ url, (r.start c).1.target.state = .ok url := by
  cases htarget : (r.start c).1.target.state with
  | ok url => exact ⟨url, rfl⟩
  | error fault =>
    have hlast := h.last
    rw [(Http.after_transfer_error htarget).1] at hlast
    cases hlast

theorem Last.heard (h : r.Last c v peer) (hr : r.Tidy) : ∃ connected, v.Hears peer connected ∧
    v.Heard peer connected r.http.redirects ((visits (r.start c)).length - 1)
      (Http.transfer (r.start c)) := by
  obtain ⟨url, htarget⟩ := h.target
  exact Http.heard_of_through htarget hr.payload h.last h.through

/-- Where the target is a URL, there is a last visit. -/
theorem GetsThrough.last (h : r.GetsThrough c) {url : Url}
    (htarget : (r.start c).1.target.state = .ok url) : ∃ v peer, r.Last c v peer := by
  obtain ⟨v, hlast, -⟩ := (Http.journey htarget).ends
  obtain ⟨peer, hpeer⟩ := h v (List.mem_of_getLast? hlast)
  exact ⟨v, peer, hlast, hpeer⟩

/-- So there is one where the transfer does not fail. -/
theorem GetsThrough.last_of_transfer (h : r.GetsThrough c)
    (hnever : ∀ error t, Http.transfer (r.start c) ≠ .error (.failed error) t) :
    ∃ v peer, r.Last c v peer := by
  cases htarget : (r.start c).1.target.state with
  | ok url => exact h.last htarget
  | error fault => exact absurd (Http.transfer_error htarget) (hnever _ _)

/-- A head with a status that is no redirection ends the transfer, and so does any head where no
redirections are left. -/
def IsFinal (r : Request) (c : Client) (head : Head) : Prop :=
  (visits (r.start c)).length - 1 < r.http.redirects → ∀ location, ¬ head.PointsTo location

theorem isFinal_switching (h : head.status.code = 101) : r.IsFinal c head := by
  intro _ location hpoints
  have hstatus := hpoints.status.1
  rw [h] at hstatus
  exact absurd hstatus (by decide)

/-- **The transfer brings the last head that is sent**, and the connection behind it. -/
theorem Last.brings (h : r.Last c v peer) (hr : r.Tidy)
    (hheads : Heads Reader.defaultCapacity v.request (v.stream peer).rest head rest)
    (hfinal : r.IsFinal c head) :
    ∃ e t, Http.transfer (r.start c) = .ok e t ∧ e.head = head ∧ e.reader.ahead = rest ∧
      e.reader.inflow.ending = (v.stream peer).ending ∧ t.2.system.links.length = e.link + 1 := by
  have hfits := Reader.fits_ofInflow (v.stream peer)
  obtain ⟨q, htake, hrest⟩ := Http.takeHead_of_heads hfits Http.mark_fits hheads
  have hending := (Http.heads_of_takeHead hfits htake).2
  obtain ⟨connected, hhears, hheard⟩ := h.heard hr
  generalize hresult : Http.transfer (r.start c) = result at hheard
  cases hheard with
  | waits take => rw [htake] at take; cases take
  | fails take => rw [htake] at take; cases take
  | lost take spare points =>
    rw [htake] at take
    cases take
    exact absurd points (hfinal spare _)
  | @brings e t take done link hafter =>
    rw [htake] at take
    injection take with hhead hreader
    refine ⟨e, t, rfl, hhead.symm, ?_, ?_, ?_⟩
    · rw [← hreader]; exact hrest
    · rw [← hreader]; exact hending
    · rw [hafter, hhears.last, link]

/-- What a run comes to, by the last head that the client is sent. -/
structure Settles (r : Request) (c : Client) : Prop where
  /-- The client goes where the responses point to, as any transfer does. -/
  journey : ∀ url, r.http.target.state = .ok url →
    Http.Journey (r.start c) url (visits (r.start c))
  /-- A session is opened exactly if the last head agrees to it. -/
  opens : (∃ session o, Request.run (r, c) = .ok session o) ↔
    ∃ v peer head rest, r.Last c v peer ∧
      Heads Reader.defaultCapacity v.request (v.stream peer).rest head rest ∧
      Agrees (drawnKey c) head
  /-- Its frames are what is behind that head. -/
  starts : ∀ {session o v peer head rest}, Request.run (r, c) = .ok session o → r.Last c v peer →
    Heads Reader.defaultCapacity v.request (v.stream peer).rest head rest →
    ∃ link, o.2.system.links.length = link + 1 ∧
      session.Starts link r.options true rest (v.stream peer).ending o.2.system
  /-- Any other run fails. -/
  fails : (∃ session o, Request.run (r, c) = .ok session o) ∨
    ∃ error o, Request.run (r, c) = .error (.failed error) o
  /-- The handshake times out exactly if the last head would be waited for for ever. -/
  waits : (∃ o, Request.run (r, c) = .error (.failed (.webSocket .handshakeTimeout)) o) ↔
    ∃ v peer q, r.Last c v peer ∧
      takeHead v.request (Reader.ofInflow (v.stream peer)) = .error .stalled q
  /-- A response with another status is reported with it, whatever else is in its head. -/
  rejects : ∀ {v peer head rest}, r.Last c v peer →
    Heads Reader.defaultCapacity v.request (v.stream peer).rest head rest →
    r.IsFinal c head → head.status.code ≠ 101 →
    ∃ o, Request.run (r, c) = .error (.failed (.webSocket (.serverRejected head.status))) o
  /-- A response with the right status that does not agree is an invalid handshake. -/
  disagrees : ∀ {v peer head rest}, r.Last c v peer →
    Heads Reader.defaultCapacity v.request (v.stream peer).rest head rest →
    head.status.code = 101 → ¬ Agrees (drawnKey c) head →
    ∃ name o, Request.run (r, c) = .error (.failed (.webSocket (.invalidHandshake name))) o
  /-- The record holds the links of the visits, and nothing else. -/
  record : (after Request.run (r, c)).2.system.links =
    c.system.links ++ (visits (r.start c)).flatMap Visit.links
  /-- Each visit says the head of a request with the key of the run, and nothing else. -/
  said : ∀ v ∈ visits (r.start c), ∃ refused l addr peer fields, v.links = refused ++ [l] ∧
    (∀ l ∈ refused, l.IsFailed) ∧ l.Says addr peer (requestHead .get v.url fields) ∧
    valuesOf .webSocketKey fields = [.ofText (keyText (drawnKey c))]

theorem opens_of_agrees (hr : r.Tidy) (h : r.Last c v peer)
    (hheads : Heads Reader.defaultCapacity v.request (v.stream peer).rest head rest)
    (hagrees : Agrees (drawnKey c) head) : ∃ session o, Request.run (r, c) = .ok session o := by
  obtain ⟨e, t, htransfer, rfl, -⟩ := h.brings hr hheads (isFinal_switching hagrees.status)
  exact ⟨_, _, run_of_transfer htransfer (checkAgreement_ok.2 hagrees)⟩

/-- A run that has a session has it from its transfer. -/
theorem transfer_of_run {session : Session} {o : Opening} (h : Request.run (r, c) = .ok session o) :
    ∃ e t, Http.transfer (r.start c) = .ok e t ∧ Agrees (drawnKey c) e.head ∧
      session = Session.ofReader e.reader e.link r.options true t.2.system ∧
      o = ({ r with http := t.1 }, t.2) := by
  rw [run_eq] at h
  split at h
  · next e t htransfer =>
    split at h
    · next hagrees =>
      cases h
      exact ⟨e, t, htransfer, checkAgreement_ok.1 hagrees, rfl, rfl⟩
    · cases h
  · cases h
  · cases h

theorem agrees_of_opens (hr : r.Tidy) (hthrough : r.GetsThrough c) {session : Session} {o : Opening}
    (h : Request.run (r, c) = .ok session o) : ∃ v peer head rest, r.Last c v peer ∧
      Heads Reader.defaultCapacity v.request (v.stream peer).rest head rest ∧
      Agrees (drawnKey c) head := by
  obtain ⟨e, t, htransfer, hagrees, -⟩ := transfer_of_run h
  obtain ⟨v, peer, hlast⟩ := hthrough.last_of_transfer (by rw [htransfer]; simp)
  obtain ⟨connected, -, hheard⟩ := hlast.heard hr
  rw [htransfer] at hheard
  cases hheard with
  | brings take =>
    have hfits := Reader.fits_ofInflow (v.stream peer)
    exact ⟨v, peer, e.head, _, hlast, (Http.heads_of_takeHead hfits take).1, hagrees⟩

/-- **The session is on the last connection**, and its frames are what is behind the head. -/
theorem starts_of_opens (hr : r.Tidy) {session : Session} {o : Opening}
    (h : Request.run (r, c) = .ok session o) (hlast : r.Last c v peer)
    (hheads : Heads Reader.defaultCapacity v.request (v.stream peer).rest head rest) :
    ∃ link, o.2.system.links.length = link + 1 ∧
      session.Starts link r.options true rest (v.stream peer).ending o.2.system := by
  obtain ⟨e, t, htransfer, hagrees, rfl, rfl⟩ := transfer_of_run h
  obtain ⟨connected, hhears, hheard⟩ := hlast.heard hr
  rw [htransfer] at hheard
  cases hheard with
  | brings take done link hafter =>
    have hfits := Reader.fits_ofInflow (v.stream peer)
    obtain ⟨htaken, hending⟩ := Http.heads_of_takeHead hfits take
    obtain ⟨-, hrest⟩ := htaken.unique Http.mark_fits hheads
    refine ⟨e.link, ?_, ⟨e.reader, rfl⟩, hrest, hending⟩
    rw [hafter, hhears.last, link]

/-- **No run waits for ever.** -/
theorem run_fails (r : Request) (c : Client) :
    (∃ session o, Request.run (r, c) = .ok session o) ∨
      ∃ error o, Request.run (r, c) = .error (.failed error) o := by
  rw [run_eq]
  split
  · split
    · exact .inl ⟨_, _, rfl⟩
    · exact .inr ⟨_, _, rfl⟩
  · exact .inr ⟨_, _, rfl⟩
  · exact .inr ⟨_, _, rfl⟩

/-- Looking at a head takes no time. -/
theorem checkAgreement_prompt (key : String) (head : Head) :
    checkAgreement key head ≠ .error .handshakeTimeout := by
  unfold checkAgreement
  split_ifs <;> nofun

/-- **Only a transfer that would wait for ever times out.** -/
theorem transfer_of_timeout (hr : r.Tidy) (hthrough : r.GetsThrough c) {o : Opening}
    (h : Request.run (r, c) = .error (.failed (.webSocket .handshakeTimeout)) o) :
    ∃ t, Http.transfer (r.start c) = .error .stalled t := by
  rw [run_eq] at h
  split at h
  · next e t htransfer =>
    split at h
    · cases h
    · next fault hfault =>
      cases h
      exact absurd hfault (checkAgreement_prompt _ _)
  · next t htransfer => exact ⟨t, htransfer⟩
  · -- No error of a transfer is one of a session.
    next error t htransfer =>
    cases h
    have hforeign : Error.OfTransfer (.webSocket .handshakeTimeout) := by
      cases htarget : (r.start c).1.target.state with
      | error fault =>
        rw [Http.transfer_error htarget] at htransfer
        cases htransfer
        exact hr.target _ htarget
      | ok url =>
        obtain ⟨v, peer, hlast⟩ := hthrough.last htarget
        obtain ⟨connected, -, hheard⟩ := hlast.heard hr
        rw [htransfer] at hheard
        cases hheard with
        | fails take => exact Http.failsWith_takeHead _ take
        | lost _ _ _ reports => exact reports
    exact hforeign.elim

theorem waits_iff (hr : r.Tidy) (hthrough : r.GetsThrough c) :
    (∃ o, Request.run (r, c) = .error (.failed (.webSocket .handshakeTimeout)) o) ↔
      ∃ v peer q, r.Last c v peer ∧
        takeHead v.request (Reader.ofInflow (v.stream peer)) = .error .stalled q := by
  constructor
  · rintro ⟨o, h⟩
    obtain ⟨t, htransfer⟩ := transfer_of_timeout hr hthrough h
    obtain ⟨v, peer, hlast⟩ := hthrough.last_of_transfer (by rw [htransfer]; simp)
    obtain ⟨connected, -, hheard⟩ := hlast.heard hr
    rw [htransfer] at hheard
    cases hheard with
    | waits take => exact ⟨v, peer, _, hlast, take⟩
  · rintro ⟨v, peer, q, hlast, htake⟩
    obtain ⟨connected, -, hheard⟩ := hlast.heard hr
    rw [run_eq]
    generalize Http.transfer (r.start c) = result at hheard
    cases hheard with
    | waits => exact ⟨_, rfl⟩
    | fails take => rw [htake] at take; cases take
    | lost take => rw [htake] at take; cases take
    | brings take => rw [htake] at take; cases take

/-- A response that does not agree fails the run with what is reported of it. -/
theorem run_of_fault {e : Http.Exchange} {t : Http.Running} {fault : WebSocketError}
    (htransfer : Http.transfer (r.start c) = .ok e t)
    (hfault : checkAgreement (keyText (drawnKey c)) e.head = .error fault) :
    Request.run (r, c) = .error (.failed (.webSocket fault)) ({ r with http := t.1 }, t.2) := by
  rw [run_eq, htransfer]
  dsimp only
  rw [hfault]

end

end Request

/-! ## 5. The whole -/

/-- **Whatever a server sends, the client has a session exactly if the server agreed to it**, and
has said nothing but heads of requests. -/
theorem settles_of_prepared {r : Request} (hr : r.Prepared) {c : Client}
    (hthrough : r.GetsThrough c) : r.Settles c where
  journey := fun url htarget => Http.journey (s := r.start c) htarget
  opens := by
    constructor
    · rintro ⟨session, o, h⟩
      exact Request.agrees_of_opens hr.tidy hthrough h
    · rintro ⟨v, peer, head, rest, hlast, hheads, hagrees⟩
      exact Request.opens_of_agrees hr.tidy hlast hheads hagrees
  starts := Request.starts_of_opens hr.tidy
  fails := Request.run_fails r c
  waits := Request.waits_iff hr.tidy hthrough
  rejects := by
    intro v peer head rest hlast hheads hfinal hstatus
    obtain ⟨e, t, htransfer, rfl, -⟩ := hlast.brings hr.tidy hheads hfinal
    exact ⟨_, Request.run_of_fault htransfer (checkAgreement_rejected hstatus)⟩
  disagrees := by
    intro v peer head rest hlast hheads hstatus hnot
    obtain ⟨e, t, htransfer, rfl, -⟩ :=
      hlast.brings hr.tidy hheads (Request.isFinal_switching hstatus)
    obtain ⟨name, hfault⟩ := checkAgreement_disagrees hstatus hnot
    exact ⟨name, _, Request.run_of_fault htransfer hfault⟩
  record := Request.record_of_run r c
  said := fun v hv => Request.said_of_visit hr.tidy hthrough hv

theorem prepared_chat : chat.Prepared :=
  .configure 0 .default none (some {}) {} (.ofUrl "ws://[::1]/chat")

/-- The request for a chat makes one visit, to the server that agrees. -/
theorem getsThrough_chat : chat.GetsThrough chatWorld := by
  have hurl : Url.parse "ws://[::1]/chat" = .ok chatUrl := by decide +kernel
  have hof : chat.Of "ws://[::1]/chat" := rfl
  have hfresh := hof.fresh hurl rfl
  have hdrawn : drawnKey chatWorld = chatKey := by decide
  have hopens : (chat.visit chatWorld chatUrl).Opens []
      { ip := .v6 ⟨[0, 0, 0, 0, 0, 0, 0, 1], rfl⟩, port := 80 } chatPeer :=
    ⟨[.v6 ⟨[0, 0, 0, 0, 0, 0, 0, 1], rfl⟩], ⟨_, _, _, _, rfl, rfl, rfl, rfl⟩, .taken⟩
  have hheard : chatPeer.inflow.rest = agreeing (keyText (drawnKey chatWorld)) ++ [0x89, 0] := by
    rw [hdrawn]
    exact List.append_nil _
  obtain ⟨e, left, l, hanswer, -, -, -, hhead, -⟩ :=
    Request.visit_agreeing hfresh hopens rfl rfl hheard
  have hnext : (chat.visit chatWorld chatUrl).next? chatUrl.scheme = none := by
    unfold Http.Visit.next?
    rw [hanswer]
    dsimp only
    rw [hhead]
    rfl
  have htarget : (chat.start chatWorld).1.target.state = .ok chatUrl := hfresh.target
  have hvisits : visits (chat.start chatWorld) = [chat.visit chatWorld chatUrl] := by
    rw [Http.visits_ok htarget]
    exact Http.Visit.route_end hnext _
  intro v hv
  rw [hvisits, List.mem_singleton] at hv
  subst hv
  rw [Http.Visit.answer?_eq] at hanswer
  obtain ⟨connected, t, hconnect, -⟩ := Act.bind_eq_ok.1 (Act.eq_ok_of_value? hanswer)
  exact ⟨chatPeer, ⟨_, _, hopens⟩, ⟨connected, t, hconnect⟩, rfl⟩

theorem settles_of_prepared_chat :
    chat.Prepared ∧ chat.GetsThrough chatWorld ∧ chat.Settles chatWorld :=
  ⟨prepared_chat, getsThrough_chat, settles_of_prepared prepared_chat getsThrough_chat⟩

end WebSocket

end UrlTransfer
