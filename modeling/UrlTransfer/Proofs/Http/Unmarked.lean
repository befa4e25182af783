/-
# Responses without a head

A stream that is long enough, and does not start with the mark of the protocol, is a response of the
oldest version.  That has no head: nothing is taken off the stream to find out about the version,
and so the body is all of it, from the first byte.  How the stream is cut, and how much of it is in
the buffer when the mark is missed, does not matter.

Only a request that accepts the oldest version gets such a response.  Any other fails, and says
which version it was (`takeHead_unmarked`).  There is no location in such a response, so a visit
that meets one is the last of its transfer (`transfer_of_last`).
-/
import UrlTransfer.Proofs.Http.Fetching
import UrlTransfer.Proofs.Http.Hearing
import UrlTransfer.Proofs.Http.HostHeader

namespace UrlTransfer

/-- The stream has no mark at its front, though it is long enough for one, and it ends. -/
structure Inflow.Unmarked (s : Inflow) : Prop where
  enough : Http.mark.length ≤ s.rest.length
  unmarked : ¬ Http.mark <+: s.rest
  ends : s.ending = .eof

namespace Http

/-! ## 1. Taking no head -/

/-- The head that stands for a missing one. -/
def missingHead : Head := ⟨.http09, .okay, .empty⟩

/-- No version is older, so a request accepts the oldest one if it asks for nothing newer. -/
theorem Request.accepts_http09 {request : Request} :
    request.Accepts .http09 ↔ request.minVersion = .http09 := by
  unfold Accepts Version.isWithin
  cases request.minVersion <;> simp [Version.rank]

/-- **Nothing is taken off a stream without a mark**, and whether that is a response is up to the
request. -/
theorem takeHead_unmarked {s : Inflow} (h : s.Unmarked) (request : Request) :
    (request.minVersion = .http09 → ∃ r, takeHead request (Reader.ofInflow s) = .ok missingHead r ∧
        r.ahead = s.rest ∧ r.inflow.ending = .eof) ∧
      (request.minVersion ≠ .http09 → ∃ r, takeHead request (Reader.ofInflow s) =
        .error (.failed (.http (.unexpectedVersion .http09))) r) := by
  have hfits := Reader.fits_ofInflow s
  constructor
  · intro hleast
    obtain ⟨r, htake, hrest⟩ := takeHead_of_heads hfits mark_fits
      (.unmarked h.enough h.unmarked (Request.accepts_http09.2 hleast))
    exact ⟨r, htake, hrest, (heads_of_takeHead hfits htake).2.trans h.ends⟩
  · intro hleast
    obtain ⟨r, hstatus, -⟩ := takeStatus_unmarked hfits mark_fits h.enough h.unmarked
    have hrefuses : (!Version.http09.isWithin request.minVersion request.maxVersion) = true := by
      rw [Bool.not_eq_true']
      exact Bool.eq_false_iff.2 fun haccepts => hleast (Request.accepts_http09.1 haccepts)
    refine ⟨r, ?_⟩
    unfold takeHead
    rw [Act.bind_ok hstatus]
    dsimp only
    rw [if_pos hrefuses]
    rfl

/-! ## 2. The last visit -/

namespace Visit

/-- The visit opens this connection, and says its request on it. -/
def Speaks (v : Visit) (connected : Connected) : Prop :=
  ∃ t left t', connect v.url v.start = .ok connected t ∧
    say v.request v.url v.payload connected t = .ok left t'

theorem answer?_of_error {v : Visit} {halt : Halt Error} {t : Running}
    (h : v.outcome = .error halt t) : v.answer? = none := Act.value?_error h

/-- The answer of the visit, if it has one, does not point anywhere. -/
def Stays (v : Visit) : Prop :=
  ∀ e left, v.answer? = some (e, left) → ∀ location, ¬ e.head.PointsTo location

/-- A visit behind which there is nowhere to go is the last. -/
theorem Stays.last {s : Running} {v : Visit} (h : v.Stays) (hv : v ∈ visits s) :
    (visits s).getLast? = some v := by
  obtain ⟨url, -, hjourney⟩ := journey_of_mem hv
  obtain ⟨i, hi⟩ := List.mem_iff_getElem?.1 hv
  have hless := (List.getElem?_eq_some_iff.1 hi).1
  have hends : ¬ i + 1 < (visits s).length := by
    intro hmore
    obtain ⟨-, next, e, left, location, -, hanswer, hpoints, -⟩ := (hjourney.goesOn i v hi).1 hmore
    exact h e left hanswer location hpoints
  rw [List.getLast?_eq_getElem?, show (visits s).length - 1 = i by omega, hi]

/-- **A transfer comes to what its last visit comes to**, where that points nowhere. -/
theorem Stays.transfer {s : Running} {v : Visit} (h : v.Stays) (hv : v ∈ visits s) :
    (∀ halt t, v.outcome = .error halt t → transfer s = .error halt t) ∧
      ∀ e left t, v.outcome = .ok (e, left) t →
        ∃ url, transfer s = .ok { e with url } ({ t.1 with payload := left }, t.2) := by
  obtain ⟨url, -, hjourney⟩ := journey_of_mem hv
  obtain ⟨last, hlast, hends⟩ := hjourney.ends
  rw [h.last hv] at hlast
  cases hlast
  generalize Http.transfer s = result at hends ⊢
  cases hends with
  | failed failed =>
    constructor
    · intro halt t houtcome
      rw [failed] at houtcome
      obtain ⟨rfl, rfl⟩ := EStateM.Result.error.inj houtcome
      rfl
    · intro e left t houtcome
      rw [failed] at houtcome
      exact nomatch houtcome
  | unreadable answer points => exact absurd points (h _ _ answer _)
  | unresolved answer points => exact absurd points (h _ _ answer _)
  | forbidden answer points => exact absurd points (h _ _ answer _)
  | arrived answer =>
    constructor
    · intro halt t houtcome
      rw [answer?_of_error houtcome] at answer
      exact nomatch answer
    · intro e left t houtcome
      obtain ⟨hanswer, rfl⟩ := outcome_ok houtcome
      rw [hanswer] at answer
      cases answer
      exact ⟨_, rfl⟩

end Visit

/-! ## 3. Runs -/

theorem Request.minVersion_of_kept {r r' : Request} (h : r.kept = r'.kept) :
    r.minVersion = r'.minVersion := by
  have hleast : r.kept.minVersion = r'.kept.minVersion := by rw [h]
  exact hleast

/-- A run ends with the response of its transfer, if there is a body in it. -/
theorem Request.run_ok {s t : Running} {e : Exchange} {body : Body} (h : transfer s = .ok e t)
    (hbody : Body.ofHead t.1.method e.head.status e.head.headers e.reader = .ok body) :
    Request.run s = .ok
      { head := e.head, url := e.url, tries := e.tries, secure := e.secure, body } t := by
  have hget : (get : Act Error Running Running) t = .ok t t := rfl
  unfold Request.run
  rw [Act.bind_ok h, Act.bind_ok hget]
  dsimp only
  rw [hbody]
  rfl

/-- A body without a head is the stream, or empty where only a head was asked for. -/
theorem bytes_of_missingHead {r : Reader} (hends : r.inflow.ending = .eof) (method : Method) :
    ∃ body, Body.ofHead method missingHead.status missingHead.headers r = .ok body ∧
      ∃ b, body.bytes = .ok (if method = .head then [] else r.ahead) b := by
  have hofHead {framing : Framing}
      (h : Framing.ofHead method missingHead.status missingHead.headers = .ok framing) :
      Body.ofHead method missingHead.status missingHead.headers r = .ok ⟨r, framing, false⟩ := by
    unfold Body.ofHead
    rw [h]
    rfl
  by_cases hmethod : method = .head
  · refine ⟨_, hofHead (by rw [hmethod]; rfl), ?_⟩
    rw [if_pos hmethod]
    exact ⟨_, (Body.brings_nothing (.inl rfl)).bytes_ok⟩
  · have hframing : Framing.ofHead method missingHead.status missingHead.headers =
        .ok .untilEnd := by
      unfold Framing.ofHead isBodiless
      rw [beq_false_of_ne hmethod]
      rfl
    obtain ⟨r', -, hbrings⟩ := Body.brings_untilEnd (b := ⟨r, .untilEnd, false⟩) rfl
    rw [show Body.endOutcome _ = none by rw [hends]; rfl] at hbrings
    refine ⟨_, hofHead hframing, ?_⟩
    rw [if_neg hmethod]
    exact ⟨_, hbrings.bytes_ok⟩

/-- A request that runs into a stream of these bytes, without a mark, takes all of them for the body
of a response, or fails because the response is too old for it. -/
structure TakesWhole (s : Running) (bytes : Bytes) : Prop where
  accepted : s.1.minVersion = .http09 → ∃ response t, Request.run s = .ok response t ∧
    response.head.version = .http09 ∧ response.head.status.code = 200 ∧
    response.head.headers = .empty ∧
    ∃ b, response.body.bytes = .ok (if s.1.method = .head then [] else bytes) b
  rejected : s.1.minVersion ≠ .http09 →
    ∃ t, Request.run s = .error (.failed (.http (.unexpectedVersion .http09))) t

/-- **A stream without a mark is the body of a response of the oldest version**, from its first byte
to its last, if a visit of the request gets as far as to listen to it. -/
theorem takesWhole_of_unmarked {s : Running} {v : Visit} (hv : v ∈ visits s)
    {connected : Connected} (hspeaks : v.Speaks connected)
    (hstream : connected.conn.inflow.Unmarked) : TakesWhole s connected.conn.inflow.rest := by
  obtain ⟨t, left, t', hconnect, hsay⟩ := hspeaks
  have houtcome := Visit.outcome_of_said hconnect hsay
  have hkept : v.request.minVersion = s.1.minVersion :=
    Request.minVersion_of_kept (Visit.of_mem hv).kept
  obtain ⟨haccepted, hrejected⟩ := takeHead_unmarked hstream v.request
  rw [hkept] at haccepted hrejected
  constructor
  · intro hleast
    obtain ⟨r, htake, hahead, hends⟩ := haccepted hleast
    rw [htake] at houtcome
    dsimp only at houtcome
    obtain ⟨hanswer, hafter⟩ := Visit.outcome_ok houtcome
    have hstays : v.Stays := by
      intro e left' he location hpoints
      rw [hanswer] at he
      cases he
      have hcode : 300 ≤ 200 := hpoints.status.1
      omega
    obtain ⟨url, htransfer⟩ := (hstays.transfer hv).2 _ _ _ houtcome
    have hmethod : t'.1.method = s.1.method := by
      rw [← hafter]
      exact Request.method_of_kept (v.after_kept.trans (Visit.of_mem hv).kept)
    obtain ⟨body, hbody, hbytes⟩ := bytes_of_missingHead hends s.1.method
    rw [hahead] at hbytes
    rw [← hmethod] at hbody
    exact ⟨_, _, Request.run_ok htransfer hbody, rfl, rfl, rfl, hbytes⟩
  · intro hleast
    obtain ⟨r, htake⟩ := hrejected hleast
    rw [htake] at houtcome
    dsimp only at houtcome
    have hstays : v.Stays := by
      intro e left' he
      rw [Visit.answer?_of_error houtcome] at he
      cases he
    refine ⟨t', ?_⟩
    unfold Request.run
    rw [Act.bind_error ((hstays.transfer hv).1 _ _ houtcome)]

/-- A request to `home` that accepts the oldest version. -/
def patient : Request := { wanderer with minVersion := .http09 }

/-- Eight bytes in pieces, of which the first could be the front of the mark. -/
def greetingPieces : List Bytes := [[72, 84, 84], [], [32, 105, 115, 32], [105]]

/-- A client on a system whose only peer sends these. -/
def greeter : Client := clientOf greetingPieces

/-- The connection to that peer. -/
def greeterConnected : Connected :=
  { awayConnected with conn := { awayConnected.conn with inflow := ⟨greetingPieces, .eof⟩ } }

/-- The eight bytes are the body of a response, though it took two of the pieces to find out. -/
theorem takesWhole_of_unmarked_greeter :
    (firstVisit (patient, greeter) home ∈ visits (patient, greeter) ∧
      (firstVisit (patient, greeter) home).Speaks greeterConnected ∧
      greeterConnected.conn.inflow.Unmarked) ∧
    ∃ response t, Request.run (patient, greeter) = .ok response t ∧
      response.head.version = .http09 ∧
      ∃ b, response.body.bytes = .ok [72, 84, 84, 32, 105, 115, 32, 105] b := by
  have hmem : firstVisit (patient, greeter) home ∈ visits (patient, greeter) :=
    List.mem_of_head? (journey rfl).first
  have hconnect : Act.value? (connect home) (firstVisit (patient, greeter) home).start =
      some greeterConnected := by rfl
  have hsay : Act.value? (say (firstVisit (patient, greeter) home).request home none
      greeterConnected) (Act.after (connect home) (firstVisit (patient, greeter) home).start) =
        some none := by rfl
  have hspeaks : (firstVisit (patient, greeter) home).Speaks greeterConnected :=
    ⟨_, _, _, Act.eq_ok_of_value? hconnect, Act.eq_ok_of_value? hsay⟩
  have hunmarked : greeterConnected.conn.inflow.Unmarked := ⟨by decide, by decide, rfl⟩
  refine ⟨⟨hmem, hspeaks, hunmarked⟩, ?_⟩
  obtain ⟨response, t, hrun, hversion, -, -, hbytes⟩ :=
    (takesWhole_of_unmarked hmem hspeaks hunmarked).accepted rfl
  exact ⟨response, t, hrun, hversion, hbytes⟩

end Http

end UrlTransfer
