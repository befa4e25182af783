/-
# What is announced behind a redirection

A stream can be sent but once, so only the first request of a run has it.  The requests behind a
redirection are sent without a payload (`Visit.Bare`), and none of them should announce one, or the
server waits for bytes that never come (`AnnouncesNone`).

A header that the program adds for a payload goes with it (`Visit.Bare.fields`).  One that the
caller has set does not: it stands in every request of the run.  So the requests behind a
redirection announce what the headers of the caller announce (`announces_of_dropped`), and
`pouring` is a request that promises three bytes twice and sends them once.
-/
import UrlTransfer.Proofs.Http.Delimiting

namespace UrlTransfer

namespace Http

/-! ## 1. Requests without their payload -/

/-- The header fields announce no body: they name no coding, and no length other than zero. -/
structure AnnouncesNone (fields : List (HeaderName × HeaderValue)) : Prop where
  noCoding : valuesOf .transferEncoding fields = []
  noLength : ∀ value ∈ valuesOf .contentLength fields, value = .ofText "0"

namespace Visit

/-- What a visit sends without a payload: the head of the request, and nothing behind it. -/
structure Bare (r : Request) (v : Visit) : Prop where
  payload : v.payload = none
  head : v.head = requestHead r.method v.url v.fields
  body : v.body = []
  leaves : v.Leaves v.links v.answer?

/-- **Behind a redirection, a stream is gone.** -/
theorem bare_of_stream {r : Request} {source : Inflow} (hstream : r.payload = some (.stream source))
    {c : Client} {i : Nat} {v : Visit} (hv : (visits (r, c))[i + 1]? = some v) : v.Bare r := by
  have hof := Visit.of_mem (List.mem_of_getElem? hv)
  have hmethod : v.before.1.method = r.method := Request.method_of_kept hof.kept
  have hpayload : v.payload = none := by
    rw [Visit.payload_of_getElem? hv, if_neg (Nat.succ_ne_zero i), hstream]
    rfl
  refine ⟨hpayload, ?_, ?_, v.leaves⟩
  · rw [← hmethod]
    rfl
  · unfold body
    rw [hpayload]
    rfl

/-- No header is added where there is no payload. -/
theorem Bare.fields {r : Request} {v : Visit} (h : v.Bare r) : v.fields = v.headers.toList := by
  unfold Visit.fields
  rw [h.payload]
  exact List.append_nil _

/-- **Without a payload, a visit announces what the caller does.** -/
theorem Bare.announcesNone_iff {r : Request} {c : Client} {v : Visit} (h : v.Bare r)
    (hof : v.Of (r, c)) : AnnouncesNone v.fields ↔ AnnouncesNone r.headers.toList := by
  have hcoding := hof.valuesOf_headers (show HeaderName.transferEncoding ≠ .host by decide)
  have hlength := hof.valuesOf_headers (show HeaderName.contentLength ≠ .host by decide)
  rw [h.fields]
  constructor
  · rintro ⟨hno, hzero⟩
    exact ⟨hcoding ▸ hno, hlength ▸ hzero⟩
  · rintro ⟨hno, hzero⟩
    exact ⟨hcoding.trans hno, by rw [hlength]; exact hzero⟩

end Visit

/-! ## 2. The requests of a run -/

/-- **A stream that was dropped is still announced exactly if the caller has announced it**: in any
run of a request with a stream, with any headers and any chain of redirections, every request
behind the first is sent without a payload, and announces none exactly if the headers of the caller
do.  So all of them announce none exactly if there is none, or these headers announce nothing. -/
theorem announces_of_dropped (r : Request) (source : Inflow)
    (hstream : r.payload = some (.stream source)) (c : Client) :
    (Act.after Request.run (r, c)).2.system.links =
        c.system.links ++ (visits (r, c)).flatMap Visit.links ∧
      (∀ (i : Nat) (v : Visit), (visits (r, c))[i + 1]? = some v →
        v.Bare r ∧ (AnnouncesNone v.fields ↔ AnnouncesNone r.headers.toList)) ∧
      ((∀ (i : Nat) (v : Visit), (visits (r, c))[i + 1]? = some v → AnnouncesNone v.fields) ↔
        (visits (r, c)).length ≤ 1 ∨ AnnouncesNone r.headers.toList) := by
  have hbehind (i : Nat) (v : Visit) (hv : (visits (r, c))[i + 1]? = some v) :
      v.Bare r ∧ (AnnouncesNone v.fields ↔ AnnouncesNone r.headers.toList) :=
    have hbare := Visit.bare_of_stream hstream hv
    ⟨hbare, hbare.announcesNone_iff (Visit.of_mem (List.mem_of_getElem? hv))⟩
  refine ⟨links_after_run (r, c), hbehind, fun hall => ?_, ?_⟩
  · by_cases hfew : (visits (r, c)).length ≤ 1
    · exact .inl hfew
    · have hsecond := List.getElem?_eq_getElem (Nat.lt_of_not_le hfew)
      exact .inr ((hbehind 0 _ hsecond).2.1 (hall 0 _ hsecond))
  · rintro (hfew | hnone) i v hv
    · have hless := (List.getElem?_eq_some_iff.1 hv).1
      omega
    · exact (hbehind i v hv).2.2 hnone

/-! ## 3. A stream that is led away -/

/-- A request with a stream of three bytes and these headers, which follows one redirection. -/
def pouring (headers : Headers) : Request :=
  { wanderer with
    method := ⟨"POST"⟩
    payload := some (.stream ⟨[[97], [98, 99]], .eof⟩)
    headers }

/-- The first visit of the request, to a peer who points to `away`. -/
def pouringVisit (headers : Headers) : Visit := firstVisit (pouring headers, awayWorld) home

/-- **Where the connection is made, the second request is one to `away`.** -/
theorem second_visit_pouring (headers : Headers)
    (hconnect : Act.value? (connect home) (pouringVisit headers).start = some awayConnected)
    (htakes : (Act.after (connect home) (pouringVisit headers).start).2.system.Takes 0) :
    ∃ w, (visits (pouring headers, awayWorld))[1]? = some w ∧ w.url = away := by
  have hends : ∀ p ∈ (pouring headers).payload, p.Ends := by
    intro p hp
    cases hp
    rfl
  obtain ⟨left, t, hsay, -⟩ := succeeds_say
    (Act.after (connect home) (pouringVisit headers).start).1 home awayConnected hends _ htakes
  obtain ⟨reader, htake, -⟩ := takeHead_of_heads (r := Reader.ofInflow awayConnected.conn.inflow)
    (Reader.fits_ofInflow _) mark_fits heads_away
  have hsame := (keeps_connect home).ok (Act.eq_ok_of_value? hconnect)
  have hhear : hear (Act.after (connect home) (pouringVisit headers).start).1 awayConnected t =
      .ok (awayHead, reader) t := by
    rw [hear_congr hsame]
    show hear wanderer awayConnected t = _
    unfold hear Act.aside
    rw [htake]
  have hanswer := Visit.answer?_of_parts (v := pouringVisit headers)
    (Act.eq_ok_of_value? hconnect) hsay hhear
  obtain ⟨w, hnext, hw⟩ := Visit.next?_of_pointsOn (pointsOn_away rfl hanswer rfl)
  have hvisits : visits (pouring headers, awayWorld) = [pouringVisit headers, w] :=
    (visits_ok rfl).trans (Visit.route_on hnext 0)
  exact ⟨w, by rw [hvisits]; rfl, hw⟩

/-- Without a header that announces the stream, the second request announces nothing. -/
theorem announces_of_dropped_unset :
    (pouring .empty).payload = some (.stream ⟨[[97], [98, 99]], .eof⟩) ∧
      ∃ w, (visits (pouring .empty, awayWorld))[1]? = some w ∧ w.url = away ∧
        w.Bare (pouring .empty) ∧ AnnouncesNone w.fields := by
  obtain ⟨w, hsecond, hw⟩ := second_visit_pouring .empty (by rfl) (by rfl)
  obtain ⟨hbare, hnone⟩ :=
    (announces_of_dropped (pouring .empty) _ rfl awayWorld).2.1 0 w hsecond
  exact ⟨rfl, w, hsecond, hw, hbare, hnone.2 ⟨rfl, nofun⟩⟩

/-- The length of the stream. -/
def threeBytes : Headers := Headers.empty.insert .contentLength (.ofText "3")

/-- **With the length of the stream, the second request promises three bytes**, and sends none. -/
theorem announces_dropped_length :
    ∃ w, (visits (pouring threeBytes, awayWorld))[1]? = some w ∧ w.url = away ∧
      w.Bare (pouring threeBytes) ∧ valuesOf .contentLength w.fields = [.ofText "3"] ∧
      ¬ AnnouncesNone w.fields := by
  obtain ⟨w, hsecond, hw⟩ := second_visit_pouring threeBytes (by rfl) (by rfl)
  have hbare : w.Bare (pouring threeBytes) := Visit.bare_of_stream rfl hsecond
  have hvalue : valuesOf .contentLength w.fields = [.ofText "3"] := by
    rw [hbare.fields,
      (Visit.of_mem (List.mem_of_getElem? hsecond)).valuesOf_headers (by decide)]
    rfl
  refine ⟨w, hsecond, hw, hbare, hvalue, fun hnone => ?_⟩
  have hzero := hnone.noLength (.ofText "3") (by rw [hvalue]; exact List.mem_singleton_self _)
  exact absurd hzero (by decide)

end Http

end UrlTransfer
