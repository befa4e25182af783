/-
# The host that a request names

A request names the host of the URL that it goes to, unless the caller has set that header.  Whether
the caller has is told from the headers of the request, once for each transfer; and the host is
named in these same headers.  So in its first run a request names the host of every URL that it goes
to, and in all later runs the host that it has named last, whatever the URL (`headers_afterRuns`).

Either way there is one such field in every head that is sent.  It holds the host of the URL in the
first run, and later exactly where that is also the host of the last URL of the first run
(`hosts_of_runs`).
-/
import UrlTransfer.Proofs.Http.Reruns

namespace UrlTransfer

namespace Http

/-! ## 1. The values of a name -/

/-- The values that header fields give to a name. -/
def valuesOf (name : HeaderName) (fields : List (HeaderName × HeaderValue)) : List HeaderValue :=
  (fields.filter (·.1 = name)).map Prod.snd

theorem valuesOf_append (name : HeaderName) (fields more : List (HeaderName × HeaderValue)) :
    valuesOf name (fields ++ more) = valuesOf name fields ++ valuesOf name more := by
  unfold valuesOf
  rw [List.filter_append, List.map_append]

/-- The values of one entry of a table. -/
theorem valuesOf_entry (name other : HeaderName) (values : List HeaderValue) :
    valuesOf name (values.map (other, ·)) = if other = name then values else [] := by
  unfold valuesOf
  rw [List.filter_map, List.map_map]
  split
  · next h => simp [h, Function.comp_def]
  · next h => simp [h, Function.comp_def]

namespace Headers

theorem valuesOf_cons (name other : HeaderName) (values : List HeaderValue)
    (rest : List (HeaderName × List HeaderValue)) :
    valuesOf name (toList ⟨(other, values) :: rest⟩) =
      (if other = name then values else []) ++ valuesOf name (toList ⟨rest⟩) := by
  unfold toList
  rw [List.flatMap_cons, valuesOf_append, valuesOf_entry]

/-- A name without a value is not in the table. -/
theorem contains_of_unset {name : HeaderName} {h : Headers} (hunset : valuesOf name h.toList = []) :
    h.contains name = false := by
  obtain ⟨entries⟩ := h
  unfold contains get? values
  induction entries with
  | nil => rfl
  | cons entry rest ih =>
    obtain ⟨n, values⟩ := entry
    rw [valuesOf_cons, List.append_eq_nil_iff] at hunset
    by_cases hn : n = name
    · rw [if_pos hn] at hunset
      simp [hn, hunset.1]
    · have hne : (name == n) = false := by simp [Ne.symm hn]
      rw [List.lookup_cons, hne]
      exact ih hunset.2

/-- **A name without a value has one when it is inserted**, and no other. -/
theorem valuesOf_insert {name : HeaderName} {h : Headers} (hunset : valuesOf name h.toList = [])
    (value : HeaderValue) : valuesOf name (h.insert name value).toList = [value] := by
  obtain ⟨entries⟩ := h
  unfold insert
  induction entries with
  | nil =>
    rw [insertTo, valuesOf_cons, if_pos rfl]
    rfl
  | cons entry rest ih =>
    obtain ⟨n, values⟩ := entry
    rw [valuesOf_cons, List.append_eq_nil_iff] at hunset
    by_cases hn : n = name
    · rw [insertTo, if_pos hn, valuesOf_cons, if_pos hn, hunset.2]
      rfl
    · rw [insertTo, if_neg hn, valuesOf_cons, if_neg hn]
      exact ih hunset.2

/-- The values of other names stay when one is inserted. -/
theorem valuesOf_insert_ne {name other : HeaderName} (hother : other ≠ name) (value : HeaderValue)
    (h : Headers) : valuesOf other (h.insert name value).toList = valuesOf other h.toList := by
  obtain ⟨entries⟩ := h
  unfold insert
  induction entries with
  | nil =>
    rw [insertTo, valuesOf_cons, if_neg (Ne.symm hother)]
    rfl
  | cons entry rest ih =>
    obtain ⟨n, values⟩ := entry
    by_cases hn : n = name
    · subst hn
      rw [insertTo, if_pos rfl, valuesOf_cons, valuesOf_cons, if_neg (Ne.symm hother),
        if_neg (Ne.symm hother)]
    · rw [insertTo, if_neg hn, valuesOf_cons, valuesOf_cons, ih]

/-- No name stands twice in the table. -/
def Distinct (h : Headers) : Prop := (h.entries.map Prod.fst).Nodup

/-- Inserting adds a name only if it is not in the table. -/
theorem names_insertTo (name : HeaderName) (value : HeaderValue)
    (entries : List (HeaderName × List HeaderValue)) :
    (insertTo name value entries).map Prod.fst =
      entries.map Prod.fst ++ if name ∈ entries.map Prod.fst then [] else [name] := by
  induction entries with
  | nil => rfl
  | cons entry rest ih =>
    obtain ⟨n, values⟩ := entry
    by_cases hn : n = name
    · simp [insertTo, hn]
    · simp only [insertTo, if_neg hn, List.map_cons, ih, List.mem_cons, Ne.symm hn, false_or,
        List.cons_append]

theorem Distinct.insert {h : Headers} (hdistinct : h.Distinct) (name : HeaderName)
    (value : HeaderValue) : (h.insert name value).Distinct := by
  unfold Distinct Headers.insert
  rw [names_insertTo]
  split
  · rwa [List.append_nil]
  · next hnew =>
    refine List.nodup_append.2 ⟨hdistinct, List.pairwise_singleton _ name, ?_⟩
    rintro n hn _ hname rfl
    exact hnew (List.mem_singleton.1 hname ▸ hn)

/-- **A table that has every name once gives a name the values that it has for it.** -/
theorem Distinct.valuesOf {h : Headers} (hdistinct : h.Distinct) (name : HeaderName) :
    valuesOf name h.toList = h.values name := by
  obtain ⟨entries⟩ := h
  unfold Distinct at hdistinct
  induction entries with
  | nil => rfl
  | cons entry rest ih =>
    obtain ⟨n, values⟩ := entry
    obtain ⟨hnew, hrest⟩ := List.nodup_cons.1 hdistinct
    have hlater := ih hrest
    rw [valuesOf_cons]
    unfold Headers.values at hlater ⊢
    by_cases hn : n = name
    · subst hn
      have hnone : rest.lookup n = none :=
        List.lookup_eq_none_iff.2 fun p hp => by
          have hne : n ≠ p.1 := fun h => hnew (h ▸ List.mem_map.2 ⟨p, hp, rfl⟩)
          simpa using hne
      rw [hnone] at hlater
      simp [hlater]
    · have hne : (name == n) = false := by simp [Ne.symm hn]
      simp [hn, hne, hlater, List.lookup_cons]

end Headers

/-- What a payload adds to the headers does not name a host. -/
theorem valuesOf_framingHeaders (headers : Headers) (payload : Option Payload) :
    valuesOf .host (framingHeaders headers payload) = [] := by
  unfold framingHeaders
  split
  · rfl
  · split <;> rfl
  · split <;> rfl

/-! ## 2. Headers from run to run -/

theorem Visit.Of.headers_named {s : Running} {v : Visit} (hv : v.Of s)
    (hnamed : s.1.headers.contains .host = true) : v.headers = s.1.headers :=
  hv.headers.trans (if_pos hnamed)

theorem Visit.Of.headers_unnamed {s : Running} {v : Visit} (hv : v.Of s)
    (hunnamed : s.1.headers.contains .host = false) :
    v.headers = s.1.headers.insert .host (hostHeader v.url) :=
  hv.headers.trans (if_neg (by rw [hunnamed]; exact Bool.false_ne_true))

/-- Once a host is named, no run changes the headers. -/
theorem headers_afterRuns_named {r : Request} {url : Url} (h : r.target.state = .ok url)
    (hnamed : r.headers.contains .host = true) (clients : List Client) :
    (r.afterRuns clients).headers = r.headers := by
  induction clients generalizing r with
  | nil => rfl
  | cons c clients ih =>
    obtain ⟨last, hlast, hkept, hheaders, -⟩ := after_transfer (s := (r, c)) h
    have hsame : last.headers = r.headers :=
      (Visit.of_mem (List.mem_of_getLast? hlast)).headers_named hnamed
    rw [← after_run] at hkept hheaders
    have htarget : (r.afterRun c).target = r.target := Request.target_of_kept hkept
    have hafter : (r.afterRun c).headers = r.headers := hheaders.trans hsame
    rw [Request.afterRuns_cons, ih (by rw [htarget, h]) (by rw [hafter, hnamed]), hafter]

/-- **The host that is named last in the first run stays** in all runs behind it. -/
theorem headers_afterRuns {r : Request} {url : Url} (h : r.target.state = .ok url)
    (hunset : r.headers.contains .host = false) (first : Client) (later : List Client) :
    ∃ last, (visits (r, first)).getLast? = some last ∧
      (r.afterRuns (first :: later)).headers = r.headers.insert .host (hostHeader last.url) := by
  obtain ⟨last, hlast, hkept, hheaders, -⟩ := after_transfer (s := (r, first)) h
  refine ⟨last, hlast, ?_⟩
  have hnames : last.headers = r.headers.insert .host (hostHeader last.url) :=
    (Visit.of_mem (List.mem_of_getLast? hlast)).headers_unnamed hunset
  rw [← after_run] at hkept hheaders
  have htarget : (r.afterRun first).target = r.target := Request.target_of_kept hkept
  have hafter : (r.afterRun first).headers = _ := hheaders.trans hnames
  rw [Request.afterRuns_cons, headers_afterRuns_named (by rw [htarget, h])
    (by rw [hafter, Headers.contains_insert]), hafter]

/-! ## 3. The heads that are sent -/

/-- The header fields of a visit: those of the request, and those that its payload adds. -/
def Visit.fields (v : Visit) : List (HeaderName × HeaderValue) :=
  v.headers.toList ++ framingHeaders v.headers v.payload

theorem Visit.valuesOf_host (v : Visit) :
    valuesOf .host v.fields = valuesOf .host v.headers.toList := by
  unfold fields
  rw [valuesOf_append, valuesOf_framingHeaders, List.append_nil]

theorem Visit.head_eq {r : Request} {url : Url} (h : r.target.state = .ok url)
    {clients : List Client} {c : Client} {v : Visit} (hv : v ∈ visits (r.afterRuns clients, c)) :
    v.head = requestHead r.method v.url v.fields := by
  have hmethod : v.before.1.method = r.method :=
    Request.method_of_kept ((of_mem hv).kept.trans (Request.afterRuns_kept h clients))
  rw [← hmethod]
  rfl

/-- The last URL of the first run of a request, if it has run before. -/
def lastOfFirst (r : Request) : List Client → Option Url
  | [] => none
  | first :: _ => (visits (r, first)).getLast?.map Visit.url

/-- The host that a visit names: that of its URL, or that of the last URL of the first run. -/
theorem valuesOf_host {r : Request} (hunset : valuesOf .host r.headers.toList = [])
    {url : Url} (h : r.target.state = .ok url)
    {clients : List Client} {c : Client} {v : Visit} (hv : v ∈ visits (r.afterRuns clients, c)) :
    valuesOf .host v.fields = [hostHeader ((lastOfFirst r clients).getD v.url)] := by
  have hfree := Headers.contains_of_unset hunset
  have hof := Visit.of_mem hv
  rw [v.valuesOf_host]
  cases clients with
  | nil =>
    rw [hof.headers_unnamed hfree]
    exact Headers.valuesOf_insert hunset _
  | cons first later =>
    obtain ⟨last, hlast, hheaders⟩ := headers_afterRuns h hfree first later
    have hlastOf : lastOfFirst r (first :: later) = some last.url :=
      congrArg (Option.map Visit.url) hlast
    rw [hof.headers_named (by rw [hheaders, Headers.contains_insert]), hheaders, hlastOf]
    exact Headers.valuesOf_insert hunset _

/-! ## 4. A request that is led away in its first run -/

/-- A URL with the address `::1` for its host. -/
def home : Url where
  scheme := "http"
  host := some (.ipv6 ⟨[0, 0, 0, 0, 0, 0, 0, 1], rfl⟩)
  path := .segments [""]

/-- A URL with the address `::2` for its host. -/
def away : Url where
  scheme := "http"
  host := some (.ipv6 ⟨[0, 0, 0, 0, 0, 0, 0, 2], rfl⟩)
  path := .segments [""]

/-- A request to `home` that follows one redirection. -/
def wanderer : Request where
  target := ⟨.ok home⟩
  method := .get
  secure := false
  resolver := some {}
  redirects := 1

/-- The line `HTTP/1.1 302 Found`. -/
def awayStatusLine : Bytes :=
  [72, 84, 84, 80, 47, 49, 46, 49, 32, 51, 48, 50, 32, 70, 111, 117, 110, 100, 13, 10]

/-- The line `location: //[::2]/`. -/
def awayLine : Bytes :=
  [108, 111, 99, 97, 116, 105, 111, 110, 58, 32, 47, 47, 91, 58, 58, 50, 93, 47, 13, 10]

/-- A response that points to `away`. -/
def awayResponse : Bytes := awayStatusLine ++ (awayLine ++ Bytes.crlf)

/-- The location that the response points to. -/
def awayLocation : HeaderValue := ⟨[47, 47, 91, 58, 58, 50, 93, 47]⟩

/-- A world with one peer, who sends that response. -/
def awayWorld : Client :=
  { system := { outgoing := [.made { inflow := ⟨[awayResponse], .eof⟩ }] } }

/-- The head of the response. -/
def awayHead : Head :=
  ⟨.http11, ⟨302, by omega, by omega⟩, Headers.empty.append .location awayLocation⟩

theorem heads_away : Heads Reader.defaultCapacity wanderer awayResponse awayHead [] := by
  have hstatus : IsStatusLine Reader.defaultCapacity awayStatusLine .http11 awayHead.status :=
    ⟨⟨awayStatusLine.dropLast, by decide, by decide⟩, by decide, "HTTP/1.1 302 Found",
      by decide +kernel, by decide +kernel⟩
  have hfield : IsFieldLine Reader.defaultCapacity awayLine ⟨.location, awayLocation, 20⟩ :=
    ⟨⟨awayLine.dropLast, by decide, by decide⟩, by decide, ⟨"location: //[::2]/",
      by decide +kernel, by decide +kernel, by decide +kernel⟩, rfl⟩
  have hblank : HeaderLines Reader.defaultCapacity Bytes.crlf [] :=
    .blank ⟨[13], by decide, by decide⟩ (by decide) (by decide +kernel)
  have haccepts : wanderer.Accepts .http11 := rfl
  have hsplit : awayResponse = awayStatusLine ++ ((awayLine ++ Bytes.crlf) ++ []) := by
    rw [List.append_nil]
    rfl
  rw [hsplit]
  exact .fields (by decide +kernel) (by decide) hstatus haccepts (.field hfield hblank)
    (by decide)

/-- The connection that the first visit gets. -/
def awayConnected : Connected where
  conn := ⟨0, ⟨.v6 ⟨[0, 0, 0, 0, 0, 0, 0, 1], rfl⟩, 80, 0⟩, ⟨[awayResponse], .eof⟩, none, false⟩
  tries := 1

/-- The first visit of the request in that world. -/
def awayVisit : Visit := firstVisit (wanderer, awayWorld) home

theorem answer?_awayVisit : ∃ e, awayVisit.answer? = some (e, none) ∧ e.head = awayHead := by
  have hconnect : Act.value? (connect home) awayVisit.start = some awayConnected := by rfl
  have hsay : Act.value? (say (Act.after (connect home) awayVisit.start).1 home none awayConnected)
      (Act.after (connect home) awayVisit.start) = some none := by rfl
  obtain ⟨reader, htake, -⟩ := takeHead_of_heads (r := Reader.ofInflow awayConnected.conn.inflow)
    (Reader.fits_ofInflow _) mark_fits heads_away
  have hhear (s : Running) : hear wanderer awayConnected s = .ok (awayHead, reader) s := by
    unfold hear Act.aside
    rw [htake]
  exact ⟨_, Visit.answer?_of_parts (v := awayVisit) (Act.eq_ok_of_value? hconnect)
    (Act.eq_ok_of_value? hsay) (hhear _), rfl⟩

/-- From `home`, an answer with that head points to `away`. -/
theorem pointsOn_away {v : Visit} {e : Exchange} {left : Option Payload} (hurl : v.url = home)
    (hanswer : v.answer? = some (e, left)) (hhead : e.head = awayHead) :
    v.PointsOn home.scheme away := by
  have htext : awayLocation.text? = some "//[::2]/" := by decide +kernel
  have hjoin : home.join "//[::2]/" = .ok away := by decide +kernel
  have hlocation : awayHead.location? = some awayLocation := rfl
  exact ⟨e, left, awayLocation, _, hanswer, by rw [hhead]; exact Head.location?_eq_some.1 hlocation,
    htext, by rw [hurl]; exact hjoin, rfl⟩

theorem lastOfFirst_away : lastOfFirst wanderer [awayWorld] = some away := by
  obtain ⟨e, hanswer, hhead⟩ := answer?_awayVisit
  obtain ⟨w, hnext, hw⟩ := Visit.next?_of_pointsOn (pointsOn_away rfl hanswer hhead)
  have hvisits : visits (wanderer, awayWorld) = [awayVisit, w] :=
    (visits_ok rfl).trans (Visit.route_on hnext 0)
  show (visits (wanderer, awayWorld)).getLast?.map Visit.url = some away
  rw [hvisits, ← hw]
  rfl

/-! ## 5. The host of every run -/

/-- **Every head that a request sends has one field for the host**, in any run and any world, if the
caller has set none.  It names the host of its URL exactly if the run is the first, or the last URL
of the first run has the same host. -/
theorem hosts_of_runs (r : Request) (hunset : valuesOf .host r.headers.toList = [])
    (clients : List Client) (c : Client) :
    (Act.after Request.run (r.afterRuns clients, c)).2.system.links =
        c.system.links ++ (visits (r.afterRuns clients, c)).flatMap Visit.links ∧
      ∀ v ∈ visits (r.afterRuns clients, c), v.Leaves v.links v.answer? ∧
        ∃ fields value, v.head = requestHead r.method v.url fields ∧
          valuesOf .host fields = [value] ∧
          (value = hostHeader v.url ↔
            ∀ last ∈ lastOfFirst r clients, hostHeader last = hostHeader v.url) := by
  refine ⟨links_after_run _, fun v hv => ⟨v.leaves, v.fields, ?_⟩⟩
  cases h : r.target.state with
  | error fault =>
    rw [Request.visits_afterRuns_error h] at hv
    cases hv
  | ok url =>
    refine ⟨_, Visit.head_eq h hv, valuesOf_host hunset h hv, ?_⟩
    cases lastOfFirst r clients with
    | none => simp
    | some last => simp

/-- In its first run, a request that is led away names both hosts in turn. -/
theorem hosts_of_runs_awayWorld : valuesOf .host wanderer.headers.toList = [] ∧
    ∀ v ∈ visits (wanderer.afterRuns [], awayWorld), ∃ fields,
      v.head = requestHead .get v.url fields ∧ valuesOf .host fields = [hostHeader v.url] := by
  refine ⟨rfl, fun v hv => ?_⟩
  obtain ⟨-, fields, value, hhead, hvalue, hown⟩ := (hosts_of_runs wanderer rfl [] awayWorld).2 v hv
  refine ⟨fields, hhead, ?_⟩
  rw [hvalue, hown.2 nofun]

/-- In its second run, it names the host that it was led to on its way to the other. -/
theorem hosts_of_runs_stale : valuesOf .host wanderer.headers.toList = [] ∧
    ∃ v ∈ visits (wanderer.afterRuns [awayWorld], awayWorld), v.url = home ∧
      valuesOf .host v.fields = [hostHeader away] ∧ hostHeader away ≠ hostHeader v.url := by
  obtain ⟨v, hv, hurl⟩ := Request.exists_visit (r := wanderer) rfl [awayWorld] awayWorld
  have hvalue := valuesOf_host (r := wanderer) rfl rfl hv
  rw [lastOfFirst_away] at hvalue
  have hother : hostHeader away ≠ hostHeader home := by decide +kernel
  exact ⟨rfl, v, hv, hurl, hvalue, by rw [hurl]; exact hother⟩

end Http

end UrlTransfer
