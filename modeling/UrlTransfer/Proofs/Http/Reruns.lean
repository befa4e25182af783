/-
# What a request is after it has run

A request can be run again, and a run changes it: its headers, where the host is named in them, its
payload, which is taken at the start and comes back at the end, and its resolver.  Everything else
is kept (`Request.kept`).

`Visit.Of` says what all visits of one transfer have in common.  The first visit has it, each visit
passes it on to the next, and so the last one, which leaves the request as it is for the next run
(`after_transfer`).  Runs follow one another in any worlds (`Request.afterRuns`), as the caller may
do anything to the client between them.
-/
import UrlTransfer.Http.Response
import UrlTransfer.Proofs.Http.Redirections

namespace UrlTransfer

namespace Http

/-! ## 1. Headers that are inserted again -/

theorem Headers.insertTo_insertTo (name : HeaderName) (value value' : HeaderValue)
    (entries : List (HeaderName × List HeaderValue)) :
    insertTo name value' (insertTo name value entries) = insertTo name value' entries := by
  induction entries with
  | nil => simp [insertTo]
  | cons entry rest ih =>
    obtain ⟨n, values⟩ := entry
    by_cases hn : n = name
    · simp [insertTo, hn]
    · simp [insertTo, hn, ih]

/-- **The last value that is inserted counts.** -/
theorem Headers.insert_insert (name : HeaderName) (value value' : HeaderValue) (h : Headers) :
    (h.insert name value).insert name value' = h.insert name value' := by
  unfold insert
  rw [insertTo_insertTo]

theorem Headers.contains_insert (name : HeaderName) (value : HeaderValue) (h : Headers) :
    (h.insert name value).contains name = true := by
  unfold contains get?
  rw [values_insert, if_pos rfl]
  rfl

/-! ## 2. The visits of one transfer -/

/-- The part of a request that no run changes. -/
def Request.kept (r : Request) : Request :=
  { r with headers := .empty, payload := none, resolver := none }

theorem Request.target_of_kept {r r' : Request} (h : r.kept = r'.kept) : r.target = r'.target := by
  have htarget : r.kept.target = r'.kept.target := by rw [h]
  exact htarget

theorem Request.method_of_kept {r r' : Request} (h : r.kept = r'.kept) : r.method = r'.method := by
  have hmethod : r.kept.method = r'.kept.method := by rw [h]
  exact hmethod

namespace Visit

/-- What a visit has from the transfer that it belongs to. -/
structure Of (s : Running) (v : Visit) : Prop where
  kept : v.before.1.kept = s.1.kept
  spent : v.before.1.payload = none
  named : v.named = s.1.headers.contains .host
  headers : v.headers = if s.1.headers.contains .host then s.1.headers
    else s.1.headers.insert .host (hostHeader v.url)
  payload : s.1.payload.all Payload.isRepeatable → v.payload = s.1.payload

theorem after_kept (v : Visit) : v.after.1.kept = v.before.1.kept := by
  have h : v.after.1.unresolving.kept = v.request.unresolving.kept := by rw [v.after_request]
  exact h

theorem after_headers (v : Visit) : v.after.1.headers = v.headers := by
  have h : v.after.1.unresolving.headers = v.request.unresolving.headers := by
    rw [v.after_request]
  exact h

theorem after_payload (v : Visit) : v.after.1.payload = v.before.1.payload := by
  have h : v.after.1.unresolving.payload = v.request.unresolving.payload := by
    rw [v.after_request]
  exact h

variable {s : Running}

theorem of_first (s : Running) (url : Url) : (firstVisit s url).Of s where
  kept := rfl
  spent := rfl
  named := rfl
  headers := rfl
  payload := fun _ => rfl

/-- **A visit passes on what it has from the transfer.** -/
theorem Of.leads {scheme : String} {v w : Visit} (hv : v.Of s) (h : v.Leads scheme w) : w.Of s where
  kept := by rw [h.before, v.after_kept, hv.kept]
  spent := by rw [h.before, v.after_payload, hv.spent]
  named := by rw [h.named, hv.named]
  headers := by
    have hheaders : w.headers = if w.named then v.headers
        else v.headers.insert .host (hostHeader w.url) := by
      rw [← v.after_headers, ← h.before]
      rfl
    rw [hheaders, h.named, hv.named, hv.headers]
    cases s.1.headers.contains .host with
    | true => rfl
    | false => exact Headers.insert_insert ..
  payload := fun hall => by
    rw [h.payload, hv.payload hall]
    cases hp : s.1.payload with
    | none => rfl
    | some payload =>
      rw [hp] at hall
      exact Option.filter_some_pos hall

theorem of_mem {v : Visit} (h : v ∈ visits s) : v.Of s :=
  forall_visits (fun url _ => of_first s url) (fun _ _ _ _ hleads hv => hv.leads hleads) v h

end Visit

/-! ## 3. One run -/

/-- Looking at the body does not change anything any more. -/
theorem after_run (s : Running) : Act.after Request.run s = Act.after transfer s := by
  unfold Request.run
  cases h : transfer s with
  | error halt t => rw [Act.after_bind_error h, Act.after_error h]
  | ok e t =>
    have hget : (get : Act Error Running Running) t = .ok t t := rfl
    rw [Act.after_bind_ok h, Act.after_bind_ok hget, Act.after_ok h]
    dsimp only
    split <;> rfl

/-- **What a transfer leaves of a request**, by the last of its visits. -/
theorem after_transfer {s : Running} {url : Url} (h : s.1.target.state = .ok url) :
    ∃ last, (visits s).getLast? = some last ∧
      (Act.after transfer s).1.kept = s.1.kept ∧
      (Act.after transfer s).1.headers = last.headers ∧
      (s.1.payload.all Payload.isRepeatable → (Act.after transfer s).1.payload =
        if (Act.value? transfer s).isSome then s.1.payload else none) := by
  obtain ⟨last, hlast, hends⟩ := (journey h).ends
  have hof := Visit.of_mem (List.mem_of_getLast? hlast)
  obtain ⟨-, payload, hstate⟩ := hends.state
  refine ⟨last, hlast, ?_, ?_, fun hall => ?_⟩
  · rw [hstate]
    exact last.after_kept.trans hof.kept
  · rw [hstate]
    exact last.after_headers
  · cases htransfer : transfer s with
    | error halt t =>
      rw [htransfer] at hends
      have hspent : t.1.payload = none := by
        cases hends <;> exact last.after_payload.trans hof.spent
      rw [Act.after_error htransfer, Act.value?_error htransfer]
      exact hspent
    | ok e t =>
      rw [htransfer] at hends
      rw [Act.after_ok htransfer, Act.value?_ok htransfer, Option.isSome_some,
        if_pos rfl]
      cases hends with
      | arrived hanswer =>
        have hleft := (Visit.answer?_left hanswer).2
        rw [hof.payload hall] at hleft
        exact hleft hall

/-- A request without a URL makes no visits, and is left without one. -/
theorem after_transfer_error {s : Running} {fault : Error} (h : s.1.target.state = .error fault) :
    visits s = [] ∧ (Act.after transfer s).1.target.state = .error .invalidRequest := by
  constructor
  · unfold visits
    rw [h]
  · rw [Act.after_error (transfer_error h)]

/-! ## 4. Many runs -/

namespace Request

/-- The request behind a run in some world. -/
def afterRun (r : Request) (c : Client) : Request := (Act.after run (r, c)).1

/-- The request behind runs in these worlds, one after the other. -/
def afterRuns (r : Request) (clients : List Client) : Request := clients.foldl afterRun r

theorem afterRuns_cons (r : Request) (c : Client) (clients : List Client) :
    r.afterRuns (c :: clients) = (r.afterRun c).afterRuns clients := rfl

/-- **Runs keep what a run keeps.** -/
theorem afterRuns_kept {r : Request} {url : Url} (h : r.target.state = .ok url)
    (clients : List Client) : (r.afterRuns clients).kept = r.kept := by
  induction clients generalizing r with
  | nil => rfl
  | cons c clients ih =>
    obtain ⟨last, -, hkept, -, -⟩ := after_transfer (s := (r, c)) h
    rw [← after_run] at hkept
    have htarget : (r.afterRun c).target = r.target := target_of_kept hkept
    rw [afterRuns_cons, ih (by rw [htarget, h])]
    exact hkept

/-- Every run goes to the URL of the request. -/
theorem exists_visit {r : Request} {url : Url} (h : r.target.state = .ok url)
    (clients : List Client) (c : Client) :
    ∃ v ∈ visits (r.afterRuns clients, c), v.url = url := by
  have htarget : (r.afterRuns clients).target = r.target :=
    target_of_kept (afterRuns_kept h clients)
  have hjourney := journey (s := (r.afterRuns clients, c)) (by rw [htarget, h])
  exact ⟨_, List.mem_of_head? hjourney.first, rfl⟩

/-- A request without a URL makes no visits, however often it is run. -/
theorem visits_afterRuns_error {r : Request} {fault : Error} (h : r.target.state = .error fault)
    (clients : List Client) (c : Client) : visits (r.afterRuns clients, c) = [] := by
  induction clients generalizing r fault with
  | nil => exact (after_transfer_error (s := (r, c)) h).1
  | cons d clients ih =>
    have htarget := (after_transfer_error (s := (r, d)) h).2
    rw [← after_run] at htarget
    exact ih htarget

end Request

/-- **The record of a run** is that of its visits. -/
theorem links_after_run (s : Running) :
    (Act.after Request.run s).2.system.links =
      s.2.system.links ++ (visits s).flatMap Visit.links := by
  rw [after_run]
  cases h : s.1.target.state with
  | error fault =>
    rw [(after_transfer_error h).1, Act.after_error (transfer_error h)]
    exact (List.append_nil _).symm
  | ok url => exact (journey h).record

end Http

end UrlTransfer
