/-
# Failures that are reported when a request runs

A request is built by calls that never fail at once.  What is wrong with its URL or with a header
is kept in its target, where a later failure takes the place of an earlier one; a run reports it,
and leaves word that the request is invalid.

Two kinds of requests are built in this way, and each of them is a `Builder`: a call and a run do
to the target what these two sentences say.  So the target shows at any time which failure was the
last, and whether a run has come since, over all sequences of calls and runs
(`Builder.state_of_lastFailure`).  With a failure in its target, a run does nothing but report it
(`Http.Request.run_of_failure`, `WebSocket.Request.run_of_failure`): no name is looked for, nobody
is dialled, and nothing is said.
-/
import UrlTransfer.Proofs.WebSocket.Opening

namespace UrlTransfer

/-! ## 1. Steps of a request -/

/-- What is done with a request: a call sets something, or a client runs it. -/
inductive Step (κ : Type) where
  | call (call : κ)
  | run (c : Client)

namespace Step

/-- Is it a run? -/
def isRun {κ : Type} : Step κ → Bool
  | call _ => false
  | run _ => true

end Step

/-- The failure that a run reports, if `fault` was the last and these steps came since. -/
def due {κ : Type} (fault : Error) (since : List (Step κ)) : Error :=
  if since.any Step.isRun then .invalidRequest else fault

/-- A kind of requests that are built by calls. -/
structure Builder (ρ κ : Type) where
  target : ρ → Target
  apply : κ → ρ → ρ
  /-- What is wrong with a call. -/
  failure? : κ → Option Error
  /-- What a run leaves of a request. -/
  run : Client → ρ → ρ
  target_apply : ∀ call r, target (apply call r) =
    match failure? call with
    | some fault => (target r).fail fault
    | none => target r
  target_run : ∀ c r, target (run c r) = Act.after Target.finalize (target r)

namespace Builder

variable {ρ κ : Type} (b : Builder ρ κ)

/-- A request behind a step. -/
def step (r : ρ) : Step κ → ρ
  | .call call => b.apply call r
  | .run c => b.run c r

/-- A request behind some steps, one after the other. -/
def behind (steps : List (Step κ)) (r : ρ) : ρ := steps.foldl b.step r

/-- No call of these steps fails. -/
inductive Faultless : List (Step κ) → Prop where
  | nil : Faultless []
  | call {call : κ} {steps : List (Step κ)} (valid : b.failure? call = none)
      (rest : Faultless steps) : Faultless (.call call :: steps)
  | run {c : Client} {steps : List (Step κ)} (rest : Faultless steps) :
      Faultless (.run c :: steps)

/-- The last failure in the life of a request, and the steps that came since: it is that of a call,
or that of the URL, which came first. -/
inductive LastFailure (url : Option Error) : List (Step κ) → Error → List (Step κ) → Prop where
  | url {fault : Error} {since : List (Step κ)} (spoiled : url = some fault)
      (faultless : b.Faultless since) : LastFailure url since fault since
  | call (before : List (Step κ)) {since : List (Step κ)} {call : κ} {fault : Error}
      (fails : b.failure? call = some fault) (faultless : b.Faultless since) :
      LastFailure url (before ++ .call call :: since) fault since

variable {b} {r : ρ} {steps since : List (Step κ)} {fault : Error}

/-- Among steps of which one fails, there is a last that does. -/
theorem faultless_or_last (b : Builder ρ κ) (steps : List (Step κ)) : b.Faultless steps ∨
    ∃ before call since fault, steps = before ++ .call call :: since ∧
      b.failure? call = some fault ∧ b.Faultless since := by
  induction steps with
  | nil => exact .inl .nil
  | cons step rest ih =>
    rcases ih with hrest | ⟨before, call, since, fault, rfl, hfails, hsince⟩
    · cases step with
      | run c => exact .inl (.run hrest)
      | call call =>
        cases hcall : b.failure? call with
        | none => exact .inl (.call hcall hrest)
        | some fault => exact .inr ⟨[], call, rest, fault, rfl, hcall, hrest⟩
    · exact .inr ⟨step :: before, call, since, fault, rfl, hfails, hsince⟩

/-- Where anything has failed, something was the last to fail. -/
theorem clear_or_lastFailure (b : Builder ρ κ) (url : Option Error) (steps : List (Step κ)) :
    (url = none ∧ b.Faultless steps) ∨ ∃ fault since, b.LastFailure url steps fault since := by
  rcases faultless_or_last b steps with hnone | ⟨before, call, since, fault, rfl, hfails, hsince⟩
  · cases url with
    | none => exact .inl ⟨rfl, hnone⟩
    | some fault => exact .inr ⟨fault, steps, .url rfl hnone⟩
  · exact .inr ⟨fault, since, .call before hfails hsince⟩

theorem target_step_of_valid {call : κ} (valid : b.failure? call = none) (r : ρ) :
    b.target (b.step r (.call call)) = b.target r := by
  rw [step, b.target_apply, valid]

theorem target_step_run (c : Client) (r : ρ) :
    b.target (b.step r (.run c)) = Act.after Target.finalize (b.target r) :=
  b.target_run c r

/-- **A failure stays until it is reported**, and then the request stays invalid. -/
theorem state_of_faultless (h : b.Faultless since) (hr : (b.target r).state = .error fault) :
    (b.target (b.behind since r)).state = .error (due fault since) := by
  induction h generalizing r fault with
  | nil => exact hr
  | call valid _ ih => exact ih (by rw [target_step_of_valid valid, hr])
  | @run c rest _ ih =>
    have hinvalid : (b.target (b.step r (.run c))).state = .error .invalidRequest := by
      rw [target_step_run, Act.after_error (Target.finalize_error hr)]
    have hrest := ih hinvalid
    rw [due, ite_self] at hrest
    exact hrest

/-- A request without a failure keeps its URL. -/
theorem state_of_clear (h : b.Faultless steps) {url : Url} (hr : (b.target r).state = .ok url) :
    (b.target (b.behind steps r)).state = .ok url := by
  induction h generalizing r with
  | nil => exact hr
  | call valid _ ih => exact ih (by rw [target_step_of_valid valid, hr])
  | run _ ih => exact ih (by rw [target_step_run, Act.after_ok (Target.finalize_ok hr), hr])

/-- **The target holds the failure that is due**, whatever came before the last. -/
theorem state_of_lastFailure {url : Option Error} (h : b.LastFailure url steps fault since)
    (hr : ∀ fault ∈ url, (b.target r).state = .error fault) :
    (b.target (b.behind steps r)).state = .error (due fault since) := by
  cases h with
  | url spoiled faultless => exact state_of_faultless faultless (hr fault spoiled)
  | call before fails faultless =>
    rw [behind, List.foldl_append, List.foldl_cons]
    refine state_of_faultless faultless ?_
    rw [step, b.target_apply, fails]
    rfl

/-- What comes of running a request that was made with this failure of its URL, and went through
these steps: if anything has failed, so that there is a last failure, the run reports what is due
and leaves the client as `c'`; and if nothing has, the request has its URL. -/
structure Reports {α : Type} (b : Builder ρ κ) (url : Option Error) (r : ρ) (steps : List (Step κ))
    (run : Act Error (ρ × Client) α) (c c' : Client) : Prop where
  last : (url = none ∧ b.Faultless steps) ∨ ∃ fault since, b.LastFailure url steps fault since
  failed : ∀ fault since, b.LastFailure url steps fault since →
    ∃ r', run (b.behind steps r, c) = .error (.failed (due fault since)) (r', c')
  clear : url = none → b.Faultless steps →
    ∃ u, (b.target (b.behind steps r)).state = .ok u

/-- It is enough that the target starts with what the URL is, and that a run of a request with a
failure in its target reports that failure. -/
theorem reports_of_target {α : Type} {run : Act Error (ρ × Client) α} {url : Option Error}
    {c c' : Client} (hspoiled : ∀ fault ∈ url, (b.target r).state = .error fault)
    (hclear : url = none → ∃ u, (b.target r).state = .ok u)
    (hrun : ∀ {r fault}, (b.target r).state = .error fault →
      ∃ r', run (r, c) = .error (.failed fault) (r', c')) (steps : List (Step κ)) :
    b.Reports url r steps run c c' where
  last := clear_or_lastFailure b url steps
  failed _ _ h := hrun (state_of_lastFailure h hspoiled)
  clear hurl h := (hclear hurl).imp fun _ hu => state_of_clear h hu

end Builder

/-! ## 2. Failures of a URL -/

/-- What is wrong with a text that should be a URL with one of these schemes. -/
def urlFailure? (schemes : List String) (text : String) : Option Error :=
  match Url.parse text with
  | .error fault => some (.invalidUrl fault)
  | .ok url => if schemes.contains url.scheme then none else some (.invalidScheme url.scheme)

theorem urlFailure?_of_scheme {schemes : List String} {text : String} {url : Url}
    (h : Url.parse text = .ok url) (hscheme : schemes.contains url.scheme = false) :
    urlFailure? schemes text = some (.invalidScheme url.scheme) := by
  rw [urlFailure?, h]
  simp only [hscheme, Bool.false_eq_true, if_false]

/-- **The target of a text is its URL, or what is wrong with it.** -/
theorem state_parse (usual safe text : String) :
    (∀ fault ∈ urlFailure? [usual, safe] text,
      (Target.parse (fun scheme => scheme == usual || scheme == safe) text).state =
        .error fault) ∧
    (urlFailure? [usual, safe] text = none → ∃ url,
      (Target.parse (fun scheme => scheme == usual || scheme == safe) text).state = .ok url) := by
  unfold urlFailure? Target.parse
  cases Url.parse text with
  | error fault => simp
  | ok url =>
    by_cases hscheme : url.scheme = usual ∨ url.scheme = safe
    · simp [hscheme]
    · simp [hscheme]

/-! ## 3. Requests -/

namespace Http

/-- What a transfer does to the target is what reporting does to it. -/
theorem target_after_transfer (s : Running) :
    (Act.after transfer s).1.target = Act.after Target.finalize s.1.target := by
  cases htarget : s.1.target.state with
  | ok url =>
    obtain ⟨-, -, hkept, -⟩ := after_transfer htarget
    rw [Request.target_of_kept hkept, Act.after_ok (Target.finalize_ok htarget)]
  | error fault =>
    rw [Act.after_error (transfer_error htarget), Act.after_error (Target.finalize_error htarget)]

namespace Request

/-- A call on a request.  A header is given in any form that may turn out to be none. -/
inductive Call where
  | header (name : Except Error HeaderName) (value : Except Error HeaderValue)
  | port (n : Nat)
  | strategy (s : Strategy)
  | timeout (limit : Duration)
  | redirects (count : Nat)
  | maxHeaderSize (size : Nat)
  | versions (least greatest : Version)
  | resolver (own : Dns.Resolver)
  | payload (content : Payload)

namespace Call

/-- The request behind a call.  **What is wrong with a name counts before what is wrong with its
value.** -/
def apply : Call → Request → Request
  | header (.ok name) (.ok value), r => { r with headers := r.headers.insert name value }
  | header (.error fault) _, r => { r with target := r.target.fail fault }
  | header (.ok _) (.error fault), r => { r with target := r.target.fail fault }
  | port n, r => { r with port := n }
  | strategy s, r => { r with strategy := s }
  | timeout limit, r => { r with timeout := some limit }
  | redirects count, r => { r with redirects := count }
  | maxHeaderSize size, r => { r with maxHeaderSize := size }
  | versions least greatest, r => { r with minVersion := least, maxVersion := greatest }
  | resolver own, r => { r with resolver := some own }
  | payload content, r => { r with payload := some content }

/-- What is wrong with a call. -/
def failure? : Call → Option Error
  | header (.error fault) _ => some fault
  | header (.ok _) (.error fault) => some fault
  | _ => none

/-- A header that is given as two texts. -/
def text (name value : String) : Call :=
  header
    (match HeaderName.parse? name with
      | some name => .ok name
      | none => .error (.http .invalidHeaderName))
    (match HeaderValue.ofBytes? (Bytes.ofString value) with
      | some value => .ok value
      | none => .error (.http .invalidHeaderValue))

/-- Two texts are set as a request sets them. -/
theorem apply_text (name value : String) (r : Request) :
    (text name value).apply r = r.setHeader name value := by
  unfold text setHeader parseHeader
  cases HeaderName.parse? name <;> cases HeaderValue.ofBytes? (Bytes.ofString value) <;> rfl

/-- Of two texts that are neither a name nor a value, the name is what is wrong. -/
theorem failure?_text_of_name {name : String} (h : HeaderName.parse? name = none)
    (value : String) : (text name value).failure? = some (.http .invalidHeaderName) := by
  rw [text, h]
  rfl

theorem target_apply (call : Call) (r : Request) : (call.apply r).target =
    match call.failure? with
    | some fault => r.target.fail fault
    | none => r.target := by
  cases call with
  | header name value => cases name <;> cases value <;> rfl
  | _ => rfl

end Call

/-- Requests for a resource. -/
def builder : Builder Request Call where
  target := Request.target
  apply := Call.apply
  failure? := Call.failure?
  run c r := r.afterRun c
  target_apply := Call.target_apply
  target_run c r := by rw [afterRun, after_run, target_after_transfer]

/-- **With a failure, a run does nothing but report it.** -/
theorem run_of_failure {r : Request} {fault : Error} (h : r.target.state = .error fault)
    (c : Client) : ∃ r', run (r, c) = .error (.failed fault) (r', c) :=
  ⟨_, Act.bind_error (transfer_error (s := (r, c)) h)⟩

end Request

end Http

namespace WebSocket

namespace Request

/-- A call on a request for a session. -/
inductive Call where
  | http (call : Http.Request.Call)
  | options (set : Options → Options)

namespace Call

/-- The request behind a call. -/
def apply : Call → Request → Request
  | http call, r => { r with http := call.apply r.http }
  | options set, r => { r with options := set r.options }

/-- What is wrong with a call. -/
def failure? : Call → Option Error
  | http call => call.failure?
  | options _ => none

end Call

/-- Requests for a session. -/
def builder : Builder Request Call where
  target r := r.http.target
  apply := Call.apply
  failure? := Call.failure?
  run c r := (Act.after run (r, c)).1
  target_apply call r := by
    cases call with
    | http call => exact call.target_apply r.http
    | options set => rfl
  target_run c r := by
    rw [after_run_eq]
    exact Http.target_after_transfer (r.start c)

/-- **With a failure, a run does nothing but draw a key and report it**, though it sets headers of
its own first. -/
theorem run_of_failure {r : Request} {fault : Error} (h : r.http.target.state = .error fault)
    (c : Client) : ∃ r', run (r, c) = .error (.failed fault) (r', afterKey c) := by
  rw [run_eq, Http.transfer_error (s := r.start c) h]
  exact ⟨_, rfl⟩

end Request

end WebSocket

/-! ## 4. What runs report -/

/-- **Every failure is reported by the first run behind it**, unless another failure comes first,
and every run after that finds the request invalid: over all sequences of calls and runs of a
request for any text.  Of such a run the client does not notice anything, but that a session costs
it a key. -/
theorem failures_reported :
    (∀ (method : Http.Method) (text : String) (steps : List (Step Http.Request.Call))
      (c : Client), Http.Request.builder.Reports (urlFailure? ["http", "https"] text)
        (Http.Request.ofUrl method text) steps Http.Request.run c c) ∧
    (∀ (text : String) (steps : List (Step WebSocket.Request.Call)) (c : Client),
      WebSocket.Request.builder.Reports (urlFailure? ["ws", "wss"] text)
        (WebSocket.Request.ofUrl text) steps WebSocket.Request.run c (WebSocket.afterKey c)) := by
  constructor
  · intro method text steps c
    obtain ⟨hspoiled, hclear⟩ := state_parse "http" "https" text
    exact Builder.reports_of_target hspoiled hclear
      (fun h => Http.Request.run_of_failure h c) steps
  · intro text steps c
    obtain ⟨hspoiled, hclear⟩ := state_parse "ws" "wss" text
    exact Builder.reports_of_target hspoiled hclear
      (fun h => WebSocket.Request.run_of_failure h c) steps

/-- A request with a header whose name is none, and whose value is none either. -/
def misnamed : Http.Request :=
  { (Http.Request.ofUrl .get "http://[::1]/").setHeader "bad header" "\n" with port := 8080 }

/-- What is wrong with the name is reported, and then that the request is invalid.  For a session,
the scheme of the same URL is refused. -/
theorem failures_reported_misnamed :
    (∃ r, Http.Request.run (misnamed, {}) = .error (.failed (.http .invalidHeaderName)) (r, {})) ∧
    (∃ r, Http.Request.run (misnamed.afterRun {}, {}) =
      .error (.failed .invalidRequest) (r, {})) ∧
    (∃ r, WebSocket.Request.run (.ofUrl "http://[::1]/", {}) =
      .error (.failed (.invalidScheme "http")) (r, WebSocket.afterKey {})) := by
  let made := Http.Request.ofUrl .get "http://[::1]/"
  let misnaming : Step Http.Request.Call := .call (.text "bad header" "\n")
  let setting : Step Http.Request.Call := .call (.port 8080)
  have hmisnamed : misnamed = Http.Request.builder.behind [misnaming, setting] made := by
    rw [misnamed, ← Http.Request.Call.apply_text]
    rfl
  have hagain : misnamed.afterRun {} =
      Http.Request.builder.behind [misnaming, setting, .run {}] made := by
    rw [hmisnamed]
    rfl
  have hname : Http.HeaderName.parse? "bad header" = none := by decide +kernel
  have hfails := Http.Request.Call.failure?_text_of_name hname "\n"
  have hurl : Url.parse "http://[::1]/" = .ok Http.home := by decide +kernel
  refine ⟨?_, ?_, ?_⟩
  · rw [hmisnamed]
    exact (failures_reported.1 .get "http://[::1]/" [misnaming, setting] {}).failed
      (.http .invalidHeaderName) [setting] (.call [] hfails (.call rfl .nil))
  · rw [hagain]
    exact (failures_reported.1 .get "http://[::1]/" [misnaming, setting, .run {}] {}).failed
      (.http .invalidHeaderName) [setting, .run {}]
      (.call [] hfails (.call rfl (.run .nil)))
  · exact (failures_reported.2 "http://[::1]/" [] {}).failed (.invalidScheme "http") []
      (.url (urlFailure?_of_scheme hurl (by decide)) .nil)

end UrlTransfer
