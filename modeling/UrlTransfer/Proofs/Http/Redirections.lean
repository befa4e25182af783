/-
# A transfer is a chain of visits

A transfer goes to the URL of the request first.  As long as the answer points elsewhere, and a
redirection is left, the next visit goes there: to a URL of the same scheme, in the state that the
visit before has left, and with the payload if that can be sent again (`Visit.Leads`).  `route` is
the list of these visits; that it is what `follow` does is shown along its recursion, on the number
of redirections that are left.

`Journey` says all about a transfer in one: where the chain starts, how long it can be, when it goes
on, how the transfer ends behind its last visit (`Visit.Ends`), and that the record holds the links
of the visits and no others.  Every transfer of a request with a URL is one (`transfer_journey`).
-/
import Mathlib.Data.List.Chain
import UrlTransfer.Proofs.Http.Exchanges

namespace UrlTransfer

namespace Http

/-! ## 1. From one visit to the next -/

/-- The head of a response is that of a redirection, and this is its first location. -/
structure Head.PointsTo (head : Head) (location : HeaderValue) : Prop where
  status : 300 ≤ head.status.code ∧ head.status.code < 400
  first : (head.headers.values .location).head? = some location

theorem Head.location?_eq_some {head : Head} {location : HeaderValue} :
    head.location? = some location ↔ head.PointsTo location := by
  unfold location? Status.isRedirection
  constructor
  · intro h
    split at h
    · next hstatus => exact ⟨by simpa using hstatus, h⟩
    · cases h
  · rintro ⟨hstatus, hfirst⟩
    rw [if_pos (by simpa using hstatus)]
    exact hfirst

theorem redirect_ok {scheme : String} {url next : Url} {location : HeaderValue} :
    redirect scheme url location = .ok next ↔
      ∃ text, location.text? = some text ∧ url.join text = .ok next ∧ next.scheme = scheme := by
  unfold redirect
  constructor
  · intro h
    split at h
    · cases h
    · next text htext =>
      split at h
      · cases h
      · next hjoin =>
        split at h
        · next hscheme => cases h; exact ⟨text, htext, hjoin, hscheme⟩
        · cases h
  · rintro ⟨text, htext, hjoin, hscheme⟩
    rw [htext]
    dsimp only
    rw [hjoin]
    exact if_pos hscheme

namespace Visit

/-- The answer of the visit points to a URL that the request may go on to: its first location,
resolved against the URL of the visit. -/
def PointsOn (scheme : String) (v : Visit) (next : Url) : Prop :=
  ∃ e left location text, v.answer? = some (e, left) ∧ e.head.PointsTo location ∧
    location.text? = some text ∧ v.url.join text = .ok next ∧ next.scheme = scheme

/-- The visit `w` follows `v`. -/
structure Leads (scheme : String) (v w : Visit) : Prop where
  points : v.PointsOn scheme w.url
  payload : w.payload = v.payload.filter Payload.isRepeatable
  named : w.named = v.named
  before : w.before = v.after

/-- The visit that follows, if the answer points on. -/
def next? (scheme : String) (v : Visit) : Option Visit :=
  match v.answer? with
  | none => none
  | some (e, left) =>
    match e.head.location? with
    | none => none
    | some location =>
      match redirect scheme v.url location with
      | .error _ => none
      | .ok url => some ⟨v.named, url, left.filter Payload.isRepeatable, v.after⟩

theorem leads_of_next? {scheme : String} {v w : Visit} (h : v.next? scheme = some w) :
    v.Leads scheme w := by
  unfold next? at h
  split at h
  · cases h
  · next e left hanswer =>
    split at h
    · cases h
    · next location hlocation =>
      split at h
      · cases h
      · next url hredirect =>
        cases h
        obtain ⟨text, htext, hjoin, hscheme⟩ := redirect_ok.1 hredirect
        exact ⟨⟨e, left, location, text, hanswer, Head.location?_eq_some.1 hlocation, htext, hjoin,
          hscheme⟩, (answer?_left hanswer).1, rfl, rfl⟩

theorem next?_of_pointsOn {scheme : String} {v : Visit} {url : Url} (h : v.PointsOn scheme url) :
    ∃ w, v.next? scheme = some w ∧ w.url = url := by
  obtain ⟨e, left, location, text, hanswer, hpoints, htext, hjoin, hscheme⟩ := h
  unfold next?
  rw [hanswer]
  dsimp only
  rw [Head.location?_eq_some.2 hpoints]
  dsimp only
  rw [redirect_ok.2 ⟨text, htext, hjoin, hscheme⟩]
  exact ⟨_, rfl, rfl⟩

/-! ## 2. Chains of visits -/

/-- A visit, and those that follow it, with at most so many redirections. -/
def route (scheme : String) : Nat → Visit → List Visit
  | 0, v => [v]
  | redirects + 1, v =>
    match v.next? scheme with
    | none => [v]
    | some w => v :: route scheme redirects w

variable {scheme : String}

theorem route_end {v : Visit} (h : v.next? scheme = none) (redirects : Nat) :
    route scheme redirects v = [v] := by
  cases redirects with
  | zero => rfl
  | succ redirects => rw [route, h]

theorem route_on {v w : Visit} (h : v.next? scheme = some w) (redirects : Nat) :
    route scheme (redirects + 1) v = v :: route scheme redirects w := by
  rw [route, h]

theorem route_cons (scheme : String) (redirects : Nat) (v : Visit) :
    ∃ later, route scheme redirects v = v :: later := by
  cases redirects with
  | zero => exact ⟨[], rfl⟩
  | succ redirects =>
    cases h : v.next? scheme with
    | none => exact ⟨[], route_end h _⟩
    | some w => exact ⟨_, route_on h _⟩

theorem length_route (redirects : Nat) (v : Visit) :
    (route scheme redirects v).length ≤ redirects + 1 := by
  induction redirects generalizing v with
  | zero => exact Nat.le_refl 1
  | succ redirects ih =>
    cases h : v.next? scheme with
    | none => rw [route_end h]; exact Nat.le_add_left 1 _
    | some w => rw [route_on h]; exact Nat.succ_le_succ (ih w)

/-- **Each visit leads to the next.** -/
theorem route_chain (scheme : String) (redirects : Nat) (v : Visit) :
    (route scheme redirects v).IsChain (Leads scheme) := by
  induction redirects generalizing v with
  | zero => exact .singleton v
  | succ redirects ih =>
    cases h : v.next? scheme with
    | none => rw [route_end h]; exact .singleton v
    | some w =>
      rw [route_on h]
      refine (ih w).cons fun u hu => ?_
      obtain ⟨later, hroute⟩ := route_cons scheme redirects w
      rw [hroute] at hu
      cases hu
      exact leads_of_next? h

/-- **The chain goes on exactly where the answer points on**, as long as redirections are left. -/
theorem route_goesOn (redirects : Nat) (v : Visit) {i : Nat} {u : Visit}
    (hu : (route scheme redirects v)[i]? = some u) :
    i + 1 < (route scheme redirects v).length ↔
      i < redirects ∧ ∃ url, u.PointsOn scheme url := by
  induction redirects generalizing v i with
  | zero => simp [route]
  | succ redirects ih =>
    cases h : v.next? scheme with
    | none =>
      rw [route_end h] at hu ⊢
      obtain ⟨rfl, rfl⟩ : i = 0 ∧ v = u := by
        cases i with
        | zero => exact ⟨rfl, Option.some.inj hu⟩
        | succ i => cases hu
      constructor
      · intro hless
        exact absurd hless (by simp)
      · rintro ⟨-, url, hpoints⟩
        obtain ⟨w, hw, -⟩ := next?_of_pointsOn hpoints
        rw [h] at hw
        cases hw
    | some w =>
      rw [route_on h] at hu ⊢
      cases i with
      | zero =>
        cases hu
        obtain ⟨later, hroute⟩ := route_cons scheme redirects w
        rw [hroute]
        exact ⟨fun _ => ⟨by omega, w.url, (leads_of_next? h).points⟩, fun _ => by simp⟩
      | succ i =>
        have hnext := ih w (i := i) hu
        rw [List.length_cons]
        constructor
        · intro hless
          obtain ⟨hi, hpoints⟩ := hnext.1 (by omega)
          exact ⟨by omega, hpoints⟩
        · rintro ⟨hi, hpoints⟩
          have := hnext.2 ⟨by omega, hpoints⟩
          omega

theorem scheme_of_mem_route {redirects : Nat} {v : Visit} (hv : v.url.scheme = scheme) {u : Visit}
    (hu : u ∈ route scheme redirects v) : u.url.scheme = scheme := by
  induction redirects generalizing v with
  | zero => rw [route, List.mem_singleton] at hu; rw [hu, hv]
  | succ redirects ih =>
    cases h : v.next? scheme with
    | none => rw [route_end h, List.mem_singleton] at hu; rw [hu, hv]
    | some w =>
      rw [route_on h, List.mem_cons] at hu
      rcases hu with rfl | hu
      · exact hv
      · obtain ⟨_, _, _, _, _, _, _, _, hscheme⟩ := (leads_of_next? h).points
        exact ih hscheme hu

/-! ## 3. The end of a transfer -/

/-- How a transfer ends behind its last visit, to which so many redirections led, of at most
`limit`: the visit failed, or its answer points elsewhere and the request cannot go there, or the
answer is the response.  That has a URL if there was a redirection, and what is left of the payload
goes back to the request. -/
inductive Ends (scheme : String) (limit moves : Nat) (v : Visit) :
    EStateM.Result (Halt Error) Running Exchange → Prop where
  | failed {halt : Halt Error} (outcome : v.outcome = .error halt v.after) :
      v.Ends scheme limit moves (.error halt v.after)
  | unreadable {e : Exchange} {left : Option Payload} {location : HeaderValue}
      (answer : v.answer? = some (e, left)) (points : e.head.PointsTo location)
      (spare : moves < limit) (unread : location.text? = none) :
      v.Ends scheme limit moves
        (.error (.failed (.invalidRedirectUrl location.lossyText)) v.after)
  | unresolved {e : Exchange} {left : Option Payload} {location : HeaderValue} {text : String}
      {fault : UrlError} (answer : v.answer? = some (e, left))
      (points : e.head.PointsTo location) (spare : moves < limit)
      (read : location.text? = some text) (join : v.url.join text = .error fault) :
      v.Ends scheme limit moves (.error (.failed (.invalidRedirectUrl text)) v.after)
  | forbidden {e : Exchange} {left : Option Payload} {location : HeaderValue} {text : String}
      {next : Url} (answer : v.answer? = some (e, left)) (points : e.head.PointsTo location)
      (spare : moves < limit) (read : location.text? = some text)
      (join : v.url.join text = .ok next) (other : next.scheme ≠ scheme) :
      v.Ends scheme limit moves (.error (.failed (.redirectForbidden next.scheme)) v.after)
  | arrived {e : Exchange} {left : Option Payload} (answer : v.answer? = some (e, left))
      (done : moves < limit → ∀ location, ¬ e.head.PointsTo location) :
      v.Ends scheme limit moves
        (.ok { e with url := if moves = 0 then none else some v.url }
          ({ v.after.1 with payload := left }, v.after.2))

theorem outcome_ok {v : Visit} {e : Exchange} {left : Option Payload} {t : Running}
    (h : v.outcome = .ok (e, left) t) : v.answer? = some (e, left) ∧ v.after = t :=
  ⟨Act.value?_ok h, Act.after_ok h⟩

/-- The chain goes on behind a visit that leads to another. -/
theorem follow_on {v w : Visit} (h : v.next? scheme = some w) (redirects : Nat) (moved : Bool) :
    follow scheme v.named (redirects + 1) v.url moved v.payload v.before =
      follow scheme w.named redirects w.url true w.payload w.before := by
  unfold next? at h
  split at h
  · cases h
  · next e left hanswer =>
    split at h
    · cases h
    · next location hlocation =>
      split at h
      · cases h
      · next url hredirect =>
        cases h
        rw [follow, Act.bind_ok (Act.eq_ok_of_value? hanswer)]
        dsimp only
        rw [hlocation]
        dsimp only
        rw [hredirect]
        rfl

theorem follow_failed {v : Visit} {halt : Halt Error} {t : Running}
    (h : v.outcome = .error halt t) (redirects : Nat) (moved : Bool) :
    follow scheme v.named redirects v.url moved v.payload v.before = .error halt t := by
  cases redirects <;> rw [follow, Act.bind_error h]

theorem follow_arrived {v : Visit} {e : Exchange} {left : Option Payload} {t : Running}
    {redirects : Nat} (h : v.outcome = .ok (e, left) t)
    (hdone : redirects = 0 ∨ e.head.location? = none) (moved : Bool) :
    follow scheme v.named redirects v.url moved v.payload v.before =
      .ok { e with url := if moved then some v.url else none }
        ({ t.1 with payload := left }, t.2) := by
  cases redirects with
  | zero =>
    rw [follow, Act.bind_ok h]
    rfl
  | succ redirects =>
    rcases hdone with hdone | hdone
    · cases hdone
    · rw [follow, Act.bind_ok h]
      dsimp only
      rw [hdone]
      rfl

theorem follow_stuck {v : Visit} {e : Exchange} {left : Option Payload} {t : Running}
    {location : HeaderValue} {error : Error} (h : v.outcome = .ok (e, left) t)
    (hlocation : e.head.location? = some location)
    (hredirect : redirect scheme v.url location = .error error) (redirects : Nat) (moved : Bool) :
    follow scheme v.named (redirects + 1) v.url moved v.payload v.before =
      .error (.failed error) t := by
  rw [follow, Act.bind_ok h]
  dsimp only
  rw [hlocation]
  dsimp only
  rw [hredirect]
  rfl

/-- **How the chain ends**, where it does not go on. -/
theorem ends_follow {v : Visit} {redirects : Nat} (h : redirects = 0 ∨ v.next? scheme = none)
    (moves : Nat) :
    v.Ends scheme (moves + redirects) moves
      (follow scheme v.named redirects v.url (decide (0 < moves)) v.payload v.before) := by
  cases houtcome : v.outcome with
  | error halt t =>
    obtain rfl : v.after = t := Act.after_error houtcome
    rw [follow_failed houtcome]
    exact .failed houtcome
  | ok p t =>
    obtain ⟨e, left⟩ := p
    obtain ⟨hanswer, rfl⟩ := outcome_ok houtcome
    have harrived (hdone : redirects = 0 ∨ e.head.location? = none) :
        v.Ends scheme (moves + redirects) moves
          (follow scheme v.named redirects v.url (decide (0 < moves)) v.payload v.before) := by
      rw [follow_arrived houtcome hdone]
      have hurl : (if decide (0 < moves) then some v.url else none) =
          if moves = 0 then none else some v.url := by
        cases moves <;> rfl
      rw [hurl]
      refine .arrived hanswer fun hspare location hpoints => ?_
      rcases hdone with rfl | hdone
      · exact Nat.lt_irrefl moves hspare
      · rw [Head.location?_eq_some.2 hpoints] at hdone
        cases hdone
    cases redirects with
    | zero => exact harrived (.inl rfl)
    | succ redirects =>
      cases hlocation : e.head.location? with
      | none => exact harrived (.inr hlocation)
      | some location =>
        have hpoints := Head.location?_eq_some.1 hlocation
        have hspare : moves < moves + (redirects + 1) := by omega
        -- Of the results of `redirect`, only a URL would lead on.
        cases hredirect : redirect scheme v.url location with
        | ok url =>
          rcases h with h | h
          · cases h
          · unfold next? at h
            rw [hanswer] at h
            dsimp only at h
            rw [hlocation] at h
            dsimp only at h
            rw [hredirect] at h
            cases h
        | error error =>
          rw [follow_stuck houtcome hlocation hredirect]
          unfold redirect at hredirect
          split at hredirect
          · next htext => cases hredirect; exact .unreadable hanswer hpoints hspare htext
          · next text htext =>
            split at hredirect
            · next hjoin => cases hredirect; exact .unresolved hanswer hpoints hspare htext hjoin
            · next hjoin =>
              split at hredirect
              · cases hredirect
              · next hother =>
                cases hredirect
                exact .forbidden hanswer hpoints hspare htext hjoin hother

/-- **Behind its last visit, the transfer ends** in one of these ways. -/
theorem route_ends (scheme : String) (redirects moves : Nat) (v : Visit) :
    ∃ last, (route scheme redirects v).getLast? = some last ∧
      last.Ends scheme (moves + redirects) (moves + (route scheme redirects v).length - 1)
        (follow scheme v.named redirects v.url (decide (0 < moves)) v.payload v.before) := by
  induction redirects generalizing v moves with
  | zero => exact ⟨v, rfl, ends_follow (.inl rfl) moves⟩
  | succ redirects ih =>
    cases h : v.next? scheme with
    | none =>
      rw [route_end h]
      exact ⟨v, rfl, ends_follow (.inr h) moves⟩
    | some w =>
      obtain ⟨last, hlast, hends⟩ := ih (moves + 1) w
      rw [route_on h, follow_on h]
      refine ⟨last, ?_, ?_⟩
      · obtain ⟨later, hroute⟩ := route_cons scheme redirects w
        rw [hroute] at hlast ⊢
        exact hlast
      · rw [decide_eq_true (Nat.succ_pos moves)] at hends
        rw [List.length_cons]
        convert hends using 1 <;> omega

/-- A transfer leaves what its last visit has left, but for the payload. -/
theorem Ends.state {limit moves : Nat} {v : Visit} {x : Act Error Running Exchange} {s : Running}
    (h : v.Ends scheme limit moves (x s)) :
    (Act.after x s).2 = v.after.2 ∧
      ∃ payload, (Act.after x s).1 = { v.after.1 with payload := payload } := by
  unfold Act.after
  generalize x s = result at h ⊢
  cases h <;> exact ⟨rfl, _, rfl⟩

/-- **The record holds the links of the visits**, one behind the other. -/
theorem links_chain {v last : Visit} {later : List Visit} (h : (v :: later).IsChain (Leads scheme))
    (hlast : (v :: later).getLast? = some last) :
    last.after.2.system.links =
      v.before.2.system.links ++ (v :: later).flatMap Visit.links := by
  induction later generalizing v with
  | nil =>
    obtain rfl : v = last := Option.some.inj hlast
    rw [v.links_after, List.flatMap_singleton]
  | cons w later ih =>
    obtain ⟨hleads, hrest⟩ := List.isChain_cons_cons.1 h
    rw [ih hrest hlast, hleads.before, v.links_after, List.flatMap_cons (x := v),
      List.append_assoc]

end Visit

/-! ## 4. Journeys -/

/-- The first visit of a transfer: the payload has been taken out of the request. -/
def firstVisit (s : Running) (url : Url) : Visit where
  named := s.1.headers.contains .host
  url := url
  payload := s.1.payload
  before := ({ s.1 with payload := none }, s.2)

/-- The visits of a transfer: none where the request has no URL. -/
def visits (s : Running) : List Visit :=
  match s.1.target.state with
  | .error _ => []
  | .ok url => Visit.route url.scheme s.1.redirects (firstVisit s url)

/-- All about a transfer of a request to a URL: `visits` are the visits that it makes. -/
structure Journey (s : Running) (url : Url) (visits : List Visit) : Prop where
  /-- The first visit is to the URL of the request. -/
  first : visits.head? = some (firstVisit s url)
  /-- There are no more redirections than the request allows. -/
  limit : visits.length ≤ s.1.redirects + 1
  /-- Each visit leads to the next. -/
  leads : visits.IsChain (Visit.Leads url.scheme)
  /-- There is a next visit exactly where the answer points on and the limit is not reached. -/
  goesOn : ∀ i v, visits[i]? = some v →
    (i + 1 < visits.length ↔ i < s.1.redirects ∧ ∃ next, v.PointsOn url.scheme next)
  /-- All visits are to URLs of one scheme. -/
  schemes : ∀ v ∈ visits, v.url.scheme = url.scheme
  /-- Each visit is one call to connect, and at most one request. -/
  leaves : ∀ v ∈ visits, v.Leaves v.links v.answer?
  /-- Nothing else is recorded. -/
  record : (Act.after transfer s).2.system.links =
    s.2.system.links ++ visits.flatMap Visit.links
  /-- The transfer ends as its last visit decides. -/
  ends : ∃ last, visits.getLast? = some last ∧
    last.Ends url.scheme s.1.redirects (visits.length - 1) (transfer s)

theorem transfer_ok {s : Running} {url : Url} (h : s.1.target.state = .ok url) :
    transfer s = follow url.scheme (s.1.headers.contains .host) s.1.redirects url false s.1.payload
      ({ s.1 with payload := none }, s.2) := by
  have hfinal : Act.within (fun s => s.1.target) (fun target s => ({ s.1 with target }, s.2))
      Target.finalize s = .ok url s :=
    Act.within_run (Target.finalize_ok h)
  unfold transfer
  exact Act.bind_ok hfinal

theorem transfer_error {s : Running} {fault : Error} (h : s.1.target.state = .error fault) :
    transfer s =
      .error (.failed fault) ({ s.1 with target := ⟨.error .invalidRequest⟩ }, s.2) := by
  have hfinal : Act.within (fun s => s.1.target) (fun target s => ({ s.1 with target }, s.2))
      Target.finalize s =
        .error (.failed fault) ({ s.1 with target := ⟨.error .invalidRequest⟩ }, s.2) :=
    Act.within_error (Target.finalize_error h)
  unfold transfer
  exact Act.bind_error hfinal

/-- A transfer ends with the answer of its first visit, if that is no redirection. -/
theorem transfer_of_answer {s : Running} {url : Url} {e : Exchange} {left : Option Payload}
    (h : s.1.target.state = .ok url) (hanswer : (firstVisit s url).answer? = some (e, left))
    (hlocation : e.head.location? = none) :
    transfer s = .ok { e with url := none }
      ({ (firstVisit s url).after.1 with payload := left }, (firstVisit s url).after.2) := by
  have houtcome : (firstVisit s url).outcome = .ok (e, left) (firstVisit s url).after :=
    Act.eq_ok_of_value? hanswer
  rw [transfer_ok h]
  exact Visit.follow_arrived houtcome (.inr hlocation) false

theorem visits_ok {s : Running} {url : Url} (h : s.1.target.state = .ok url) :
    visits s = Visit.route url.scheme s.1.redirects (firstVisit s url) := by
  unfold visits
  rw [h]

/-- The journey of a request with a URL. -/
theorem journey {s : Running} {url : Url} (h : s.1.target.state = .ok url) :
    Journey s url (visits s) := by
  obtain ⟨later, hroute⟩ :=
    Visit.route_cons url.scheme s.1.redirects (firstVisit s url)
  have hchain := Visit.route_chain url.scheme s.1.redirects (firstVisit s url)
  obtain ⟨last, hlast, hends⟩ :=
    Visit.route_ends url.scheme s.1.redirects 0 (firstVisit s url)
  rw [Nat.zero_add, Nat.zero_add] at hends
  change Visit.Ends _ _ _ _ (follow url.scheme (s.1.headers.contains .host) s.1.redirects url false
    s.1.payload ({ s.1 with payload := none }, s.2)) at hends
  rw [← transfer_ok h] at hends
  rw [visits_ok h]
  exact {
    first := by rw [hroute]; rfl
    limit := Visit.length_route _ _
    leads := hchain
    goesOn := fun _ _ => Visit.route_goesOn _ _
    schemes := fun _ => Visit.scheme_of_mem_route (v := firstVisit s url) rfl
    leaves := fun v _ => v.leaves
    record := by
      rw [hroute] at hchain hlast ⊢
      rw [hends.state.1]
      exact Visit.links_chain hchain hlast
    ends := ⟨last, hlast, hends⟩ }

/-- Whoever makes a visit has a URL, and is on a journey. -/
theorem journey_of_mem {s : Running} {v : Visit} (h : v ∈ visits s) :
    ∃ url, s.1.target.state = .ok url ∧ Journey s url (visits s) := by
  cases htarget : s.1.target.state with
  | ok url => exact ⟨url, rfl, journey htarget⟩
  | error fault =>
    unfold visits at h
    rw [htarget] at h
    cases h

/-- **What holds of the first visit, and is passed on from each to the next, holds of all.** -/
theorem forall_visits {s : Running} {P : Visit → Prop}
    (hfirst : ∀ url, s.1.target.state = .ok url → P (firstVisit s url))
    (hleads : ∀ url v w, s.1.target.state = .ok url → v.Leads url.scheme w → P v → P w) :
    ∀ v ∈ visits s, P v := by
  intro v hv
  obtain ⟨url, htarget, hjourney⟩ := journey_of_mem hv
  refine hjourney.leads.induction P _ (fun v w => hleads url v w htarget) (fun hne => ?_) v hv
  have hhead := hjourney.first
  rw [List.head?_eq_some_head hne] at hhead
  rw [Option.some.inj hhead]
  exact hfirst url htarget

/-- **A transfer is a journey**, or it reports that the request has no URL, and does nothing. -/
theorem transfer_journey (s : Running) :
    match s.1.target.state with
    | .error fault => transfer s =
        .error (.failed fault) ({ s.1 with target := ⟨.error .invalidRequest⟩ }, s.2)
    | .ok url => Journey s url (visits s) := by
  cases h : s.1.target.state with
  | error fault => exact transfer_error h
  | ok url => exact journey h

end Http

end UrlTransfer
