/-
# The payload of a request that is run again

A transfer takes the payload out of the request, and puts back what is left of it only where it ends
with a response.  Bytes can be sent any number of times, so a request keeps them as long as all of
its transfers arrive (`Request.Undisturbed`); one that fails, for whatever reason, leaves the
request without a payload, and so it stays (`payload_afterRuns`).

Hence what a run sends behind its heads: the bytes, or nothing at all (`bodies_of_runs`).
-/
import UrlTransfer.Proofs.Http.HostHeader

namespace UrlTransfer

namespace Http

/-! ## 1. The payload from run to run -/

/-- No transfer fails in runs in these worlds, one after the other. -/
def Request.Undisturbed : Request → List Client → Prop
  | _, [] => True
  | r, c :: later => (Act.value? transfer (r, c)).isSome ∧ (r.afterRun c).Undisturbed later

theorem payload_afterRun {r : Request} {url : Url} (h : r.target.state = .ok url)
    (hall : r.payload.all Payload.isRepeatable) (c : Client) :
    (r.afterRun c).payload = if (Act.value? transfer (r, c)).isSome then r.payload else none := by
  obtain ⟨_, -, -, -, hpayload⟩ := after_transfer (s := (r, c)) h
  have hafter := hpayload hall
  rw [← after_run] at hafter
  exact hafter

/-- **A payload is there as long as no transfer has failed**, and is lost from then on. -/
theorem payload_afterRuns {r : Request} {url : Url} (h : r.target.state = .ok url)
    (hall : r.payload.all Payload.isRepeatable) (clients : List Client) :
    (r.Undisturbed clients → (r.afterRuns clients).payload = r.payload) ∧
      (¬ r.Undisturbed clients → (r.afterRuns clients).payload = none) := by
  induction clients generalizing r with
  | nil => exact ⟨fun _ => rfl, fun hdisturbed => absurd trivial hdisturbed⟩
  | cons c later ih =>
    have hpayload := payload_afterRun h hall c
    have htarget : (r.afterRun c).target = r.target :=
      Request.target_of_kept (Request.afterRuns_kept h [c])
    have hall' : (r.afterRun c).payload.all Payload.isRepeatable := by
      rw [hpayload]
      split
      · exact hall
      · rfl
    obtain ⟨hkept, hlost⟩ := ih (by rw [htarget, h]) hall'
    rw [Request.afterRuns_cons]
    cases harrived : (Act.value? transfer (r, c)).isSome with
    | true =>
      rw [harrived, if_pos rfl] at hpayload
      rw [hpayload] at hkept
      exact ⟨fun hboth => hkept hboth.2, fun hdisturbed => hlost fun hlater =>
        hdisturbed ⟨harrived, hlater⟩⟩
    | false =>
      rw [harrived, if_neg Bool.false_ne_true] at hpayload
      rw [hpayload] at hkept
      refine ⟨fun hboth => ?_, fun _ => ?_⟩
      · exact absurd (harrived.symm.trans hboth.1) Bool.false_ne_true
      · -- Without a payload, it does not matter whether the later transfers arrive.
        by_cases hlater : (r.afterRun c).Undisturbed later
        · exact hkept hlater
        · exact hlost hlater

/-! ## 2. The bodies that are sent -/

/-- The payload of a visit, in a run of a request with bytes for its payload. -/
theorem payload_of_visit {r : Request} {content : Bytes}
    (hbytes : r.payload = some (.bytes content)) {url : Url} (h : r.target.state = .ok url)
    {clients : List Client} {c : Client} {v : Visit}
    (hv : v ∈ visits (r.afterRuns clients, c)) :
    (r.Undisturbed clients → v.payload = some (.bytes content)) ∧
      (¬ r.Undisturbed clients → v.payload = none) := by
  obtain ⟨hkept, hlost⟩ := payload_afterRuns h (by rw [hbytes]; rfl) clients
  have hof := Visit.of_mem hv
  constructor
  · intro hclear
    have hpayload := (hkept hclear).trans hbytes
    exact (hof.payload (by rw [hpayload]; rfl)).trans hpayload
  · intro hdisturbed
    have hpayload := hlost hdisturbed
    exact (hof.payload (by rw [hpayload]; rfl)).trans hpayload

/-- **What a run sends behind its heads**, if the payload of the request is bytes, in any run and
any world: exactly these bytes if no transfer of the request has failed before, and nothing
otherwise.  So the body is the payload exactly if none has failed, or there is nothing to send. -/
theorem bodies_of_runs (r : Request) (content : Bytes) (hbytes : r.payload = some (.bytes content))
    (clients : List Client) (c : Client) :
    (Act.after Request.run (r.afterRuns clients, c)).2.system.links =
        c.system.links ++ (visits (r.afterRuns clients, c)).flatMap Visit.links ∧
      ∀ v ∈ visits (r.afterRuns clients, c), v.Leaves v.links v.answer? ∧
        (r.Undisturbed clients →
          v.head = headBytes v.request v.url (some (.bytes content)) ∧ v.body = content) ∧
        (¬ r.Undisturbed clients → v.head = headBytes v.request v.url none ∧ v.body = []) ∧
        (v.body = content ↔ r.Undisturbed clients ∨ content = []) := by
  refine ⟨links_after_run _, fun v hv => ⟨v.leaves, ?_⟩⟩
  cases h : r.target.state with
  | error fault =>
    rw [Request.visits_afterRuns_error h] at hv
    cases hv
  | ok url =>
    obtain ⟨hkept, hlost⟩ := payload_of_visit hbytes h hv
    have hsent (hclear : r.Undisturbed clients) :
        v.head = headBytes v.request v.url (some (.bytes content)) ∧ v.body = content := by
      unfold Visit.head Visit.body
      rw [hkept hclear]
      exact ⟨rfl, rfl⟩
    have hunsent (hdisturbed : ¬ r.Undisturbed clients) :
        v.head = headBytes v.request v.url none ∧ v.body = [] := by
      unfold Visit.head Visit.body
      rw [hlost hdisturbed]
      exact ⟨rfl, rfl⟩
    refine ⟨hsent, hunsent, fun hbody => ?_, ?_⟩
    · by_cases hclear : r.Undisturbed clients
      · exact .inl hclear
      · exact .inr (hbody.symm.trans (hunsent hclear).2)
    · rintro (hclear | hempty)
      · exact (hsent hclear).2
      · by_cases hclear : r.Undisturbed clients
        · exact (hsent hclear).2
        · rw [(hunsent hclear).2, hempty]

/-- A request to send two bytes. -/
def letter : Request := { wanderer with payload := some (.bytes [104, 105]) }

/-- In its first run, a request sends its payload. -/
theorem bodies_of_runs_letter : letter.payload = some (.bytes [104, 105]) ∧
    ∀ v ∈ visits (letter.afterRuns [], awayWorld), v.body = [104, 105] :=
  ⟨rfl, fun v hv =>
    (((bodies_of_runs letter _ rfl [] awayWorld).2 v hv).2.1 trivial).2⟩

/-- Behind a refused connection, it sends none. -/
theorem bodies_of_runs_refused : letter.payload = some (.bytes [104, 105]) ∧
    ∃ v ∈ visits (letter.afterRuns [{}], awayWorld), v.url = home ∧ v.body = [] := by
  have hrefused : ¬ letter.Undisturbed [{}] := by
    intro hclear
    have hnone : (Act.value? transfer (letter, {})).isSome = false := by decide +kernel
    exact Bool.false_ne_true (hnone.symm.trans hclear.1)
  obtain ⟨v, hv, hurl⟩ := Request.exists_visit (r := letter) rfl [{}] awayWorld
  refine ⟨rfl, v, hv, hurl, ?_⟩
  unfold Visit.body
  rw [(payload_of_visit (r := letter) rfl rfl hv).2 hrefused]
  rfl

end Http

end UrlTransfer
