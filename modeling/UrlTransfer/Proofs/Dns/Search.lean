/-
# Who is asked for a host, and whose answer counts

A search asks services one after the other, round after round, and ends with the first that knows
something.  Whatever the services do, and however they change from call to call, three facts carry
this: a service that is asked is asked for both versions and no more (`askService_replies`), a list
of services is asked from the front until one knows (`askServices_ends`), and the rounds are one
such list, `Roster.schedule` (`search_flat`).

The state of the services is nothing but what the calls make of it, so `Heard` says two things at
once: what the services answered, and that nobody else was asked.
-/
import UrlTransfer.Dns.Resolver
import UrlTransfer.Proofs.Keeping

namespace UrlTransfer

namespace Dns

/-! ## 1. Replies -/

/-- What a service answers when it is asked for both versions. -/
structure Reply (κ : Type) where
  service : κ
  a : Except Error Lookup
  aaaa : Except Error Lookup

namespace Reply

variable {κ : Type}

/-- The records that an answer holds. -/
def told : Except Error Lookup → List Record
  | .ok found => found.records
  | .error _ => []

/-- The service knows something: one of its answers is not a fault. -/
def Knows (reply : Reply κ) : Prop := reply.a.isOk ∨ reply.aaaa.isOk

/-- The records of both answers, in their order. -/
def records (reply : Reply κ) : List Record := told reply.a ++ told reply.aaaa

/-- The addresses in both answers, in their order. -/
def addresses (reply : Reply κ) : Addresses :=
  { v4 := reply.records.filterMap Addresses.recordV4?
    v6 := reply.records.filterMap Addresses.recordV6? }

/-- What the service is taken to say: its addresses if it knows something, or the second fault. -/
def verdict (reply : Reply κ) : Except Error Addresses :=
  match reply.a, reply.aaaa with
  | .error _, .error fault => .error fault
  | _, _ => .ok reply.addresses

theorem verdict_of_knows {reply : Reply κ} (h : reply.Knows) :
    reply.verdict = .ok reply.addresses := by
  obtain ⟨service, a, aaaa⟩ := reply
  cases a with
  | ok found => rfl
  | error first =>
    cases aaaa with
    | ok found => rfl
    | error second => simp [Knows, Except.isOk, Except.toBool] at h

theorem aaaa_of_not_knows {reply : Reply κ} (h : ¬ reply.Knows) :
    ∃ fault, reply.aaaa = .error fault ∧ reply.verdict = .error fault := by
  obtain ⟨service, a, aaaa⟩ := reply
  cases a with
  | ok found => exact absurd (.inl rfl) h
  | error first =>
    cases aaaa with
    | ok found => exact absurd (.inr rfl) h
    | error second => exact ⟨second, rfl, rfl⟩

/-- Where each answer holds only what was asked for, each has the addresses of its version. -/
theorem addresses_eq {reply : Reply κ}
    (ha : ∀ record ∈ told reply.a, Addresses.recordV6? record = none)
    (haaaa : ∀ record ∈ told reply.aaaa, Addresses.recordV4? record = none) :
    reply.addresses =
      { v4 := (told reply.a).filterMap Addresses.recordV4?
        v6 := (told reply.aaaa).filterMap Addresses.recordV6? } := by
  have hv6 : (told reply.a).filterMap Addresses.recordV6? = [] := List.filterMap_eq_nil_iff.2 ha
  have hv4 : (told reply.aaaa).filterMap Addresses.recordV4? = [] :=
    List.filterMap_eq_nil_iff.2 haaaa
  rw [addresses, records, List.filterMap_append, List.filterMap_append, hv4, hv6, List.append_nil,
    List.nil_append]

end Reply

/-! ## 2. One service, and many -/

section

variable {κ σ : Type} (lookup : Query → κ → Act Error σ Lookup) (name : Name)

/-- A service that is asked for both versions gives this reply, and leaves that state. -/
structure Replies (reply : Reply κ) (s t : σ) : Prop where
  asked : ∃ between : σ,
    (Act.attempt (lookup { name, type := .a } reply.service) : Act Error σ _) s =
      .ok reply.a between ∧
    (Act.attempt (lookup { name, type := .aaaa } reply.service) : Act Error σ _) between =
      .ok reply.aaaa t

/-- The services of these replies were asked, in this order, and nobody else was. -/
inductive Heard : List (Reply κ) → σ → σ → Prop where
  | nobody (s : σ) : Heard [] s s
  | more {reply : Reply κ} {replies : List (Reply κ)} {s t u : σ} :
    Replies lookup name reply s t → Heard replies t u → Heard (reply :: replies) s u

/-- How it ends to ask services one after the other, with an error where there is nobody to ask. -/
inductive Ends (error : Error) (services : List κ) (s t : σ) :
    Except (Halt Error) Addresses → Prop where
  /-- One of them knows something: it is the last that was asked, its addresses are the result,
  and those before it knew nothing. -/
  | found {front : List (Reply κ)} {last : Reply κ} :
    Heard lookup name (front ++ [last]) s t →
    (front ++ [last]).map (·.service) <+: services →
    (∀ reply ∈ front, ¬ reply.Knows) → last.Knows →
    Ends error services s t (.ok last.addresses)
  /-- All of them were asked in vain; the error is the last one. -/
  | failed {front : List (Reply κ)} {last : Reply κ} {fault : Error} :
    Heard lookup name (front ++ [last]) s t →
    (front ++ [last]).map (·.service) = services →
    (∀ reply ∈ front ++ [last], ¬ reply.Knows) → last.aaaa = .error fault →
    Ends error services s t (.error (.failed fault))
  /-- There is nobody to ask. -/
  | nobody : services = [] → t = s → Ends error services s t (.error (.failed error))
  /-- One of them never answers. -/
  | stalled {front : List (Reply κ)} {service : κ} {between : σ} :
    Heard lookup name front s between →
    front.map (·.service) ++ [service] <+: services →
    (∀ reply ∈ front, ¬ reply.Knows) →
    Roster.askService lookup name service between = .error .stalled t →
    Ends error services s t (.error .stalled)

variable {lookup name} {s t : σ}

/-- What is made of the two answers of a service. -/
theorem askService_run {reply : Reply κ} (h : Replies lookup name reply s t) :
    Roster.askService lookup name reply.service s = .ok reply.verdict t := by
  obtain ⟨between, ha, haaaa⟩ := h
  obtain ⟨service, a, aaaa⟩ := reply
  rw [Roster.askService, Act.bind_ok ha, Act.bind_ok haaaa]
  cases a <;> cases aaaa <;>
    simp [Reply.verdict, Reply.addresses, Reply.records, Reply.told, Addresses.add]

/-- An action that is attempted fails no more. -/
theorem attempt_cases (x : Act Error σ Lookup) (s : σ) :
    (∃ answer t, (Act.attempt x : Act Error σ _) s = .ok answer t) ∨
      ∃ t, (Act.attempt x : Act Error σ _) s = .error .stalled t := by
  unfold Act.attempt
  cases x s with
  | ok found t => exact .inl ⟨_, _, rfl⟩
  | error halt t =>
    cases halt with
    | stalled => exact .inr ⟨_, rfl⟩
    | failed fault => exact .inl ⟨_, _, rfl⟩

/-- **A service is asked for both versions, one after the other**, unless it never answers. -/
theorem askService_replies (service : κ) (s : σ) :
    (∃ reply t, reply.service = service ∧ Replies lookup name reply s t) ∨
    ∃ t, Roster.askService lookup name service s = .error .stalled t := by
  rcases attempt_cases (lookup { name, type := .a } service) s with ⟨a, between, ha⟩ | ⟨t, ha⟩
  · rcases attempt_cases (lookup { name, type := .aaaa } service) between with
      ⟨aaaa, t, haaaa⟩ | ⟨t, haaaa⟩
    · exact .inl ⟨⟨service, a, aaaa⟩, t, rfl, ⟨between, ha, haaaa⟩⟩
    · exact .inr ⟨t, by rw [Roster.askService, Act.bind_ok ha, Act.bind_error haaaa]⟩
  · exact .inr ⟨t, Act.bind_error ha⟩

/-- A service replies in one way. -/
theorem Replies.unique {reply reply' : Reply κ} {t' : σ} (h : Replies lookup name reply s t)
    (h' : Replies lookup name reply' s t') (hservice : reply.service = reply'.service) :
    reply = reply' ∧ t = t' := by
  obtain ⟨between, ha, haaaa⟩ := h
  obtain ⟨between', ha', haaaa'⟩ := h'
  obtain ⟨service, a, aaaa⟩ := reply
  obtain ⟨service', a', aaaa'⟩ := reply'
  cases hservice
  cases ha.symm.trans ha'
  cases haaaa.symm.trans haaaa'
  exact ⟨rfl, rfl⟩

/-- Where the same services are asked, the first one replies the same. -/
theorem Heard.first_unique {services : List κ} {first first' : Reply κ}
    {rest rest' : List (Reply κ)} {t' : σ} (h : Heard lookup name (first :: rest) s t)
    (h' : Heard lookup name (first' :: rest') s t')
    (hservices : (first :: rest).map (·.service) <+: services)
    (hservices' : (first' :: rest').map (·.service) <+: services) :
    first = first' ∧ ∃ between behind, Heard lookup name rest between t ∧
      Heard lookup name rest' between t' ∧ rest.map (·.service) <+: behind ∧
      rest'.map (·.service) <+: behind := by
  cases h with
  | more hreply hrest =>
  cases h' with
  | more hreply' hrest' =>
  obtain ⟨behind, rfl, hbehind⟩ := List.cons_prefix_iff.1 hservices
  obtain ⟨hservice, hbehind'⟩ := List.cons_prefix_cons.1 hservices'
  obtain ⟨rfl, rfl⟩ := hreply.unique hreply' hservice.symm
  exact ⟨rfl, _, behind, hrest, hrest', hbehind, hbehind'⟩

/-- **There is one service that ends a search.** -/
theorem Heard.unique {services : List κ} {front front' : List (Reply κ)} {last last' : Reply κ}
    {t' : σ} (h : Heard lookup name (front ++ [last]) s t)
    (h' : Heard lookup name (front' ++ [last']) s t')
    (hservices : (front ++ [last]).map (·.service) <+: services)
    (hservices' : (front' ++ [last']).map (·.service) <+: services)
    (hfront : ∀ reply ∈ front, ¬ reply.Knows) (hfront' : ∀ reply ∈ front', ¬ reply.Knows)
    (hlast : last.Knows) (hlast' : last'.Knows) : last = last' := by
  induction front generalizing front' services s with
  | nil =>
    cases front' with
    | nil => exact (h.first_unique h' hservices hservices').1
    | cons first' front' =>
      have hsame : last = first' := (h.first_unique h' hservices hservices').1
      exact absurd (hsame ▸ hlast) (hfront' first' List.mem_cons_self)
  | cons first front ih =>
    rw [List.forall_mem_cons] at hfront
    cases front' with
    | nil =>
      have hsame : first = last' := (h.first_unique h' hservices hservices').1
      exact absurd (hsame ▸ hlast') hfront.1
    | cons first' front' =>
      rw [List.forall_mem_cons] at hfront'
      obtain ⟨-, between, behind, hrest, hrest', hbehind, hbehind'⟩ :=
        h.first_unique h' hservices hservices'
      exact ih hrest hrest' hbehind hbehind' hfront.2 hfront'.2

/-- What comes behind a service that knows nothing. -/
theorem Ends.behind {reply : Reply κ} {error fault : Error} {services : List κ} {between : σ}
    {result : Except (Halt Error) Addresses} (hreply : Replies lookup name reply s between)
    (hvain : ¬ reply.Knows) (hfault : reply.aaaa = .error fault)
    (h : Ends lookup name fault services between t result) :
    Ends lookup name error (reply.service :: services) s t result := by
  have vain {front : List (Reply κ)} (hfront : ∀ other ∈ front, ¬ other.Knows) :
      ∀ other ∈ reply :: front, ¬ other.Knows := List.forall_mem_cons.2 ⟨hvain, hfront⟩
  cases h with
  | @found front last hheard hprefix hfront hlast =>
    have hall : Heard lookup name ((reply :: front) ++ [last]) s t := .more hreply hheard
    exact .found hall (List.cons_prefix_cons.2 ⟨rfl, hprefix⟩) (vain hfront) hlast
  | @failed front last _ hheard hservices hfront hlast =>
    have hall : Heard lookup name ((reply :: front) ++ [last]) s t := .more hreply hheard
    exact .failed hall (congrArg (reply.service :: ·) hservices) (vain hfront) hlast
  | nobody hnobody hsame =>
    subst hnobody hsame
    have hall : Heard lookup name ([] ++ [reply]) s t := .more hreply (.nobody t)
    exact .failed hall rfl (vain fun _ h => absurd h List.not_mem_nil) hfault
  | @stalled front service _ hheard hprefix hfront hstalled =>
    have hall : Heard lookup name (reply :: front) s _ := .more hreply hheard
    exact .stalled hall (List.cons_prefix_cons.2 ⟨rfl, hprefix⟩) (vain hfront) hstalled

/-- The error of a search that has found nothing. -/
def blame (error : Option Error) : Error := error.getD (.dns .noData)

/-- **Services are asked from the front, until one knows.** -/
theorem askServices_ends (services : List κ) (error : Option Error) (s : σ) :
    (∃ answer t, Roster.askServices lookup name error services s = .ok answer t ∧
      Ends lookup name (blame error) services s t
        (answer.mapError fun error => .failed (blame error))) ∨
    ∃ t, Roster.askServices lookup name error services s = .error .stalled t ∧
      Ends lookup name (blame error) services s t (.error .stalled) := by
  induction services generalizing error s with
  | nil => exact .inl ⟨_, s, rfl, .nobody rfl rfl⟩
  | cons service rest ih =>
    unfold Roster.askServices
    rcases @askService_replies κ σ lookup name service s with
      ⟨reply, between, rfl, hreply⟩ | ⟨t, hask⟩
    · rw [Act.bind_ok (askService_run hreply)]
      by_cases hknows : reply.Knows
      · rw [Reply.verdict_of_knows hknows]
        have hheard : Heard lookup name ([] ++ [reply]) s between := .more hreply (.nobody between)
        exact .inl ⟨_, between, rfl, .found hheard
          (List.cons_prefix_cons.2 ⟨rfl, List.nil_prefix⟩) (fun _ h => absurd h List.not_mem_nil)
          hknows⟩
      · obtain ⟨fault, hfault, hverdict⟩ := Reply.aaaa_of_not_knows hknows
        rw [hverdict]
        rcases ih (some fault) between with ⟨answer, t, hrest, hends⟩ | ⟨t, hrest, hends⟩
        · exact .inl ⟨answer, t, hrest, hends.behind hreply hknows hfault⟩
        · exact .inr ⟨t, hrest, hends.behind hreply hknows hfault⟩
    · exact .inr ⟨t, Act.bind_error hask, .stalled (.nobody s)
        (List.cons_prefix_cons.2 ⟨rfl, List.nil_prefix⟩) (fun _ h => absurd h List.not_mem_nil)
        hask⟩

/-- To ask a list is to ask its front, and the rest if that knew nothing. -/
theorem askServices_append (front behind : List κ) (error : Option Error) (s : σ) :
    Roster.askServices lookup name error (front ++ behind) s =
      (Roster.askServices lookup name error front >>= fun answer =>
        match answer with
        | .ok addresses => pure (.ok addresses)
        | .error error => Roster.askServices lookup name error behind) s := by
  induction front generalizing error s with
  | nil => rfl
  | cons service front ih =>
    rw [List.cons_append, Roster.askServices, Roster.askServices]
    cases hask : Roster.askService lookup name service s with
    | error halt t => rw [Act.bind_error hask, Act.bind_error (Act.bind_error hask)]
    | ok verdict t =>
      rw [bind_assoc, Act.bind_ok hask, Act.bind_ok hask]
      cases verdict with
      | ok addresses => rfl
      | error fault => exact ih (some fault) t

end

/-! ## 3. Rounds -/

namespace Roster

variable {κ σ : Type} {lookup : Query → κ → Act Error σ Lookup} {name : Name}

/-- Who is asked in so many rounds, as long as nobody knows. -/
def schedule (attempts : Nat) (r : Roster κ) : List κ :=
  (List.range attempts).flatMap fun i => r.orderAt (r.rounds + i)

/-- The roster when so many more rounds have rotated it. -/
def turned (turns : Nat) (r : Roster κ) : Roster κ := { r with rounds := r.rounds + turns }

/-- **In a round every service has one place.** -/
theorem orderAt_perm (round : Nat) (r : Roster κ) : (r.orderAt round).Perm r.services := by
  unfold orderAt
  cases r.services with
  | nil => exact .nil
  | cons first others =>
    dsimp only
    refine .cons first ?_
    refine List.perm_append_comm.trans ?_
    rw [List.take_append_drop]

/-- The first service comes first in every round. -/
theorem head?_orderAt (round : Nat) (r : Roster κ) :
    (r.orderAt round).head? = r.services.head? := by
  unfold orderAt
  cases r.services <;> rfl

/-- Nobody is asked but the services. -/
theorem mem_services_of_schedule {attempts : Nat} {r : Roster κ} {service : κ}
    (h : service ∈ r.schedule attempts) : service ∈ r.services := by
  obtain ⟨i, -, hmem⟩ := List.mem_flatMap.1 h
  exact (r.orderAt_perm _).mem_iff.1 hmem

theorem orderAt_still {r : Roster κ} (h : r.rotates = false) (round round' : Nat) :
    r.orderAt round = r.orderAt round' := by
  unfold orderAt
  rw [h]
  rfl

/-- The roster when so many more rounds have begun.  They are counted where it rotates. -/
def advanced (n : Nat) (r : Roster κ) : Roster κ := if r.rotates then r.turned n else r

/-- The orders of so many rounds. -/
def nextOrders (n : Nat) (r : Roster κ) : List (List κ) :=
  (List.range n).map fun i => r.orderAt (r.rounds + i)

theorem advanced_zero (r : Roster κ) : r.advanced 0 = r := by
  unfold advanced
  split <;> rfl

theorem advanced_advanced (m n : Nat) (r : Roster κ) :
    (r.advanced m).advanced n = r.advanced (m + n) := by
  unfold advanced
  by_cases h : r.rotates
  · have hturned : (r.turned m).rotates = true := h
    rw [if_pos h, if_pos hturned, if_pos h, turned, turned, turned, Nat.add_assoc]
  · rw [if_neg h, if_neg h, if_neg h]

/-- The orders of a roster go on where it has been advanced to. -/
theorem orderAt_advanced (n i : Nat) (r : Roster κ) :
    (r.advanced n).orderAt ((r.advanced n).rounds + i) = r.orderAt (r.rounds + (n + i)) := by
  unfold advanced
  by_cases h : r.rotates
  · rw [if_pos h, ← Nat.add_assoc]
    rfl
  · rw [if_neg h]
    exact orderAt_still (Bool.eq_false_iff.2 h) _ _

theorem nextOrders_add (m n : Nat) (r : Roster κ) :
    r.nextOrders (m + n) = r.nextOrders m ++ (r.advanced m).nextOrders n := by
  simp only [nextOrders, List.range_add, List.map_append, List.map_map, orderAt_advanced]
  rfl

theorem nextOrders_one (r : Roster κ) : r.nextOrders 1 = [r.orderAt r.rounds] := rfl

theorem length_nextOrders (n : Nat) (r : Roster κ) : (r.nextOrders n).length = n := by
  simp [nextOrders]

/-- **A round takes the next order**, and is counted. -/
theorem order_eq (r : Roster κ) (s : σ) :
    (order : Act Error (Roster κ × σ) (List κ)) (r, s) =
      .ok (r.orderAt r.rounds) (r.advanced 1, s) :=
  rfl

theorem schedule_eq (attempts : Nat) (r : Roster κ) :
    r.schedule attempts = (r.nextOrders attempts).flatten := by
  rw [schedule, nextOrders, List.flatMap_def]

theorem exists_turned (n : Nat) (r : Roster κ) : ∃ turns, r.advanced n = r.turned turns := by
  unfold advanced
  split
  · exact ⟨n, rfl⟩
  · exact ⟨0, rfl⟩

/-- A round, and the roster behind it. -/
theorem order_run (r : Roster κ) (s : σ) :
    ∃ turns, (order : Act Error (Roster κ × σ) (List κ)) (r, s) =
        .ok (r.orderAt r.rounds) (r.turned turns, s) ∧
      ∀ attempts, r.schedule (attempts + 1) =
        r.orderAt r.rounds ++ (r.turned turns).schedule attempts := by
  obtain ⟨turns, hturned⟩ := exists_turned 1 r
  refine ⟨turns, ?_, fun attempts => ?_⟩
  · rw [← hturned, order_eq]
  · rw [← hturned, schedule_eq, schedule_eq, Nat.add_comm, nextOrders_add, nextOrders_one,
      List.flatten_append, List.flatten_singleton]

/-- What the first round finds is the result. -/
theorem search_found {attempts : Nat} {error : Option Error} {r : Roster κ} {s t : σ}
    {addresses : Addresses}
    (h : askServices lookup name error (r.orderAt r.rounds) s = .ok (.ok addresses) t) :
    ∃ turns, search lookup name error (attempts + 1) (r, s) =
      .ok addresses (r.turned turns, t) := by
  obtain ⟨turns, horder, -⟩ := @order_run κ σ r s
  have hsecond : Act.second (askServices lookup name error (r.orderAt r.rounds))
      (r.turned turns, s) = .ok (.ok addresses) (r.turned turns, t) := Act.second_ok h
  refine ⟨turns, ?_⟩
  rw [search, Act.bind_ok horder]
  exact Act.bind_ok hsecond

/-- What is made of the answer of a whole schedule, where the rounds have turned the roster. -/
def conclude (r : Roster κ) :
    EStateM.Result (Halt Error) σ (Except (Option Error) Addresses) →
      EStateM.Result (Halt Error) (Roster κ × σ) Addresses
  | .ok (.ok addresses) s => .ok addresses (r, s)
  | .ok (.error error) s => .error (.failed (blame error)) (r, s)
  | .error halt s => .error halt (r, s)

/-- **All rounds are one list of services.** -/
theorem search_flat (attempts : Nat) (error : Option Error) (r : Roster κ) (s : σ) :
    ∃ turns, search lookup name error attempts (r, s) =
      conclude (r.turned turns) (askServices lookup name error (r.schedule attempts) s) := by
  induction attempts generalizing error r s with
  | zero => exact ⟨0, rfl⟩
  | succ attempts ih =>
    obtain ⟨turns, horder, hschedule⟩ := @order_run κ σ r s
    rw [search, Act.bind_ok horder, hschedule, askServices_append]
    cases hround : askServices lookup name error (r.orderAt r.rounds) s with
    | error halt t =>
      refine ⟨turns, ?_⟩
      rw [Act.bind_error hround]
      exact Act.bind_error (Act.second_error hround)
    | ok answer t =>
      have hsecond : Act.second (askServices lookup name error (r.orderAt r.rounds))
          (r.turned turns, s) = .ok answer (r.turned turns, t) := Act.second_ok hround
      rw [Act.bind_ok hround, Act.bind_ok hsecond]
      cases answer with
      | ok addresses => exact ⟨turns, rfl⟩
      | error error =>
        obtain ⟨more, hmore⟩ := ih error (r.turned turns) t
        refine ⟨turns + more, hmore.trans ?_⟩
        have hturned : (r.turned turns).turned more = r.turned (turns + more) := by
          unfold turned
          rw [Nat.add_assoc]
        rw [hturned]

/-- **A search asks its schedule**, and of the roster it changes nothing but the rounds. -/
theorem search_ends (attempts : Nat) (r : Roster κ) (s : σ) :
    ∃ turns result t, Ends lookup name (.dns .noData) (r.schedule attempts) s t result ∧
      Act.outcome (search lookup name none attempts) (r, s) = result ∧
      Act.after (search lookup name none attempts) (r, s) = (r.turned turns, t) := by
  obtain ⟨turns, hflat⟩ := @search_flat κ σ lookup name attempts none r s
  rcases @askServices_ends κ σ lookup name (r.schedule attempts) none s with
    ⟨answer, t, hask, hends⟩ | ⟨t, hask, hends⟩
  · refine ⟨turns, _, t, hends, ?_⟩
    rw [hask] at hflat
    cases answer with
    | ok addresses => exact ⟨Act.outcome_ok hflat, Act.after_ok hflat⟩
    | error error => exact ⟨Act.outcome_error hflat, Act.after_error hflat⟩
  · refine ⟨turns, _, t, hends, ?_⟩
    rw [hask] at hflat
    exact ⟨Act.outcome_error hflat, Act.after_error hflat⟩

end Roster

/-! ## 4. The table of hosts -/

namespace Hosts

/-- All addresses in an entry. -/
def HostEntry.addresses (entry : HostEntry) : Addresses :=
  { v4 := (entry.v4 ++ entry.v6).filterMap Addresses.recordV4?
    v6 := (entry.v4 ++ entry.v6).filterMap Addresses.recordV6? }

/-- The table has an address of the name, in this entry. -/
structure Has (name : Name) (entry : HostEntry) (table : Hosts) : Prop where
  found : table.entries.find? (·.name.sameAs name) = some entry
  address : entry.v4 ≠ [] ∨ entry.v6 ≠ []

variable {name : Name} {entry : HostEntry} {table : Hosts}

/-- What a table with the entry says about records of a type. -/
theorem Has.told_lookup (h : table.Has name entry) (type : RecordType) :
    Reply.told ((table.lookup { name, type }).mapError Error.dns) =
        HostEntry.records type entry ∧
      (HostEntry.records type entry ≠ [] →
        ((table.lookup { name, type }).mapError Error.dns).isOk) := by
  unfold lookup
  rw [h.found]
  dsimp only
  split
  · next hnone => exact ⟨hnone.symm, fun hsome => absurd hnone hsome⟩
  · next hsome => exact ⟨hsome.symm, fun _ => rfl⟩

/-- The reply of a table. -/
def reply (name : Name) (table : Hosts) : Reply Service where
  service := .hosts table
  a := (table.lookup { name, type := .a }).mapError Error.dns
  aaaa := (table.lookup { name, type := .aaaa }).mapError Error.dns

/-- A table leaves everything else alone. -/
theorem replies_reply (name : Name) (table : Hosts) (system : System) :
    Replies Service.lookup name (table.reply name) system system :=
  ⟨system, Act.attempt_ofExcept _ _, Act.attempt_ofExcept _ _⟩

/-- **A table that has an address answers with all that it has.** -/
theorem Has.verdict (h : table.Has name entry) :
    (table.reply name).verdict = .ok (HostEntry.addresses entry) := by
  obtain ⟨ha, haOk⟩ := h.told_lookup .a
  obtain ⟨haaaa, haaaaOk⟩ := h.told_lookup .aaaa
  have hknows : (table.reply name).Knows := h.address.imp haOk haaaaOk
  have hrecords : (table.reply name).records = entry.v4 ++ entry.v6 :=
    (congrArg (· ++ _) ha).trans (congrArg (entry.v4 ++ ·) haaaa)
  rw [Reply.verdict_of_knows hknows, Reply.addresses, hrecords, HostEntry.addresses]

end Hosts

/-! ## 5. Resolving a name -/

/-- What resolving a host does that is named by this name. -/
structure Searches (host : String) (name : Name) : Prop where
  /-- In every round each service has one place, and the first is the first. -/
  rounds : ∀ {κ : Type} (r : Roster κ) (round : Nat),
    (r.orderAt round).Perm r.services ∧ (r.orderAt round).head? = r.services.head?
  /-- The rounds are gone through service by service, whatever the services do, until one knows.
  Of the roster, only how many rounds have rotated it is changed. -/
  ends : ∀ {κ σ : Type} (lookup : Query → κ → Act Error σ Lookup) (r : Roster κ) (s : σ),
    ∃ turns result t, Ends lookup name (.dns .noData) (r.schedule r.attempts) s t result ∧
      Act.outcome (Roster.resolve lookup host) (r, s) = result ∧
      Act.after (Roster.resolve lookup host) (r, s) = (r.turned turns, t)
  /-- Each answer has the addresses of its version, if it holds what was asked for. -/
  versions : ∀ {κ : Type} {reply : Reply κ},
    (∀ record ∈ Reply.told reply.a, Addresses.recordV6? record = none) →
    (∀ record ∈ Reply.told reply.aaaa, Addresses.recordV4? record = none) →
    reply.addresses =
      { v4 := (Reply.told reply.a).filterMap Addresses.recordV4?
        v6 := (Reply.told reply.aaaa).filterMap Addresses.recordV6? }
  /-- What a table has an address of is not looked for anywhere else: nothing is sent. -/
  known : ∀ {table : Hosts} {entry : HostEntry} {resolver : Resolver} (system : System),
    resolver.services.head? = some (.hosts table) → table.Has name entry →
    (Act.after (Resolver.resolve host) (resolver, system)).2 = system ∧
      (0 < resolver.attempts →
        Act.outcome (Resolver.resolve host) (resolver, system) =
          .ok (Hosts.HostEntry.addresses entry))

section

variable {κ σ : Type} {lookup : Query → κ → Act Error σ Lookup} {host : String} {name : Name}

/-- A host that is not named by an address is searched for by its name. -/
theorem resolve_eq_search (hip : IpAddr.parse? host = none)
    (hname : Name.parse? (Lowercase.text host) = some name) (r : Roster κ) (s : σ) :
    Roster.resolve lookup host (r, s) = Roster.search lookup name none r.attempts (r, s) := by
  unfold Roster.resolve
  rw [hip]
  dsimp only
  rw [hname]
  rfl

/-- So it ends as the search does. -/
theorem resolve_ends (hip : IpAddr.parse? host = none)
    (hname : Name.parse? (Lowercase.text host) = some name) (r : Roster κ) (s : σ) :
    ∃ turns result t, Ends lookup name (.dns .noData) (r.schedule r.attempts) s t result ∧
      Act.outcome (Roster.resolve lookup host) (r, s) = result ∧
      Act.after (Roster.resolve lookup host) (r, s) = (r.turned turns, t) := by
  obtain ⟨turns, result, t, hends, houtcome, hafter⟩ :=
    @Roster.search_ends _ _ lookup name r.attempts r s
  have hsearch := @resolve_eq_search _ _ lookup host name hip hname r s
  exact ⟨turns, result, t, hends, (Act.outcome_congr hsearch).trans houtcome,
    (Act.after_congr hsearch).trans hafter⟩

theorem resolve_known (hip : IpAddr.parse? host = none)
    (hname : Name.parse? (Lowercase.text host) = some name) {table : Hosts} {entry : HostEntry}
    {resolver : Resolver} (hfirst : resolver.services.head? = some (.hosts table))
    (hhas : table.Has name entry) (system : System) :
    (Act.after (Resolver.resolve host) (resolver, system)).2 = system ∧
      (0 < resolver.attempts →
        Act.outcome (Resolver.resolve host) (resolver, system) =
          .ok (Hosts.HostEntry.addresses entry)) := by
  have hresolve : Resolver.resolve host (resolver, system) =
      Roster.search Service.lookup name none resolver.attempts (resolver, system) :=
    resolve_eq_search hip hname resolver system
  cases hattempts : resolver.attempts with
  | zero =>
    rw [hattempts] at hresolve
    exact ⟨congrArg Prod.snd (Act.after_error hresolve), fun hpos => absurd hpos (Nat.lt_irrefl 0)⟩
  | succ attempts =>
    obtain ⟨rest, horderAt⟩ : ∃ rest, resolver.orderAt resolver.rounds = .hosts table :: rest :=
      List.head?_eq_some_iff.1 ((Roster.head?_orderAt _ _).trans hfirst)
    have hround : Roster.askServices Service.lookup name none
        (resolver.orderAt resolver.rounds) system =
          .ok (.ok (Hosts.HostEntry.addresses entry)) system := by
      rw [horderAt, Roster.askServices]
      have hask := askService_run (Hosts.replies_reply name table system)
      rw [hhas.verdict] at hask
      exact Act.bind_ok hask
    obtain ⟨turns, hfound⟩ := @Roster.search_found _ _ _ _ attempts _ _ _ _ _ hround
    have hok : Resolver.resolve host (resolver, system) =
        .ok (Hosts.HostEntry.addresses entry) (resolver.turned turns, system) := by
      rw [hresolve, hattempts, hfound]
    exact ⟨congrArg Prod.snd (Act.after_ok hok), fun _ => Act.outcome_ok hok⟩

/-- **Resolving a name asks service after service, round after round, until one knows**, and its
addresses are the result. -/
theorem resolve_searches (hip : IpAddr.parse? host = none)
    (hname : Name.parse? (Lowercase.text host) = some name) : Searches host name where
  rounds r round := ⟨r.orderAt_perm round, r.head?_orderAt round⟩
  ends _ r s := resolve_ends hip hname r s
  versions := Reply.addresses_eq
  known system hfirst hhas := resolve_known hip hname hfirst hhas system

/-- A name of one label, which is neither an address nor brought into another form. -/
theorem resolve_searches_service :
    IpAddr.parse? "_dns" = none ∧
    Name.parse? (Lowercase.text "_dns") = some ⟨[[95, 100, 110, 115]], false⟩ ∧
    Searches "_dns" ⟨[[95, 100, 110, 115]], false⟩ := by
  have hip : IpAddr.parse? "_dns" = none := by decide +kernel
  have hname : Name.parse? (Lowercase.text "_dns") = some ⟨[[95, 100, 110, 115]], false⟩ := by
    decide +kernel
  exact ⟨hip, hname, resolve_searches hip hname⟩

end

end Dns

end UrlTransfer
