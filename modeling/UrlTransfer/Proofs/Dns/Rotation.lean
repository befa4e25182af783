/-
# Whose turn it is

The services of a roster are asked in rounds, and every round has its number: the rounds of one
search are counted on in the next, however the searches end.  The order of a round hangs on its
number alone.  The first service always comes first.  Where the roster rotates, the others are
moved up by as many places as the number says, in a circle.

Counting is the part about runs.  `ordersOf` follows a search and keeps the order of each round that
it begins; asking those services one after the other is what the search does (`search_asks`), and
they are the next orders of the roster (`ordersOf_eq`), as many as it has counted.  With that the
rounds of any number of searches are numbered through (`history_eq`).

The circle is the part about lists.  The order of a round is a rotation (`orderAt_rotates`), and who
stands in one place over as many rounds as there are others is a rotation too (`column_eq`).  So in
those rounds each of them has stood there once.
-/
import Mathlib.Data.List.Rotate
import UrlTransfer.Proofs.Dns.Search

namespace UrlTransfer

namespace Dns

namespace Roster

variable {κ σ : Type}

/-! ## 1. The rounds of a search -/

section

variable (lookup : Query → κ → Act Error σ Lookup) (name : Name)

/-- The orders of the rounds that a search begins, one for each. -/
def ordersOf (error : Option Error) : Nat → Roster κ × σ → List (List κ)
  | 0, _ => []
  | rounds + 1, p =>
    match (order : Act Error (Roster κ × σ) (List κ)) p with
    | .error _ _ => []
    | .ok services q => services ::
      match askServices lookup name error services q.2 with
      | .ok (.error error) t => ordersOf error rounds (q.1, t)
      | _ => []

variable {lookup name} {attempts : Nat} {error error' : Option Error} {r : Roster κ} {s t : σ}

/-- A round in which nobody knows anything is followed by the others. -/
theorem ordersOf_more
    (h : askServices lookup name error (r.orderAt r.rounds) s = .ok (.error error') t) :
    ordersOf lookup name error (attempts + 1) (r, s) =
      r.orderAt r.rounds :: ordersOf lookup name error' attempts (r.advanced 1, t) := by
  rw [ordersOf, order_eq]
  simp only [h]

/-- Any other is the last. -/
theorem ordersOf_last
    (h : ∀ error' t,
      askServices lookup name error (r.orderAt r.rounds) s ≠ .ok (.error error') t) :
    ordersOf lookup name error (attempts + 1) (r, s) = [r.orderAt r.rounds] := by
  rw [ordersOf, order_eq]
  dsimp only
  split
  · next error' t hround => exact absurd hround (h error' t)
  · rfl

/-- **A search begins one round after the other**, at the next one of its roster. -/
theorem ordersOf_eq (attempts : Nat) (error : Option Error) (r : Roster κ) (s : σ) :
    ∃ n, ordersOf lookup name error attempts (r, s) = r.nextOrders n := by
  induction attempts generalizing error r s with
  | zero => exact ⟨0, rfl⟩
  | succ attempts ih =>
    by_cases hvain : ∃ error' t,
        askServices lookup name error (r.orderAt r.rounds) s = .ok (.error error') t
    · obtain ⟨error', t, hround⟩ := hvain
      obtain ⟨n, hn⟩ := ih error' (r.advanced 1) t
      refine ⟨1 + n, ?_⟩
      rw [ordersOf_more hround, nextOrders_add, nextOrders_one, hn, List.singleton_append]
    · refine ⟨1, ?_⟩
      rw [nextOrders_one]
      exact ordersOf_last fun error' t hround => hvain ⟨error', t, hround⟩

/-- **A search asks the services of its rounds, in their orders**, and counts the rounds. -/
theorem search_asks (attempts : Nat) (error : Option Error) (r : Roster κ) (s : σ) :
    search lookup name error attempts (r, s) =
      conclude (r.advanced (ordersOf lookup name error attempts (r, s)).length)
        (askServices lookup name error (ordersOf lookup name error attempts (r, s)).flatten s) := by
  induction attempts generalizing error r s with
  | zero =>
    rw [ordersOf, List.length_nil, advanced_zero]
    rfl
  | succ attempts ih =>
    rw [search, Act.bind_ok (order_eq r s)]
    cases hround : askServices lookup name error (r.orderAt r.rounds) s with
    | error halt t =>
      rw [ordersOf_last (by simp [hround]), List.flatten_singleton, hround]
      exact Act.bind_error (Act.second_error hround)
    | ok answer t =>
      have hsecond : Act.second (askServices lookup name error (r.orderAt r.rounds))
          (r.advanced 1, s) = .ok answer (r.advanced 1, t) := Act.second_ok hround
      rw [Act.bind_ok hsecond]
      cases answer with
      | ok addresses =>
        rw [ordersOf_last (by simp [hround]), List.flatten_singleton, hround]
        rfl
      | error error' =>
        rw [ordersOf_more hround, List.flatten_cons, askServices_append, Act.bind_ok hround,
          List.length_cons, Nat.add_comm _ 1, ← advanced_advanced]
        exact ih error' (r.advanced 1) t

/-! ## 2. The rounds of many searches -/

/-- The name that a host is searched for by, if it is not an address and can be a name. -/
def searched? (host : String) : Option Name :=
  match IpAddr.parse? host with
  | some _ => none
  | none => Name.parse? (Lowercase.text host)

variable (lookup)

/-- The orders of the rounds that resolving a host begins. -/
def ordersFor (host : String) (p : Roster κ × σ) : List (List κ) :=
  match searched? host with
  | some name => ordersOf lookup name none p.1.attempts p
  | none => []

/-- The orders of all rounds where hosts are resolved one after the other, each of them from some
state of the services. -/
def history : List (String × σ) → Roster κ → List (List κ)
  | [], _ => []
  | (host, s) :: later, r =>
    ordersFor lookup host (r, s) ++ history later (Act.after (resolve lookup host) (r, s)).1

variable {lookup} {host : String}

/-- What is no name to search for is answered without a round. -/
theorem resolve_unsearched (h : searched? host = none) (r : Roster κ) (s : σ) :
    Act.after (resolve lookup host) (r, s) = (r, s) := by
  unfold searched? at h
  unfold resolve
  cases hip : IpAddr.parse? host with
  | some ip => rfl
  | none =>
    rw [hip] at h
    dsimp only at h ⊢
    rw [h]
    rfl

/-- **Resolving a host asks the services of its rounds, in their orders.** -/
theorem resolve_asks (h : searched? host = some name) (r : Roster κ) (s : σ) :
    resolve lookup host (r, s) =
      conclude (r.advanced (ordersFor lookup host (r, s)).length)
        (askServices lookup name none (ordersFor lookup host (r, s)).flatten s) := by
  have hname : IpAddr.parse? host = none ∧ Name.parse? (Lowercase.text host) = some name := by
    unfold searched? at h
    split at h
    · cases h
    · next hip => exact ⟨hip, h⟩
  rw [resolve_eq_search hname.1 hname.2, search_asks, ordersFor, h]

theorem ordersFor_eq (lookup : Query → κ → Act Error σ Lookup) (host : String) (r : Roster κ)
    (s : σ) : ∃ n, ordersFor lookup host (r, s) = r.nextOrders n := by
  unfold ordersFor
  cases searched? host with
  | none => exact ⟨0, rfl⟩
  | some name => exact ordersOf_eq r.attempts none r s

theorem after_conclude (r : Roster κ)
    (result : EStateM.Result (Halt Error) σ (Except (Option Error) Addresses))
    {x : Act Error (Roster κ × σ) Addresses} {p : Roster κ × σ} (h : x p = conclude r result) :
    (Act.after x p).1 = r := by
  unfold Act.after
  rw [h]
  rcases result with ⟨answer | answer, s⟩ | ⟨halt, s⟩ <;> rfl

/-- However it ends, the roster has counted its rounds. -/
theorem resolve_advances (host : String) (r : Roster κ) (s : σ) :
    (Act.after (resolve lookup host) (r, s)).1 =
      r.advanced (ordersFor lookup host (r, s)).length := by
  cases h : searched? host with
  | none =>
    rw [resolve_unsearched h, ordersFor, h]
    exact (advanced_zero r).symm
  | some name => exact after_conclude _ _ (resolve_asks h r s)

/-- **The rounds of all searches are numbered through.** -/
theorem history_eq (lookup : Query → κ → Act Error σ Lookup) (queries : List (String × σ))
    (r : Roster κ) : ∃ n, history lookup queries r = r.nextOrders n := by
  induction queries generalizing r with
  | nil => exact ⟨0, rfl⟩
  | cons query later ih =>
    obtain ⟨host, s⟩ := query
    obtain ⟨m, hm⟩ := ordersFor_eq lookup host r s
    obtain ⟨n, hn⟩ := ih (r.advanced m)
    refine ⟨m + n, ?_⟩
    rw [history, resolve_advances, hm, length_nextOrders, hn, nextOrders_add]

end

/-! ## 3. The circle -/

variable {first : κ} {others : List κ} {r : Roster κ} {place : Nat}

/-- In every round the first service comes first, and the others behind it. -/
theorem exists_behind (hservices : r.services = first :: others) (i : Nat) :
    ∃ behind, r.orderAt i = first :: behind ∧ behind.Perm others := by
  have hhead : (r.orderAt i).head? = some first := by rw [head?_orderAt, hservices, List.head?_cons]
  obtain ⟨behind, hbehind⟩ := List.head?_eq_some_iff.1 hhead
  refine ⟨behind, hbehind, ?_⟩
  have hperm := r.orderAt_perm i
  rwa [hbehind, hservices, List.perm_cons] at hperm

/-- The order of a round is the first service and a rotation of the others. -/
theorem orderAt_rotates (hservices : r.services = first :: others) (h : r.rotates = true)
    (i : Nat) : r.orderAt i = first :: others.rotate i := by
  simp [orderAt, hservices, h, List.rotate_eq_drop_append_take_mod]

/-- Without rotation it is the order of the services. -/
theorem orderAt_configured (h : r.rotates = false) (i : Nat) : r.orderAt i = r.services := by
  unfold orderAt
  cases hservices : r.services <;> simp [h]

/-- A roster rotates if it is told to and there are two others at least. -/
theorem rotates_iff (hservices : r.services = first :: others) :
    r.rotates = true ↔ r.rotate = true ∧ 2 ≤ others.length := by
  rw [rotates, hservices, List.length_cons, Bool.and_eq_true, decide_eq_true_eq, gt_iff_lt,
    Nat.lt_add_one_iff]

/-- **Places and rounds are alike**: who stands in one place after so many rounds is who stands as
many places on in the order that belongs to the place. -/
theorem getElem?_rotate_swap {d : Nat} (start : Nat) (hplace : place < others.length)
    (hd : d < others.length) :
    (others.rotate (start + d))[place]? = (others.rotate (start + place))[d]? := by
  have hnumber : place + (start + d) = d + (start + place) := by omega
  rw [List.getElem?_rotate hplace, List.getElem?_rotate hd, hnumber]

/-- Those who stand in one place, round after round, are a rotation as well. -/
theorem column_eq (others : List κ) (start : Nat) (hplace : place < others.length) :
    ((List.range others.length).map fun d => (others.rotate (start + d))[place]?) =
      (others.rotate (start + place)).map some := by
  refine List.ext_getElem (by simp) fun d hd _ => ?_
  rw [List.length_map, List.length_range] at hd
  simp [getElem?_rotate_swap start hplace hd, hd]

/-- Where no two of them are the same, one stands in a place in just one of as many rounds. -/
theorem existsUnique_round (hothers : others.Nodup) (start : Nat) (hplace : place < others.length)
    {service : κ} (hservice : service ∈ others) :
    ∃! i, (start ≤ i ∧ i < start + others.length) ∧ (others.rotate i)[place]? = some service := by
  have hmem : service ∈ others.rotate (start + place) := List.mem_rotate.2 hservice
  obtain ⟨d, hd, hfound⟩ := List.mem_iff_getElem.1 hmem
  have hless : d < others.length := by rwa [List.length_rotate] at hd
  refine ⟨start + d, ⟨⟨by omega, by omega⟩, ?_⟩, ?_⟩
  · rw [getElem?_rotate_swap start hplace hless, List.getElem?_eq_getElem hd, hfound]
  · rintro i ⟨⟨hle, hlt⟩, hi⟩
    obtain ⟨e, rfl⟩ := Nat.exists_eq_add_of_le hle
    rw [getElem?_rotate_swap start hplace (by omega)] at hi
    obtain ⟨he, hother⟩ := List.getElem?_eq_some_iff.1 hi
    have hsame := hother.trans hfound.symm
    rw [(List.nodup_rotate.2 hothers).getElem_inj_iff] at hsame
    rw [hsame]

/-! ## 4. Taking turns -/

/-- How the services of a roster take turns: one that comes first, and the others behind it. -/
structure TakesTurns (lookup : Query → κ → Act Error σ Lookup) (first : κ) (others : List κ)
    (rotate : Bool) (r : Roster κ) : Prop where
  /-- The rounds of all searches have the orders of the numbers 0, 1, 2 and so on. -/
  numbered : ∀ queries : List (String × σ), ∃ n,
    history lookup queries r = (List.range n).map fun i => r.orderAt i
  /-- Those are the orders that a search goes by: it asks their services one after the other, as
  long as nobody knows, and counts the rounds. -/
  used : ∀ (host : String) (name : Name) (s : σ) (q : Roster κ), searched? host = some name →
    resolve lookup host (q, s) =
      conclude (q.advanced (ordersFor lookup host (q, s)).length)
        (askServices lookup name none (ordersFor lookup host (q, s)).flatten s)
  /-- In every round each service has one place, and the first is the first. -/
  places : ∀ i, ∃ behind, r.orderAt i = first :: behind ∧ behind.Perm others
  /-- Without rotation, or with less than two others, the order is always the same. -/
  still : rotate = false ∨ others.length < 2 → ∀ i, r.orderAt i = first :: others
  /-- With rotation the others go in a circle, which starts one further on in each round. -/
  circle : rotate = true → 2 ≤ others.length → ∀ i place, place < others.length →
    (r.orderAt i)[place + 1]? = others[(i + place) % others.length]?
  /-- So in as many rounds as there are others, one after the other, all of them have stood in
  each place. -/
  fair : rotate = true → 2 ≤ others.length → ∀ start place, place < others.length →
    ((List.range others.length).map fun d => (r.orderAt (start + d))[place + 1]?).Perm
      (others.map some)
  /-- And each of them once, if no two are the same. -/
  once : rotate = true → 2 ≤ others.length → others.Nodup → ∀ start place service,
    place < others.length → service ∈ others →
    ∃! i, (start ≤ i ∧ i < start + others.length) ∧ (r.orderAt i)[place + 1]? = some service

/-- **The services of a roster take turns**, whatever they do when they are asked, and whatever
they are asked for. -/
theorem takesTurns (lookup : Query → κ → Act Error σ Lookup) (first : κ) (others : List κ)
    (attempts : Nat) (rotate : Bool) :
    TakesTurns lookup first others rotate { services := first :: others, attempts, rotate } := by
  have hcircle (htold : rotate = true) (htwo : 2 ≤ others.length) (i : Nat) :
      orderAt i { services := first :: others, attempts, rotate } = first :: others.rotate i :=
    orderAt_rotates rfl ((rotates_iff rfl).2 ⟨htold, htwo⟩) i
  refine { numbered := ?numbered, used := fun _ _ s q h => resolve_asks h q s,
           places := exists_behind rfl, still := ?still, circle := ?circle, fair := ?fair,
           once := ?once }
  case numbered =>
    intro queries
    obtain ⟨n, hn⟩ := history_eq lookup queries { services := first :: others, attempts, rotate }
    exact ⟨n, by simpa [nextOrders] using hn⟩
  case still =>
    intro hstill i
    refine orderAt_configured (Bool.eq_false_iff.2 fun hrotates => ?_) i
    obtain ⟨htold, htwo⟩ := (rotates_iff rfl).1 hrotates
    rcases hstill with rfl | hless
    · exact absurd htold Bool.false_ne_true
    · omega
  case circle =>
    intro htold htwo i place hplace
    rw [hcircle htold htwo, List.getElem?_cons_succ, List.getElem?_rotate hplace, Nat.add_comm]
  case fair =>
    intro htold htwo start place hplace
    simp only [hcircle htold htwo, List.getElem?_cons_succ, column_eq others start hplace]
    exact (List.rotate_perm others _).map some
  case once =>
    intro htold htwo hothers start place service hplace hservice
    simp only [hcircle htold htwo, List.getElem?_cons_succ]
    exact existsUnique_round hothers start hplace hservice

/-- The second of three services stands behind the third in the second round. -/
example : ({ services := [0, 1, 2], rotate := true } : Roster Nat).orderAt 1 = [0, 2, 1] := by
  decide

end Roster

end Dns

end UrlTransfer
