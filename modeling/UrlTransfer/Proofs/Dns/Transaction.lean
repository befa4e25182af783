/-
# What a name server is heard to say

A query goes out with a random number, and anything may come back: datagrams that are no message,
messages that answer something else, and many answers.  Only one of them counts.  `message?` is what
a datagram holds for who waits for a number, and the first datagram that holds something decides
(`await_front`, `await_some`); whatever else comes before it, or comes behind it at all, does not
show (`SameAnswer.await`).

What the deciding message comes to is stated apart (`Tells`), with one case for each of the three
ways in which a message can answer, and `interpret_tells` says that reading a message is that.
-/
import UrlTransfer.Dns.NameServer
import UrlTransfer.Proofs.Keeping

namespace UrlTransfer

namespace Dns

namespace NameServer

/-! ## 1. Datagrams -/

section

variable {id : Nat} {datagram : Bytes} {response : Response}

/-- The message that a datagram holds, as far as it is taken, if it has this number. -/
def message? (id : Nat) (datagram : Bytes) : Option Response :=
  (Response.parse? (datagram.take maxMessage)).filter (·.id = id)

theorem message?_eq_some_iff : message? id datagram = some response ↔
    Response.parse? (datagram.take maxMessage) = some response ∧ response.id = id := by
  unfold message?
  rw [Option.filter_eq_some_iff, decide_eq_true_iff]

theorem await_cons (id : Nat) (datagram : Bytes) (behind : List Echo) :
    await id (.ok datagram :: behind) =
      match message? id datagram with
      | some response => .ok response
      | none => await id behind := by
  unfold message?
  rw [await]
  cases Response.parse? (datagram.take maxMessage) with
  | none => rfl
  | some response =>
    dsimp only
    by_cases hid : response.id = id
    · rw [if_pos hid, Option.filter_some, if_pos (decide_eq_true hid)]
    · rw [if_neg hid, Option.filter_some, if_neg (by simpa using hid)]

/-- **The first message with the number decides.** -/
theorem await_some (h : message? id datagram = some response) (behind : List Echo) :
    await id (.ok datagram :: behind) = .ok response := by
  rw [await_cons, h]

theorem await_none (h : message? id datagram = none) (behind : List Echo) :
    await id (.ok datagram :: behind) = await id behind := by
  rw [await_cons, h]

/-- Everything else is passed over. -/
theorem await_front {front : List Bytes} (h : ∀ datagram ∈ front, message? id datagram = none)
    (behind : List Echo) : await id (front.map .ok ++ behind) = await id behind := by
  induction front with
  | nil => rfl
  | cons datagram front ih =>
    rw [List.forall_mem_cons] at h
    rw [List.map_cons, List.cons_append, await_none h.1, ih h.2]

/-- Two sequences of datagrams hold the same answer: they differ in such as hold no message with
the number, and behind the first that holds one in anything. -/
inductive SameAnswer (id : Nat) : List Echo → List Echo → Prop where
  | nothing : SameAnswer id [] []
  | left {datagram : Bytes} {echoes echoes' : List Echo} :
    message? id datagram = none → SameAnswer id echoes echoes' →
      SameAnswer id (.ok datagram :: echoes) echoes'
  | right {datagram : Bytes} {echoes echoes' : List Echo} :
    message? id datagram = none → SameAnswer id echoes echoes' →
      SameAnswer id echoes (.ok datagram :: echoes')
  | decided {datagram datagram' : Bytes} {response : Response} (behind behind' : List Echo) :
    message? id datagram = some response → message? id datagram' = some response →
      SameAnswer id (.ok datagram :: behind) (.ok datagram' :: behind')

/-- **What differs in nothing but that is heard as the same.** -/
theorem SameAnswer.await {echoes echoes' : List Echo} (h : SameAnswer id echoes echoes') :
    NameServer.await id echoes = NameServer.await id echoes' := by
  induction h with
  | nothing => rfl
  | left hnone _ ih => rw [await_none hnone, ih]
  | right hnone _ ih => rw [await_none hnone, ih]
  | decided behind behind' hsome hsome' => rw [await_some hsome, await_some hsome']

end

/-! ## 2. Messages -/

/-- Is the record of the class and type that are asked for? -/
def asks (query : Query) (record : Record) : Bool :=
  record.recordClass = query.recordClass && record.type = query.type

/-- What a message tells about a query, of the records of all its sections in their order. -/
inductive Tells (query : Query) (response : Response) : Except DnsError Lookup → Prop where
  /-- Without a fault, all records of the class and type, which are valid as long as each is. -/
  | records : response.code = .noError → (∃ record ∈ response.records, asks query record) →
    Tells query response (.ok
      { query
        records := response.records.filter (asks query)
        validFor := ((response.records.filter (asks query)).map (·.timeToLive)).min? })
  /-- There are none, but other records have the name. -/
  | noData : response.code = .noError → (∀ record ∈ response.records, ¬ asks query record) →
    (∃ record ∈ response.records, record.name.sameAs query.name) →
    Tells query response (.error .noData)
  /-- Nothing has the name, or the message tells of a fault. -/
  | noRecords : (response.code = .noError → ∀ record ∈ response.records,
      ¬ asks query record ∧ ¬ record.name.sameAs query.name) →
    Tells query response (.error (.noRecords query response.authorities.head? response.code))

/-- **A message is read for what it tells.** -/
theorem interpret_tells (query : Query) (response : Response) :
    Tells query response (interpret query response) := by
  unfold interpret
  by_cases hcode : response.code = .noError
  · rw [if_pos hcode]
    dsimp only
    split
    · next hnone =>
      have hunasked : ∀ record ∈ response.records, ¬ asks query record :=
        List.filter_eq_nil_iff.1 hnone
      by_cases hname : response.records.any (·.name.sameAs query.name)
      · rw [if_pos hname]
        exact .noData hcode hunasked (List.any_eq_true.1 hname)
      · rw [if_neg hname]
        refine .noRecords fun _ record hrecord => ⟨hunasked record hrecord, fun hsame => ?_⟩
        exact hname (List.any_eq_true.2 ⟨record, hrecord, hsame⟩)
    · next first rest hsome =>
      have hfilter : response.records.filter (asks query) = first :: rest := hsome
      have hfirst : first ∈ response.records.filter (asks query) := by
        rw [hfilter]
        exact List.mem_cons_self
      have hleast : ((response.records.filter (asks query)).map (·.timeToLive)).min? =
          some (rest.foldl (fun least record => min least record.timeToLive)
            first.timeToLive) := by
        rw [hfilter, List.map_cons, List.min?_cons', List.foldl_map]
      rw [← hleast]
      exact .records hcode ⟨first, List.mem_filter.1 hfirst⟩
  · rw [if_neg hcode]
    exact .noRecords fun h => absurd h hcode

/-! ## 3. Lookups -/

/-- The number of the next request. -/
def nextId (system : System) : Nat := Bytes.toNat (system.entropy.draw 2).1

/-- What comes back from the server on the next request. -/
def echoes (s : NameServer) (system : System) : List Echo :=
  (System.takeExchange s.addr system.exchanges).1

/-- The message of the next request. -/
def datagram (query : Query) (s : NameServer) (system : System) : Datagram :=
  ⟨System.anySource s.addr, s.addr, query.request (nextId system)⟩

/-- The query can be sent: a message has room for its name. -/
def Fits (query : Query) : Prop := Name.wireLength query.name.labels ≤ Name.maxWireLength

/-- The system where a query has been sent. -/
def sent (query : Query) (s : NameServer) (system : System) : System :=
  { system with
    entropy := (system.entropy.draw 2).2
    exchanges := (System.takeExchange s.addr system.exchanges).2
    datagrams := system.datagrams ++ [datagram query s system] }

/-- How a lookup ends with an answer. -/
def ending (query : Query) : Except (Halt IoError) Response → Except (Halt Error) Lookup
  | .ok response => (interpret query response).mapError (Halt.failed ∘ Error.dns)
  | .error (.failed fault) => .error (.failed (.io fault))
  | .error .stalled => .error (.failed (.dns .timedOut))

variable {query : Query} {s : NameServer} {system : System}

theorem ask_fits (h : Fits query) :
    s.ask query system =
      match await (nextId system) (echoes s system) with
      | .ok response => .ok response (sent query s system)
      | .error (.failed fault) => .error (.failed (.io fault)) (sent query s system)
      | .error .stalled => .error .stalled (sent query s system) := by
  have hrandom : System.random (ε := Error) 2 system =
      .ok (system.entropy.draw 2).1 { system with entropy := (system.entropy.draw 2).2 } := rfl
  unfold ask
  rw [Act.bind_ok hrandom]
  dsimp only
  rw [if_neg (Nat.not_lt.2 h)]
  have hexchange : Act.mapError Error.io (System.exchange s.addr (query.request (nextId system)))
      { system with entropy := (system.entropy.draw 2).2 } =
        .ok (echoes s system) (sent query s system) := rfl
  refine (Act.bind_ok hexchange).trans ?_
  show (match await (nextId system) (echoes s system) with
    | .ok response => pure response
    | .error (.failed fault) => Act.fail (.io fault)
    | .error .stalled => Act.stall : Act Error System Response) (sent query s system) = _
  split <;> rename_i hawait <;> rw [hawait] <;> rfl

/-- **A query that fits is sent, and ends as what comes back decides.** -/
theorem lookup_fits (h : Fits query) :
    s.lookup query system =
      match ending query (await (nextId system) (echoes s system)) with
      | .ok found => .ok found (sent query s system)
      | .error halt => .error halt (sent query s system) := by
  have hask := @ask_fits query s system h
  unfold lookup
  cases hawait : await (nextId system) (echoes s system) with
  | ok response =>
    rw [hawait] at hask
    rw [Act.bind_ok (Act.timely_ok hask)]
    show Act.ofExcept ((interpret query response).mapError Error.dns) (sent query s system) = _
    rw [ending]
    cases interpret query response <;> rfl
  | error halt =>
    rw [hawait] at hask
    cases halt with
    | stalled =>
      rw [Act.bind_ok (Act.timely_stalled hask)]
      rfl
    | failed fault =>
      rw [Act.bind_error (Act.timely_failed hask)]
      rfl

/-- The same, where it does not matter what state is left. -/
theorem outcome_lookup (h : Fits query) :
    Act.outcome (s.lookup query) system =
      ending query (await (nextId system) (echoes s system)) := by
  unfold Act.outcome
  rw [lookup_fits h]
  cases ending query (await (nextId system) (echoes s system)) <;> rfl

theorem after_lookup (h : Fits query) :
    Act.after (s.lookup query) system = sent query s system := by
  unfold Act.after
  rw [lookup_fits h]
  cases ending query (await (nextId system) (echoes s system)) <;> rfl

/-- A query that does not fit is not sent. -/
theorem lookup_long (h : ¬ Fits query) :
    s.lookup query system =
      .error (.failed (.dns (.nameTooLong (Name.wireLength query.name.labels))))
        { system with entropy := (system.entropy.draw 2).2 } := by
  have hrandom : System.random (ε := Error) 2 system =
      .ok (system.entropy.draw 2).1 { system with entropy := (system.entropy.draw 2).2 } := rfl
  have hask : s.ask query system =
      .error (.failed (.dns (.nameTooLong (Name.wireLength query.name.labels))))
        { system with entropy := (system.entropy.draw 2).2 } := by
    unfold ask
    rw [Act.bind_ok hrandom]
    dsimp only
    rw [if_pos (Nat.lt_of_not_le h)]
    rfl
  unfold lookup
  exact Act.bind_error (Act.timely_failed hask)

/-! ## 4. What a lookup comes to -/

/-- What a lookup at a name server does, and what it comes to. -/
structure Transacts (query : Query) (s : NameServer) (system : System) : Prop where
  /-- A query that fits is sent in one datagram, and nothing else is done. -/
  sends : Fits query → Act.after (s.lookup query) system = sent query s system
  /-- One that does not fit is not sent, and that is the error. -/
  refuses : ¬ Fits query →
    s.lookup query system =
      .error (.failed (.dns (.nameTooLong (Name.wireLength query.name.labels))))
        { system with entropy := (system.entropy.draw 2).2 }
  /-- The first datagram that holds a message with the number of the request decides. -/
  decided : Fits query → ∀ {front : List Bytes} {datagram : Bytes} {behind : List Echo}
    {response : Response}, s.echoes system = front.map .ok ++ .ok datagram :: behind →
    (∀ other ∈ front, message? (nextId system) other = none) →
    message? (nextId system) datagram = some response →
    ∃ answer, Tells query response answer ∧
      Act.outcome (s.lookup query) system = answer.mapError (Halt.failed ∘ Error.dns)
  /-- Without one, the answer is waited for in vain. -/
  timedOut : Fits query → ∀ {datagrams : List Bytes}, s.echoes system = datagrams.map .ok →
    (∀ datagram ∈ datagrams, message? (nextId system) datagram = none) →
    Act.outcome (s.lookup query) system = .error (.failed (.dns .timedOut))
  /-- Datagrams that are passed over do not show, and neither does what is behind the one that
  decides. -/
  unchanged : ∀ {system' : System}, system'.entropy = system.entropy →
    SameAnswer (nextId system) (s.echoes system) (s.echoes system') →
    Act.outcome (s.lookup query) system' = Act.outcome (s.lookup query) system

/-- **A name server is heard by the first message that answers the request**, and by nothing else
that comes back. -/
theorem lookup_transacts (query : Query) (s : NameServer) (system : System) :
    Transacts query s system where
  sends := after_lookup
  refuses := lookup_long
  decided := by
    intro hfits front datagram behind response hechoes hfront hsome
    refine ⟨interpret query response, interpret_tells query response, ?_⟩
    rw [outcome_lookup hfits, hechoes, await_front hfront, await_some hsome]
    rfl
  timedOut := by
    intro hfits datagrams hechoes hnone
    have hawait := await_front hnone []
    rw [List.append_nil] at hawait
    rw [outcome_lookup hfits, hechoes, hawait]
    rfl
  unchanged := by
    intro system' hentropy hsame
    have hid : nextId system' = nextId system := by
      unfold nextId
      rw [hentropy]
    by_cases hfits : Fits query
    · rw [outcome_lookup hfits, outcome_lookup hfits, hid, hsame.await]
    · rw [Act.outcome_error (lookup_long hfits), Act.outcome_error (lookup_long hfits)]

end NameServer

end Dns

end UrlTransfer
