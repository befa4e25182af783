/-
# Answers without an address

A service that knows something ends a search, and what it knows is a record of the type that was
asked for.  That there is an address in it is another matter: a record may come without any data.
So a resolution that succeeds has an address unless a name server ends it with such records alone
(`resolve_isEmpty_iff`), and then the services behind it are not asked.

The argument goes from the bytes up.  A record that is read has data of the kind that its type
says, or none (`yields_record`); an answer of a name server holds such records, and at least one
(`NameServer.answers_nameServer`); the table of hosts holds records that all have an address
(`Hosts.filled_parse`); and then a reply is without an address exactly if it is without data
(`Reply.Sound.isEmpty_addresses`).
-/
import UrlTransfer.Proofs.Dns.RecordKinds
import UrlTransfer.Proofs.Dns.Search
import UrlTransfer.Proofs.Dns.Transaction

namespace UrlTransfer

namespace Dns

/-! ## 1. Services -/

/-- What the service answers to a query is some records, with data of the type or none. -/
def Service.Answers (service : Service) : Prop :=
  ∀ ⦃query system found system'⦄, service.lookup query system = .ok found system' →
    found.records ≠ [] ∧ ∀ record ∈ found.records, record.Suits query.type

namespace NameServer

/-- What is taken is in a message that has come. -/
theorem parse?_of_await {id : Nat} {echoes : List Echo} {response : Response}
    (h : await id echoes = .ok response) :
    ∃ datagram : Bytes, Response.parse? (datagram.take maxMessage) = some response := by
  induction echoes with
  | nil => cases h
  | cons echo echoes ih =>
    cases echo with
    | error fault => cases h
    | ok datagram =>
      rw [await_cons] at h
      split at h
      · next hsome =>
        cases h
        exact ⟨datagram, (message?_eq_some_iff.1 hsome).1⟩
      · exact ih h

theorem answers_nameServer (server : NameServer) : (Service.nameServer server).Answers := by
  intro query system found system' hfound
  change server.lookup query system = .ok found system' at hfound
  by_cases hfits : Fits query
  · have houtcome := (outcome_lookup hfits).symm.trans (Act.outcome_ok hfound)
    cases hawait : await (nextId system) (server.echoes system) with
    | error halt =>
      rw [hawait] at houtcome
      cases halt <;> cases houtcome
    | ok response =>
      obtain ⟨datagram, hparse⟩ := parse?_of_await hawait
      have hsuits := suits_of_parse hparse
      have htells := interpret_tells query response
      rw [hawait, ending] at houtcome
      generalize interpret query response = answer at htells houtcome
      cases htells with
      | noData => cases houtcome
      | noRecords => cases houtcome
      | records hcode hasked =>
        cases houtcome
        obtain ⟨first, hfirst, hasks⟩ := hasked
        refine ⟨List.ne_nil_of_mem (List.mem_filter.2 ⟨hfirst, hasks⟩), fun record hrecord => ?_⟩
        obtain ⟨hmem, hasks⟩ := List.mem_filter.1 hrecord
        have htype : record.type = query.type := of_decide_eq_true (Bool.and_eq_true_iff.1 hasks).2
        exact htype ▸ hsuits record hmem
  · rw [lookup_long hfits] at hfound
    cases hfound

end NameServer

namespace Hosts

/-- The records of an entry all have an address of their type. -/
structure HostEntry.Filled (entry : HostEntry) : Prop where
  v4 : ∀ record ∈ entry.v4, ∃ ip, record.data = some (.ipv4 ip)
  v6 : ∀ record ∈ entry.v6, ∃ ip, record.data = some (.ipv6 ip)

/-- So do those of all entries. -/
def Filled (table : Hosts) : Prop := ∀ entry ∈ table.entries, HostEntry.Filled entry

theorem filled_addTo {entry : HostEntry} (h : HostEntry.Filled entry) (name : Name) (ip : IpAddr) :
    HostEntry.Filled (addTo name ip entry) := by
  cases ip with
  | v4 ip =>
    refine ⟨fun record hrecord => ?_, h.v6⟩
    rcases List.mem_append.1 hrecord with hold | hnew
    · exact h.v4 record hold
    · exact ⟨ip, by rw [List.mem_singleton.1 hnew]; rfl⟩
  | v6 ip =>
    refine ⟨h.v4, fun record hrecord => ?_⟩
    rcases List.mem_append.1 hrecord with hold | hnew
    · exact h.v6 record hold
    · exact ⟨ip, by rw [List.mem_singleton.1 hnew]; rfl⟩

theorem filled_insertTo (name : Name) (ip : IpAddr) {entries : List HostEntry}
    (h : ∀ entry ∈ entries, HostEntry.Filled entry) :
    ∀ entry ∈ insertTo name ip entries, HostEntry.Filled entry := by
  induction entries with
  | nil =>
    intro entry hentry
    rw [List.mem_singleton.1 hentry]
    exact filled_addTo ⟨fun _ h => absurd h List.not_mem_nil, fun _ h => absurd h List.not_mem_nil⟩
      name ip
  | cons first rest ih =>
    rw [List.forall_mem_cons] at h
    unfold insertTo
    split
    · exact List.forall_mem_cons.2 ⟨filled_addTo h.1 name ip, h.2⟩
    · exact List.forall_mem_cons.2 ⟨h.1, ih h.2⟩

theorem filled_addLine {table : Hosts} (h : table.Filled) (line : String) :
    (table.addLine line).Filled := by
  have hnames (ip : IpAddr) (names : List Name) {table : Hosts} (h : table.Filled) :
      (names.foldl (fun table name => table.insert name ip) table).Filled := by
    induction names generalizing table with
    | nil => exact h
    | cons name names ih => exact ih (filled_insertTo name ip h)
  unfold addLine
  split
  · exact h
  · exact hnames _ _ h

/-- **A table that is read has an address in every record.** -/
theorem filled_parse (text : String) : (parse text).Filled := by
  have hlines (lines : List String) {table : Hosts} (h : table.Filled) :
      (lines.foldl addLine table).Filled := by
    induction lines generalizing table with
    | nil => exact h
    | cons line lines ih => exact ih (filled_addLine h line)
  exact hlines _ fun _ h => absurd h List.not_mem_nil

variable {table : Hosts}

/-- The records of an answer are those of an entry. -/
theorem records_of_lookup {query : Query} {found : Lookup} (h : table.lookup query = .ok found) :
    found.records ≠ [] ∧
      ∃ entry ∈ table.entries, found.records = HostEntry.records query.type entry := by
  unfold lookup at h
  split at h
  · cases h
  · next entry hentry =>
    split at h
    · cases h
    · next first rest hrecords =>
      cases h
      exact ⟨List.cons_ne_nil _ _, entry, List.mem_of_find?_eq_some hentry, hrecords.symm⟩

/-- In a table that is read, every record of an answer has an address of the type. -/
theorem Filled.lookup (hfilled : table.Filled) {query : Query} {found : Lookup}
    (h : table.lookup query = .ok found) :
    found.records ≠ [] ∧ ∀ record ∈ found.records, ∃ data ∈ record.data, data.Of query.type := by
  obtain ⟨hne, entry, hentry, hrecords⟩ := records_of_lookup h
  refine ⟨hne, ?_⟩
  rw [hrecords, HostEntry.records]
  split
  · next ha =>
    intro record hrecord
    obtain ⟨ip, hip⟩ := (hfilled entry hentry).v4 record hrecord
    exact ⟨_, hip, ⟨fun _ => ⟨ip, rfl⟩, fun haaaa => by rw [ha] at haaaa; cases haaaa⟩⟩
  · next ha =>
    split
    · intro record hrecord
      obtain ⟨ip, hip⟩ := (hfilled entry hentry).v6 record hrecord
      exact ⟨_, hip, ⟨fun h => absurd h ha, fun _ => ⟨ip, rfl⟩⟩⟩
    · exact fun _ h => absurd h List.not_mem_nil

theorem lookup_of_service {query : Query} {system system' : System} {found : Lookup}
    (h : (Service.hosts table).lookup query system = .ok found system') :
    table.lookup query = .ok found := by
  change Act.ofExcept ((table.lookup query).mapError Error.dns) system = _ at h
  cases hresult : table.lookup query with
  | error fault => rw [hresult] at h; cases h
  | ok found' => rw [hresult] at h; cases h; rfl

theorem Filled.answers_hosts (hfilled : table.Filled) : (Service.hosts table).Answers := by
  intro query system found system' hfound
  have hlookup := lookup_of_service hfound
  obtain ⟨hne, hrecords⟩ := hfilled.lookup hlookup
  refine ⟨hne, fun record hrecord data hdata => ?_⟩
  obtain ⟨data', hdata', hof⟩ := hrecords record hrecord
  cases hdata.symm.trans hdata'
  exact hof

end Hosts

/-- **All services of a resolver answer so.** -/
theorem answers_of_mem {settings : Settings} {text : String} {service : Service}
    (h : service ∈ (Resolver.ofSettings settings (Hosts.parse text)).services) :
    service.Answers := by
  rcases List.mem_cons.1 h with rfl | h
  · exact (Hosts.filled_parse text).answers_hosts
  · obtain ⟨server, -, rfl⟩ := List.mem_map.1 h
    exact NameServer.answers_nameServer _

/-! ## 2. Replies -/

namespace Reply

/-- A reply without any data: the service knows something, but its records say nothing. -/
structure Hollow {κ : Type} (reply : Reply κ) : Prop where
  knows : reply.Knows
  bare : ∀ record ∈ reply.records, record.data = none

/-- Both answers of a reply hold records of their type. -/
structure Sound {κ : Type} (reply : Reply κ) : Prop where
  a : ∀ record ∈ told reply.a, record.Suits .a
  aaaa : ∀ record ∈ told reply.aaaa, record.Suits .aaaa

variable {κ : Type} {reply : Reply κ}

/-- **A reply has no address exactly if it has no data.** -/
theorem Sound.isEmpty_addresses (h : reply.Sound) :
    reply.addresses.isEmpty ↔ ∀ record ∈ reply.records, record.data = none := by
  rw [addresses_eq (fun record hrecord => (h.a record hrecord).recordV6?_eq_none)
      fun record hrecord => (h.aaaa record hrecord).recordV4?_eq_none,
    Addresses.isEmpty, Bool.and_eq_true_iff, List.isEmpty_iff, List.isEmpty_iff,
    List.filterMap_eq_nil_iff, List.filterMap_eq_nil_iff, records, List.forall_mem_append]
  exact and_congr
    (forall₂_congr fun record hrecord => (h.a record hrecord).recordV4?_eq_none_iff)
    (forall₂_congr fun record hrecord => (h.aaaa record hrecord).recordV6?_eq_none_iff)

end Reply

section

variable {name : Name} {reply : Reply Service} {s t : System}

/-- An answer in a reply is what a lookup has found. -/
theorem Replies.found (h : Replies Service.lookup name reply s t) {found : Lookup}
    (hfound : reply.a = .ok found ∨ reply.aaaa = .ok found) :
    ∃ type s t, reply.service.lookup { name, type } s = .ok found t ∧
      ∀ record ∈ found.records, record ∈ reply.records := by
  obtain ⟨between, ha, haaaa⟩ := h
  rcases hfound with hfound | hfound
  · rw [hfound] at ha
    refine ⟨.a, s, between, Act.attempt_eq_ok ha, fun record hrecord => ?_⟩
    rw [Reply.records, hfound]
    exact List.mem_append_left _ hrecord
  · rw [hfound] at haaaa
    refine ⟨.aaaa, between, t, Act.attempt_eq_ok haaaa, fun record hrecord => ?_⟩
    rw [Reply.records, hfound]
    exact List.mem_append_right _ hrecord

/-- What a service replies has records of the types that were asked for. -/
theorem Replies.sound (h : Replies Service.lookup name reply s t)
    (hanswers : reply.service.Answers) : reply.Sound := by
  obtain ⟨between, ha, haaaa⟩ := h
  constructor
  · cases hfound : reply.a with
    | error fault => exact fun _ h => absurd h List.not_mem_nil
    | ok found =>
      rw [hfound] at ha
      exact (hanswers (Act.attempt_eq_ok ha)).2
  · cases hfound : reply.aaaa with
    | error fault => exact fun _ h => absurd h List.not_mem_nil
    | ok found =>
      rw [hfound] at haaaa
      exact (hanswers (Act.attempt_eq_ok haaaa)).2

/-- **A table that is read gives no reply without data.** -/
theorem Replies.not_hollow {table : Hosts} (h : Replies Service.lookup name reply s t)
    (hfilled : table.Filled) (hservice : reply.service = .hosts table) : ¬ reply.Hollow := by
  intro hhollow
  have hfound : ∃ found, reply.a = .ok found ∨ reply.aaaa = .ok found := by
    rcases hhollow.knows with hok | hok
    · cases ha : reply.a with
      | ok found => exact ⟨found, .inl rfl⟩
      | error fault => rw [ha] at hok; cases hok
    · cases haaaa : reply.aaaa with
      | ok found => exact ⟨found, .inr rfl⟩
      | error fault => rw [haaaa] at hok; cases hok
  obtain ⟨found, hfound⟩ := hfound
  obtain ⟨type, s', t', hlookup, hrecords⟩ := h.found hfound
  rw [hservice] at hlookup
  obtain ⟨hne, hdata⟩ := hfilled.lookup (Hosts.lookup_of_service hlookup)
  obtain ⟨record, hrecord⟩ := List.exists_mem_of_ne_nil _ hne
  obtain ⟨data, hsome, -⟩ := hdata record hrecord
  have hnone := hhollow.bare record (hrecords record hrecord)
  rw [hnone] at hsome
  cases hsome

/-- The last service that is asked has replied. -/
theorem Heard.last {front : List (Reply Service)} {last : Reply Service}
    (h : Heard Service.lookup name (front ++ [last]) s t) :
    ∃ before, Replies Service.lookup name last before t := by
  induction front generalizing s with
  | nil =>
    cases h with
    | more hreply hrest =>
      cases hrest
      exact ⟨s, hreply⟩
  | cons first front ih =>
    cases h with
    | more _ hrest => exact ih hrest

end

/-! ## 3. Searches that end without an address -/

/-- A name server ends the search for a host, with a reply that knows something and has no data;
the services before it knew nothing, and those behind it are not asked. -/
inductive CutShort (host : String) (r : Resolver) (system : System) : Prop where
  | hollow {name : Name} {front : List (Reply Service)} {last : Reply Service}
    {server : NameServer} {t : System} :
    IpAddr.parse? host = none → Name.parse? (Lowercase.text host) = some name →
    Heard Service.lookup name (front ++ [last]) system t →
    (front ++ [last]).map (·.service) <+: r.schedule r.attempts →
    (∀ reply ∈ front, ¬ reply.Knows) →
    last.service = .nameServer server → last.Hollow → CutShort host r system

/-- What is found for a name is what one service has replied. -/
theorem found_of_resolve {host : String} {r : Resolver} {system : System} {addresses : Addresses}
    (hip : IpAddr.parse? host = none)
    (h : Act.outcome (Resolver.resolve host) (r, system) = .ok addresses) :
    ∃ name front last t, Name.parse? (Lowercase.text host) = some name ∧
      Heard Service.lookup name (front ++ [last]) system t ∧
      (front ++ [last]).map (·.service) <+: r.schedule r.attempts ∧
      (∀ reply ∈ front, ¬ reply.Knows) ∧ last.Knows ∧ last.addresses = addresses := by
  cases hname : Name.parse? (Lowercase.text host) with
  | none =>
    have hfail : Resolver.resolve host (r, system) =
        .error (.failed (.dns (.invalidName (Lowercase.text host)))) (r, system) := by
      unfold Resolver.resolve Roster.resolve
      rw [hip]
      dsimp only
      rw [hname]
      rfl
    rw [Act.outcome_error hfail] at h
    cases h
  | some name =>
    obtain ⟨turns, result, t, hends, houtcome, -⟩ :=
      @resolve_ends _ _ Service.lookup host name hip hname r system
    cases houtcome.symm.trans h
    cases hends with
    | @found front last hheard hservices hfront hlast =>
      exact ⟨name, front, last, t, rfl, hheard, hservices, hfront, hlast, rfl⟩

/-- What is known of the services of a resolver that is made from settings and a table. -/
structure Made (r : Resolver) : Prop where
  answering : ∀ service ∈ r.services, service.Answers
  filled : ∀ table, .hosts table ∈ r.services → table.Filled

theorem made_ofSettings (settings : Settings) (text : String) (rounds : Nat) :
    Made ((Resolver.ofSettings settings (Hosts.parse text)).turned rounds) where
  answering _ h := answers_of_mem h
  filled table h := by
    rcases List.mem_cons.1 h with h | h
    · cases h
      exact Hosts.filled_parse text
    · obtain ⟨server, -, h⟩ := List.mem_map.1 h
      cases h

/-- What a service has replied that ends a search. -/
theorem Made.last {r : Resolver} (hmade : Made r) {name : Name} {front : List (Reply Service)}
    {last : Reply Service} {attempts : Nat} {s t : System}
    (hheard : Heard Service.lookup name (front ++ [last]) s t)
    (hservices : (front ++ [last]).map (·.service) <+: r.schedule attempts) :
    last.Sound ∧ (last.Hollow → ∃ server, last.service = .nameServer server) := by
  have hmem : last.service ∈ r.services := by
    refine Roster.mem_services_of_schedule (hservices.subset ?_)
    exact List.mem_map.2 ⟨last, List.mem_append_right _ (List.mem_singleton.2 rfl), rfl⟩
  obtain ⟨before, hreply⟩ := hheard.last
  refine ⟨hreply.sound (hmade.answering _ hmem), fun hhollow => ?_⟩
  cases hservice : last.service with
  | nameServer server => exact ⟨server, rfl⟩
  | hosts table =>
    have hfilled : table.Filled := hmade.filled table (hservice ▸ hmem)
    exact absurd hhollow (hreply.not_hollow hfilled hservice)

/-- **A resolution that succeeds has an address, unless a name server has cut it short.** -/
theorem resolve_isEmpty_iff (settings : Settings) (text : String) (rounds : Nat) (host : String)
    (system : System) {addresses : Addresses}
    (h : Act.outcome (Resolver.resolve host)
      ((Resolver.ofSettings settings (Hosts.parse text)).turned rounds, system) = .ok addresses) :
    addresses.isEmpty ↔
      CutShort host ((Resolver.ofSettings settings (Hosts.parse text)).turned rounds) system := by
  have hmade := made_ofSettings settings text rounds
  generalize (Resolver.ofSettings settings (Hosts.parse text)).turned rounds = r at h hmade ⊢
  cases hip : IpAddr.parse? host with
  | some ip =>
    have hresolve : Resolver.resolve host (r, system) = .ok (.ofIp ip) (r, system) := by
      unfold Resolver.resolve Roster.resolve
      rw [hip]
      rfl
    cases (Act.outcome_ok hresolve).symm.trans h
    refine iff_of_false (by cases ip <;> exact Bool.false_ne_true) fun hcut => ?_
    obtain ⟨hnone, -⟩ := hcut
    cases hip.symm.trans hnone
  | none =>
    obtain ⟨name, front, last, t, hname, hheard, hservices, hfront, hlast, rfl⟩ :=
      found_of_resolve hip h
    obtain ⟨hsound, hserver⟩ := hmade.last hheard hservices
    constructor
    · intro hempty
      have hhollow : last.Hollow := ⟨hlast, hsound.isEmpty_addresses.1 hempty⟩
      obtain ⟨server, hservice⟩ := hserver hhollow
      exact .hollow hip hname hheard hservices hfront hservice hhollow
    · rintro ⟨-, hname', hheard', hservices', hfront', -, hhollow'⟩
      cases hname.symm.trans hname'
      have hsame := hheard.unique hheard' hservices hservices' hfront hfront' hlast hhollow'.knows
      exact hsound.isEmpty_addresses.2 (hsame ▸ hhollow'.bare)

/-! A name server answers with a record that has no data, and the one behind it, which has an
address, is not asked. -/

/-- An answer with one record, which has no data. -/
def bareAnswer : Bytes :=
  [0, 0, 0x81, 0x80, 0, 0, 0, 1, 0, 0, 0, 0, 0, 0, 1, 0, 1, 0, 0, 0, 0, 0, 0]

/-- An answer that there is no such name. -/
def unknownAnswer : Bytes := [0, 0, 0x81, 0x83, 0, 0, 0, 0, 0, 0, 0, 0]

/-- An answer with one record, which has an address. -/
def fullAnswer : Bytes :=
  [0, 0, 0x81, 0x80, 0, 0, 0, 1, 0, 0, 0, 0, 0, 0, 1, 0, 1, 0, 0, 0, 0, 0, 4, 9, 9, 9, 9]

/-- The server that answers without data. -/
def bareServer : NameServer := .ofIp (.v4 ⟨10, 0, 0, 1⟩)

/-- The server behind it. -/
def fullServer : NameServer := .ofIp (.v4 ⟨10, 0, 0, 2⟩)

/-- Both servers, and an empty table. -/
def bareResolver : Resolver :=
  (Resolver.ofSettings { servers := [bareServer, fullServer] } (Hosts.parse "")).turned 0

/-- What both servers answer. -/
def bareSystem : System :=
  { exchanges := [(bareServer.addr, [[.ok bareAnswer], [.ok unknownAnswer]]),
      (fullServer.addr, [[.ok fullAnswer], [.ok unknownAnswer]])] }

/-- The name that is looked for, of one label. -/
def bareName : Name := ⟨[[95, 100, 110, 115]], false⟩

/-- The first query for it. -/
def bareQuery : Query := { name := bareName, type := .a }

/-- The record without data. -/
def bareRecord : Record := ⟨.root, .a, .internet, 0, none⟩

/-- What the first server replies. -/
def bareReply : Reply Service where
  service := .nameServer bareServer
  a := .ok { query := bareQuery, records := [bareRecord], validFor := some 0 }
  aaaa := .error (.dns (.noRecords { name := bareName, type := .aaaa } none ⟨3⟩))

/-- The message of the first answer. -/
def bareResponse : Response where
  id := 0
  code := .noError
  answers := [bareRecord]
  authorities := []
  additionals := []

/-- **It is a message**: a record may come without data. -/
theorem parse?_bareAnswer : Response.parse? bareAnswer = some bareResponse := by
  have hrecord : Record.read bareAnswer 12 = some (bareRecord, 23) :=
    (Wire.bind_some (Name.read_root rfl)).trans (by decide +kernel)
  have hanswers : Wire.times Record.read 1 bareAnswer 12 = some ([bareRecord], 23) :=
    (Wire.bind_some hrecord).trans rfl
  have hread : Response.read bareAnswer 0 = some (bareResponse, 23) := by
    -- Two numbers, then four and no question; behind them are the answers.
    refine (Wire.bind_some rfl).trans ((Wire.bind_some rfl).trans ?_)
    rw [if_neg (by decide)]
    refine (Wire.bind_some rfl).trans ((Wire.bind_some rfl).trans ?_)
    refine (Wire.bind_some rfl).trans ((Wire.bind_some rfl).trans ?_)
    exact (Wire.bind_some rfl).trans ((Wire.bind_some hanswers).trans (by decide +kernel))
  rw [Response.parse?, hread]
  rfl

open NameServer in
theorem replies_bareReply : Replies Service.lookup bareName bareReply bareSystem
    (sent { name := bareName, type := .aaaa } bareServer
      (sent bareQuery bareServer bareSystem)) := by
  have hbare : message? 0 bareAnswer = some bareResponse :=
    message?_eq_some_iff.2 ⟨parse?_bareAnswer, rfl⟩
  have hunknown : message? 0 unknownAnswer =
      some { id := 0, code := ⟨3⟩, answers := [], authorities := [], additionals := [] } := by
    decide +kernel
  have hfits (type : RecordType) : Fits { name := bareName, type } := by
    show Name.wireLength bareName.labels ≤ Name.maxWireLength
    decide
  have hfirst : await (nextId bareSystem) (bareServer.echoes bareSystem) = _ :=
    await_some hbare []
  have hsecond : await (nextId (sent bareQuery bareServer bareSystem))
      (bareServer.echoes (sent bareQuery bareServer bareSystem)) = _ := await_some hunknown []
  have ha := @lookup_fits _ bareServer bareSystem (hfits .a)
  have haaaa := @lookup_fits _ bareServer (sent bareQuery bareServer bareSystem) (hfits .aaaa)
  rw [hfirst] at ha
  rw [hsecond] at haaaa
  exact ⟨_, Act.attempt_ok ha, Act.attempt_failed haaaa⟩

/-- Its reply ends the search. -/
theorem run_bare : ∃ turns, Resolver.resolve "_dns" (bareResolver, bareSystem) =
    .ok {} (bareResolver.turned turns,
      NameServer.sent { name := bareName, type := .aaaa } bareServer
        (NameServer.sent bareQuery bareServer bareSystem)) := by
  have hip : IpAddr.parse? "_dns" = none := by decide +kernel
  have hname : Name.parse? (Lowercase.text "_dns") = some bareName := by decide +kernel
  have htable := askService_run (Hosts.replies_reply bareName (Hosts.parse "") bareSystem)
  have hbare := askService_run replies_bareReply
  have hround : Roster.askServices Service.lookup bareName none
      (bareResolver.orderAt bareResolver.rounds) bareSystem = .ok (.ok {}) _ :=
    (Act.bind_ok htable).trans (Act.bind_ok hbare)
  obtain ⟨turns, hfound⟩ := @Roster.search_found _ _ _ _ 1 _ _ _ _ _ hround
  have hresolve : Resolver.resolve "_dns" (bareResolver, bareSystem) =
      Roster.search Service.lookup bareName none bareResolver.attempts
        (bareResolver, bareSystem) := resolve_eq_search hip hname _ _
  exact ⟨turns, hresolve.trans hfound⟩

/-- So the resolution succeeds without an address. -/
theorem resolve_isEmpty_iff_bare :
    Act.outcome (Resolver.resolve "_dns") (bareResolver, bareSystem) = .ok {} ∧
    (({} : Addresses).isEmpty ↔ CutShort "_dns" bareResolver bareSystem) := by
  obtain ⟨turns, hrun⟩ := run_bare
  have houtcome := Act.outcome_ok hrun
  exact ⟨houtcome, resolve_isEmpty_iff _ "" 0 "_dns" bareSystem houtcome⟩

/-- Both queries go to the first server: the one behind it, which has an address, is not asked. -/
theorem resolve_bare_empty :
    Act.outcome (Resolver.resolve "_dns") (bareResolver, bareSystem) = .ok {} ∧
    ({} : Addresses).isEmpty = true ∧
    (Act.after (Resolver.resolve "_dns") (bareResolver, bareSystem)).2.datagrams.map (·.target) =
      [bareServer.addr, bareServer.addr] := by
  obtain ⟨turns, hrun⟩ := run_bare
  refine ⟨Act.outcome_ok hrun, rfl, ?_⟩
  rw [Act.after_ok hrun]
  rfl

end Dns

end UrlTransfer
