/-
# What the table of hosts answers

The table is filled one name at a time: a line is cut at its `#` and into words, words that are no
names are passed over, and each of the others goes into the entry of its name, under one of two
lists.  None of this shows in the answers.  They are those of a filter over the whole text: the
occurrences of names in it (`occurrences`), less those of other names and of the other version
(`recordsFor_parse`).

The step is one insertion.  Whatever query is put, it answers as before and, if the name and the
version are those of the query, with the new record behind (`recordsFor_insertTo`); so nothing has
to be known about the entries, and the run over a text is an induction over its occurrences.  As
these follow each other as the lines do, and a blank at the end of a line is nothing, a text behind
another one has its answers behind those of the other (`occurrences_append`).
-/
import Mathlib.Data.Finset.Card
import UrlTransfer.Dns.Hosts

namespace UrlTransfer

namespace Dns

namespace Hosts

/-! ## 1. The names in a text -/

/-- A name that a line gives to an address. -/
structure Occurrence where
  ip : IpAddr
  name : Name

namespace Occurrence

/-- What is kept of it. -/
def record (o : Occurrence) : Record := Hosts.record o.name o.ip

/-- Does it answer a query?  Names are compared without regard to case. -/
def answers (query : Query) (o : Occurrence) : Bool :=
  o.name.sameAs query.name && o.record.type == query.type

end Occurrence

/-- The words of a line in front of any `#`. -/
def counted (line : String) : List String :=
  Text.words (String.ofList (line.toList.takeWhile (· ≠ '#')))

/-- The names in a line: **every word behind an address that is a name in small letters, as often
as it stands there**. -/
def lineOccurrences (line : String) : List Occurrence :=
  match counted line with
  | [] => []
  | first :: rest =>
    match IpAddr.parse? first with
    | none => []
    | some ip => (rest.filterMap fun word => Name.parse? (Lowercase.text word)).map (⟨ip, ·⟩)

/-- The names in a text, in its order. -/
def occurrences (text : String) : List Occurrence := (Text.lines text).flatMap lineOccurrences

/-- A table with one name more. -/
def insertOccurrence (h : Hosts) (o : Occurrence) : Hosts := h.insert o.name o.ip

theorem addLine_eq (h : Hosts) (line : String) :
    h.addLine line = (lineOccurrences line).foldl insertOccurrence h := by
  unfold addLine parseLine? lineOccurrences counted
  cases Text.words (String.ofList (line.toList.takeWhile (· ≠ '#'))) with
  | nil => rfl
  | cons first rest =>
    dsimp only
    cases IpAddr.parse? first with
    | none => rfl
    | some ip => simp only [Option.map_some, List.foldl_map, insertOccurrence]

/-- **A text is read one name at a time.** -/
theorem parse_eq (text : String) : parse text = (occurrences text).foldl insertOccurrence {} := by
  rw [parse, occurrences, List.foldl_flatMap]
  have hstep : addLine = fun h line => (lineOccurrences line).foldl insertOccurrence h :=
    funext fun h => funext (addLine_eq h)
  rw [hstep]

/-! ## 2. One text behind another -/

theorem words_append_blank (cs : List Char) :
    Text.words (String.ofList (cs ++ ['\r'])) = Text.words (String.ofList cs) := by
  have hblank : isBlank '\r' = true := by decide
  unfold Text.words
  rw [String.toList_ofList, String.toList_ofList, List.splitOnP_append_cons _ _ hblank,
    List.splitOnP_nil, List.filter_append]
  simp only [ne_eq, not_true_eq_false, decide_false, Bool.false_eq_true, not_false_eq_true,
    List.filter_cons_of_neg, List.filter_nil, List.append_nil]

/-- **A carriage return at the end of a line makes no difference.** -/
theorem counted_dropReturn (cs : List Char) :
    counted (String.ofList (Text.dropReturn cs)) = counted (String.ofList cs) := by
  unfold Text.dropReturn
  split
  · next rest hreverse =>
    have hcs : cs = rest.reverse ++ ['\r'] := by
      rw [← List.reverse_reverse cs, hreverse, List.reverse_cons]
    rw [hcs, counted, counted, String.toList_ofList, String.toList_ofList, List.takeWhile_append]
    split
    · next hall =>
      rw [(List.takeWhile_prefix _).eq_of_length hall]
      exact (words_append_blank rest.reverse).symm
    · rfl
  · rfl

theorem lineOccurrences_dropReturn (cs : List Char) :
    lineOccurrences (String.ofList (Text.dropReturn cs)) = lineOccurrences (String.ofList cs) := by
  rw [lineOccurrences, lineOccurrences, counted_dropReturn]

theorem lineOccurrences_empty : lineOccurrences (String.ofList []) = [] := by decide

/-- The lines of a text with the names that are in them, however they end. -/
theorem occurrences_eq (text : String) :
    occurrences text =
      (text.toList.splitOn '\n').flatMap fun line => lineOccurrences (String.ofList line) := by
  unfold occurrences Text.lines Text.splitAt
  have hne := List.splitOn_ne_nil '\n' text.toList
  generalize text.toList.splitOn '\n' = parts at hne
  obtain ⟨front, last, rfl⟩ := (List.eq_nil_or_concat parts).resolve_left hne
  have hfront : (front.map fun line => String.ofList (Text.dropReturn line)).flatMap
        lineOccurrences = front.flatMap fun line => lineOccurrences (String.ofList line) := by
    rw [List.flatMap_map]
    exact congrArg (front.flatMap ·) (funext lineOccurrences_dropReturn)
  rw [List.concat_eq_append, List.flatMap_append, List.flatMap_singleton, ← hfront]
  simp only [List.dropLast_concat, List.getLast?_concat]
  cases last with
  | nil => rw [lineOccurrences_empty, List.append_nil]
  | cons c cs => rw [List.flatMap_append, List.flatMap_singleton]

/-- **The names of two texts with a line feed between them are those of the first and then those of
the second.** -/
theorem occurrences_append (a b : String) :
    occurrences (a ++ "\n" ++ b) = occurrences a ++ occurrences b := by
  have htext : (a ++ "\n" ++ b).toList = a.toList ++ '\n' :: b.toList := by
    rw [String.toList_append, String.toList_append, List.append_assoc]
    rfl
  rw [occurrences_eq, occurrences_eq, occurrences_eq, htext, List.splitOn_append_cons_self,
    List.flatMap_append]

/-! ## 3. The answers -/

/-- What entries have for a query. -/
def recordsFor (query : Query) (entries : List HostEntry) : List Record :=
  match entries.find? (·.name.sameAs query.name) with
  | none => []
  | some e => HostEntry.records query.type e

/-- The answer that some records are. -/
def answer (type : RecordType) : List Record → Except DnsError Lookup
  | [] => .error .noData
  | first :: rest => .ok { query := { name := first.name, type }, records := first :: rest }

theorem lookup_eq (query : Query) (h : Hosts) :
    h.lookup query = answer query.type (recordsFor query h.entries) := by
  unfold lookup recordsFor
  cases h.entries.find? (·.name.sameAs query.name) with
  | none => rfl
  | some e =>
    dsimp only
    cases HostEntry.records query.type e <;> rfl

/-- The record of an address, if it is of a type. -/
def typed (type : RecordType) (name : Name) (ip : IpAddr) : List Record :=
  if (record name ip).type = type then [record name ip] else []

theorem records_addTo (type : RecordType) (name : Name) (ip : IpAddr) (e : HostEntry) :
    HostEntry.records type (addTo name ip e) = HostEntry.records type e ++ typed type name ip := by
  unfold HostEntry.records typed
  cases ip with
  | v4 ip =>
    show (if type = .a then e.v4 ++ [_] else if type = .aaaa then e.v6 else []) =
      _ ++ if RecordType.a = type then _ else _
    by_cases ha : type = .a
    · rw [if_pos ha, if_pos ha, if_pos ha.symm]
    · rw [if_neg ha, if_neg ha, if_neg (Ne.symm ha), List.append_nil]
  | v6 ip =>
    show (if type = .a then e.v4 else if type = .aaaa then e.v6 ++ [_] else []) =
      _ ++ if RecordType.aaaa = type then _ else _
    by_cases ha : type = .a
    · rw [if_pos ha, if_pos ha, if_neg (by rw [ha]; decide), List.append_nil]
    · rw [if_neg ha, if_neg ha]
      by_cases haaaa : type = .aaaa
      · rw [if_pos haaaa, if_pos haaaa, if_pos haaaa.symm]
      · rw [if_neg haaaa, if_neg haaaa, if_neg (Ne.symm haaaa), List.append_nil]

theorem name_addTo (name : Name) (ip : IpAddr) (e : HostEntry) :
    (addTo name ip e).name = e.name := by
  cases ip <;> rfl

theorem sameAs_congr {a b : Name} (h : a.sameAs b) (c : Name) : a.sameAs c = b.sameAs c := by
  unfold Name.sameAs at *
  rw [eq_of_beq h]

/-- **A name that is added is behind what a query for it had before, and no other query sees
it.** -/
theorem recordsFor_insertTo (query : Query) (name : Name) (ip : IpAddr)
    (entries : List HostEntry) :
    recordsFor query (insertTo name ip entries) =
      recordsFor query entries ++
        if name.sameAs query.name then typed query.type name ip else [] := by
  unfold recordsFor
  induction entries with
  | nil =>
    rw [insertTo, List.find?_cons, name_addTo]
    dsimp only
    cases name.sameAs query.name with
    | false => rfl
    | true =>
      dsimp only
      rw [records_addTo, List.find?_nil, if_pos rfl]
      unfold HostEntry.records
      simp only [ite_self]
  | cons e rest ih =>
    rw [insertTo, List.find?_cons]
    by_cases hname : e.name.sameAs name
    · rw [if_pos hname, List.find?_cons, name_addTo, sameAs_congr hname]
      cases name.sameAs query.name with
      | false => rw [if_neg Bool.false_ne_true, List.append_nil]
      | true => exact records_addTo query.type name ip e
    · rw [if_neg hname, List.find?_cons]
      cases hquery : e.name.sameAs query.name with
      | false => exact ih
      | true =>
        -- the entry is that of the query, so the name is another one than that of the query
        have hother : name.sameAs query.name = false := by
          unfold Name.sameAs at *
          rw [eq_of_beq hquery] at hname
          exact Bool.eq_false_iff.2 fun hsame => hname (beq_iff_eq.2 (eq_of_beq hsame).symm)
        rw [hother, if_neg Bool.false_ne_true, List.append_nil]

theorem recordsFor_foldl (query : Query) (names : List Occurrence) (h : Hosts) :
    recordsFor query (names.foldl insertOccurrence h).entries =
      recordsFor query h.entries ++
        (names.filter (Occurrence.answers query)).map Occurrence.record := by
  induction names generalizing h with
  | nil => exact (List.append_nil _).symm
  | cons o names ih =>
    have hstep : recordsFor query (h.insertOccurrence o).entries =
        recordsFor query h.entries ++ ([o].filter (Occurrence.answers query)).map
          Occurrence.record := by
      refine (recordsFor_insertTo query o.name o.ip h.entries).trans (congrArg _ ?_)
      by_cases hname : o.name.sameAs query.name
      · by_cases htype : (Hosts.record o.name o.ip).type = query.type
        · have hanswers : o.answers query := Bool.and_eq_true_iff.2 ⟨hname, beq_iff_eq.2 htype⟩
          rw [if_pos hname, typed, if_pos htype, List.filter_cons_of_pos hanswers]
          rfl
        · have hanswers : ¬ o.answers query := fun h =>
            htype (eq_of_beq (Bool.and_eq_true_iff.1 h).2)
          rw [if_pos hname, typed, if_neg htype, List.filter_cons_of_neg hanswers]
          rfl
      · have hanswers : ¬ o.answers query := fun h => hname (Bool.and_eq_true_iff.1 h).1
        rw [if_neg hname, List.filter_cons_of_neg hanswers]
        rfl
    rw [List.foldl_cons, ih, hstep, List.append_assoc, ← List.map_append, ← List.filter_append,
      List.singleton_append]

/-- **What a text has for a query is a filter over the names in it.** -/
theorem recordsFor_parse (query : Query) (text : String) :
    recordsFor query (parse text).entries =
      ((occurrences text).filter (Occurrence.answers query)).map Occurrence.record := by
  rw [parse_eq, recordsFor_foldl]
  rfl

/-! ## 4. How many names there are -/

/-- The names of a table, as they are compared. -/
def keys (entries : List HostEntry) : List (List Bytes) := entries.map fun e => e.name.key

theorem keys_insertTo (name : Name) (ip : IpAddr) (entries : List HostEntry) :
    keys (insertTo name ip entries) =
      if name.key ∈ keys entries then keys entries else keys entries ++ [name.key] := by
  induction entries with
  | nil =>
    have hnone : name.key ∉ keys [] := List.not_mem_nil
    rw [insertTo, if_neg hnone]
    exact congrArg (fun name : Name => [name.key]) (name_addTo name ip { name })
  | cons e rest ih =>
    have hkeys : keys (e :: rest) = e.name.key :: keys rest := rfl
    rw [insertTo, hkeys]
    by_cases hname : e.name.sameAs name
    · have hkey : name.key = e.name.key := (eq_of_beq hname).symm
      rw [if_pos hname, if_pos (hkey ▸ List.mem_cons_self)]
      exact congrArg (fun name : Name => name.key :: keys rest) (name_addTo name ip e)
    · have hkey : name.key ≠ e.name.key := fun hkey => hname (beq_iff_eq.2 hkey.symm)
      rw [if_neg hname]
      show e.name.key :: keys (insertTo name ip rest) = _
      rw [ih]
      by_cases hmem : name.key ∈ keys rest
      · rw [if_pos hmem, if_pos (List.mem_cons_of_mem _ hmem)]
      · rw [if_neg hmem, if_neg (List.not_mem_cons_of_ne_of_not_mem hkey hmem)]
        rfl

/-- **No name has two entries, and the names are those that were added.** -/
theorem keys_foldl (names : List Occurrence) {h : Hosts} (hnodup : (keys h.entries).Nodup) :
    (keys (names.foldl insertOccurrence h).entries).Nodup ∧
      ∀ key, key ∈ keys (names.foldl insertOccurrence h).entries ↔
        key ∈ keys h.entries ∨ key ∈ names.map fun o => o.name.key := by
  induction names generalizing h with
  | nil => exact ⟨hnodup, fun key => by simp only [List.foldl_nil, List.map_nil, List.not_mem_nil,
      or_false]⟩
  | cons o names ih =>
    have hinsert : keys (h.insertOccurrence o).entries = _ := keys_insertTo o.name o.ip h.entries
    rw [List.foldl_cons]
    by_cases hold : o.name.key ∈ keys h.entries
    · rw [if_pos hold] at hinsert
      obtain ⟨hnodup', hmem⟩ := ih (h := h.insertOccurrence o) (hinsert ▸ hnodup)
      refine ⟨hnodup', fun key => ?_⟩
      rw [hmem, hinsert, List.map_cons, List.mem_cons]
      constructor
      · exact Or.imp_right Or.inr
      · rintro (hkey | rfl | hkey)
        · exact .inl hkey
        · exact .inl hold
        · exact .inr hkey
    · rw [if_neg hold] at hinsert
      have hdisjoint : (keys h.entries ++ [o.name.key]).Nodup :=
        List.nodup_append.2 ⟨hnodup, List.nodup_singleton _, fun key hkey key' hkey' heq =>
          hold (List.mem_singleton.1 hkey' ▸ heq ▸ hkey)⟩
      obtain ⟨hnodup', hmem⟩ := ih (h := h.insertOccurrence o) (hinsert ▸ hdisjoint)
      refine ⟨hnodup', fun key => ?_⟩
      rw [hmem, hinsert, List.map_cons, List.mem_cons, List.mem_append, List.mem_singleton,
        or_assoc]

/-- **The size of a table is how many different names its text has.** -/
theorem size_parse (text : String) :
    (parse text).size = ((occurrences text).map fun o => o.name.key).dedup.length := by
  obtain ⟨hnodup, hmem⟩ := keys_foldl (occurrences text) (h := {}) List.nodup_nil
  rw [← parse_eq] at hnodup hmem
  have hset : (keys (parse text).entries).toFinset =
      ((occurrences text).map fun o => o.name.key).toFinset := by
    ext key
    rw [List.mem_toFinset, List.mem_toFinset, hmem]
    exact or_iff_right List.not_mem_nil
  calc (parse text).size = (keys (parse text).entries).length := (List.length_map _).symm
    _ = (keys (parse text).entries).toFinset.card := (List.toFinset_card_of_nodup hnodup).symm
    _ = _ := by rw [hset, List.card_toFinset]

/-! ## 5. Tables of texts -/

/-- The address, if it is one of version 4. -/
def ipv4? : IpAddr → Option Ipv4
  | .v4 ip => some ip
  | .v6 _ => none

/-- The address, if it is one of version 6. -/
def ipv6? : IpAddr → Option Ipv6
  | .v4 _ => none
  | .v6 ip => some ip

/-- The addresses of one version that the lines of a text have for a name. -/
def carried {α : Type} (address? : IpAddr → Option α) (name : Name) (text : String) : List α :=
  (occurrences text).filterMap fun o => if o.name.sameAs name then address? o.ip else none

/-- The addresses that an answer has, one in each record. -/
def told {α : Type} (address? : Record → Option α) (result : Except DnsError Lookup) :
    Except DnsError (List (Option α)) :=
  result.map fun found => found.records.map address?

/-- Addresses, and no data if there are none. -/
def orNoData {α : Type} : List α → Except DnsError (List (Option α))
  | [] => .error .noData
  | ips => .ok (ips.map some)

/-- One answer with those of another one behind it. -/
def followedBy : Except DnsError Lookup → Except DnsError Lookup → Except DnsError Lookup
  | .ok first, .ok second => .ok { first with records := first.records ++ second.records }
  | .ok first, .error _ => .ok first
  | .error _, second => second

theorem told_answer {α : Type} (address? : Record → Option α) (type : RecordType)
    {names : List Occurrence} {ips : List α}
    (h : names.map (address? ∘ Occurrence.record) = ips.map some) :
    told address? (answer type (names.map Occurrence.record)) = orNoData ips := by
  cases ips with
  | nil =>
    rw [List.map_eq_nil_iff.1 h]
    rfl
  | cons ip ips =>
    cases names with
    | nil => cases h
    | cons o names =>
      show Except.ok (((o :: names).map Occurrence.record).map address?) = _
      rw [List.map_map, h]
      rfl

theorem answer_append (type : RecordType) (a b : List Record) :
    answer type (a ++ b) = followedBy (answer type a) (answer type b) := by
  cases a with
  | nil => rfl
  | cons first rest =>
    cases b with
    | nil => exact congrArg _ (List.append_nil _)
    | cons first' rest' => rfl

/-- The addresses in the records of a filtered text are those that its lines have for the name,
where the records of the type are those of the version. -/
theorem map_answers {α : Type} {read? : Record → Option α} {address? : IpAddr → Option α}
    {type : RecordType} (hread : ∀ name ip, read? (record name ip) = address? ip)
    (htype : ∀ name ip, (record name ip).type = type ↔ (address? ip).isSome)
    (name : Name) (c : RecordClass) (text : String) :
    ((occurrences text).filter (Occurrence.answers ⟨name, type, c⟩)).map
      (read? ∘ Occurrence.record) = (carried address? name text).map some := by
  unfold carried
  induction occurrences text with
  | nil => rfl
  | cons o names ih =>
    rw [List.filterMap_cons]
    by_cases hname : o.name.sameAs name
    · rw [if_pos hname]
      have hiff := htype o.name o.ip
      cases hip : address? o.ip with
      | none =>
        have hanswers : ¬ o.answers ⟨name, type, c⟩ := fun h => by
          have hsome := hiff.1 (eq_of_beq (Bool.and_eq_true_iff.1 h).2)
          rw [hip] at hsome
          cases hsome
        rw [List.filter_cons_of_neg hanswers]
        exact ih
      | some ip =>
        have hanswers : o.answers ⟨name, type, c⟩ :=
          Bool.and_eq_true_iff.2 ⟨hname, beq_iff_eq.2 (hiff.2 (by rw [hip]; rfl))⟩
        rw [List.filter_cons_of_pos hanswers, List.map_cons, List.map_cons, ih]
        exact congrArg (· :: _) ((hread o.name o.ip).trans hip)
    · have hanswers : ¬ o.answers ⟨name, type, c⟩ := fun h => hname (Bool.and_eq_true_iff.1 h).1
      rw [if_neg hname, List.filter_cons_of_neg hanswers]
      exact ih

theorem recordV4?_record (name : Name) (ip : IpAddr) :
    Addresses.recordV4? (record name ip) = ipv4? ip := by
  cases ip <;> rfl

theorem recordV6?_record (name : Name) (ip : IpAddr) :
    Addresses.recordV6? (record name ip) = ipv6? ip := by
  cases ip <;> rfl

theorem type_record_a (name : Name) (ip : IpAddr) :
    (record name ip).type = .a ↔ (ipv4? ip).isSome := by
  cases ip with
  | v4 ip => exact iff_of_true rfl rfl
  | v6 ip => exact iff_of_false (fun h => by cases h) (fun h => by cases h)

theorem type_record_aaaa (name : Name) (ip : IpAddr) :
    (record name ip).type = .aaaa ↔ (ipv6? ip).isSome := by
  cases ip with
  | v4 ip => exact iff_of_false (fun h => by cases h) (fun h => by cases h)
  | v6 ip => exact iff_of_true rfl rfl

/-- **A table that is read from a text answers as a filter over the lines of the text does.**  A
query has the records of the names in the text that answer it, in the order of the text; for
version 4 and version 6 these are the addresses of the lines that carry the name, and there are no
data where there is no such line.  So the answers of two texts with a line feed between them are
those of the first and behind them those of the second; and the size of the table is how many
different names there are. -/
theorem lookup_parse (text : String) :
    (∀ query : Query, (parse text).lookup query =
        answer query.type
          (((occurrences text).filter (Occurrence.answers query)).map Occurrence.record)) ∧
      (∀ (name : Name) (c : RecordClass),
        told Addresses.recordV4? ((parse text).lookup ⟨name, .a, c⟩) =
            orNoData (carried ipv4? name text) ∧
          told Addresses.recordV6? ((parse text).lookup ⟨name, .aaaa, c⟩) =
            orNoData (carried ipv6? name text)) ∧
      (∀ (more : String) (query : Query), (parse (text ++ "\n" ++ more)).lookup query =
        followedBy ((parse text).lookup query) ((parse more).lookup query)) ∧
      (parse text).size = ((occurrences text).map fun o => o.name.key).dedup.length := by
  have hlookup (text : String) (query : Query) : (parse text).lookup query =
      answer query.type
        (((occurrences text).filter (Occurrence.answers query)).map Occurrence.record) :=
    (lookup_eq query _).trans (congrArg _ (recordsFor_parse query text))
  refine ⟨hlookup text, fun name c => ⟨?_, ?_⟩, fun more query => ?_, size_parse text⟩
  · rw [hlookup]
    exact told_answer _ _ (map_answers recordV4?_record type_record_a name c text)
  · rw [hlookup]
    exact told_answer _ _ (map_answers recordV6?_record type_record_aaaa name c text)
  · rw [hlookup, hlookup, hlookup, occurrences_append, List.filter_append, List.map_append,
      answer_append]

end Hosts

end Dns

end UrlTransfer
