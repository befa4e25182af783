/-
# All ways of reading a body agree

A body can be read with buffers of any sizes, all at once, as a stream of items, or through a
reader of its own.  How the data are cut is different in each, and depends on what the buffer holds
when a read comes; the data themselves are the same, and so is how they end.

`Brings`, which is reading to the end in portions of one size, is what all of them are measured by.
A read with any buffer either ends as that does, or takes the first of the data off, and reading on
in portions brings the others (`begins_read`): behind the read the body is not the one that a
portion would have left, but abreast of it.  By induction on what is ahead, reads with any buffers
bring the same (`drains_read`).  The stream reads in the same portions (`itemsFrom_eq`), and the
reader takes what the stream brings apart again (`drains_bodyReader`).
-/
import UrlTransfer.Http.BodyStream
import UrlTransfer.Proofs.Http.Cutting

namespace UrlTransfer

namespace Http

/-! ## 1. Reading until there is nothing more -/

/-- Reads with buffers of these sizes bring these data, until one of them brings none, or fails. -/
inductive Drains {ε σ : Type} (read : Nat → Act ε σ Bytes) :
    (Nat → Nat) → σ → Bytes → Option (Halt ε) → σ → Prop where
  | ended {sizes : Nat → Nat} {s t : σ} :
    read (sizes 0) s = .ok [] t → Drains read sizes s [] none t
  | failed {sizes : Nat → Nat} {halt : Halt ε} {s t : σ} :
    read (sizes 0) s = .error halt t → Drains read sizes s [] (some halt) t
  | more {sizes : Nat → Nat} {got data : Bytes} {halt : Option (Halt ε)} {s t u : σ} :
    read (sizes 0) s = .ok got t → got ≠ [] →
    Drains read (fun i => sizes (i + 1)) t data halt u →
    Drains read sizes s (got ++ data) halt u

/-- What reads with given buffers bring is determined. -/
theorem Drains.unique {ε σ : Type} {read : Nat → Act ε σ Bytes} {sizes : Nat → Nat} {s t t' : σ}
    {data data' : Bytes} {halt halt' : Option (Halt ε)} (h : Drains read sizes s data halt t)
    (h' : Drains read sizes s data' halt' t') : data = data' ∧ halt = halt' := by
  induction h generalizing data' halt' t' with
  | ended hread =>
    cases h' with
    | ended => exact ⟨rfl, rfl⟩
    | failed hread' => cases hread.symm.trans hread'
    | more hread' hgot _ => cases hread.symm.trans hread'; exact absurd rfl hgot
  | failed hread =>
    cases h' with
    | ended hread' => cases hread.symm.trans hread'
    | failed hread' => cases hread.symm.trans hread'; exact ⟨rfl, rfl⟩
    | more hread' _ _ => cases hread.symm.trans hread'
  | more hread hgot _ ih =>
    cases h' with
    | ended hread' => cases hread.symm.trans hread'; exact absurd rfl hgot
    | failed hread' => cases hread.symm.trans hread'
    | more hread' _ hrest' =>
      cases hread.symm.trans hread'
      obtain ⟨rfl, rfl⟩ := ih hrest'
      exact ⟨rfl, rfl⟩

namespace Body

variable {capacity n : Nat} {b b' q q' : Body} {data data' : Bytes} {halt halt' : Option (Halt Error)}

/-! ## 2. Portions -/

/-- What portions bring is determined. -/
theorem Brings.unique (h : Brings b data halt q) (h' : Brings b data' halt' q') :
    data = data' ∧ halt = halt' ∧ q = q' := by
  obtain ⟨hdata, hhalt, hbody⟩ := h []
  obtain ⟨hdata', hhalt', hbody'⟩ := h' []
  exact ⟨hdata.symm.trans hdata', hhalt.symm.trans hhalt', hbody.symm.trans hbody'⟩

/-- What was read before does not matter for what arrives. -/
theorem arriveFrom_eq (got : List Bytes) (b : Body) :
    arriveFrom got b =
      ⟨got.reverse ++ b.arrive.chunks, b.arrive.halt, b.arrive.body⟩ := by
  unfold arrive
  induction hsize : b.ahead using Nat.strongRecOn generalizing b got with
  | ind size ih =>
    cases hread : read portion b with
    | error halt q => rw [arriveFrom_error hread, arriveFrom_error hread]; simp
    | ok first q =>
      by_cases hfirst : first = []
      · subst hfirst
        rw [arriveFrom_nil hread, arriveFrom_nil hread]
        simp
      · have hless := size_read hread
        have hpos := List.length_pos_iff.2 hfirst
        rw [arriveFrom_cons hread hfirst, arriveFrom_cons hread hfirst,
          ih q.ahead (by omega) (first :: got) q rfl, ih q.ahead (by omega) [first] q rfl]
        simp

/-- Portions bring what arrives. -/
theorem brings_arrive (b : Body) :
    Brings b b.arrive.chunks.flatten b.arrive.halt b.arrive.body := by
  intro got
  rw [arriveFrom_eq, List.flatten_append]
  exact ⟨rfl, rfl, rfl⟩

/-- The first portion, and what the others bring. -/
theorem Brings.behind {first : Bytes} (h : Brings b data halt q)
    (hread : read portion b = .ok first b') (hfirst : first ≠ []) :
    ∃ rest, data = first ++ rest ∧ Brings b' rest halt q := by
  have hrest := brings_arrive b'
  obtain ⟨rfl, rfl, rfl⟩ := h.unique (hrest.cons hread hfirst)
  exact ⟨_, rfl, hrest⟩

/-! ## 3. One read -/

/-- How a read begins what portions bring: it ends as they do, or takes some of the data off. -/
inductive Begins (capacity : Nat) (b : Body) : EStateM.Result (Halt Error) Body Bytes → Prop where
  | ended {b' q : Body} : Brings b [] none q → Begins capacity b (.ok [] b')
  | failed {halt : Halt Error} {b' q : Body} :
    Brings b [] (some halt) q → Begins capacity b (.error halt b')
  | more {got : Bytes} {b' : Body} : got ≠ [] → Abreast capacity b' b' →
    (∀ {data halt q}, Brings b' data halt q → ∃ q', Brings b (got ++ data) halt q') →
    Begins capacity b (.ok got b')

section

variable {kind : Nat → Framing} {behind : Framing} {left : Nat}

/-- All bytes that are due, if there are any, and what follows. -/
theorem brings_rest (hdue : IsDue kind behind)
    (hframing : b.framing = if left = 0 then behind else kind left)
    (hthere : left ≤ b.reader.ahead.length) :
    ∃ r, Reader.Passed left b.reader r ∧
      ∀ {data halt q}, Brings { b with reader := r, framing := behind } data halt q →
        Brings b (b.reader.ahead.take left ++ data) halt q := by
  by_cases hleft : left = 0
  · subst hleft
    refine ⟨b.reader, .refl _, fun hrest => ?_⟩
    rw [if_pos rfl] at hframing
    rw [← hframing] at hrest
    exact hrest
  · rw [if_neg hleft] at hframing
    exact brings_due hdue hframing (Nat.pos_of_ne_zero hleft) hthere

/-- Where all bytes that are due are ahead, those that were read go before what the rest brings. -/
theorem brings_read_due (hdue : IsDue kind behind) (hframing : b.framing = kind left)
    (h : Abreast capacity b b) (hleft : 0 < left) (hthere : left ≤ b.reader.ahead.length)
    {got : Bytes} {r : Reader} (hle : got.length ≤ left) (happend : got ++ r.ahead = b.reader.ahead)
    (hpassed : Reader.Passed got.length b.reader r)
    (hrest : Brings { b with
      reader := r
      framing := if left - got.length = 0 then behind else kind (left - got.length) } data halt q) :
    ∃ q', Brings b (got ++ data) halt q' := by
  -- Both ways lead behind all bytes that are due, to bodies abreast.
  have hthere' : left - got.length ≤ r.ahead.length := by
    rw [hpassed.ahead, List.length_drop]
    omega
  obtain ⟨r₁, hpassed₁, hbrings₁⟩ := brings_due hdue hframing hleft hthere
  obtain ⟨r₂, hpassed₂, hbrings₂⟩ := brings_rest hdue
    (b := { b with
      reader := r
      framing := if left - got.length = 0 then behind else kind (left - got.length) })
    rfl hthere'
  have hall : Reader.Passed left b.reader r₂ := by
    have hboth := hpassed.trans hpassed₂
    rwa [show got.length + (left - got.length) = left by omega] at hboth
  have habreast : Abreast capacity { b with reader := r₁, framing := behind }
      { b with reader := r₂, framing := behind } := ⟨h.reader.passed hpassed₁ hall, rfl, rfl⟩
  obtain ⟨more, halt', q₁, q₂, hmore₁, hmore₂, -⟩ := brings_abreast habreast
  obtain ⟨rfl, rfl, -⟩ := hrest.unique (hbrings₂ hmore₂)
  refine ⟨q₁, ?_⟩
  rw [← List.append_assoc, ← take_of_read happend hle]
  exact hbrings₁ hmore₁

/-- Where they are not, both ways bring what there is, and end early. -/
theorem brings_read_early (hdue : IsDue kind behind) (hframing : b.framing = kind left)
    (hshort : b.reader.ahead.length < left) {got : Bytes} {r : Reader}
    (happend : got ++ r.ahead = b.reader.ahead) (hpassed : Reader.Passed got.length b.reader r)
    (hrest : Brings { b with
      reader := r
      framing := if left - got.length = 0 then behind else kind (left - got.length) } data halt q) :
    ∃ q', Brings b (got ++ data) halt q' := by
  have hlength : got.length + r.ahead.length = b.reader.ahead.length := by
    rw [← happend, List.length_append]
  rw [if_neg (by omega)] at hrest
  obtain ⟨r₁, -, hbrings₁⟩ := brings_early hdue hframing hshort
  obtain ⟨r₂, -, hbrings₂⟩ := brings_early hdue
    (b := { b with reader := r, framing := kind (left - got.length) }) rfl
    (show r.ahead.length < left - got.length by omega)
  obtain ⟨rfl, rfl, -⟩ := hrest.unique hbrings₂
  rw [← hpassed.ending, ← happend] at hbrings₁
  exact ⟨_, hbrings₁⟩

theorem begins_due (hdue : IsDue kind behind) (hframing : b.framing = kind left)
    (h : Abreast capacity b b) (hn : 0 < n) : Begins capacity b (read n b) := by
  have hportion : 0 < portion := by decide
  by_cases hleft : left = 0
  · subst hleft
    rw [hdue.read_zero hframing hn]
    exact .failed (.error (hdue.read_zero hframing hportion))
  have hpos := Nat.pos_of_ne_zero hleft
  by_cases hahead : b.reader.ahead = []
  · obtain ⟨r, -, hread⟩ := hdue.read_end hframing hpos hn hahead
    obtain ⟨r', -, hread'⟩ := hdue.read_end hframing hpos hportion hahead
    rw [hread]
    exact .failed (.error hread')
  obtain ⟨got, r, hread, hgot, hle, happend, hpassed⟩ := hdue.read_some hframing hpos hn hahead
  rw [hread]
  have hr : Reader.Abreast capacity r r := h.reader.passed hpassed hpassed
  refine .more hgot ⟨hr, rfl, rfl⟩ fun hrest => ?_
  by_cases hthere : left ≤ b.reader.ahead.length
  · exact brings_read_due hdue hframing h hpos hthere (Nat.le_trans hle (Nat.min_le_left _ _))
      happend hpassed hrest
  · exact brings_read_early hdue hframing (Nat.lt_of_not_le hthere) happend hpassed hrest

end

theorem begins_untilEnd (hframing : b.framing = .untilEnd) (h : Abreast capacity b b)
    (hn : 0 < n) : Begins capacity b (read n b) := by
  obtain ⟨r₁, -, hbrings₁⟩ := brings_untilEnd hframing
  by_cases hahead : b.reader.ahead = []
  · obtain ⟨r, -, hread⟩ := read_untilEnd_end hn hframing hahead
    rw [hread]
    rw [hahead] at hbrings₁
    cases houtcome : endOutcome b.reader.inflow.ending with
    | none =>
      rw [houtcome] at hbrings₁
      exact .ended hbrings₁
    | some halt =>
      rw [houtcome] at hbrings₁
      exact .failed hbrings₁
  · obtain ⟨got, r, hread, hgot, happend, hpassed⟩ := read_untilEnd_some hn hframing hahead
    rw [hread]
    refine .more hgot ⟨h.reader.passed hpassed hpassed, rfl, rfl⟩ fun hrest => ?_
    obtain ⟨r₂, -, hbrings₂⟩ := brings_untilEnd (b := { b with reader := r }) hframing
    obtain ⟨rfl, rfl, -⟩ := hrest.unique hbrings₂
    rw [← hpassed.ending, ← happend] at hbrings₁
    exact ⟨_, hbrings₁⟩

theorem begins_nothing (hframing : b.framing = .finished ∨ b.framing = .trailers)
    (hn : 0 < n) : Begins capacity b (read n b) := by
  have hat : AtData b := by
    unfold AtData
    rcases hframing with h | h <;> rw [h] <;> exact ⟨nofun, nofun, nofun⟩
  have hread : read n b = .ok [] b := by
    rw [read_eq_pass hn, Act.bind_ok hat.pass]
    unfold readData
    rcases hframing with h | h <;> rw [h]
  rw [hread]
  exact .ended (brings_nothing hframing)

theorem begins_atData (h : Abreast capacity b b) (hat : AtData b) (hn : 0 < n) :
    Begins capacity b (read n b) := by
  obtain ⟨hend, hsize, hextension⟩ := hat
  cases hframing : b.framing with
  | finished => exact begins_nothing (.inl hframing) hn
  | trailers => exact begins_nothing (.inr hframing) hn
  | untilEnd => exact begins_untilEnd hframing h hn
  | length left => exact begins_due isDue_length hframing h hn
  | chunkData left => exact begins_due isDue_chunkData hframing h hn
  | chunkEnd => exact absurd hframing hend
  | chunkSize => exact absurd hframing hsize
  | chunkExtension size => exact absurd hframing (hextension size)

/-- **A read with any buffer begins what portions bring.** -/
theorem begins_read (h : Abreast capacity b b) (hn : 0 < n) : Begins capacity b (read n b) := by
  have halike := alike_pass h
  rw [read_eq_pass hn]
  cases hpass : pass b with
  | error halt q =>
    rw [Act.bind_error hpass]
    exact .failed (.of_pass_error hpass)
  | ok _ q =>
    rw [hpass] at halike
    have hq : Abreast capacity q q := by
      cases halike with
      | ok _ hq => exact hq
    have hbegins := begins_atData hq (atData_of_pass hpass) hn
    rw [Act.bind_ok hpass]
    rw [read_eq_pass hn, Act.bind_ok (atData_of_pass hpass).pass] at hbegins
    generalize readData n q = result at hbegins
    cases hbegins with
    | ended hbrings => exact .ended (.of_pass hpass hbrings)
    | failed hbrings => exact .failed (.of_pass hpass hbrings)
    | more hgot hrest hbrings =>
      refine .more hgot hrest fun hdata => ?_
      obtain ⟨q', hq'⟩ := hbrings hdata
      exact ⟨q', .of_pass hpass hq'⟩

/-! ## 4. Reads with any buffers -/

/-- **Reads with any buffers bring what portions bring.** -/
theorem drains_read (h : Abreast capacity b b) (hbrings : Brings b data halt q)
    {sizes : Nat → Nat} (hsizes : ∀ i, 0 < sizes i) :
    ∃ b', Drains read sizes b data halt b' := by
  induction hsize : b.ahead using Nat.strongRecOn generalizing b data halt q sizes with
  | ind size ih =>
    have hbegins := begins_read h (hsizes 0)
    cases hread : read (sizes 0) b with
    | error halt' b' =>
      rw [hread] at hbegins
      cases hbegins with
      | failed hend =>
        obtain ⟨rfl, rfl, -⟩ := hbrings.unique hend
        exact ⟨b', .failed hread⟩
    | ok got b' =>
      rw [hread] at hbegins
      cases hbegins with
      | ended hend =>
        obtain ⟨rfl, rfl, -⟩ := hbrings.unique hend
        exact ⟨b', .ended hread⟩
      | more hgot hb' hrest =>
        have hless := size_read hread
        have hpos := List.length_pos_iff.2 hgot
        obtain ⟨q', hall⟩ := hrest (brings_arrive b')
        obtain ⟨rfl, rfl, -⟩ := hbrings.unique hall
        obtain ⟨b'', hdrains⟩ := ih b'.ahead (by omega) hb' (brings_arrive b')
          (fun i => hsizes (i + 1)) rfl
        exact ⟨b'', .more hread hgot hdrains⟩

/-! ## 5. The stream of a body -/

theorem itemsFrom_eq (got : List Bytes) (b : Body) :
    BodyStream.itemsFrom got b.stream = ((arriveFrom got b).chunks, (arriveFrom got b).halt) := by
  induction hsize : b.ahead using Nat.strongRecOn generalizing b got with
  | ind size ih =>
    rw [BodyStream.itemsFrom, BodyStream.next, stream]
    dsimp only
    cases hread : read portion b with
    | error halt b' =>
      rw [arriveFrom_error hread]
      cases halt <;> rfl
    | ok first b' =>
      cases first with
      | nil =>
        rw [arriveFrom_nil hread]
      | cons x xs =>
        have hless := size_read hread
        rw [List.length_cons] at hless
        rw [arriveFrom_cons hread (List.cons_ne_nil x xs)]
        exact ih b'.ahead (by omega) _ b' rfl

/-- **The items of the stream are what portions bring.** -/
theorem items_eq (h : Brings b data halt q) :
    b.stream.items.1.flatten = data ∧ b.stream.items.2 = halt := by
  obtain ⟨hdata, hhalt, -⟩ := h []
  unfold BodyStream.items
  rw [itemsFrom_eq]
  exact ⟨hdata, hhalt⟩

/-! ## 6. The reader of a body -/

/-- A read where nothing is left of an item. -/
theorem read_bodyReader (n : Nat) (b : Body) :
    BodyReader.read n b.asReader =
      match read portion b with
      | .ok [] _ => .ok [] ⟨⟨none⟩, [], true⟩
      | .ok (x :: xs) b' => .ok ((x :: xs).take n) ⟨b'.stream, (x :: xs).drop n, false⟩
      | .error (.failed error) _ => .error (.failed error.toIo) ⟨⟨none⟩, [], true⟩
      | .error .stalled b' => .error .stalled ⟨b'.stream, [], false⟩ := by
  unfold BodyReader.read BodyStream.next asReader stream
  dsimp only
  cases read portion b with
  | error halt b' => cases halt <;> rfl
  | ok first b' => cases first <;> rfl

/-- **The reader brings what is left of an item, and what portions bring.** -/
theorem drains_bodyReader (h : Brings b data halt q) (left : Bytes) {sizes : Nat → Nat}
    (hsizes : ∀ i, 0 < sizes i) :
    ∃ r, Drains BodyReader.read sizes ⟨b.stream, left, false⟩ (left ++ data)
      (halt.map (Halt.map Error.toIo)) r := by
  -- On what is left and ahead: a read shortens the one, or makes an item of the other.
  induction hsize : left.length + b.ahead using Nat.strongRecOn
    generalizing b data left sizes with
  | ind size ih =>
    have hpos := hsizes 0
    have hlater : ∀ i, 0 < sizes (i + 1) := fun i => hsizes (i + 1)
    have hsome {item : Bytes} (hitem : item ≠ []) : item.take (sizes 0) ≠ [] := fun hnil =>
      (List.take_eq_nil_iff.1 hnil).elim (Nat.ne_of_gt hpos) hitem
    cases left with
    | cons y ys =>
      have hread : BodyReader.read (sizes 0) ⟨b.stream, y :: ys, false⟩ =
          .ok ((y :: ys).take (sizes 0)) ⟨b.stream, (y :: ys).drop (sizes 0), false⟩ := rfl
      have hless : ((y :: ys).drop (sizes 0)).length + b.ahead < size := by
        rw [← hsize, List.length_drop, List.length_cons]
        omega
      obtain ⟨r, hrest⟩ := ih _ hless h _ hlater rfl
      have hall := Drains.more hread (hsome (List.cons_ne_nil y ys)) hrest
      rw [← List.append_assoc, List.take_append_drop] at hall
      exact ⟨r, hall⟩
    | nil =>
      have hfirst := read_bodyReader (sizes 0) b
      cases hread : read portion b with
      | error halt' b' =>
        obtain ⟨rfl, rfl, -⟩ := h.unique (Brings.error hread)
        rw [hread] at hfirst
        cases halt' <;> exact ⟨_, .failed hfirst⟩
      | ok first b' =>
        rw [hread] at hfirst
        cases first with
        | nil =>
          obtain ⟨rfl, rfl, -⟩ := h.unique (Brings.nil hread)
          exact ⟨_, .ended hfirst⟩
        | cons x xs =>
          obtain ⟨rest, rfl, hbrings⟩ := h.behind hread (List.cons_ne_nil x xs)
          have hless : ((x :: xs).drop (sizes 0)).length + b'.ahead < size := by
            have hgot := size_read hread
            rw [← hsize, List.length_drop, List.length_nil]
            rw [List.length_cons] at hgot ⊢
            omega
          obtain ⟨r, hrest⟩ := ih _ hless hbrings _ hlater rfl
          have hall := Drains.more hfirst (hsome (List.cons_ne_nil x xs)) hrest
          rw [← List.append_assoc, List.take_append_drop] at hall
          exact ⟨r, hall⟩

/-- Everything that is left of a reader is what its reads bring. -/
theorem contentFrom_eq {r r' : BodyReader} {data : Bytes} {halt : Option (Halt IoError)}
    (h : Drains BodyReader.read (fun _ => portion) r data halt r') (got : Bytes) :
    r.contentFrom got = (got ++ data, halt) := by
  generalize hsizes : (fun _ : Nat => portion) = sizes at h
  induction h generalizing got with
  | ended hread =>
    subst hsizes
    rw [BodyReader.contentFrom]
    split <;> rename_i h' <;> rw [hread] at h' <;> cases h'
    rw [List.append_nil]
  | failed hread =>
    subst hsizes
    rw [BodyReader.contentFrom]
    split <;> rename_i h' <;> rw [hread] at h' <;> cases h'
    rw [List.append_nil]
  | more hread hgot _ ih =>
    subst hsizes
    rw [BodyReader.contentFrom]
    split <;> rename_i h' <;> rw [hread] at h' <;> cases h'
    · exact absurd rfl hgot
    · rw [ih _ rfl, List.append_assoc]

/-! ## 7. All ways -/

/-- All ways of reading a body bring these data, and end like this. -/
structure Agrees (b : Body) (data : Bytes) (halt : Option (Halt Error)) : Prop where
  /-- Reads with buffers of any sizes come to an end, and bring nothing else. -/
  reads : ∀ {sizes : Nat → Nat}, (∀ i, 0 < sizes i) →
    (∃ b', Drains read sizes b data halt b') ∧
      ∀ {data' halt' b'}, Drains read sizes b data' halt' b' → data' = data ∧ halt' = halt
  /-- So does reading all at once; its error takes the place of the data. -/
  bytes : ∃ b', b.bytes = match halt with
    | none => .ok data b'
    | some halt => .error halt b'
  /-- So do the items of the stream. -/
  items : b.stream.items.1.flatten = data ∧ b.stream.items.2 = halt
  /-- So do reads from the reader, where an error is one of the system. -/
  reader : ∀ {sizes : Nat → Nat}, (∀ i, 0 < sizes i) →
    (∃ r, Drains BodyReader.read sizes b.asReader data (halt.map (Halt.map Error.toIo)) r) ∧
      ∀ {data' halt' r}, Drains BodyReader.read sizes b.asReader data' halt' r →
        data' = data ∧ halt' = halt.map (Halt.map Error.toIo)
  /-- And so does reading all of it. -/
  content : b.asReader.content = (data, halt.map (Halt.map Error.toIo))

/-- **All ways of reading a body agree**, and a read without room does nothing. -/
theorem reads_agree (h : b.reader.Fits) :
    (∃ data halt, Agrees b data halt) ∧ read 0 b = .ok [] b := by
  have habreast : Abreast b.reader.capacity b b := ⟨⟨rfl, rfl, ⟨rfl, h⟩, ⟨rfl, h⟩⟩, rfl, rfl⟩
  have hbrings := brings_arrive b
  have hreader {sizes : Nat → Nat} (hsizes : ∀ i, 0 < sizes i) :=
    drains_bodyReader hbrings [] hsizes
  refine ⟨⟨_, _, ⟨?_, ?_, items_eq hbrings, ?_, ?_⟩⟩, rfl⟩
  · intro sizes hsizes
    obtain ⟨b', hdrains⟩ := drains_read habreast hbrings hsizes
    exact ⟨⟨b', hdrains⟩, fun hother => hother.unique hdrains⟩
  · cases hhalt : b.arrive.halt with
    | none => exact ⟨_, (hhalt ▸ hbrings).bytes_ok⟩
    | some halt => exact ⟨_, (hhalt ▸ hbrings).bytes_error⟩
  · intro sizes hsizes
    obtain ⟨r, hdrains⟩ := hreader hsizes
    exact ⟨⟨r, hdrains⟩, fun hother => hother.unique hdrains⟩
  · obtain ⟨r, hdrains⟩ := hreader fun _ => (by decide : 0 < portion)
    exact contentFrom_eq hdrains []

/-- A body in chunks, cut in the middle of one and of the line behind it, where the stream ends
before the body does. -/
def slicedBody : Body where
  reader := .ofInflow ⟨[Bytes.ofString "5\r\nhel", Bytes.ofString "lo\r", Bytes.ofString "\n3\r\nab"],
    .eof⟩
  framing := .chunkSize
  reusable := false

theorem reads_agree_sliced :
    slicedBody.reader.Fits ∧ (∃ data halt, Agrees slicedBody data halt) ∧
      read 0 slicedBody = .ok [] slicedBody := by
  have hfits : slicedBody.reader.Fits := Reader.fits_ofInflow _
  exact ⟨hfits, reads_agree hfits⟩

end Body

end Http

end UrlTransfer
