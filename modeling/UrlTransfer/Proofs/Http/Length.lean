/-
# Bodies of known length

A head that announces a length makes a body of that many bytes.  `Delivers` says what such a body
owes to those who read it, in reads of any sizes and in any number: what was read is the front of
the stream, what is left is known at every time, nothing comes behind the last byte, and a stream
that ends before it is reported as partial, but not before all that is there has been read.

Every body of known length delivers except the one of no bytes (`ofHead_delivers`).  That one
should be at its end from the start; instead it asks the stream for no bytes, takes the answer for
the end of the stream, and reports a partial file whatever is there.

The proof follows a body through its reads: `Stands` says how far the reading has come, and one
lemma for each outcome of a read says how it goes on.
-/
import UrlTransfer.Proofs.Http.Due

namespace UrlTransfer

namespace Http

namespace Body

/-! ## 1. What a body of known length owes -/

/-- What reads of any sizes return in all, and the body that they leave. -/
inductive Reads (b : Body) : Bytes → Body → Prop where
  | start : Reads b [] b
  | next {got more : Bytes} {b' b'' : Body} (size : Nat) :
      Reads b got b' → read size b' = .ok more b'' → Reads b (got ++ more) b''

/-- The body brings `n` bytes of its stream, and no more. -/
structure Delivers (n : Nat) (b : Body) : Prop where
  /-- What was read, then what is ahead, is what was ahead. -/
  ahead : ∀ {got b'}, Reads b got b' → got ++ b'.reader.ahead = b.reader.ahead
  /-- What is left falls by what is read. -/
  remaining : ∀ {got b'}, Reads b got b' →
    got.length ≤ n ∧ b'.remaining = some (n - got.length)
  /-- A read brings some bytes as long as some are left. -/
  more : ∀ {got b'} {size : Nat}, Reads b got b' → 0 < size → got.length < n →
    got.length < b.reader.ahead.length →
    ∃ more b'', read size b' = .ok more b'' ∧ more ≠ [] ∧ more.length ≤ size
  /-- Behind the last byte a read brings nothing, and changes nothing. -/
  done : ∀ {got b'} (size : Nat), Reads b got b' → got.length = n → read size b' = .ok [] b'
  /-- Where the stream ends too early, a read fails behind all that was there. -/
  early : ∀ {got b'} {size : Nat}, Reads b got b' → 0 < size → got.length < n →
    got.length = b.reader.ahead.length →
    ∃ b'', read size b' = .error (.failed .partialFile) b''
  /-- All bytes at once. -/
  bytes : n ≤ b.reader.ahead.length →
    ∃ b', b.bytes = .ok (b.reader.ahead.take n) b' ∧
      b'.reader.ahead = b.reader.ahead.drop n ∧ b'.remaining = some 0
  /-- All bytes at once, where there are too few. -/
  bytes_early : b.reader.ahead.length < n →
    b.arrive.chunks.flatten = b.reader.ahead ∧
      ∃ b', b.bytes = .error (.failed .partialFile) b'

/-! ## 2. How far the reading has come -/

/-- Of a body of `n` bytes with this reader `k` bytes have been read. -/
structure Stands (n : Nat) (r : Reader) (k : Nat) (b : Body) : Prop where
  framing : b.framing = if n - k = 0 then .finished else .length (n - k)
  le : k ≤ n
  passed : Reader.Passed k r b.reader

namespace Stands

variable {n k size : Nat} {r : Reader} {b : Body}

theorem start (hframing : b.framing = .length n) (hn : n ≠ 0) : Stands n b.reader 0 b where
  framing := by rw [hframing, Nat.sub_zero, if_neg hn]
  le := Nat.zero_le n
  passed := .refl _

/-- The framing where bytes are left, and where none are. -/
theorem cases (h : Stands n r k b) :
    (k < n ∧ b.framing = .length (n - k)) ∨ (k = n ∧ b.framing = .finished) := by
  have hframing := h.framing
  have hle := h.le
  by_cases hleft : n - k = 0
  · rw [if_pos hleft] at hframing
    exact .inr ⟨by omega, hframing⟩
  · rw [if_neg hleft] at hframing
    exact .inl ⟨by omega, hframing⟩

theorem remaining (h : Stands n r k b) : b.remaining = some (n - k) := by
  unfold Body.remaining
  rcases h.cases with ⟨-, hframing⟩ | ⟨rfl, hframing⟩
  · rw [hframing]
  · rw [hframing, Nat.sub_self]

/-- Behind the last byte a read brings nothing. -/
theorem read_done (h : Stands n r n b) (size : Nat) : read size b = .ok [] b := by
  rcases h.cases with ⟨hlt, -⟩ | ⟨-, hframing⟩
  · exact absurd hlt (Nat.lt_irrefl n)
  · unfold read
    split
    · rfl
    · have hpass : passEnd b = .ok () b ∧ passSize b = .ok () b ∧ passExtension b = .ok () b := by
        unfold passEnd passSize passExtension
        rw [hframing]
        exact ⟨rfl, rfl, rfl⟩
      rw [Act.bind_ok hpass.1, Act.bind_ok hpass.2.1, Act.bind_ok hpass.2.2]
      unfold readData
      rw [hframing]

/-- **A read goes on** where bytes are left and there. -/
theorem read_more (h : Stands n r k b) (hleft : k < n) (hsize : 0 < size)
    (hthere : k < r.ahead.length) :
    ∃ more b', read size b = .ok more b' ∧ more ≠ [] ∧ more.length ≤ size ∧
      more ++ b'.reader.ahead = b.reader.ahead ∧ Stands n r (k + more.length) b' := by
  rcases h.cases with ⟨-, hframing⟩ | ⟨rfl, -⟩
  · have hahead : b.reader.ahead ≠ [] := by
      intro hnil
      have hlength := congrArg List.length h.passed.ahead
      rw [hnil, List.length_drop, List.length_nil] at hlength
      omega
    obtain ⟨more, r', hread, hmore, hlength, happend, hpassed⟩ :=
      isDue_length.read_some hframing (by omega) hsize hahead
    refine ⟨more, _, hread, hmore, Nat.le_trans hlength (Nat.min_le_right _ _), happend, ?_⟩
    have hle : more.length ≤ n - k := Nat.le_trans hlength (Nat.min_le_left _ _)
    refine ⟨?_, by omega, h.passed.trans hpassed⟩
    rw [Nat.sub_add_eq]
  · exact absurd hleft (Nat.lt_irrefl _)

/-- A read fails where bytes are left and the stream is at its end. -/
theorem read_early (h : Stands n r k b) (hleft : k < n) (hsize : 0 < size)
    (hahead : r.ahead.length ≤ k) (hend : r.inflow.ending = .eof) :
    ∃ b', read size b = .error (.failed .partialFile) b' := by
  rcases h.cases with ⟨-, hframing⟩ | ⟨rfl, -⟩
  · have hnil : b.reader.ahead = [] := by
      rw [h.passed.ahead]
      exact List.drop_eq_nil_of_le hahead
    obtain ⟨r', hread, -⟩ :=
      isDue_length.read_eof hframing hsize hnil (h.passed.ending.trans hend)
    exact ⟨_, hread⟩
  · exact absurd hleft (Nat.lt_irrefl _)

/-- **Every read keeps the account.** -/
theorem read (h : Stands n r k b) (hstream : n ≤ r.ahead.length ∨ r.inflow.ending = .eof)
    {more : Bytes} {b' : Body} (hread : Body.read size b = .ok more b') :
    more ++ b'.reader.ahead = b.reader.ahead ∧ Stands n r (k + more.length) b' := by
  by_cases hsize : size = 0
  · unfold Body.read at hread
    rw [if_pos hsize] at hread
    cases hread
    exact ⟨rfl, h⟩
  rcases Nat.lt_or_eq_of_le h.le with hleft | rfl
  · by_cases hthere : k < r.ahead.length
    · obtain ⟨more', b'', hread', -, -, happend, hstands⟩ :=
        h.read_more hleft (Nat.pos_of_ne_zero hsize) hthere
      rw [hread'] at hread
      cases hread
      exact ⟨happend, hstands⟩
    · have hend : r.inflow.ending = .eof := hstream.resolve_left (by omega)
      obtain ⟨b'', hread'⟩ :=
        h.read_early hleft (Nat.pos_of_ne_zero hsize) (Nat.not_lt.1 hthere) hend
      rw [hread'] at hread
      cases hread
  · rw [h.read_done] at hread
    cases hread
    exact ⟨rfl, h⟩

/-- And so does any number of reads. -/
theorem reads (h : Stands n b.reader 0 b)
    (hstream : n ≤ b.reader.ahead.length ∨ b.reader.inflow.ending = .eof) {got : Bytes}
    {b' : Body} (hreads : Reads b got b') :
    got ++ b'.reader.ahead = b.reader.ahead ∧ Stands n b.reader got.length b' := by
  induction hreads with
  | start => exact ⟨rfl, h⟩
  | next size hreads hread ih =>
    obtain ⟨happend, hstands⟩ := ih
    obtain ⟨happend', hstands'⟩ := hstands.read hstream hread
    rw [List.append_assoc, happend', List.length_append]
    exact ⟨happend, hstands'⟩

end Stands

/-! ## 3. What a body of known length delivers -/

/-- All bytes of a body at once. -/
theorem brings_length {n : Nat} {b : Body} (hframing : b.framing = .length n) (hn : n ≠ 0)
    (hthere : n ≤ b.reader.ahead.length) :
    ∃ r, Reader.Passed n b.reader r ∧
      Brings b (b.reader.ahead.take n) none { b with reader := r, framing := .finished } := by
  obtain ⟨r, hpassed, hbrings⟩ :=
    brings_due isDue_length hframing (Nat.pos_of_ne_zero hn) hthere
  have hstands : Stands n b.reader n { b with reader := r, framing := .finished } :=
    ⟨by rw [Nat.sub_self, if_pos rfl], Nat.le_refl n, hpassed⟩
  refine ⟨r, hpassed, ?_⟩
  have hall := hbrings (Brings.nil (hstands.read_done portion))
  rw [List.append_nil] at hall
  exact hall

/-- **A body of a length other than zero delivers.** -/
theorem delivers {n : Nat} {b : Body} (hframing : b.framing = .length n) (hn : n ≠ 0)
    (hstream : n ≤ b.reader.ahead.length ∨ b.reader.inflow.ending = .eof) : Delivers n b := by
  have hstart := Stands.start hframing hn
  have hstands := fun {got b'} (hreads : Reads b got b') => hstart.reads hstream hreads
  refine ⟨fun hreads => (hstands hreads).1, ?_, ?_, ?_, ?_, ?_, ?_⟩
  · intro got b' hreads
    exact ⟨(hstands hreads).2.le, (hstands hreads).2.remaining⟩
  · intro got b' size hreads hsize hleft hthere
    obtain ⟨more, b'', hread, hmore, hlength, -⟩ :=
      (hstands hreads).2.read_more hleft hsize hthere
    exact ⟨more, b'', hread, hmore, hlength⟩
  · rintro got b' size hreads rfl
    exact (hstands hreads).2.read_done size
  · intro got b' size hreads hsize hleft hall
    exact (hstands hreads).2.read_early hleft hsize (Nat.le_of_eq hall.symm)
      (hstream.resolve_left (by omega))
  · intro hthere
    obtain ⟨r, hpassed, hbrings⟩ := brings_length hframing hn hthere
    exact ⟨_, hbrings.bytes_ok, hpassed.ahead, rfl⟩
  · intro hshort
    obtain ⟨b', hbrings⟩ :=
      brings_short isDue_length hframing hshort (hstream.resolve_left (by omega))
    exact ⟨(hbrings []).1, b', hbrings.bytes_error⟩

/-- **A body of no bytes fails** where it should be at its end. -/
theorem not_delivers_zero {b : Body} (hframing : b.framing = .length 0) : ¬ Delivers 0 b := by
  intro h
  have hread := h.done 1 .start rfl
  rw [isDue_length.read_zero hframing Nat.one_pos] at hread
  cases hread

/-- The body behind a head that announces a length and nothing else. -/
theorem ofHead_length {method : Method} {status : Status} {headers : Headers}
    {value : HeaderValue} {n : Nat} (hkind : isBodiless method status = false)
    (hencoding : headers.get? .transferEncoding = none)
    (hlength : headers.get? .contentLength = some value) (hvalue : parseLength? value = some n)
    (reader : Reader) :
    ∃ b, ofHead method status headers reader = .ok b ∧ b.reader = reader ∧
      b.framing = .length n := by
  have hframing : Framing.ofHead method status headers = .ok (.length n) := by
    unfold Framing.ofHead
    rw [if_neg (by simp [hkind]), hencoding, hlength]
    dsimp only
    rw [hvalue]
  unfold ofHead
  rw [hframing]
  exact ⟨_, rfl, rfl, rfl⟩

/-- **A body of announced length delivers exactly if the length is not zero.**  A body of no bytes
reports a partial file at every read, and leaves the stream alone. -/
theorem ofHead_delivers {method : Method} {status : Status} {headers : Headers}
    {value : HeaderValue} {n : Nat} {reader : Reader} (hkind : isBodiless method status = false)
    (hencoding : headers.get? .transferEncoding = none)
    (hlength : headers.get? .contentLength = some value) (hvalue : parseLength? value = some n)
    (hstream : n ≤ reader.ahead.length ∨ reader.inflow.ending = .eof) :
    ∃ b, ofHead method status headers reader = .ok b ∧ b.reader = reader ∧
      b.remaining = some n ∧ (Delivers n b ↔ n ≠ 0) ∧
      (n = 0 → (∀ size, 0 < size → read size b = .error (.failed .partialFile) b) ∧
        b.bytes = .error (.failed .partialFile) b) := by
  obtain ⟨b, hbody, hreader, hframing⟩ :=
    ofHead_length hkind hencoding hlength hvalue reader
  refine ⟨b, hbody, hreader, ?_, ⟨?_, ?_⟩, ?_⟩
  · unfold remaining
    rw [hframing]
  · rintro hdelivers rfl
    exact not_delivers_zero hframing hdelivers
  · intro hn
    exact delivers hframing hn (by rw [hreader]; exact hstream)
  · rintro rfl
    have hread := fun {size : Nat} (hsize : 0 < size) =>
      isDue_length.read_zero hframing hsize
    exact ⟨fun size => hread, (Brings.error (hread (by decide : 0 < portion))).bytes_error⟩

/-- The headers that announce a length of one digit. -/
def announcing (digit : UInt8) : Headers := Headers.empty.append .contentLength ⟨[digit]⟩

/-- A stream of six bytes, in two pieces. -/
def sixBytes : Reader := .ofInflow ⟨[[1, 2, 3], [4, 5, 6]], .eof⟩

theorem ofHead_delivers_five :
    ∃ b b', ofHead .get .okay (announcing 53) sixBytes = .ok b ∧ b.remaining = some 5 ∧
      b.bytes = .ok [1, 2, 3, 4, 5] b' ∧ b'.reader.ahead = [6] := by
  have hkind : isBodiless .get .okay = false := by decide
  have hencoding : (announcing 53).get? .transferEncoding = none := by decide
  have hlength : (announcing 53).get? .contentLength = some ⟨[53]⟩ := by decide
  have hvalue : parseLength? ⟨[53]⟩ = some 5 := by decide
  have hthere : 5 ≤ sixBytes.ahead.length := by decide
  obtain ⟨b, hbody, hreader, hremaining, hdelivers, -⟩ :=
    ofHead_delivers hkind hencoding hlength hvalue (.inl hthere)
  have hahead : b.reader.ahead = [1, 2, 3, 4, 5, 6] := by rw [hreader]; rfl
  obtain ⟨b', hbytes, hrest, -⟩ := (hdelivers.2 (by decide)).bytes (by rw [hahead]; decide)
  rw [hahead] at hbytes hrest
  exact ⟨b, b', hbody, hremaining, hbytes, hrest⟩

theorem ofHead_zero_not_delivers :
    ∃ b, ofHead .get .okay (announcing 48) sixBytes = .ok b ∧ ¬ Delivers 0 b := by
  have hkind : isBodiless .get .okay = false := by decide
  have hencoding : (announcing 48).get? .transferEncoding = none := by decide
  have hlength : (announcing 48).get? .contentLength = some ⟨[48]⟩ := by decide
  have hvalue : parseLength? ⟨[48]⟩ = some 0 := by decide
  obtain ⟨b, hbody, -, hframing⟩ :=
    ofHead_length hkind hencoding hlength hvalue sixBytes
  exact ⟨b, hbody, not_delivers_zero hframing⟩

end Body

end Http

end UrlTransfer
