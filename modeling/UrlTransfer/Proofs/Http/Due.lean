/-
# Data of which so many bytes are due

A body of known length and the data of a chunk are read in the same way: as many bytes as are due
and fit, and the end of the stream before the last of them is too early.  `IsDue` says what the two
framings have in common, and what is proved here holds of both: one read brings some of the bytes
that are due, and reading to the end brings all of them and goes on with what follows
(`brings_due`), or all that are there and an error (`brings_short`).

`Brings` is what reading to the end comes to.  How the data are cut into reads is left out of it;
each lemma about a read becomes one about `Brings` by `Brings.cons`.
-/
import UrlTransfer.Http.Body
import UrlTransfer.Proofs.Stream.Reading

namespace UrlTransfer

namespace Http

namespace Body

/-! ## 1. Reading to the end -/

/-- Reading to the end brings these data, then ends or fails, and leaves this body. -/
def Brings (b : Body) (data : Bytes) (halt : Option (Halt Error)) (b' : Body) : Prop :=
  ∀ got, (arriveFrom got b).chunks.flatten = got.reverse.flatten ++ data ∧
    (arriveFrom got b).halt = halt ∧ (arriveFrom got b).body = b'

theorem arriveFrom_nil {b b' : Body} (h : read portion b = .ok [] b') (got : List Bytes) :
    arriveFrom got b = ⟨got.reverse, none, b'⟩ := by
  rw [arriveFrom]
  split <;> rename_i h' <;> rw [h] at h' <;> cases h'
  rfl

theorem arriveFrom_error {b b' : Body} {halt : Halt Error} (h : read portion b = .error halt b')
    (got : List Bytes) : arriveFrom got b = ⟨got.reverse, some halt, b'⟩ := by
  rw [arriveFrom]
  split <;> rename_i h' <;> rw [h] at h' <;> cases h'
  rfl

theorem arriveFrom_cons {b b' : Body} {first : Bytes} (h : read portion b = .ok first b')
    (hfirst : first ≠ []) (got : List Bytes) :
    arriveFrom got b = arriveFrom (first :: got) b' := by
  rw [arriveFrom]
  split <;> rename_i h' <;> rw [h] at h' <;> cases h'
  · exact absurd rfl hfirst
  · rfl

theorem Brings.nil {b b' : Body} (h : read portion b = .ok [] b') : Brings b [] none b' := by
  intro got
  rw [arriveFrom_nil h]
  exact ⟨(List.append_nil _).symm, rfl, rfl⟩

theorem Brings.error {b b' : Body} {halt : Halt Error} (h : read portion b = .error halt b') :
    Brings b [] (some halt) b' := by
  intro got
  rw [arriveFrom_error h]
  exact ⟨(List.append_nil _).symm, rfl, rfl⟩

/-- **One read, and what comes behind it.** -/
theorem Brings.cons {b b' b'' : Body} {first data : Bytes} {halt : Option (Halt Error)}
    (h : read portion b = .ok first b') (hfirst : first ≠ []) (hrest : Brings b' data halt b'') :
    Brings b (first ++ data) halt b'' := by
  intro got
  obtain ⟨hdata, hhalt⟩ := hrest (first :: got)
  rw [arriveFrom_cons h hfirst, hdata]
  simp only [List.reverse_cons, List.flatten_append, List.flatten_singleton, List.append_assoc]
  exact ⟨trivial, hhalt⟩

/-- Bodies that are read alike bring the same. -/
theorem Brings.congr {b b' b'' : Body} {data : Bytes} {halt : Option (Halt Error)}
    (h : read portion b = read portion b') (hbrings : Brings b' data halt b'') :
    Brings b data halt b'' := by
  have harrive : ∀ got, arriveFrom got b = arriveFrom got b' := by
    intro got
    cases hread : read portion b' with
    | error halt' b1 => rw [arriveFrom_error (h.trans hread), arriveFrom_error hread]
    | ok first b1 =>
      by_cases hfirst : first = []
      · subst hfirst
        rw [arriveFrom_nil (h.trans hread), arriveFrom_nil hread]
      · rw [arriveFrom_cons (h.trans hread) hfirst, arriveFrom_cons hread hfirst]
  intro got
  rw [harrive]
  exact hbrings got

theorem Brings.bytes_ok {b b' : Body} {data : Bytes} (h : Brings b data none b') :
    b.bytes = .ok data b' := by
  have hbytes := h []
  unfold Body.bytes arrive
  cases harrive : arriveFrom [] b with
  | mk chunks halt body =>
    rw [harrive] at hbytes
    obtain ⟨hdata, hhalt, hbody⟩ := hbytes
    cases hhalt
    cases hbody
    exact congrArg (EStateM.Result.ok · body) hdata

theorem Brings.bytes_error {b b' : Body} {data : Bytes} {halt : Halt Error}
    (h : Brings b data (some halt) b') : b.bytes = .error halt b' := by
  have hbytes := h []
  unfold Body.bytes arrive
  cases harrive : arriveFrom [] b with
  | mk chunks halt body =>
    rw [harrive] at hbytes
    obtain ⟨-, hhalt, hbody⟩ := hbytes
    cases hhalt
    cases hbody
    rfl

/-! ## 2. One read of data that are due -/

/-- Reading does the same at `kind left`, where `left` bytes are due, until none are and what
follows is `behind`. -/
def IsDue (kind : Nat → Framing) (behind : Framing) : Prop :=
  ∀ ⦃left size : Nat⦄ ⦃b : Body⦄, b.framing = kind left → 0 < size →
    read size b = readDue left size (fun left => if left = 0 then behind else kind left) b

/-- Reading where no line end, size or extension has to be passed. -/
theorem read_readData {size : Nat} {b : Body} (hsize : 0 < size)
    (hend : passEnd b = .ok () b) (hchunk : passSize b = .ok () b)
    (hextension : passExtension b = .ok () b) : read size b = readData size b := by
  unfold read
  rw [if_neg (Nat.ne_of_gt hsize), Act.bind_ok hend, Act.bind_ok hchunk, Act.bind_ok hextension]

theorem isDue_length : IsDue .length .finished := by
  intro left size b hframing hsize
  have hpass : passEnd b = .ok () b ∧ passSize b = .ok () b ∧ passExtension b = .ok () b := by
    unfold passEnd passSize passExtension
    rw [hframing]
    exact ⟨rfl, rfl, rfl⟩
  rw [read_readData hsize hpass.1 hpass.2.1 hpass.2.2]
  unfold readData
  rw [hframing]

theorem isDue_chunkData : IsDue .chunkData .chunkEnd := by
  intro left size b hframing hsize
  have hpass : passEnd b = .ok () b ∧ passSize b = .ok () b ∧ passExtension b = .ok () b := by
    unfold passEnd passSize passExtension
    rw [hframing]
    exact ⟨rfl, rfl, rfl⟩
  rw [read_readData hsize hpass.1 hpass.2.1 hpass.2.2]
  unfold readData
  rw [hframing]

theorem onReader_read {n : Nat} {b : Body} {got : Bytes} {r : Reader}
    (h : Reader.read n b.reader = .ok got r) :
    onReader (Act.mapError .io (Reader.read n)) b = .ok got { b with reader := r } :=
  Act.within_run (Act.mapError_ok h)

section

variable {kind : Nat → Framing} {behind : Framing} {left size : Nat} {b : Body}

/-- **A read brings some of the bytes that are due**, where there are any. -/
theorem IsDue.read_some (hdue : IsDue kind behind) (hframing : b.framing = kind left)
    (hleft : 0 < left) (hsize : 0 < size) (hahead : b.reader.ahead ≠ []) :
    ∃ got r, read size b =
        .ok got { b with
          reader := r
          framing := if left - got.length = 0 then behind else kind (left - got.length) } ∧
      got ≠ [] ∧ got.length ≤ min left size ∧ got ++ r.ahead = b.reader.ahead ∧
      Reader.Passed got.length b.reader r := by
  have hroom : 0 < min left size := by omega
  obtain ⟨got, r, hread, hgot, hlength, hpassed⟩ := Reader.read_some hroom hahead
  refine ⟨got, r, ?_, hgot, hlength, Reader.read_ahead hread, hpassed⟩
  rw [hdue hframing hsize]
  unfold readDue
  rw [Act.bind_ok (onReader_read hread), if_neg (by simpa using hgot)]
  rfl

/-- **The end of the stream is too early** where bytes are due. -/
theorem IsDue.read_eof (hdue : IsDue kind behind) (hframing : b.framing = kind left)
    (hsize : 0 < size) (hahead : b.reader.ahead = []) (hend : b.reader.inflow.ending = .eof) :
    ∃ r, read size b = .error (.failed .partialFile) { b with reader := r } ∧
      Reader.Passed 0 b.reader r := by
  obtain ⟨r, hread, hpassed⟩ := Reader.read_eof (n := min left size) hahead hend
  refine ⟨r, ?_, hpassed⟩
  rw [hdue hframing hsize]
  unfold readDue
  rw [Act.bind_ok (onReader_read hread)]
  rfl

/-- No bytes are due, and the error is the same. -/
theorem IsDue.read_zero (hdue : IsDue kind behind) (hframing : b.framing = kind 0)
    (hsize : 0 < size) : read size b = .error (.failed .partialFile) b := by
  have hread : Reader.read (min 0 size) b.reader = .ok [] b.reader := by
    unfold Reader.read
    rw [if_pos (Nat.zero_min size)]
  rw [hdue hframing hsize]
  unfold readDue
  rw [Act.bind_ok (onReader_read hread)]
  rfl

/-! ## 3. All data that are due -/

/-- The bytes that are due are those that were read and those that are due then. -/
theorem take_of_read {got ahead ahead' : Bytes} (happend : got ++ ahead' = ahead)
    (hlength : got.length ≤ left) :
    ahead.take left = got ++ ahead'.take (left - got.length) := by
  rw [← happend, List.take_append, List.take_of_length_le hlength]

/-- **Reading to the end brings all bytes that are due**, and goes on with what follows. -/
theorem brings_due (hdue : IsDue kind behind) (hframing : b.framing = kind left)
    (hleft : 0 < left) (hthere : left ≤ b.reader.ahead.length) :
    ∃ r, Reader.Passed left b.reader r ∧
      ∀ {data halt b'}, Brings { b with reader := r, framing := behind } data halt b' →
        Brings b (b.reader.ahead.take left ++ data) halt b' := by
  induction left using Nat.strongRecOn generalizing b with
  | ind left ih =>
    have hahead : b.reader.ahead ≠ [] := by
      intro hnil
      rw [hnil, List.length_nil] at hthere
      omega
    obtain ⟨got, r, hread, hgot, hlength, happend, hpassed⟩ :=
      hdue.read_some hframing hleft (by decide : 0 < portion) hahead
    have hpos : 0 < got.length := List.length_pos_iff.2 hgot
    have htake := take_of_read happend (Nat.le_trans hlength (Nat.min_le_left _ _))
    by_cases hlast : left - got.length = 0
    · have hall : got.length = left := by omega
      rw [if_pos hlast] at hread
      refine ⟨r, by rw [← hall]; exact hpassed, fun hrest => ?_⟩
      rw [htake, hlast, List.take_zero, List.append_nil]
      exact hrest.cons hread hgot
    · rw [if_neg hlast] at hread
      have hthere' : left - got.length ≤ r.ahead.length := by
        rw [hpassed.ahead, List.length_drop]
        omega
      obtain ⟨r', hpassed', hbrings⟩ := ih (left - got.length) (by omega)
        (b := { b with reader := r, framing := kind (left - got.length) }) rfl (by omega) hthere'
      refine ⟨r', ?_, fun hrest => ?_⟩
      · rw [show left = got.length + (left - got.length) by omega]
        exact hpassed.trans hpassed'
      · rw [htake, List.append_assoc]
        exact (hbrings hrest).cons hread hgot

/-- **Where the stream ends too early, reading brings what is there**, and fails. -/
theorem brings_short (hdue : IsDue kind behind) (hframing : b.framing = kind left)
    (hshort : b.reader.ahead.length < left) (hend : b.reader.inflow.ending = .eof) :
    ∃ b', Brings b b.reader.ahead (some (.failed .partialFile)) b' := by
  induction hn : b.reader.ahead.length using Nat.strongRecOn generalizing b left with
  | ind n ih =>
    by_cases hahead : b.reader.ahead = []
    · obtain ⟨r, hread, -⟩ :=
        hdue.read_eof hframing (by decide : 0 < portion) hahead hend
      rw [hahead]
      exact ⟨_, Brings.error hread⟩
    · obtain ⟨got, r, hread, hgot, hlength, happend, hpassed⟩ :=
        hdue.read_some hframing (by omega) (by decide : 0 < portion) hahead
      have hpos : 0 < got.length := List.length_pos_iff.2 hgot
      have hsplit : got.length + r.ahead.length = b.reader.ahead.length := by
        rw [← happend, List.length_append]
      rw [if_neg (by omega)] at hread
      obtain ⟨b', hbrings⟩ := ih r.ahead.length (by omega)
        (b := { b with reader := r, framing := kind (left - got.length) }) rfl
        (by show r.ahead.length < _; omega) (hpassed.ending.trans hend) rfl
      rw [← happend]
      exact ⟨b', hbrings.cons hread hgot⟩

end

end Body

end Http

end UrlTransfer
