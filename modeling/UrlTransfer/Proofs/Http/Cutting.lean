/-
# How the bytes of a response are cut does not show

The head of a response is read by three loops that fill the buffer and look into it again: for the
mark in front, for the end of a line, and for the size of a chunk.  Each takes a read of no bytes
for the end of the stream, although it is also what a full buffer answers.  That each of them
`Looks` says that this goes well, and everything else about a head is built from them.

Of a body, a single read does depend on how the bytes are cut, and reading to its end does not
(`brings_abreast`): two bodies abreast bring the same data, end or fail in the same way, and are
abreast again.  What stands in front of the data is passed alike (`alike_pass`), and the data come
in one of two forms: so many bytes are due (`brings_due`, `brings_early`), or all that there are
(`brings_untilEnd`).
-/
import UrlTransfer.Http.Response
import UrlTransfer.Proofs.Http.Chunked
import UrlTransfer.Proofs.Stream.Cutting

namespace UrlTransfer

namespace Http

open Reader (Abreast Ends Looks)

variable {capacity : Nat}

/-! ## 1. The mark -/

theorem mark_fits : mark.length ≤ Reader.defaultCapacity := by decide

theorem looks_awaitMark (hroom : mark.length ≤ capacity) :
    Looks capacity awaitMark
      (fun bytes => if mark.length ≤ bytes.length then some (.ok ()) else none) (.io .eof) where
  decided := by
    intro r d _ _ hlook
    split at hlook
    · next hlong =>
      cases hlook
      refine ⟨r, ?_, .refl r⟩
      rw [awaitMark, if_pos hlong]
    · cases hlook
  undecided := by
    intro r _ hlook
    split at hlook
    · cases hlook
    · next hshort =>
      rw [awaitMark, if_neg hshort]
      cases r.fill with
      | error halt r' => rfl
      | ok k r' => cases k <;> rfl
  append := by
    intro bytes d more hlook
    split at hlook
    · next hlong =>
      rw [if_pos (by rw [List.length_append]; omega)]
      exact hlook
    · cases hlook
  room := by
    intro bytes hlook
    split at hlook
    · cases hlook
    · omega

theorem awaitMark_view {r r' : Reader} (h : awaitMark r = .ok () r') :
    mark.length ≤ r'.unread.length := by
  fun_induction awaitMark r with
  | case1 r hlong => cases h; exact hlong
  | case2 => cases h
  | case3 => cases h
  | case4 r _ k r'' hfill ih => exact ih h

/-- Does the stream start with the mark? -/
def isMarked : Act Error Reader Bool := do
  awaitMark
  let r ← get
  return mark.isPrefixOf r.unread

theorem isPrefixOf_take (front bytes : Bytes) :
    front.isPrefixOf bytes = front.isPrefixOf (bytes.take front.length) := by
  rw [Bool.eq_iff_iff, List.isPrefixOf_iff_prefix, List.isPrefixOf_iff_prefix,
    List.prefix_take_iff]
  exact ⟨fun h => ⟨h, Nat.le_refl _⟩, And.left⟩

theorem alike_isMarked (hroom : mark.length ≤ capacity) :
    Act.Alike (Abreast capacity) Eq isMarked isMarked := by
  intro r r' h
  have hawait := (looks_awaitMark hroom).alike h
  unfold isMarked
  generalize hr : awaitMark r = q, hr' : awaitMark r' = q' at hawait
  cases hawait with
  | error hq => rw [Act.bind_error hr, Act.bind_error hr']; exact .error hq
  | @ok _ _ q q' _ hq =>
    rw [Act.bind_ok hr, Act.bind_ok hr']
    refine .ok ?_ hq
    rw [isPrefixOf_take mark q.unread, isPrefixOf_take mark q'.unread,
      hq.take_unread (awaitMark_view hr) (awaitMark_view hr')]

/-! ## 2. Lines -/

/-- What a buffer of this capacity shows of the first line. -/
def lookLine (capacity : Nat) (bytes : Bytes) : Option (Except Error Nat) :=
  match lineLength? (bytes.take capacity) with
  | some n => some (.ok n)
  | none => if capacity ≤ bytes.length then some (.error (.http .headersTooLong)) else none

theorem lookLine_none {bytes : Bytes} (h : lookLine capacity bytes = none) :
    lineLength? bytes = none ∧ bytes.length < capacity := by
  unfold lookLine at h
  split at h
  · cases h
  · next hline =>
    split at h
    · cases h
    · next hshort =>
      rw [List.take_of_length_le (by omega)] at hline
      exact ⟨hline, by omega⟩

theorem looks_awaitLine : Looks capacity awaitLine (lookLine capacity) (.io .eof) where
  decided := by
    intro r d hcap hfits hlook
    have hall : r.unread.take capacity = r.unread :=
      List.take_of_length_le (by rw [← hcap]; exact hfits)
    unfold lookLine at hlook
    rw [hall] at hlook
    split at hlook
    · next n hline =>
      cases hlook
      refine ⟨r, ?_, .refl r⟩
      rw [awaitLine, hline]
    · next hline =>
      split at hlook
      · next hfull =>
        cases hlook
        have hlength : r.unread.length = r.capacity :=
          Nat.le_antisymm hfits (by rw [hcap]; exact hfull)
        have hfill : r.fill = .ok 0 r.compact := if_pos hlength
        refine ⟨r.compact, ?_, rfl, rfl, rfl, id⟩
        rw [awaitLine_end hline hfill]
        exact if_pos hlength
      · cases hlook
  undecided := by
    intro r hcap hlook
    obtain ⟨hline, hspace⟩ := lookLine_none hlook
    cases hfill : r.fill with
    | error halt r' =>
      rw [awaitLine, hline]
      dsimp only
      split <;> rename_i h <;> rw [hfill] at h <;> cases h
      rfl
    | ok k r' =>
      cases k with
      | zero =>
        obtain ⟨-, hlength, hcap'⟩ := Reader.fill_ahead hfill
        rw [awaitLine_end hline hfill, if_neg (by omega)]
      | succ k => rw [awaitLine_more hline hfill]
  append := by
    intro bytes d more hlook
    unfold lookLine at hlook ⊢
    rw [List.take_append]
    split at hlook
    · next hline => rw [lineLength?_append hline]; exact hlook
    · next hline =>
      split at hlook
      · next hfull =>
        rw [Nat.sub_eq_zero_of_le hfull, List.take_zero, List.append_nil, hline]
        dsimp only
        rw [if_pos (by rw [List.length_append]; omega)]
        exact hlook
      · cases hlook
  room := fun hlook => (lookLine_none hlook).2

/-- **A line is seen alike**, and it is in the buffer. -/
theorem alike_peekLine : Act.Alike (Abreast capacity) Eq peekLine peekLine := by
  intro r r' h
  have hawait := looks_awaitLine.alike h
  unfold peekLine
  generalize hr : awaitLine r = q, hr' : awaitLine r' = q' at hawait ⊢
  cases hawait with
  | error hq => exact .error hq
  | @ok n n' q q' hn hq =>
    subst hn
    dsimp only
    rw [hq.take_unread (awaitLine_view hr).2.2 (awaitLine_view hr').2.2]
    cases lineText? (q'.unread.take n) with
    | none => exact .error hq
    | some text => exact .ok rfl hq

theorem alike_takeLine : Act.Alike (Abreast capacity) Eq takeLine takeLine := by
  intro r r' h
  have hpeek := alike_peekLine h
  unfold takeLine
  generalize hr : peekLine r = q, hr' : peekLine r' = q' at hpeek ⊢
  cases hpeek with
  | error hq => exact .error hq
  | @ok p p' q q' hp hq =>
    subst hp
    exact .ok rfl (hq.consume (peekLine_view hr).2.2 (peekLine_view hr').2.2)

theorem alike_takeField : Act.Alike (Abreast capacity) Eq takeField takeField := by
  intro r r' h
  have hpeek := alike_peekLine h
  unfold takeField
  generalize hr : peekLine r = q, hr' : peekLine r' = q' at hpeek ⊢
  cases hpeek with
  | error hq => exact .error hq
  | @ok p p' q q' hp hq =>
    subst hp
    have hconsume := hq.consume (peekLine_view hr).2.2 (peekLine_view hr').2.2
    dsimp only
    split
    · exact .ok rfl hconsume
    · cases parseLine p.1 with
      | ok header => exact .ok rfl hconsume
      | error fault => exact .error hq

/-! ## 3. Heads -/

/-- Readers abreast, with the same table. -/
def WithTable (capacity : Nat) (p p' : Reader × Headers) : Prop :=
  Abreast capacity p.1 p'.1 ∧ p.2 = p'.2

theorem takeFields_step (limit : Option Nat) (r : Reader) (headers : Headers) :
    takeFields limit (r, headers) =
      match takeField r with
      | .error halt r' => .error halt (r', headers)
      | .ok none r' => .ok () (r', headers)
      | .ok (some field) r' =>
        match limit with
        | none => takeFields none (r', headers.append field.name field.value)
        | some left =>
          if left < field.size then .error (.failed (.http .headersTooLong)) (r', headers)
          else takeFields (some (left - field.size))
            (r', headers.append field.name field.value) := by
  rw [takeFields]
  cases takeField r with
  | error halt r' => rfl
  | ok field r' => cases field <;> rfl

theorem alike_takeFields (limit : Option Nat) :
    Act.Alike (WithTable capacity) Eq (takeFields limit) (takeFields limit) := by
  rintro ⟨r, headers⟩ ⟨r', headers'⟩ ⟨h, hheaders⟩
  obtain rfl : headers = headers' := hheaders
  -- On what is ahead: every field takes its line off.
  induction hsize : r.size using Nat.strongRecOn generalizing r r' headers limit with
  | ind size ih =>
    have hfield := alike_takeField h
    rw [takeFields_step, takeFields_step limit r']
    generalize hr : takeField r = q, takeField r' = q' at hfield ⊢
    cases hfield with
    | error hq => exact .error ⟨hq, rfl⟩
    | @ok field field' q q' heq hq =>
      subst heq
      cases field with
      | none => exact .ok rfl ⟨hq, rfl⟩
      | some field =>
        have hless := size_takeField hr
        cases limit with
        | none => exact ih _ (by omega) none _ _ _ hq rfl
        | some left =>
          dsimp only
          split
          · exact .error ⟨hq, rfl⟩
          · exact ih _ (by omega) _ _ _ _ hq rfl

theorem alike_takeHeaders (limit : Nat) :
    Act.Alike (Abreast capacity) Eq (takeHeaders limit) (takeHeaders limit) := by
  intro r r' h
  have hstart : WithTable capacity (r, .empty) (r', .empty) := ⟨h, rfl⟩
  have htake := alike_takeFields (some limit) hstart
  unfold takeHeaders
  generalize takeFields (some limit) (r, .empty) = q, takeFields (some limit) (r', .empty) = q'
    at htake ⊢
  cases htake with
  | ok _ hq => exact .ok hq.2 hq.1
  | error hq => exact .error hq.1

/-- What is taken behind the mark: a status line, if the stream is marked. -/
def takeMarked (marked : Bool) : Act Error Reader (Version × Status × Nat) := do
  if marked then
    let (line, size) ← takeLine
    match parseStatusLine? line with
    | some (version, status) => return (version, status, size)
    | none => Act.fail (.http (.invalidStatusLine line))
  else return (.http09, .okay, 0)

theorem takeStatus_eq : takeStatus = isMarked >>= takeMarked := by
  unfold takeStatus isMarked
  rw [bind_assoc]
  rfl

theorem alike_takeStatus (hroom : mark.length ≤ capacity) :
    Act.Alike (Abreast capacity) Eq takeStatus takeStatus := by
  rw [takeStatus_eq]
  refine (alike_isMarked hroom).bind_eq fun marked => ?_
  cases marked with
  | false => exact .pure rfl
  | true =>
    refine alike_takeLine.bind_eq fun ⟨line, size⟩ => ?_
    dsimp only
    cases parseStatusLine? line with
    | none => exact .fail _
    | some status => exact .pure rfl

/-- **The head of a response is read alike.** -/
theorem alike_takeHead (hroom : mark.length ≤ capacity) (request : Request) :
    Act.Alike (Abreast capacity) Eq (takeHead request) (takeHead request) := by
  unfold takeHead
  refine (alike_takeStatus hroom).bind_eq fun ⟨version, status, size⟩ => ?_
  dsimp only
  split
  · exact .fail _
  · split
    · exact .pure rfl
    · split
      · exact .fail _
      · exact (alike_takeHeaders _).bind_eq fun headers => .pure rfl

/-! ## 4. Sizes and line ends -/

/-- What a buffer of this capacity shows of the size of a chunk. -/
def lookSize (capacity : Nat) (bytes : Bytes) : Option (Except Error Nat) :=
  match sizeLength (bytes.take capacity) with
  | .ok n => some (.ok n)
  | .error .partialFile => if capacity ≤ bytes.length then some (.error .partialFile) else none
  | .error e => some (.error e)

theorem lookSize_none {bytes : Bytes} (h : lookSize capacity bytes = none) :
    sizeLength bytes = .error .partialFile ∧ bytes.length < capacity := by
  unfold lookSize at h
  split at h
  · cases h
  · next hopen =>
    split at h
    · cases h
    · next hshort =>
      rw [List.take_of_length_le (by omega)] at hopen
      exact ⟨hopen, by omega⟩
  · cases h

theorem looks_awaitChunkSize : Looks capacity awaitChunkSize (lookSize capacity) .partialFile where
  decided := by
    intro r d hcap hfits hlook
    have hall : r.unread.take capacity = r.unread :=
      List.take_of_length_le (by rw [← hcap]; exact hfits)
    unfold lookSize at hlook
    rw [hall] at hlook
    split at hlook
    · next n hsize =>
      cases hlook
      refine ⟨r, ?_, .refl r⟩
      rw [awaitChunkSize_eq, hsize]
    · next hopen =>
      split at hlook
      · next hfull =>
        cases hlook
        have hlength : r.unread.length = r.capacity :=
          Nat.le_antisymm hfits (by rw [hcap]; exact hfull)
        have hfill : r.fill = .ok 0 r.compact := if_pos hlength
        refine ⟨r.compact, ?_, rfl, rfl, rfl, id⟩
        rw [awaitChunkSize_eq, hopen]
        dsimp only
        rw [hfill]
      · cases hlook
    · next e hne hsize =>
      cases hlook
      refine ⟨r, ?_, .refl r⟩
      rw [awaitChunkSize_eq, hsize]
      split
      · next h => cases h
      · next h => exact absurd (Except.error.inj h) hne
      · next h => cases h; rfl
  undecided := by
    intro r _ hlook
    have hopen := (lookSize_none hlook).1
    rw [awaitChunkSize_eq]
    split
    · next h => rw [hopen] at h; cases h
    · rfl
    · next hne h => exact absurd (Except.error.inj (h.symm.trans hopen)) hne
  append := by
    intro bytes d more hlook
    unfold lookSize at hlook ⊢
    rw [List.take_append]
    by_cases hopen : sizeLength (bytes.take capacity) = .error .partialFile
    · rw [hopen] at hlook
      dsimp only at hlook
      split at hlook
      · next hfull =>
        rw [Nat.sub_eq_zero_of_le hfull, List.take_zero, List.append_nil, hopen]
        dsimp only
        rw [if_pos (by rw [List.length_append]; omega)]
        exact hlook
      · cases hlook
    · rw [sizeLength_append hopen]
      split at hlook
      · exact hlook
      · next h => exact absurd h hopen
      · exact hlook
  room := fun hlook => (lookSize_none hlook).2

theorem awaitChunkSize_le {r r' : Reader} {n : Nat} (h : awaitChunkSize r = .ok n r') :
    n ≤ r'.unread.length := by
  induction hlength : r.inflow.size using Nat.strongRecOn generalizing r with
  | ind size ih =>
    rw [awaitChunkSize_eq] at h
    split at h
    · next hsize => cases h; exact sizeLength_le hsize
    · split at h
      · cases h
      · cases h
      · next hfill =>
        have := Reader.inflow_size_fill hfill
        exact ih _ (by omega) h rfl
    · cases h

theorem alike_takeChunkSize :
    Act.Alike (Abreast capacity) Eq takeChunkSize takeChunkSize := by
  intro r r' h
  have hawait := looks_awaitChunkSize.alike h
  unfold takeChunkSize
  generalize hr : awaitChunkSize r = q, hr' : awaitChunkSize r' = q' at hawait ⊢
  cases hawait with
  | error hq => exact .error hq
  | @ok n n' q q' hn hq =>
    subst hn
    have hle := awaitChunkSize_le hr
    have hle' := awaitChunkSize_le hr'
    exact .ok (congrArg hexValue (hq.take_unread hle hle')) (hq.consume hle hle')

theorem skipLine_eq (r : Reader) :
    skipLine r =
      match lineLength? r.unread with
      | some n => .ok () (r.consume n)
      | none =>
        match r.discard.fill with
        | .error halt r' => .error (halt.map .io) r'
        | .ok 0 r' => .error (.failed .partialFile) r'
        | .ok (_ + 1) r' => skipLine r' := by
  rw [skipLine]
  cases lineLength? r.unread with
  | some n => rfl
  | none =>
    cases r.discard.fill with
    | error halt r' => rfl
    | ok k r' => cases k <;> rfl

/-- How many bytes dropping a line passes: the line, or all bytes. -/
def skipped (bytes : Bytes) : Nat := (lineLength? bytes).getD bytes.length

/-- How dropping a line ends. -/
def skipOutcome (bytes : Bytes) (ending : Ending) : Except (Halt Error) Unit :=
  if (lineLength? bytes).isSome then .ok () else .error (ending.halt .partialFile)

theorem ends_skipLine (hroom : 0 < capacity) {r : Reader} (hcap : r.capacity = capacity) :
    Ends skipLine r (skipped r.ahead) (skipOutcome r.ahead r.inflow.ending) := by
  -- On what has not arrived yet, as for `Looks.ends`; the buffer is emptied before it is filled.
  induction hsize : r.inflow.size using Nat.strongRecOn generalizing r with
  | ind size ih =>
    cases hline : lineLength? r.unread with
    | some n =>
      unfold skipped skipOutcome
      rw [Reader.ahead, lineLength?_append hline]
      refine ⟨r.consume n, ?_, Reader.consume_passed (lineLength?_le hline).2⟩
      rw [skipLine_eq, hline]
    | none =>
      have hdiscard := Reader.discard_passed r
      have hspace : r.discard.unread.length < r.discard.capacity := by
        rw [hdiscard.capacity, hcap]
        exact hroom
      by_cases hrest : r.inflow.rest = []
      · obtain ⟨r', hfill, hpassed⟩ := Reader.fill_end hspace hrest
        unfold skipped skipOutcome
        rw [Reader.ahead, hrest, List.append_nil, hline]
        refine ⟨r', ?_, hdiscard.trans hpassed⟩
        rw [skipLine_eq, hline]
        dsimp only
        rw [hfill, show r.discard.inflow = r.inflow from rfl]
        cases r.inflow.ending <;> rfl
      · obtain ⟨k, q, hfill⟩ := Reader.fill_some hspace hrest
        have hpassed := hdiscard.trans (Reader.fill_passed hfill)
        have hless : k + 1 + q.inflow.size = r.discard.inflow.size := Reader.inflow_size_fill hfill
        have hsame : r.discard.inflow.size = r.inflow.size := rfl
        have hgoesOn : skipLine r = skipLine q := by
          rw [skipLine_eq, hline]
          dsimp only
          rw [hfill]
        have hends := ih q.inflow.size (by omega) (hpassed.capacity.trans hcap) rfl
        have hahead : q.ahead = r.inflow.rest := by
          rw [hpassed.ahead, Reader.ahead, Nat.add_zero, List.drop_left]
        rw [hahead, hpassed.ending] at hends
        have hskipped : skipped r.ahead = r.unread.length + 0 + skipped r.inflow.rest := by
          unfold skipped
          rw [Reader.ahead, lineLength?_append_none hline]
          cases lineLength? r.inflow.rest with
          | none => simp
          | some n => simp; omega
        have houtcome : skipOutcome r.ahead r.inflow.ending =
            skipOutcome r.inflow.rest r.inflow.ending := by
          unfold skipOutcome
          rw [Reader.ahead, lineLength?_append_none hline, Option.isSome_map]
        rw [hskipped, houtcome]
        exact hends.of_passed hpassed hgoesOn

/-- A buffer without any room shows no line end. -/
theorem ends_skipLine_zero {r : Reader} (hcap : r.capacity = 0) (hfits : r.Fits) :
    Ends skipLine r 0 (.error (.failed .partialFile)) := by
  have hunread : r.unread = [] :=
    List.length_eq_zero_iff.1 (Nat.le_zero.1 (hcap ▸ hfits))
  have hdiscard := Reader.discard_passed r
  rw [hunread, List.length_nil] at hdiscard
  have hfill : r.discard.fill = .ok 0 r.discard.compact := if_pos hcap.symm
  have hcompact : Reader.Passed 0 r.discard r.discard.compact := ⟨rfl, rfl, rfl, id⟩
  refine ⟨r.discard.compact, ?_, hdiscard.trans hcompact⟩
  rw [skipLine_eq, hunread]
  show (match r.discard.fill with
    | .error halt r' => .error (halt.map .io) r'
    | .ok 0 r' => .error (.failed .partialFile) r'
    | .ok (_ + 1) r' => skipLine r' : EStateM.Result (Halt Error) Reader Unit) = _
  rw [hfill]

theorem alike_skipLine : Act.Alike (Abreast capacity) Eq skipLine skipLine := by
  intro r r' h
  rcases Nat.eq_zero_or_pos capacity with rfl | hroom
  · exact h.agree (ends_skipLine_zero h.left.1 h.left.2) (ends_skipLine_zero h.right.1 h.right.2)
  · have hends := ends_skipLine hroom h.left.1
    have hends' := ends_skipLine hroom h.right.1
    rw [← h.ahead, ← h.ending] at hends'
    exact h.agree hends hends'

theorem alike_takeChunkEnd :
    Act.Alike (Abreast capacity) Eq takeChunkEnd takeChunkEnd := by
  intro r r' h
  have hread := Reader.alike_readExactly? 2 h
  unfold takeChunkEnd
  generalize Reader.readExactly? 2 r = q, Reader.readExactly? 2 r' = q' at hread ⊢
  cases hread with
  | @error halt _ _ hq => cases halt <;> exact .error hq
  | @ok got got' _ _ hgot hq =>
    subst hgot
    cases got with
    | none => exact .error hq
    | some bytes =>
      dsimp only
      split
      · exact .ok rfl hq
      · exact .error hq

/-! ## 5. What stands in front of the data -/

namespace Body

/-- Two bodies have come equally far, in streams that differ only in how they are cut. -/
structure Abreast (capacity : Nat) (b b' : Body) : Prop where
  reader : Reader.Abreast capacity b.reader b'.reader
  framing : b.framing = b'.framing
  reusable : b.reusable = b'.reusable

/-- Passes everything up to the next data, or to the end of the body. -/
def pass : Act Error Body Unit := passEnd >>= fun _ => passSize >>= fun _ => passExtension

theorem alike_onReader {α : Type} {x : Act Error Reader α}
    (hx : Act.Alike (Reader.Abreast capacity) Eq x x) :
    Act.Alike (Abreast capacity) Eq (onReader x) (onReader x) :=
  hx.within (fun _ _ h => h.reader) fun _ _ _ _ hr h => ⟨hr, h.framing, h.reusable⟩

theorem alike_setFraming (framing : Framing) :
    Act.Alike (Abreast capacity) Eq (setFraming framing) (setFraming framing) :=
  fun _ _ h => .ok rfl ⟨h.reader, rfl, h.reusable⟩

theorem alike_passEnd :
    Act.Alike (Abreast capacity) Eq passEnd passEnd := by
  intro b b' h
  unfold passEnd
  rw [← h.framing]
  split
  · exact (alike_onReader alike_takeChunkEnd).bind_eq (fun _ => alike_setFraming _) h
  · exact .ok rfl h

theorem alike_passSize : Act.Alike (Abreast capacity) Eq passSize passSize := by
  intro b b' h
  unfold passSize
  rw [← h.framing]
  split
  · exact (alike_onReader alike_takeChunkSize).bind_eq (fun _ => alike_setFraming _) h
  · exact .ok rfl h

theorem alike_passExtension :
    Act.Alike (Abreast capacity) Eq passExtension passExtension := by
  intro b b' h
  unfold passExtension
  rw [← h.framing]
  split
  · exact (alike_onReader alike_skipLine).bind_eq (fun _ => alike_setFraming _) h
  · exact .ok rfl h

/-- **What stands in front of the data is passed alike.** -/
theorem alike_pass : Act.Alike (Abreast capacity) Eq pass pass :=
  alike_passEnd.bind_eq fun _ => alike_passSize.bind_eq fun _ => alike_passExtension

theorem onReader_read_error {n : Nat} {b : Body} {halt : Halt IoError} {r : Reader}
    (h : Reader.read n b.reader = .error halt r) :
    onReader (Act.mapError .io (Reader.read n)) b =
      .error (halt.map .io) { b with reader := r } :=
  Act.within_error (Act.mapError_error h)

theorem size_pass {b q : Body} (h : pass b = .ok () q) : q.reader.size ≤ b.reader.size :=
  (shrinks_passEnd.bind fun _ => shrinks_passSize.bind fun _ => shrinks_passExtension) h

/-- Data are next, or the end of the body. -/
def AtData (b : Body) : Prop :=
  b.framing ≠ .chunkEnd ∧ b.framing ≠ .chunkSize ∧ ∀ size, b.framing ≠ .chunkExtension size

theorem passEnd_framing {b q : Body} (h : passEnd b = .ok () q) : q.framing ≠ .chunkEnd := by
  unfold passEnd at h
  split at h
  · obtain ⟨_, b1, -, hset⟩ := Act.bind_eq_ok.1 h
    cases hset
    nofun
  · next hne => cases h; exact hne

theorem passSize_framing {b q : Body} (hend : b.framing ≠ .chunkEnd) (h : passSize b = .ok () q) :
    q.framing ≠ .chunkEnd ∧ q.framing ≠ .chunkSize := by
  unfold passSize at h
  split at h
  · obtain ⟨n, b1, -, hset⟩ := Act.bind_eq_ok.1 h
    cases hset
    exact ⟨nofun, nofun⟩
  · next hne => cases h; exact ⟨hend, hne⟩

theorem passExtension_framing {b q : Body} (hend : b.framing ≠ .chunkEnd)
    (hsize : b.framing ≠ .chunkSize) (h : passExtension b = .ok () q) : AtData q := by
  unfold passExtension at h
  split at h
  · next n _ =>
    obtain ⟨_, b1, -, hset⟩ := Act.bind_eq_ok.1 h
    cases hset
    show (if n = 0 then Framing.trailers else .chunkData n) ≠ _ ∧ _
    split <;> exact ⟨nofun, nofun, nofun⟩
  · next hne => cases h; exact ⟨hend, hsize, hne⟩

/-- **Behind everything that is passed there are data**, or the end. -/
theorem atData_of_pass {b q : Body} (h : pass b = .ok () q) : AtData q := by
  obtain ⟨_, b1, h1, h⟩ := Act.bind_eq_ok.1 h
  obtain ⟨_, b2, h2, h3⟩ := Act.bind_eq_ok.1 h
  obtain ⟨hend, hsize⟩ := passSize_framing (passEnd_framing h1) h2
  exact passExtension_framing hend hsize h3

theorem AtData.pass {b : Body} (h : AtData b) : pass b = .ok () b := by
  obtain ⟨hend, hsize, hextension⟩ := h
  have hpassEnd : passEnd b = .ok () b := passEnd_ne hend
  have hpassSize : passSize b = .ok () b := by
    unfold passSize
    split
    · next h => exact absurd h hsize
    · rfl
  have hpassExtension : passExtension b = .ok () b := by
    unfold passExtension
    split
    · next h => exact absurd h (hextension _)
    · rfl
  unfold Body.pass
  rw [Act.bind_ok hpassEnd, Act.bind_ok hpassSize, hpassExtension]

theorem read_eq_pass {size : Nat} (hsize : 0 < size) (b : Body) :
    read size b = (pass >>= fun _ => readData size) b := by
  unfold read pass
  rw [if_neg (Nat.ne_of_gt hsize)]
  simp only [bind_assoc]

/-- Reading starts behind what is passed. -/
theorem Brings.of_pass {b q b' : Body} {data : Bytes} {halt : Option (Halt Error)}
    (h : pass b = .ok () q) (hbrings : Brings q data halt b') : Brings b data halt b' := by
  have hroom : 0 < portion := by decide
  refine Brings.congr ?_ hbrings
  rw [read_eq_pass hroom, read_eq_pass hroom, Act.bind_ok h, Act.bind_ok (atData_of_pass h).pass]

/-- What cannot be passed ends the reading. -/
theorem Brings.of_pass_error {b q : Body} {halt : Halt Error} (h : pass b = .error halt q) :
    Brings b [] (some halt) q := by
  refine Brings.error ?_
  rw [read_eq_pass (by decide : 0 < portion), Act.bind_error h]

/-! ## 6. Data -/

/-- How the data of a body that lasts to the end of the stream end. -/
def endOutcome : Ending → Option (Halt Error)
  | .eof => none
  | .hang => some .stalled
  | .fault error => some (.failed (.io error))

/-- And the framing that is left. -/
def endFraming : Ending → Framing
  | .eof => .finished
  | .hang | .fault _ => .untilEnd

theorem read_untilEnd {size : Nat} {b : Body} (hsize : 0 < size) (h : b.framing = .untilEnd) :
    read size b = (onReader (Act.mapError .io (Reader.read size)) >>= fun got =>
      (if got.isEmpty then setFraming .finished else pure ()) >>= fun _ => pure got) b := by
  have hat : AtData b := by
    unfold AtData
    rw [h]
    exact ⟨nofun, nofun, nofun⟩
  rw [read_eq_pass hsize, Act.bind_ok hat.pass]
  unfold readData
  rw [h]

/-- A read at the end of the stream, which is the end of the body. -/
theorem read_untilEnd_end {size : Nat} {b : Body} (hsize : 0 < size) (h : b.framing = .untilEnd)
    (hahead : b.reader.ahead = []) :
    ∃ r, Reader.Passed 0 b.reader r ∧
      read size b = match endOutcome b.reader.inflow.ending with
        | none => .ok [] { b with reader := r, framing := endFraming b.reader.inflow.ending }
        | some halt =>
          .error halt { b with reader := r, framing := endFraming b.reader.inflow.ending } := by
  obtain ⟨r, hread, hpassed⟩ := Reader.read_end hsize hahead
  refine ⟨r, hpassed, ?_⟩
  rw [read_untilEnd hsize h]
  revert hread
  cases b.reader.inflow.ending with
  | eof =>
    intro hread
    rw [Act.bind_ok (onReader_read hread)]
    rfl
  | hang =>
    intro hread
    rw [Act.bind_error (onReader_read_error hread), h]
    rfl
  | fault error =>
    intro hread
    rw [Act.bind_error (onReader_read_error hread), h]
    rfl

/-- A read where there are data left. -/
theorem read_untilEnd_some {size : Nat} {b : Body} (hsize : 0 < size) (h : b.framing = .untilEnd)
    (hahead : b.reader.ahead ≠ []) :
    ∃ got r, read size b = .ok got { b with reader := r } ∧ got ≠ [] ∧
      got ++ r.ahead = b.reader.ahead ∧ Reader.Passed got.length b.reader r := by
  obtain ⟨got, r, hread, hgot, -, hpassed⟩ := Reader.read_some hsize hahead
  refine ⟨got, r, ?_, hgot, Reader.read_ahead hread, hpassed⟩
  rw [read_untilEnd hsize h, Act.bind_ok (onReader_read hread), if_neg (by simpa using hgot)]
  rfl

/-- **A body that lasts to the end of the stream brings all of it.** -/
theorem brings_untilEnd {b : Body} (h : b.framing = .untilEnd) :
    ∃ r, Reader.Passed b.reader.ahead.length b.reader r ∧
      Brings b b.reader.ahead (endOutcome b.reader.inflow.ending)
        { b with reader := r, framing := endFraming b.reader.inflow.ending } := by
  have hsize : 0 < portion := by decide
  induction hn : b.reader.ahead.length using Nat.strongRecOn generalizing b with
  | ind n ih =>
    by_cases hahead : b.reader.ahead = []
    · obtain ⟨r, hpassed, hread⟩ := read_untilEnd_end hsize h hahead
      rw [← hn, hahead]
      refine ⟨r, hpassed, ?_⟩
      cases houtcome : endOutcome b.reader.inflow.ending with
      | none => exact Brings.nil (by rw [hread, houtcome])
      | some halt => exact Brings.error (by rw [hread, houtcome])
    · obtain ⟨got, r, hread, hgot, happend, hpassed⟩ := read_untilEnd_some hsize h hahead
      have hlength : got.length + r.ahead.length = n := by
        rw [← hn, ← happend, List.length_append]
      have hpos : 0 < got.length := List.length_pos_iff.2 hgot
      obtain ⟨r', hpassed', hbrings⟩ := ih r.ahead.length (by omega) (b := { b with reader := r })
        h rfl
      refine ⟨r', ?_, ?_⟩
      · rw [← hlength]
        exact hpassed.trans hpassed'
      · rw [← happend, ← hpassed.ending]
        exact Brings.cons hread hgot hbrings

section

variable {kind : Nat → Framing} {behind : Framing} {left : Nat} {b b' : Body}

/-- A read at the end of the stream, where bytes are due. -/
theorem IsDue.read_end {size : Nat} (hdue : IsDue kind behind) (hframing : b.framing = kind left)
    (hleft : 0 < left) (hsize : 0 < size) (hahead : b.reader.ahead = []) :
    ∃ r, Reader.Passed 0 b.reader r ∧
      read size b =
        .error (b.reader.inflow.ending.halt .partialFile) { b with reader := r } := by
  have hroom : 0 < min left size := by omega
  obtain ⟨r, hread, hpassed⟩ := Reader.read_end hroom hahead
  refine ⟨r, hpassed, ?_⟩
  rw [hdue hframing hsize]
  unfold readDue
  revert hread
  cases b.reader.inflow.ending with
  | eof => intro hread; rw [Act.bind_ok (onReader_read hread)]; rfl
  | hang => intro hread; rw [Act.bind_error (onReader_read_error hread)]; rfl
  | fault error => intro hread; rw [Act.bind_error (onReader_read_error hread)]; rfl

/-- **Where the stream ends too early, in whichever way, reading brings what is there.** -/
theorem brings_early (hdue : IsDue kind behind) (hframing : b.framing = kind left)
    (hshort : b.reader.ahead.length < left) :
    ∃ r, Reader.Passed b.reader.ahead.length b.reader r ∧
      Brings b b.reader.ahead (some (b.reader.inflow.ending.halt .partialFile))
        { b with reader := r, framing := kind (left - b.reader.ahead.length) } := by
  have hsize : 0 < portion := by decide
  induction hn : b.reader.ahead.length using Nat.strongRecOn generalizing b left with
  | ind n ih =>
    by_cases hahead : b.reader.ahead = []
    · obtain ⟨r, hpassed, hread⟩ := hdue.read_end hframing (by omega) hsize hahead
      rw [← hn, hahead, List.length_nil, Nat.sub_zero, ← hframing]
      exact ⟨r, hpassed, Brings.error hread⟩
    · obtain ⟨got, r, hread, hgot, hle, happend, hpassed⟩ :=
        hdue.read_some hframing (by omega) hsize hahead
      have hpos : 0 < got.length := List.length_pos_iff.2 hgot
      have hlength : got.length + r.ahead.length = n := by
        rw [← hn, ← happend, List.length_append]
      rw [if_neg (by omega)] at hread
      obtain ⟨r', hpassed', hbrings⟩ := ih r.ahead.length (by omega)
        (b := { b with reader := r, framing := kind (left - got.length) }) rfl
        (by show r.ahead.length < _; omega) rfl
      refine ⟨r', ?_, ?_⟩
      · rw [← hlength]
        exact hpassed.trans hpassed'
      · rw [← happend, ← hpassed.ending, ← hlength, Nat.sub_add_eq]
        exact Brings.cons hread hgot hbrings

/-! ## 7. Reading to the end -/

/-- Reading to the end brings the same, and comes equally far. -/
def BringAlike (capacity : Nat) (b b' : Body) : Prop :=
  ∃ data halt q q', Brings b data halt q ∧ Brings b' data halt q' ∧ Abreast capacity q q'

/-- Data of which so many bytes are due. -/
theorem bringAlike_due (hdue : IsDue kind behind) (hframing : b.framing = kind left)
    (h : Abreast capacity b b')
    (hbehind : ∀ {q q'}, Abreast capacity q q' → q.reader.size < b.reader.size →
      BringAlike capacity q q') : BringAlike capacity b b' := by
  have hframing' : b'.framing = kind left := by rw [← h.framing, hframing]
  by_cases hleft : left = 0
  · subst hleft
    exact ⟨[], _, b, b', Brings.error (hdue.read_zero hframing (by decide)),
      Brings.error (hdue.read_zero hframing' (by decide)), h⟩
  by_cases hthere : left ≤ b.reader.ahead.length
  · obtain ⟨r, hpassed, hbrings⟩ := brings_due hdue hframing (Nat.pos_of_ne_zero hleft) hthere
    rw [h.reader.ahead] at hthere hbrings
    obtain ⟨r', hpassed', hbrings'⟩ :=
      brings_due hdue hframing' (Nat.pos_of_ne_zero hleft) hthere
    have hnext : Abreast capacity { b with reader := r, framing := behind }
        { b' with reader := r', framing := behind } :=
      ⟨h.reader.passed hpassed hpassed', rfl, h.reusable⟩
    have hless : r.size < b.reader.size := by
      have hlength := congrArg List.length hpassed.ahead
      rw [List.length_drop, h.reader.ahead] at hlength
      unfold Reader.size
      rw [h.reader.ahead]
      omega
    obtain ⟨data, halt, q, q', hrest, hrest', hq⟩ := hbehind hnext hless
    exact ⟨_, halt, q, q', hbrings hrest, hbrings' hrest', hq⟩
  · have hshort' : b'.reader.ahead.length < left := by
      rw [← h.reader.ahead]
      exact Nat.lt_of_not_le hthere
    obtain ⟨r, hpassed, hbrings⟩ := brings_early hdue hframing (Nat.lt_of_not_le hthere)
    obtain ⟨r', hpassed', hbrings'⟩ := brings_early hdue hframing' hshort'
    rw [← h.reader.ahead, ← h.reader.ending] at hbrings'
    rw [← h.reader.ahead] at hpassed'
    exact ⟨_, _, _, _, hbrings, hbrings', h.reader.passed hpassed hpassed', rfl, h.reusable⟩

end

/-- A body without more data. -/
theorem brings_nothing {b : Body} (h : b.framing = .finished ∨ b.framing = .trailers) :
    Brings b [] none b := by
  refine Brings.nil ?_
  have hat : AtData b := by
    unfold AtData
    rcases h with h | h <;> rw [h] <;> exact ⟨nofun, nofun, nofun⟩
  rw [read_eq_pass (by decide : 0 < portion), Act.bind_ok hat.pass]
  unfold readData
  rcases h with h | h <;> rw [h]

theorem bringAlike_untilEnd {b b' : Body} (h : Abreast capacity b b')
    (hframing : b.framing = .untilEnd) : BringAlike capacity b b' := by
  obtain ⟨r, hpassed, hbrings⟩ := brings_untilEnd hframing
  obtain ⟨r', hpassed', hbrings'⟩ :=
    brings_untilEnd (b := b') (by rw [← h.framing, hframing])
  rw [← h.reader.ahead, ← h.reader.ending] at hbrings'
  rw [← h.reader.ahead] at hpassed'
  exact ⟨_, _, _, _, hbrings, hbrings', h.reader.passed hpassed hpassed', rfl, h.reusable⟩

/-- Bodies abreast in front of data bring the same, if those behind the data do. -/
theorem bringAlike_atData {b b' : Body} (h : Abreast capacity b b') (hat : AtData b)
    (hbehind : ∀ {q q'}, Abreast capacity q q' → q.reader.size < b.reader.size →
      BringAlike capacity q q') : BringAlike capacity b b' := by
  obtain ⟨hend, hsize, hextension⟩ := hat
  have hnothing (hb : b.framing = .finished ∨ b.framing = .trailers) : BringAlike capacity b b' :=
    ⟨[], none, b, b', brings_nothing hb, brings_nothing (by rw [← h.framing]; exact hb), h⟩
  cases hframing : b.framing with
  | finished => exact hnothing (.inl hframing)
  | trailers => exact hnothing (.inr hframing)
  | untilEnd => exact bringAlike_untilEnd h hframing
  | length left => exact bringAlike_due isDue_length hframing h hbehind
  | chunkData left => exact bringAlike_due isDue_chunkData hframing h hbehind
  | chunkEnd => exact absurd hframing hend
  | chunkSize => exact absurd hframing hsize
  | chunkExtension n => exact absurd hframing (hextension n)

/-- **Bodies abreast bring the same.** -/
theorem brings_abreast {b b' : Body} (h : Abreast capacity b b') : BringAlike capacity b b' := by
  -- On what is ahead: what is passed does not add to it, and data that are due shorten it.
  induction hsize : b.reader.size using Nat.strongRecOn generalizing b b' with
  | ind size ih =>
    have hpass := alike_pass h
    generalize hb : pass b = p, hb' : pass b' = p' at hpass
    cases hpass with
    | error hq => exact ⟨[], _, _, _, .of_pass_error hb, .of_pass_error hb', hq⟩
    | @ok _ _ q q' _ hq =>
      have hle := size_pass hb
      obtain ⟨data, halt, c, c', hbrings, hbrings', hc⟩ :=
        bringAlike_atData hq (atData_of_pass hb) fun hc hless => ih _ (by omega) hc rfl
      exact ⟨data, halt, c, c', .of_pass hb hbrings, .of_pass hb' hbrings', hc⟩

/-- **All data of a body are read alike**, however the stream is cut and however it ends. -/
theorem alike_bytes : Act.Alike (Abreast capacity) Eq bytes bytes := by
  intro b b' h
  obtain ⟨data, halt, q, q', hbrings, hbrings', hq⟩ := brings_abreast h
  cases halt with
  | none =>
    rw [hbrings.bytes_ok, hbrings'.bytes_ok]
    exact .ok rfl hq
  | some halt =>
    rw [hbrings.bytes_error, hbrings'.bytes_error]
    exact .error hq

/-- **And so are the trailers.** -/
theorem alike_trailers : Act.Alike (Abreast capacity) Eq trailers trailers := by
  intro b b' h
  unfold trailers
  rw [← h.framing]
  split
  · exact .ok rfl h
  · have hstart : WithTable capacity (b.reader, .empty) (b'.reader, .empty) := ⟨h.reader, rfl⟩
    have htake := alike_takeFields none hstart
    generalize takeFields none (b.reader, .empty) = p, takeFields none (b'.reader, .empty) = p'
      at htake ⊢
    cases htake with
    | ok _ hq => exact .ok hq.2 ⟨hq.1, rfl, h.reusable⟩
    | error hq => exact .error ⟨hq.1, rfl, h.reusable⟩
  · exact .error h

/-- The bodies behind a head, where the readers are abreast. -/
theorem ofHead_abreast {r r' : Reader} (h : Reader.Abreast capacity r r') (method : Method)
    (status : Status) (headers : Headers) :
    Act.SameOutcome (Abreast capacity) (ofHead method status headers r)
      (ofHead method status headers r') := by
  unfold ofHead
  cases Framing.ofHead method status headers with
  | error fault => exact .error fault
  | ok framing => exact .ok ⟨h, rfl, rfl⟩

end Body

end Http

end UrlTransfer
