/-
# Bodies that break

Reading a body breaks off for one of four reasons (`IsBreak`): the stream ends too early, the size
of a chunk has no digit or too many of them, or its data are not followed by a line end.  The body
can still be asked for more, and the question is whether it then goes on as if nothing had happened.

For the first three it does not.  What halts is tried again by the next read, and it either has
taken nothing off the stream or has taken all of it; so it halts in the same way, and so does every
read after it (`Stuck`).  Nobody has to mark the body as broken for that.

The line end behind the data is different.  Two other bytes in its place are taken off the stream
before they are looked at, and the next read takes the two behind them for the line end.  Where the
stream happens to go on with one there, and with the size of a chunk behind it, reading goes on:
`Resumes` says which bytes those are.  `barren_iff` puts both together, over every sequence of calls.
-/
import UrlTransfer.Proofs.Http.Draining

namespace UrlTransfer

namespace Http

open Reader (Ends Passed)

variable {r q : Reader} {halt : Halt Error}

/-! ## 1. What halts, halts again -/

/-- The buffer holds what it shows, and has room for a size and one more byte. -/
structure Roomy (r : Reader) : Prop where
  fits : r.Fits
  room : maxSizeDigits < r.capacity

theorem Roomy.passed {n : Nat} (h : Roomy r) (hpassed : Passed n r q) : Roomy q :=
  ⟨hpassed.fits h.fits, hpassed.capacity ▸ h.room⟩

/-- The reason that data are not followed by a line end. -/
def stray : Halt Error := .failed (.http .invalidChunkEnd)

theorem halt_ne_stray (ending : Ending) : ending.halt .partialFile ≠ stray := by
  cases ending <;> exact nofun

/-- **An action that ends as the bytes ahead decide halts again**, if it halts in front of what it
leaves as it did before. -/
theorem halts_again {α : Type} {x : Act Error Reader α} (passed : Bytes → Nat)
    {outcome : Bytes → Ending → Except (Halt Error) α}
    (hx : ∀ r, Roomy r → Ends x r (passed r.ahead) (outcome r.ahead r.inflow.ending))
    (hr : Roomy r) (h : x r = .error halt q)
    (hsame : outcome r.ahead r.inflow.ending = .error halt →
      outcome (r.ahead.drop (passed r.ahead)) r.inflow.ending = .error halt) :
    Roomy q ∧ ∃ q', x q = .error halt q' := by
  obtain ⟨houtcome, hpassed⟩ := (hx r hr).of_error h
  have hq := hr.passed hpassed
  have hagain := hx q hq
  rw [hpassed.ahead, hpassed.ending, hsame houtcome] at hagain
  obtain ⟨q', hq', -⟩ := hagain
  exact ⟨hq, q', hq'⟩

/-- A buffer with room shows as much of a size as counts. -/
theorem sizeLength_take {capacity : Nat} (hroom : maxSizeDigits < capacity) (bytes : Bytes) :
    sizeLength (bytes.take capacity) = sizeLength bytes := by
  by_cases hopen : sizeLength (bytes.take capacity) = .error .partialFile
  · have hfew := length_of_sizeLength hopen
    rw [List.length_take] at hfew
    rw [List.take_of_length_le (by omega)]
  · have happend := sizeLength_append hopen (bytes.drop capacity)
    rw [List.take_append_drop] at happend
    exact happend.symm

/-- How a size that is not there halts. -/
def sizeHalt (ending : Ending) : Error → Halt Error
  | .partialFile => ending.halt .partialFile
  | e => .failed e

theorem sizeHalt_of_ne {ending : Ending} {e : Error} (h : e ≠ .partialFile) :
    sizeHalt ending e = .failed e := by
  unfold sizeHalt
  split
  · exact absurd rfl h
  · rfl

/-- With room for a size, what the buffer shows is open where more digits may come. -/
theorem lookSize_open {capacity : Nat} {bytes : Bytes} (hroom : maxSizeDigits < capacity)
    (h : sizeLength bytes = .error .partialFile) : lookSize capacity bytes = none := by
  have hfew := Nat.lt_of_le_of_lt (length_of_sizeLength h) hroom
  unfold lookSize
  rw [sizeLength_take hroom, h]
  exact if_neg (Nat.not_le.2 hfew)

theorem lookSize_decided {capacity : Nat} {bytes : Bytes} (hroom : maxSizeDigits < capacity)
    (h : sizeLength bytes ≠ .error .partialFile) :
    lookSize capacity bytes = some (sizeLength bytes) := by
  unfold lookSize
  rw [sizeLength_take hroom]
  split
  · next hsize => rw [hsize]
  · next hsize => exact absurd hsize h
  · next hsize => rw [hsize]

theorem ends_awaitChunkSize (h : Roomy r) :
    Ends awaitChunkSize r 0 ((sizeLength r.ahead).mapError (sizeHalt r.inflow.ending)) := by
  have hends := looks_awaitChunkSize.ends rfl h.fits
  unfold Reader.lookAhead at hends
  by_cases hopen : sizeLength r.ahead = .error .partialFile
  · rw [lookSize_open h.room hopen] at hends
    rw [hopen]
    exact hends
  · rw [lookSize_decided h.room hopen] at hends
    cases hsize : sizeLength r.ahead with
    | ok n =>
      rw [hsize] at hends
      exact hends
    | error e =>
      rw [hsize] at hends hopen
      have hne : e ≠ .partialFile := fun h => hopen (congrArg Except.error h)
      show Ends awaitChunkSize r 0 (.error (sizeHalt r.inflow.ending e))
      rw [sizeHalt_of_ne hne]
      exact hends

/-- How many bytes the size in front takes. -/
def sizeTaken (bytes : Bytes) : Nat :=
  match sizeLength bytes with
  | .ok n => n
  | .error _ => 0

/-- How taking the size in front ends. -/
def sizeOutcome (bytes : Bytes) (ending : Ending) : Except (Halt Error) Nat :=
  match sizeLength bytes with
  | .ok n => .ok (hexValue (bytes.take n))
  | .error e => .error (sizeHalt ending e)

theorem ends_takeChunkSize (h : Roomy r) :
    Ends takeChunkSize r (sizeTaken r.ahead) (sizeOutcome r.ahead r.inflow.ending) := by
  have hends := ends_awaitChunkSize h
  unfold sizeTaken sizeOutcome
  cases hsize : sizeLength r.ahead with
  | error e =>
    rw [hsize] at hends
    obtain ⟨q, hawait, hpassed⟩ := hends
    refine ⟨q, ?_, hpassed⟩
    unfold takeChunkSize
    rw [hawait]
  | ok n =>
    rw [hsize] at hends
    obtain ⟨q, hawait, hpassed⟩ := hends
    have hthere := awaitChunkSize_le hawait
    have hall := hpassed.trans (Reader.consume_passed hthere)
    rw [Nat.zero_add] at hall
    have htake : q.unread.take n = r.ahead.take n := by
      rw [← show q.ahead = r.ahead from hpassed.ahead, Reader.ahead,
        List.take_append_of_le_length hthere]
    refine ⟨q.consume n, ?_, hall⟩
    unfold takeChunkSize
    rw [hawait]
    dsimp only
    rw [htake]

/-- A size that is not there takes nothing off, and is not there the next time. -/
theorem takeChunkSize_again (h : Roomy r) (hhalt : takeChunkSize r = .error halt q) :
    Roomy q ∧ ∃ q', takeChunkSize q = .error halt q' := by
  refine halts_again _ (fun _ => ends_takeChunkSize) h hhalt fun houtcome => ?_
  have htaken : sizeTaken r.ahead = 0 := by
    unfold sizeOutcome at houtcome
    unfold sizeTaken
    cases hsize : sizeLength r.ahead with
    | ok n => rw [hsize] at houtcome; cases houtcome
    | error e => rfl
  rw [htaken]
  exact houtcome

theorem sizeOutcome_ne_stray (bytes : Bytes) (ending : Ending) :
    sizeOutcome bytes ending ≠ .error stray := by
  intro h
  unfold sizeOutcome at h
  split at h
  · cases h
  · next e hsize =>
    have he : sizeHalt ending e = stray := Except.error.inj h
    unfold sizeLength at hsize
    split at hsize
    · cases hsize; cases he
    · cases hsize
    · split at hsize
      · cases hsize; cases he
      · cases hsize; exact halt_ne_stray ending he

theorem sizeOutcome_digits {n : Nat} {digits rest : Bytes} (hsize : IsSize n digits)
    (hrest : EndsSize rest) (ending : Ending) :
    sizeOutcome (digits ++ rest) ending = .ok n ∧
      sizeTaken (digits ++ rest) = digits.length := by
  unfold sizeOutcome sizeTaken
  rw [sizeLength_digits hsize.hex hsize.few hrest, if_neg hsize.nonempty]
  dsimp only
  rw [List.take_left, hsize.value]
  exact ⟨rfl, rfl⟩

/-- **What is taken for a size is one.** -/
theorem digits_of_sizeOutcome {n : Nat} {bytes : Bytes} {ending : Ending}
    (h : sizeOutcome bytes ending = .ok n) :
    ∃ digits rest, bytes = digits ++ rest ∧ IsSize n digits ∧ EndsSize rest := by
  rcases digits_cases bytes with ⟨digits, rest, rfl, hhex, hmany | ⟨hfew, rfl | hends⟩⟩
  · unfold sizeOutcome at h
    rw [sizeLength_tooLarge hhex hmany] at h
    cases h
  · unfold sizeOutcome at h
    rw [List.append_nil, sizeLength_cut hhex hfew] at h
    cases h
  · by_cases hnone : digits = []
    · unfold sizeOutcome at h
      rw [sizeLength_digits hhex hfew hends, if_pos hnone] at h
      cases h
    · have hsize : IsSize (hexValue digits) digits := ⟨hnone, hfew, hhex, rfl⟩
      rw [(sizeOutcome_digits hsize hends ending).1] at h
      cases h
      exact ⟨digits, rest, rfl, hsize, hends⟩

theorem ends_skip (h : Roomy r) :
    Ends skipLine r (skipped r.ahead) (skipOutcome r.ahead r.inflow.ending) :=
  ends_skipLine (Nat.zero_lt_of_lt h.room) rfl

/-- A line that does not end takes everything off, and nothing does not end either. -/
theorem skipLine_again (h : Roomy r) (hhalt : skipLine r = .error halt q) :
    Roomy q ∧ ∃ q', skipLine q = .error halt q' := by
  refine halts_again _ (fun _ => ends_skip) h hhalt fun houtcome => ?_
  have hnone : lineLength? r.ahead = none := by
    unfold skipOutcome at houtcome
    cases hline : lineLength? r.ahead with
    | none => rfl
    | some n => rw [hline] at houtcome; cases houtcome
  have hskipped : skipped r.ahead = r.ahead.length := by
    unfold skipped
    rw [hnone]
    rfl
  rw [hskipped, List.drop_length, ← houtcome]
  unfold skipOutcome
  rw [hnone]
  rfl

theorem skipOutcome_ne_stray (bytes : Bytes) (ending : Ending) :
    skipOutcome bytes ending ≠ .error stray := by
  unfold skipOutcome
  split
  · exact nofun
  · intro h
    exact halt_ne_stray ending (Except.error.inj h)

theorem skipOutcome_line {line : Bytes} (h : IsLine line) (rest : Bytes) (ending : Ending) :
    skipOutcome (line ++ rest) ending = .ok () ∧ skipped (line ++ rest) = line.length := by
  unfold skipOutcome skipped
  rw [h.lineLength?]
  exact ⟨rfl, rfl⟩

/-- **What is dropped for a line is one.** -/
theorem line_of_skipOutcome {bytes : Bytes} {ending : Ending}
    (h : skipOutcome bytes ending = .ok ()) : ∃ line rest, bytes = line ++ rest ∧ IsLine line := by
  unfold skipOutcome at h
  cases hline : lineLength? bytes with
  | none => rw [hline] at h; cases h
  | some k =>
    exact ⟨bytes.take k, bytes.drop k, (List.take_append_drop k bytes).symm,
      (isLine_of_lineLength? hline).1⟩

/-- How a line end that is cut short halts. -/
def cutHalt : Ending → Halt Error
  | .eof => .failed .partialFile
  | .hang => .stalled
  | .fault error => .failed (if error.kind = .unexpectedEof then .partialFile else .io error)

theorem cutHalt_ne_stray (ending : Ending) : cutHalt ending ≠ stray := by
  cases ending with
  | eof => exact nofun
  | hang => exact nofun
  | fault error =>
    unfold cutHalt
    dsimp only
    split <;> exact nofun

/-- How taking the line end behind data ends: **two bytes that are there are taken off, whatever
they are.** -/
def chunkEndOutcome (bytes : Bytes) (ending : Ending) : Except (Halt Error) Unit :=
  if 2 ≤ bytes.length then if bytes.take 2 = Bytes.crlf then .ok () else .error stray
  else .error (cutHalt ending)

theorem ends_takeChunkEnd (r : Reader) :
    Ends takeChunkEnd r 2 (chunkEndOutcome r.ahead r.inflow.ending) := by
  have hends := Reader.ends_readExactly? (n := 2) (by decide) r
  unfold chunkEndOutcome
  by_cases hthere : 2 ≤ r.ahead.length
  · rw [if_pos hthere] at hends ⊢
    obtain ⟨q, hread, hpassed⟩ := hends
    by_cases hcrlf : r.ahead.take 2 = Bytes.crlf
    · rw [if_pos hcrlf]
      refine ⟨q, ?_, hpassed⟩
      unfold takeChunkEnd
      rw [hread]
      exact if_pos hcrlf
    · rw [if_neg hcrlf]
      refine ⟨q, ?_, hpassed⟩
      unfold takeChunkEnd
      rw [hread]
      exact if_neg hcrlf
  · rw [if_neg hthere] at hends ⊢
    generalize r.inflow.ending = ending at hends ⊢
    cases ending with
    | eof =>
      dsimp only at hends
      split at hends <;> obtain ⟨q, hread, hpassed⟩ := hends
      all_goals
        refine ⟨q, ?_, hpassed⟩
        unfold takeChunkEnd
        rw [hread]
        rfl
    | hang =>
      obtain ⟨q, hread, hpassed⟩ := hends
      refine ⟨q, ?_, hpassed⟩
      unfold takeChunkEnd
      rw [hread]
      rfl
    | fault error =>
      obtain ⟨q, hread, hpassed⟩ := hends
      refine ⟨q, ?_, hpassed⟩
      unfold takeChunkEnd
      rw [hread]
      rfl

/-- A line end that is cut short is cut short again. -/
theorem takeChunkEnd_again (h : Roomy r) (hhalt : takeChunkEnd r = .error halt q)
    (hstray : halt ≠ stray) : Roomy q ∧ ∃ q', takeChunkEnd q = .error halt q' := by
  refine halts_again (fun _ => 2) (fun r _ => ends_takeChunkEnd r) h hhalt
    fun houtcome => ?_
  unfold chunkEndOutcome at houtcome ⊢
  split at houtcome
  · split at houtcome
    · cases houtcome
    · cases houtcome; exact absurd rfl hstray
  · rw [if_neg (by rw [List.length_drop]; omega)]
    exact houtcome

/-- **Two bytes that are no line end are gone.** -/
theorem ahead_of_stray (h : takeChunkEnd r = .error stray q) :
    ∃ pair, r.ahead = pair ++ q.ahead ∧ pair.length = 2 ∧ pair ≠ Bytes.crlf := by
  obtain ⟨houtcome, hpassed⟩ := (ends_takeChunkEnd r).of_error h
  unfold chunkEndOutcome at houtcome
  split at houtcome
  · next hthere =>
    split at houtcome
    · cases houtcome
    · next hne =>
      refine ⟨r.ahead.take 2, ?_, List.length_take_of_le hthere, hne⟩
      rw [hpassed.ahead, List.take_append_drop]
  · exact absurd (Except.error.inj houtcome) (cutHalt_ne_stray _)

/-- The line of a size that is taken. -/
theorem sizeLine_of_take {n : Nat} (h : Roomy r) (htake : takeSizeLine r = .ok n q) :
    ∃ line, r.ahead = line ++ q.ahead ∧ SizeLine n line ∧ Roomy q := by
  obtain ⟨n', r₁, hsize, htake⟩ := Act.bind_eq_ok.1 htake
  obtain ⟨_, r₂, hskip, htake⟩ := Act.bind_eq_ok.1 htake
  cases htake
  obtain ⟨hvalue, hpassed₁⟩ := (ends_takeChunkSize h).of_ok hsize
  obtain ⟨digits, rest, hahead, hdigits, hends⟩ := digits_of_sizeOutcome hvalue
  have h₁ := h.passed hpassed₁
  have hahead₁ : r₁.ahead = rest := by
    rw [hpassed₁.ahead, hahead, (sizeOutcome_digits hdigits hends r.inflow.ending).2]
    exact List.drop_left
  obtain ⟨hline, hpassed₂⟩ := (ends_skip h₁).of_ok hskip
  rw [hahead₁] at hline hpassed₂
  obtain ⟨line, rest, rfl, hisLine⟩ := line_of_skipOutcome hline
  have hahead₂ : q.ahead = rest := by
    rw [hpassed₂.ahead, hahead₁, (skipOutcome_line hisLine rest r.inflow.ending).2]
    exact List.drop_left
  have hends' : EndsSize line := by
    obtain ⟨text, rfl, -⟩ := hisLine
    obtain ⟨c, more, hmore, hc⟩ := hends
    cases text with
    | nil => cases hmore; exact ⟨_, [], rfl, hc⟩
    | cons d text => cases hmore; exact ⟨_, _, rfl, hc⟩
  refine ⟨digits ++ line, ?_, .mk hdigits hends' hisLine, h₁.passed hpassed₂⟩
  rw [hahead, hahead₂, List.append_assoc]

/-- The line of a size is taken, however the stream ends. -/
theorem take_of_sizeLine {n : Nat} {line rest : Bytes} (h : Roomy r)
    (hahead : r.ahead = line ++ rest) (hline : SizeLine n line) :
    ∃ q, takeSizeLine r = .ok n q ∧ q.ahead = rest := by
  cases hline with
  | @mk digits tail hsize hends hisLine =>
    rw [List.append_assoc] at hahead
    obtain ⟨hvalue, htaken⟩ :=
      sizeOutcome_digits hsize (hends.append rest) r.inflow.ending
    have htake := ends_takeChunkSize h
    rw [hahead, hvalue, htaken] at htake
    obtain ⟨r₁, htake, hpassed₁⟩ := htake
    have hahead₁ : r₁.ahead = tail ++ rest := by
      rw [hpassed₁.ahead, hahead]
      exact List.drop_left
    obtain ⟨hdone, hskipped⟩ := skipOutcome_line hisLine rest r₁.inflow.ending
    have hskip := ends_skip (h.passed hpassed₁)
    rw [hahead₁, hdone, hskipped] at hskip
    obtain ⟨r₂, hskip, hpassed₂⟩ := hskip
    refine ⟨r₂, ?_, ?_⟩
    · unfold takeSizeLine
      rw [Act.bind_ok htake, Act.bind_ok hskip]
      rfl
    · rw [hpassed₂.ahead, hahead₁]
      exact List.drop_left

/-! ## 2. What stands in front of the data -/

namespace Body

variable {b b' : Body} {n : Nat}

/-- The body is neither read to its end nor to its trailers. -/
def Unread (b : Body) : Prop := b.framing ≠ .finished ∧ b.framing ≠ .trailers

theorem Unread.of_eq {framing : Framing} (h : b.framing = framing)
    (hunread : framing ≠ .finished ∧ framing ≠ .trailers) : Unread b := by
  subst h
  exact hunread

theorem pass_chunkSize (h : b.framing = .chunkSize) :
    pass b =
      match takeChunkSize b.reader with
      | .ok n q => pass { b with reader := q, framing := .chunkExtension n }
      | .error halt q => .error halt { b with reader := q } := by
  have hend : passEnd b = .ok () b := passEnd_ne (by rw [h]; exact nofun)
  unfold pass
  rw [Act.bind_ok hend]
  cases htake : takeChunkSize b.reader with
  | ok n q => exact Act.bind_ok (passSize_ok h htake)
  | error halt q => exact Act.bind_error (passSize_error h htake)

theorem pass_chunkExtension (h : b.framing = .chunkExtension n) :
    pass b =
      match skipLine b.reader with
      | .ok _ q => .ok () { b with reader := q, framing := if n = 0 then .trailers else .chunkData n }
      | .error halt q => .error halt { b with reader := q } := by
  have hend : passEnd b = .ok () b := passEnd_ne (by rw [h]; exact nofun)
  have hsize : passSize b = .ok () b := by
    unfold passSize
    rw [h]
  unfold pass
  rw [Act.bind_ok hend, Act.bind_ok hsize]
  cases hskip : skipLine b.reader with
  | ok _ q => exact passExtension_ok h hskip
  | error halt q => exact passExtension_error h hskip

/-! ## 3. Broken bodies -/

/-- Every read halts in the same way. -/
structure Stuck (halt : Halt Error) (b : Body) : Prop where
  roomy : Roomy b.reader
  unread : Unread b
  lasting : halt ≠ stray
  reads : ∀ n, 0 < n → ∃ b', read n b = .error halt b'

/-- What a read leaves where it halts. -/
inductive Broken : Halt Error → Body → Prop where
  /-- It halts again. -/
  | stuck {halt : Halt Error} {b : Body} : Stuck halt b → Broken halt b
  /-- Two bytes that are no line end have gone, and a line end is still due. -/
  | astray {b : Body} : Roomy b.reader → b.framing = .chunkEnd → Broken stray b

/-- The action leaves a body that can be read on, or one at which every read halts. -/
def Sticks {α : Type} : EStateM.Result (Halt Error) Body α → Prop
  | .ok _ b => Roomy b.reader
  | .error halt b => Stuck halt b

/-- The action leaves a body that can be read on, or a broken one. -/
def Leaves {α : Type} : EStateM.Result (Halt Error) Body α → Prop
  | .ok _ b => Roomy b.reader
  | .error halt b => Broken halt b

theorem Sticks.leaves {α : Type} {result : EStateM.Result (Halt Error) Body α}
    (h : Sticks result) : Leaves result := by
  cases result with
  | ok a b => exact h
  | error halt b => exact .stuck h

theorem Stuck.of_pass (hb : Roomy b.reader) (hunread : Unread b) (hlasting : halt ≠ stray)
    (h : ∃ b', pass b = .error halt b') : Stuck halt b where
  roomy := hb
  unread := hunread
  lasting := hlasting
  reads := fun n hn => by
    obtain ⟨b', hpass⟩ := h
    refine ⟨b', ?_⟩
    rw [read_eq_pass hn, Act.bind_error hpass]

theorem sticks_chunkExtension (hb : Roomy b.reader) (h : b.framing = .chunkExtension n) :
    Sticks (pass b) := by
  have hunread : Unread b := .of_eq h ⟨nofun, nofun⟩
  rw [pass_chunkExtension h]
  cases hskip : skipLine b.reader with
  | ok _ q => exact hb.passed ((ends_skip hb).of_ok hskip).2
  | error halt q =>
    obtain ⟨hq, q', hagain⟩ := skipLine_again hb hskip
    have houtcome := ((ends_skip hb).of_error hskip).1
    refine .of_pass hq hunread ?_ ⟨{ b with reader := q' }, ?_⟩
    · rintro rfl
      exact skipOutcome_ne_stray _ _ houtcome
    · rw [pass_chunkExtension (b := { b with reader := q }) h, hagain]

theorem sticks_chunkSize (hb : Roomy b.reader) (h : b.framing = .chunkSize) :
    Sticks (pass b) := by
  have hunread : Unread b := .of_eq h ⟨nofun, nofun⟩
  rw [pass_chunkSize h]
  cases htake : takeChunkSize b.reader with
  | ok n q => exact sticks_chunkExtension (hb.passed ((ends_takeChunkSize hb).of_ok htake).2) rfl
  | error halt q =>
    obtain ⟨hq, q', hagain⟩ := takeChunkSize_again hb htake
    have houtcome := ((ends_takeChunkSize hb).of_error htake).1
    refine .of_pass hq hunread ?_ ⟨{ b with reader := q' }, ?_⟩
    · rintro rfl
      exact sizeOutcome_ne_stray _ _ houtcome
    · rw [pass_chunkSize (b := { b with reader := q }) h, hagain]

theorem sticks_pass (hb : Roomy b.reader) (hend : b.framing ≠ .chunkEnd) : Sticks (pass b) := by
  by_cases hsize : b.framing = .chunkSize
  · exact sticks_chunkSize hb hsize
  by_cases hextension : ∃ n, b.framing = .chunkExtension n
  · obtain ⟨n, hextension⟩ := hextension
    exact sticks_chunkExtension hb hextension
  · have hat : AtData b := ⟨hend, hsize, fun n hn => hextension ⟨n, hn⟩⟩
    rw [hat.pass]
    exact hb

/-- Where bytes are due, what halts is the end of the stream, or that none are due. -/
theorem IsDue.sticks {kind : Nat → Framing} {behind : Framing} {left : Nat}
    (hdue : IsDue kind behind) (hunread : Unread b) (hb : Roomy b.reader)
    (hframing : b.framing = kind left) (hn : 0 < n) : Sticks (read n b) := by
  by_cases hleft : left = 0
  · subst hleft
    rw [hdue.read_zero hframing hn]
    exact ⟨hb, hunread, nofun, fun m hm => ⟨b, hdue.read_zero hframing hm⟩⟩
  have hpos := Nat.pos_of_ne_zero hleft
  by_cases hahead : b.reader.ahead = []
  · obtain ⟨q, hpassed, hread⟩ := hdue.read_end hframing hpos hn hahead
    rw [hread]
    refine ⟨hb.passed hpassed, hunread, halt_ne_stray _, fun m hm => ?_⟩
    have hahead' : q.ahead = [] := by
      rw [hpassed.ahead, hahead]
      rfl
    obtain ⟨q', -, hread'⟩ :=
      hdue.read_end (b := { b with reader := q }) hframing hpos hm hahead'
    rw [← hpassed.ending]
    exact ⟨_, hread'⟩
  · obtain ⟨got, q, hread, -, -, -, hpassed⟩ := hdue.read_some hframing hpos hn hahead
    rw [hread]
    exact hb.passed hpassed

theorem sticks_untilEnd (hb : Roomy b.reader) (hframing : b.framing = .untilEnd) (hn : 0 < n) :
    Sticks (read n b) := by
  by_cases hahead : b.reader.ahead = []
  · obtain ⟨q, hpassed, hread⟩ := read_untilEnd_end hn hframing hahead
    have hq := hb.passed hpassed
    have hahead' : q.ahead = [] := by
      rw [hpassed.ahead, hahead]
      rfl
    have hstuck {halt : Halt Error} (hout : endOutcome b.reader.inflow.ending = some halt)
        (hlasting : halt ≠ stray) : Stuck halt { b with reader := q, framing := .untilEnd } := by
      refine ⟨hq, ⟨nofun, nofun⟩, hlasting, fun m hm => ?_⟩
      obtain ⟨q', -, hread'⟩ :=
        read_untilEnd_end (b := { b with reader := q, framing := .untilEnd }) hm rfl hahead'
      rw [show q.inflow.ending = b.reader.inflow.ending from hpassed.ending, hout] at hread'
      exact ⟨_, hread'⟩
    rw [hread]
    cases hending : b.reader.inflow.ending with
    | eof => exact hq
    | hang => exact hstuck (congrArg endOutcome hending) nofun
    | fault error => exact hstuck (congrArg endOutcome hending) nofun
  · obtain ⟨got, q, hread, -, -, hpassed⟩ := read_untilEnd_some hn hframing hahead
    rw [hread]
    exact hb.passed hpassed

theorem sticks_atData (hb : Roomy b.reader) (hat : AtData b) (hn : 0 < n) :
    Sticks (read n b) := by
  obtain ⟨hend, hsize, hextension⟩ := hat
  have hnothing (hframing : b.framing = .finished ∨ b.framing = .trailers) :
      Sticks (read n b) := by
    have hread : read n b = .ok [] b := by
      rw [read_eq_pass hn, Act.bind_ok (AtData.pass ⟨hend, hsize, hextension⟩)]
      unfold readData
      rcases hframing with h | h <;> rw [h]
    rw [hread]
    exact hb
  cases hframing : b.framing with
  | finished => exact hnothing (.inl hframing)
  | trailers => exact hnothing (.inr hframing)
  | untilEnd => exact sticks_untilEnd hb hframing hn
  | length left =>
    have hunread : Unread b := .of_eq hframing ⟨nofun, nofun⟩
    exact isDue_length.sticks hunread hb hframing hn
  | chunkData left =>
    have hunread : Unread b := .of_eq hframing ⟨nofun, nofun⟩
    exact isDue_chunkData.sticks hunread hb hframing hn
  | chunkEnd => exact absurd hframing hend
  | chunkSize => exact absurd hframing hsize
  | chunkExtension size => exact absurd hframing (hextension size)

theorem sticks_read (hb : Roomy b.reader) (hend : b.framing ≠ .chunkEnd) (hn : 0 < n) :
    Sticks (read n b) := by
  have hpass := sticks_pass hb hend
  cases hq : pass b with
  | error halt q =>
    rw [hq] at hpass
    rw [read_eq_pass hn, Act.bind_error hq]
    exact hpass
  | ok _ q =>
    rw [hq] at hpass
    have hat := atData_of_pass hq
    have hread : read n b = read n q := by
      rw [read_eq_pass hn, read_eq_pass hn, Act.bind_ok hq, Act.bind_ok hat.pass]
    rw [hread]
    exact sticks_atData hpass hat hn

/-- **A read that halts leaves a broken body.** -/
theorem leaves_read (hb : Roomy b.reader) (hn : 0 < n) : Leaves (read n b) := by
  by_cases hend : b.framing = .chunkEnd
  · cases htake : takeChunkEnd b.reader with
    | ok _ q =>
      rw [read_chunkEnd hend hn htake]
      exact (sticks_read (b := { b with reader := q, framing := .chunkSize })
        (hb.passed ((ends_takeChunkEnd _).of_ok htake).2) nofun hn).leaves
    | error halt q =>
      rw [read_chunkEnd_error hend hn htake]
      by_cases hstray : halt = stray
      · subst hstray
        exact .astray (hb.passed ((ends_takeChunkEnd _).of_error htake).2) hend
      · obtain ⟨hq, q', hagain⟩ := takeChunkEnd_again hb htake hstray
        have hunread : Unread b := .of_eq hend ⟨nofun, nofun⟩
        exact .stuck ⟨hq, hunread, hstray, fun m hm =>
          ⟨_, read_chunkEnd_error (b := { b with reader := q }) hend hm hagain⟩⟩
  · exact (sticks_read hb hend hn).leaves

/-- What reading to the end leaves. -/
def LeavesBehind : Option (Halt Error) → Body → Prop
  | none, b => Roomy b.reader
  | some halt, b => Broken halt b

/-- And so does reading to the end. -/
theorem leaves_brings {data : Bytes} {halt? : Option (Halt Error)} (hb : Roomy b.reader)
    (h : Brings b data halt? b') : LeavesBehind halt? b' := by
  have hportion : 0 < portion := by decide
  -- On what is ahead: every portion takes some of it.
  induction hsize : b.ahead using Nat.strongRecOn generalizing b data with
  | ind size ih =>
    have hleaves := leaves_read hb hportion
    cases hread : read portion b with
    | error halt q =>
      rw [hread] at hleaves
      obtain ⟨-, rfl, rfl⟩ := h.unique (Brings.error hread)
      exact hleaves
    | ok first q =>
      rw [hread] at hleaves
      by_cases hfirst : first = []
      · subst hfirst
        obtain ⟨-, rfl, rfl⟩ := h.unique (Brings.nil hread)
        exact hleaves
      · obtain ⟨rest, -, hrest⟩ := h.behind hread hfirst
        have hless := size_read hread
        have hpos := List.length_pos_iff.2 hfirst
        exact ih q.ahead (by omega) hleaves hrest rfl

theorem leaves_bytes (hb : Roomy b.reader) : Leaves b.bytes := by
  have hbrings := brings_arrive b
  generalize b.arrive.halt = halt? at hbrings
  have hleaves := leaves_brings hb hbrings
  cases halt? with
  | none =>
    rw [hbrings.bytes_ok]
    exact hleaves
  | some halt =>
    rw [hbrings.bytes_error]
    exact hleaves

/-! ## 4. Reading that goes on -/

/-- Reading goes on here, where a line end is due: there is one, and the line of a size behind it,
and some of the data unless the size is zero; or the two bytes in its place are none either, and
reading goes on behind them. -/
inductive Resumes : Bytes → Prop where
  | size {n : Nat} {line rest : Bytes} : SizeLine n line → n = 0 ∨ rest ≠ [] →
      Resumes (Bytes.crlf ++ (line ++ rest))
  | wrong {pair rest : Bytes} : pair.length = 2 → pair ≠ Bytes.crlf → Resumes rest →
      Resumes (pair ++ rest)

/-- Where a read has a value, reading goes on. -/
theorem resumes_of_ok {got : Bytes} (hb : Roomy b.reader) (hend : b.framing = .chunkEnd)
    (hn : 0 < n) (h : read n b = .ok got b') : Resumes b.reader.ahead := by
  cases htake : takeChunkEnd b.reader with
  | error halt q => rw [read_chunkEnd_error hend hn htake] at h; cases h
  | ok _ q =>
    rw [read_chunkEnd hend hn htake] at h
    obtain ⟨houtcome, hpassed⟩ := (ends_takeChunkEnd _).of_ok htake
    have hahead : b.reader.ahead = Bytes.crlf ++ q.ahead := by
      unfold chunkEndOutcome at houtcome
      split at houtcome
      · split at houtcome
        · next hcrlf => rw [hpassed.ahead, ← hcrlf, List.take_append_drop]
        · cases houtcome
      · cases houtcome
    rw [hahead]
    cases hsize : takeSizeLine q with
    | error halt q' =>
      obtain ⟨b'', hread⟩ := read_chunkSize_error
        (b := { b with reader := q, framing := .chunkSize }) rfl hn hsize
      cases hread.symm.trans h
    | ok size q' =>
      obtain ⟨line, hq, hline, -⟩ := sizeLine_of_take (hb.passed hpassed) hsize
      rw [hq]
      refine .size hline ?_
      by_cases hzero : size = 0
      · exact .inl hzero
      · right
        rintro hnil
        rw [read_chunkSize (b := { b with reader := q, framing := .chunkSize }) rfl hn hsize,
          if_neg hzero] at h
        obtain ⟨q'', -, hread⟩ := isDue_chunkData.read_end
          (b := { b with reader := q', framing := .chunkData size }) rfl
          (Nat.pos_of_ne_zero hzero) hn hnil
        cases hread.symm.trans h

/-- Where it goes on behind two wrong bytes, it does so in front of them. -/
theorem resumes_of_stray (hb : Roomy b.reader) (hend : b.framing = .chunkEnd) (hn : 0 < n)
    (h : read n b = .error stray b') (hresumes : Resumes b'.reader.ahead) :
    Resumes b.reader.ahead := by
  cases htake : takeChunkEnd b.reader with
  | ok _ q =>
    have hsticks := sticks_read (b := { b with reader := q, framing := .chunkSize })
      (hb.passed ((ends_takeChunkEnd _).of_ok htake).2) nofun hn
    rw [← read_chunkEnd hend hn htake, h] at hsticks
    exact absurd rfl hsticks.lasting
  | error halt q =>
    rw [read_chunkEnd_error hend hn htake] at h
    cases h
    obtain ⟨pair, hahead, hlength, hne⟩ := ahead_of_stray htake
    rw [hahead]
    exact .wrong hlength hne hresumes

/-- A line end and the line of a size are read over. -/
theorem ok_of_sizeLine {m : Nat} {line rest : Bytes} (hb : Roomy b.reader)
    (hend : b.framing = .chunkEnd) (hahead : b.reader.ahead = Bytes.crlf ++ (line ++ rest))
    (hline : SizeLine m line) (hrest : m = 0 ∨ rest ≠ []) (hn : 0 < n) :
    ∃ got b', read n b = .ok got b' := by
  have htake := ends_takeChunkEnd b.reader
  rw [hahead] at htake
  obtain ⟨q, htake, hpassed⟩ := htake
  have hahead' : q.ahead = line ++ rest := by
    rw [hpassed.ahead, hahead]
    rfl
  obtain ⟨q', hsize, hleft⟩ := take_of_sizeLine (hb.passed hpassed) hahead' hline
  rw [read_chunkEnd hend hn htake,
    read_chunkSize (b := { b with reader := q, framing := .chunkSize }) rfl hn hsize]
  by_cases hzero : m = 0
  · rw [if_pos hzero]
    exact ⟨_, _, rfl⟩
  · rw [if_neg hzero]
    have hsome : q'.ahead ≠ [] := by
      rw [hleft]
      exact hrest.resolve_left hzero
    obtain ⟨got, q'', hread, -⟩ := isDue_chunkData.read_some
      (b := { b with reader := q', framing := .chunkData m }) rfl (Nat.pos_of_ne_zero hzero) hn
      hsome
    exact ⟨got, _, hread⟩

/-- Two bytes that are no line end are taken for one, and are gone. -/
theorem stray_of_pair {pair rest : Bytes} (hend : b.framing = .chunkEnd)
    (hahead : b.reader.ahead = pair ++ rest) (hlength : pair.length = 2) (hne : pair ≠ Bytes.crlf)
    (hn : 0 < n) :
    ∃ q, read n b = .error stray { b with reader := q } ∧ Passed 2 b.reader q ∧
      q.ahead = rest := by
  have htake := ends_takeChunkEnd b.reader
  have houtcome : chunkEndOutcome b.reader.ahead b.reader.inflow.ending = .error stray := by
    unfold chunkEndOutcome
    rw [hahead, if_pos (by rw [List.length_append]; omega), ← hlength, List.take_left, if_neg hne]
  rw [houtcome] at htake
  obtain ⟨q, htake, hpassed⟩ := htake
  refine ⟨q, read_chunkEnd_error hend hn htake, hpassed, ?_⟩
  rw [hpassed.ahead, hahead, ← hlength]
  exact List.drop_left

/-! ## 5. Calls -/

/-- What a caller can ask a body for. -/
inductive Call where
  | read (size : Nat)
  | bytes
  | trailer
  | trailers
deriving Repr, DecidableEq

namespace Call

/-- What a call returns. -/
abbrev Value : Call → Type
  | read _ | bytes => Bytes
  | trailer => Option Field
  | trailers => Headers

/-- Makes the call. -/
def run : (call : Call) → Act Error Body call.Value
  | read size => Body.read size
  | bytes => Body.bytes
  | trailer => Body.trailer
  | trailers => Body.trailers

/-- How a call is refused by a body at which reading halts: **trailers are not to be had where data
are unread.** -/
def refusal (halt : Halt Error) : Call → Halt Error
  | read _ | bytes => halt
  | trailer | trailers => .failed (.http .bodyRemaining)

end Call

/-- The errors of a body that breaks. -/
inductive IsBreak : Error → Prop where
  | partialFile : IsBreak .partialFile
  | invalidChunkSize : IsBreak (.http .invalidChunkSize)
  | chunkTooLarge : IsBreak (.http .chunkTooLarge)
  | invalidChunkEnd : IsBreak (.http .invalidChunkEnd)

/-- No trailer fails like that. -/
theorem not_isBreak_of_ofLine {e : Error} (h : OfLine e) : ¬ IsBreak e := by
  cases h <;> exact nofun

theorem not_isBreak_trailer {e : Error} (h : trailer b = .error (.failed e) b') :
    ¬ IsBreak e := by
  unfold trailer at h
  split at h
  · cases h
  · cases htake : takeField b.reader with
    | error halt q =>
      rw [Act.bind_error (onReader_error htake)] at h
      cases h
      exact not_isBreak_of_ofLine (failsWith_takeField htake)
    | ok field q =>
      rw [Act.bind_ok (onReader_ok htake)] at h
      cases field <;> cases h
  · cases h
    exact nofun

theorem not_isBreak_trailers {e : Error} (h : trailers b = .error (.failed e) b') :
    ¬ IsBreak e := by
  unfold trailers at h
  split at h
  · cases h
  · cases htake : takeFields none (b.reader, .empty) with
    | ok _ p => rw [htake] at h; cases h
    | error halt p =>
      rw [htake] at h
      cases h
      exact not_isBreak_of_ofLine (failsWith_takeFields none htake)
  · cases h
    exact nofun

/-- **A call that fails like that leaves a broken body.** -/
theorem broken_of_run {call : Call} {e : Error} (hb : Roomy b.reader)
    (h : call.run b = .error (.failed e) b') (he : IsBreak e) : Broken (.failed e) b' := by
  cases call with
  | read n =>
    have hread : read n b = .error (.failed e) b' := h
    have hn : 0 < n := by
      rcases Nat.eq_zero_or_pos n with rfl | hn
      · cases hread
      · exact hn
    have hleaves := leaves_read hb hn
    rw [hread] at hleaves
    exact hleaves
  | bytes =>
    have hbytes : b.bytes = .error (.failed e) b' := h
    have hleaves := leaves_bytes hb
    rw [hbytes] at hleaves
    exact hleaves
  | trailer => exact absurd he (not_isBreak_trailer h)
  | trailers => exact absurd he (not_isBreak_trailers h)

theorem Broken.roomy (h : Broken halt b) : Roomy b.reader := by
  cases h with
  | stuck h => exact h.roomy
  | astray hb _ => exact hb

theorem Leaves.roomy {α : Type} {x : Act Error Body α} (h : Leaves (x b)) :
    Roomy (x.after b).reader := by
  cases hx : x b with
  | ok a b' => rw [Act.after_ok hx]; rw [hx] at h; exact h
  | error halt b' => rw [Act.after_error hx]; rw [hx] at h; exact Broken.roomy h

/-- An action that does not tell bodies abreast apart leaves one that is abreast of itself. -/
theorem roomy_of_alike {α : Type} {x : Act Error Body α} (hb : Roomy b.reader)
    (hx : Act.Alike (Abreast b.reader.capacity) Eq x x) : Roomy (x.after b).reader := by
  have hagree := hx (⟨⟨rfl, rfl, ⟨rfl, hb.fits⟩, ⟨rfl, hb.fits⟩⟩, rfl, rfl⟩ :
    Abreast b.reader.capacity b b)
  have hroomy {q q' : Body} (hq : Abreast b.reader.capacity q q') : Roomy q.reader :=
    ⟨hq.reader.left.2, hq.reader.left.1 ▸ hb.room⟩
  cases hresult : x b with
  | ok a q =>
    rw [hresult] at hagree
    rw [Act.after_ok hresult]
    cases hagree with
    | ok _ hq => exact hroomy hq
  | error halt q =>
    rw [hresult] at hagree
    rw [Act.after_error hresult]
    cases hagree with
    | error hq => exact hroomy hq

theorem alike_trailer {capacity : Nat} : Act.Alike (Abreast capacity) Eq trailer trailer := by
  intro b b' h
  unfold trailer
  rw [← h.framing]
  split
  · exact .ok rfl h
  · refine (alike_onReader alike_takeField).bind_eq (fun field => ?_) h
    refine Act.Alike.bind_eq ?_ fun _ => .pure rfl
    split
    · exact alike_setFraming _
    · exact .pure rfl
  · exact .error h

theorem roomy_run (hb : Roomy b.reader) (call : Call) : Roomy (call.run.after b).reader := by
  cases call with
  | read n =>
    rcases Nat.eq_zero_or_pos n with rfl | hn
    · exact hb
    · exact Leaves.roomy (leaves_read hb hn)
  | bytes => exact Leaves.roomy (leaves_bytes hb)
  | trailer => exact roomy_of_alike hb alike_trailer
  | trailers => exact roomy_of_alike hb alike_trailers

/-! ## 6. Calls one after the other -/

/-- Calls one after the other, each of which returns or fails; **the caller goes on where one has
failed**. -/
inductive Ran : List Call → Body → Body → Prop where
  | nil {b : Body} : Ran [] b b
  | returned {call : Call} {calls : List Call} {value : call.Value} {b b' b'' : Body} :
      call.run b = .ok value b' → Ran calls b' b'' → Ran (call :: calls) b b''
  | failed {call : Call} {calls : List Call} {e : Error} {b b' b'' : Body} :
      call.run b = .error (.failed e) b' → Ran calls b' b'' → Ran (call :: calls) b b''

/-- What every call keeps is kept by all of them. -/
theorem Ran.keeps {P : Body → Prop} (hstep : ∀ {b}, P b → ∀ call : Call, P (call.run.after b))
    {calls : List Call} (h : Ran calls b b') (hb : P b) : P b' := by
  induction h with
  | nil => exact hb
  | @returned call _ _ _ _ _ hrun _ ih =>
    have hnext := hstep hb call
    rw [Act.after_ok hrun] at hnext
    exact ih hnext
  | @failed call _ _ _ _ _ hrun _ ih =>
    have hnext := hstep hb call
    rw [Act.after_error hrun] at hnext
    exact ih hnext

theorem Ran.roomy {calls : List Call} (h : Ran calls b b') (hb : Roomy b.reader) :
    Roomy b'.reader :=
  h.keeps (P := fun b => Roomy b.reader) roomy_run hb

/-- **Nothing comes of the body any more**: whatever calls are made first, no call has a value, but
for a read without room. -/
def Barren (b : Body) : Prop :=
  ∀ ⦃later : List Call⦄ ⦃b' : Body⦄, Ran later b b' →
    ∀ call : Call, call ≠ .read 0 → ∀ value b'', call.run b' ≠ .ok value b''

/-- A call that is refused where data are unread. -/
theorem run_unread (h : Unread b) {call : Call} (hcall : call = .trailer ∨ call = .trailers) :
    call.run b = .error (call.refusal halt) b := by
  rcases hcall with rfl | rfl
  · show trailer b = _
    unfold trailer
    split
    · next hframing => exact absurd hframing h.1
    · next hframing => exact absurd hframing h.2
    · rfl
  · show trailers b = _
    unfold trailers
    split
    · next hframing => exact absurd hframing h.1
    · next hframing => exact absurd hframing h.2
    · rfl

/-- **At a body at which reads halt, every call is refused**, and leaves another such body. -/
theorem Stuck.run (h : Stuck halt b) {call : Call} (hcall : call ≠ .read 0) :
    ∃ b', call.run b = .error (call.refusal halt) b' ∧ Stuck halt b' := by
  have hread {n : Nat} (hn : 0 < n) : ∃ b', read n b = .error halt b' ∧ Stuck halt b' := by
    obtain ⟨b', hread⟩ := h.reads n hn
    have hleaves := leaves_read h.roomy hn
    rw [hread] at hleaves
    cases hleaves with
    | stuck hstuck => exact ⟨b', hread, hstuck⟩
    | astray _ _ => exact absurd rfl h.lasting
  cases call with
  | read n =>
    refine hread (Nat.pos_of_ne_zero ?_)
    rintro rfl
    exact hcall rfl
  | bytes =>
    obtain ⟨b', hportion, hstuck⟩ := hread (by decide : 0 < portion)
    exact ⟨b', (Brings.error hportion).bytes_error, hstuck⟩
  | trailer => exact ⟨b, run_unread h.unread (.inl rfl), h⟩
  | trailers => exact ⟨b, run_unread h.unread (.inr rfl), h⟩

theorem Stuck.after_run (h : Stuck halt b) (call : Call) : Stuck halt (call.run.after b) := by
  by_cases hcall : call = .read 0
  · subst hcall
    exact h
  · obtain ⟨b', hrefused, hstuck⟩ := h.run hcall
    rw [Act.after_error hrefused]
    exact hstuck

/-- A body of which nothing comes: reads halt, or a line end is due where reading does not go on. -/
inductive Lost : Body → Prop where
  | stuck {halt : Halt Error} {b : Body} : Stuck halt b → Lost b
  | astray {b : Body} : Roomy b.reader → b.framing = .chunkEnd → ¬ Resumes b.reader.ahead → Lost b

theorem Lost.read (h : Lost b) (hn : 0 < n) :
    ∃ halt b', Body.read n b = .error halt b' ∧ Lost b' := by
  cases h with
  | stuck h =>
    have hcall : Call.read n ≠ .read 0 := by
      rintro ⟨⟩
      exact absurd hn (by decide)
    obtain ⟨b', hread, hstuck⟩ := h.run hcall
    exact ⟨_, b', hread, .stuck hstuck⟩
  | astray hb hend hresumes =>
    have hleaves := leaves_read hb hn
    cases hread : Body.read n b with
    | ok got b' => exact absurd (resumes_of_ok hb hend hn hread) hresumes
    | error halt b' =>
      rw [hread] at hleaves
      refine ⟨halt, b', rfl, ?_⟩
      cases hleaves with
      | stuck hstuck => exact .stuck hstuck
      | astray hb' hend' =>
        exact .astray hb' hend' fun h => hresumes (resumes_of_stray hb hend hn hread h)

theorem Lost.unread (h : Lost b) : Unread b := by
  cases h with
  | stuck h => exact h.unread
  | astray _ hend _ => exact .of_eq hend ⟨nofun, nofun⟩

theorem Lost.run (h : Lost b) {call : Call} (hcall : call ≠ .read 0) :
    ∃ halt b', call.run b = .error halt b' ∧ Lost b' := by
  cases call with
  | read n =>
    refine h.read (Nat.pos_of_ne_zero ?_)
    rintro rfl
    exact hcall rfl
  | bytes =>
    obtain ⟨halt, b', hportion, hlost⟩ := h.read (by decide : 0 < portion)
    exact ⟨halt, b', (Brings.error hportion).bytes_error, hlost⟩
  | trailer => exact ⟨Call.trailer.refusal stray, b, run_unread h.unread (.inl rfl), h⟩
  | trailers => exact ⟨Call.trailers.refusal stray, b, run_unread h.unread (.inr rfl), h⟩

theorem Lost.after_run (h : Lost b) (call : Call) : Lost (call.run.after b) := by
  by_cases hcall : call = .read 0
  · subst hcall
    exact h
  · obtain ⟨halt, b', hrefused, hlost⟩ := h.run hcall
    rw [Act.after_error hrefused]
    exact hlost

theorem Lost.barren (h : Lost b) : Barren b := by
  intro later b' hran call hcall value b'' hrun
  obtain ⟨halt, q, hrefused, -⟩ := (hran.keeps Lost.after_run h).run hcall
  cases hrefused.symm.trans hrun

/-- **Where reading goes on, some read has a value**: the first for which there is a line end. -/
theorem not_barren {bytes : Bytes} (h : Resumes bytes) (hb : Roomy b.reader)
    (hend : b.framing = .chunkEnd) (hahead : b.reader.ahead = bytes) : ¬ Barren b := by
  intro hbarren
  -- On the wrong bytes in front: each read takes two of them off.
  induction h generalizing b with
  | size hline hrest =>
    obtain ⟨got, b', hread⟩ := ok_of_sizeLine hb hend hahead hline hrest Nat.one_pos
    exact hbarren .nil (.read 1) nofun got b' hread
  | wrong hlength hne _ ih =>
    obtain ⟨q, hread, hpassed, hahead'⟩ := stray_of_pair hend hahead hlength hne Nat.one_pos
    refine ih (b := { b with reader := q }) (hb.passed hpassed) hend hahead'
      fun later b' hran => ?_
    have hfailed : Ran (.read 1 :: later) b b' :=
      .failed (show (Call.read 1).run b = _ from hread) hran
    exact hbarren hfailed

/-- **What comes of a body that broke.**  After any calls, one has failed because the body breaks.
Nothing comes of the body any more exactly if it was not the line end behind a chunk that was
missing, or what follows does not happen to look like one and a chunk.  And if it was not the line
end, every call fails, reads with the error that there was; no read waits for anything. -/
theorem barren_iff {b₀ b b' : Body} {before : List Call} {call : Call} {e : Error}
    (hfits : b₀.reader.Fits) (hroom : maxSizeDigits < b₀.reader.capacity)
    (hbefore : Ran before b₀ b) (hrun : call.run b = .error (.failed e) b') (he : IsBreak e) :
    (Barren b' ↔ (e = .http .invalidChunkEnd → ¬ Resumes b'.reader.ahead)) ∧
    (e ≠ .http .invalidChunkEnd → ∀ ⦃later : List Call⦄ ⦃q : Body⦄, Ran later b' q →
      ∀ call : Call, call ≠ .read 0 →
        ∃ q', call.run q = .error (call.refusal (.failed e)) q') := by
  have hb : Roomy b.reader := hbefore.roomy ⟨hfits, hroom⟩
  have hbroken := broken_of_run hb hrun he
  by_cases hstray : e = .http .invalidChunkEnd
  · subst hstray
    refine ⟨?_, fun hne => absurd rfl hne⟩
    generalize hhalt : Halt.failed (Error.http .invalidChunkEnd) = halt at hbroken
    cases hbroken with
    | stuck hstuck => exact absurd hhalt.symm hstuck.lasting
    | astray hb' hend =>
      refine ⟨fun hbarren _ h => not_barren h hb' hend rfl hbarren, fun h => ?_⟩
      exact (Lost.astray hb' hend (h rfl)).barren
  · generalize hhalt : Halt.failed e = halt at hbroken
    cases hbroken with
    | astray _ _ => exact absurd (Halt.failed.inj hhalt) hstray
    | stuck hstuck =>
      refine ⟨⟨fun _ h => absurd h hstray, fun _ => (Lost.stuck hstuck).barren⟩, ?_⟩
      intro _ later q hran call hcall
      obtain ⟨q', hrefused, -⟩ := (hran.keeps Stuck.after_run hstuck).run hcall
      exact ⟨q', hrefused⟩

/-- A body whose first chunk is not followed by a line end; but then come one and more chunks. -/
def strayBody : Body where
  reader := .ofInflow ⟨[Bytes.ofString "3\r\nabcXX\r\n", Bytes.ofString "3\r\ndef\r\n0\r\n\r\n"], .eof⟩
  framing := .chunkSize
  reusable := false

theorem sizeLine_three : SizeLine 3 [51, 13, 10] :=
  show SizeLine _ ([51] ++ Bytes.crlf) from .mk
    ⟨by decide, by decide, List.forall_mem_singleton.2 (by decide), by decide⟩
    ⟨13, [10], rfl, by decide⟩ ⟨[13], rfl, by decide⟩

theorem sizeLine_zero : SizeLine 0 [48, 13, 10] :=
  show SizeLine _ ([48] ++ Bytes.crlf) from .mk
    ⟨by decide, by decide, List.forall_mem_singleton.2 (by decide), by decide⟩
    ⟨13, [10], rfl, by decide⟩ ⟨[13], rfl, by decide⟩

/-- The data of the first chunk are lost, as what follows them is no line end. -/
theorem bytes_strayBody :
    ∃ b, strayBody.bytes = .error (.failed (.http .invalidChunkEnd)) b ∧
      At Reader.defaultCapacity .chunkEnd
        (Bytes.crlf ++ ([51, 13, 10] ++ [100, 101, 102] ++ Bytes.crlf ++
          ([48, 13, 10] ++ Bytes.crlf))) b := by
  have hat : At Reader.defaultCapacity .chunkSize
      ([51, 13, 10] ++ ([97, 98, 99] ++ ([88, 88] ++ (Bytes.crlf ++
        ([51, 13, 10] ++ [100, 101, 102] ++ Bytes.crlf ++ ([48, 13, 10] ++ Bytes.crlf))))))
      strayBody := ⟨rfl, ⟨rfl, rfl, Reader.fits_ofInflow _⟩, by decide +kernel⟩
  obtain ⟨b₁, hat₁, hbrings₁⟩ := passes_size (by decide) hat sizeLine_three (by decide)
  obtain ⟨b₂, hat₂, hbrings₂⟩ := passes_data hat₁ (by decide) rfl
  obtain ⟨q, hread, hpassed, hahead⟩ :=
    stray_of_pair hat₂.framing hat₂.ahead rfl (by decide) (by decide : 0 < portion)
  exact ⟨_, (hbrings₁ (hbrings₂ (Brings.error hread))).bytes_error,
    hat₂.framing, (Readers.holding _).stays hpassed hat₂.mem, hahead⟩

theorem barren_iff_stray :
    ∃ b, strayBody.bytes = .error (.failed (.http .invalidChunkEnd)) b ∧
      (Barren b ↔ ¬ Resumes b.reader.ahead) := by
  obtain ⟨b, hbytes, -⟩ := bytes_strayBody
  have hrun : Call.bytes.run strayBody = .error (.failed (.http .invalidChunkEnd)) b := hbytes
  have hiff := (barren_iff (Reader.fits_ofInflow _) (by decide) .nil hrun .invalidChunkEnd).1
  exact ⟨b, hbytes, hiff.trans ⟨fun h => h rfl, fun h _ => h⟩⟩

/-- **Data come behind the failure**: the second chunk, where the first was an error. -/
theorem bytes_behind_stray :
    ∃ b b', strayBody.bytes = .error (.failed (.http .invalidChunkEnd)) b ∧
      b.bytes = .ok (Bytes.ofString "def") b' := by
  obtain ⟨b, hbytes, hat⟩ := bytes_strayBody
  obtain ⟨b₁, hat₁, hbrings₁⟩ := passes_end hat
  obtain ⟨b₂, hat₂, hbrings₂⟩ :=
    passes_chunk (by decide) hat₁ sizeLine_three (by decide) (by decide)
  obtain ⟨b', hlast, -⟩ := brings_last (by decide) hat₂ sizeLine_zero
  have hdata : [] ++ ([100, 101, 102] ++ []) = Bytes.ofString "def" := by decide +kernel
  have hbehind := hbrings₁ (hbrings₂ hlast)
  rw [hdata] at hbehind
  exact ⟨b, b', hbytes, hbehind.bytes_ok⟩

end Body

end Http

end UrlTransfer
