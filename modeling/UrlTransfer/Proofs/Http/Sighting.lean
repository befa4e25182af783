/-
# Seeing the first line

The first line of a stream is looked for in the buffer, which is filled until it shows a line feed.
A line feed is seen if it stands among the first bytes ahead, as many as the buffer holds.  It does
not matter how many of them are in the buffer already, nor how the others are cut.

`Sight` has the four things that there can be to see: a line of text, a line of something else, a
full buffer without a line feed, and the end of the stream before either.  There is always one of
them (`exists_sight`), and looking comes to it (`ends_peekLine`), so it is the only one
(`outcome_peekLine`).  Looking passes nothing.

The line is a text exactly if what stands in front of its line feed is one.  With a carriage return
in between this needs a word: in UTF-8 no longer character ends in the byte of a shorter one
(`Text.exists_ofString_of_concat`).
-/
import UrlTransfer.Proofs.Http.Cutting
import UrlTransfer.Proofs.Http.Limiting

namespace UrlTransfer

namespace Http

variable {capacity : Nat} {ending : Ending} {bytes content line : Bytes} {text : String}

/-! ## 1. What there is to see -/

/-- What a buffer of this capacity comes to show of the first line, if these bytes are ahead and
this is behind them. -/
inductive Sight (capacity : Nat) (ending : Ending) (bytes : Bytes) :
    Except (Halt Error) (String × Nat) → Prop where
  /-- A line of text, with its length. -/
  | line {text : String} {line : Bytes} (shown : line <+: bytes.take capacity)
      (isLine : IsTextLine text line) : Sight capacity ending bytes (.ok (text, line.length))
  /-- A line that is no text. -/
  | garbled {content : Bytes} (shown : content ++ [Bytes.lf] <+: bytes.take capacity)
      (whole : Bytes.lf ∉ content) (noText : ∀ text, content ≠ Bytes.ofString text) :
      Sight capacity ending bytes (.error (.failed .invalidUtf8))
  /-- As many bytes as the buffer holds, and no line feed among them. -/
  | tooLong (full : capacity ≤ bytes.length) (whole : Bytes.lf ∉ bytes.take capacity) :
      Sight capacity ending bytes (.error (.failed (.http .headersTooLong)))
  /-- Fewer bytes, and no line feed among them. -/
  | ended {halt : Halt Error} (short : bytes.length < capacity) (whole : Bytes.lf ∉ bytes)
      (halts : ending.halt (.io .eof) = halt) : Sight capacity ending bytes (.error halt)

/-- A text and a line feed are a line of text; a carriage return in between belongs to neither. -/
theorem exists_isTextLine (hwhole : Bytes.lf ∉ Bytes.ofString text) :
    ∃ inner, IsTextLine inner (Bytes.ofString text ++ [Bytes.lf]) := by
  by_cases hreturn : (Bytes.ofString text).getLast? = some 13
  · obtain ⟨front, hfront⟩ := List.getLast?_eq_some_iff.1 hreturn
    obtain ⟨inner, rfl⟩ := Text.exists_ofString_of_concat (by decide) hfront.symm
    refine ⟨inner, ?_⟩
    rw [hfront, List.mem_append] at hwhole
    rw [hfront, List.append_assoc]
    exact .crlf fun hin => hwhole (.inl hin)
  · exact ⟨text, .lf hwhole hreturn⟩

/-- And a line of text is a text and a line feed. -/
theorem IsTextLine.exists_content (h : IsTextLine text line) :
    ∃ inner, line = Bytes.ofString inner ++ [Bytes.lf] ∧ Bytes.lf ∉ Bytes.ofString inner := by
  cases h with
  | crlf whole =>
    refine ⟨text ++ "\r", ?_, ?_⟩
    · rw [Bytes.ofString_append, List.append_assoc]
      rfl
    · rw [Bytes.ofString_append, List.mem_append, not_or]
      exact ⟨whole, by decide⟩
  | lf whole bare => exact ⟨text, rfl, whole⟩

/-- **There is always something to see.** -/
theorem exists_sight (capacity : Nat) (ending : Ending) (bytes : Bytes) :
    ∃ outcome, Sight capacity ending bytes outcome := by
  by_cases hfeed : Bytes.lf ∈ bytes.take capacity
  · obtain ⟨content, behind, hsplit, hwhole⟩ := List.eq_append_cons_of_mem hfeed
    have hshown : content ++ [Bytes.lf] <+: bytes.take capacity := ⟨behind, by simp [hsplit]⟩
    by_cases htext : ∃ text, content = Bytes.ofString text
    · obtain ⟨text, rfl⟩ := htext
      obtain ⟨inner, hline⟩ := exists_isTextLine hwhole
      exact ⟨_, .line hshown hline⟩
    · exact ⟨_, .garbled hshown hwhole fun text heq => htext ⟨text, heq⟩⟩
  · rcases Nat.lt_or_ge bytes.length capacity with hshort | hfull
    · rw [List.take_of_length_le (Nat.le_of_lt hshort)] at hfeed
      exact ⟨_, .ended hshort hfeed rfl⟩
    · exact ⟨_, .tooLong hfull hfeed⟩

/-- **Nothing beyond the capacity is seen**, and what is behind the stream only if the stream is
shorter than that. -/
theorem Sight.congr {ending' : Ending} {bytes' : Bytes}
    {outcome : Except (Halt Error) (String × Nat)} (h : Sight capacity ending bytes outcome)
    (htake : bytes'.take capacity = bytes.take capacity)
    (hending : capacity ≤ bytes.length ∨ ending' = ending) :
    Sight capacity ending' bytes' outcome := by
  have hlength : min capacity bytes'.length = min capacity bytes.length := by
    rw [← List.length_take, htake, List.length_take]
  cases h with
  | line shown isLine => exact .line (htake ▸ shown) isLine
  | garbled shown whole noText => exact .garbled (htake ▸ shown) whole noText
  | tooLong full whole => exact .tooLong (by omega) (htake ▸ whole)
  | ended short whole halts =>
    rw [List.take_of_length_le (Nat.le_of_lt short), List.take_of_length_le (by omega)] at htake
    subst htake
    rcases hending with hfull | rfl
    · omega
    · exact .ended short whole halts

/-! ## 2. Looking for a line -/

theorem lookLine_whole (hwhole : Bytes.lf ∉ bytes.take capacity) :
    lookLine capacity bytes =
      if capacity ≤ bytes.length then some (.error (.http .headersTooLong)) else none := by
  unfold lookLine
  rw [lineLength?_none.2 hwhole]

/-- A line is no text if what stands in front of its line feed is none. -/
theorem lineText?_garbled (hnoText : ∀ text, content ≠ Bytes.ofString text) :
    lineText? (content ++ [Bytes.lf]) = none := by
  rw [Option.eq_none_iff_forall_ne_some]
  intro text htext
  unfold lineText? at htext
  dsimp only at htext
  rw [List.dropLast_concat] at htext
  split at htext
  · next hreturn =>
    obtain ⟨front, rfl⟩ := List.getLast?_eq_some_iff.1 hreturn
    rw [List.dropLast_concat, Utf8.decode?_eq_some_iff] at htext
    refine hnoText (text ++ "\r") ?_
    rw [htext, Bytes.ofString_append]
    rfl
  · exact hnoText text (Utf8.decode?_eq_some_iff.1 htext)

/-- Where none is seen, that is an error. -/
theorem peekLine_whole {r : Reader} (hfits : r.Fits)
    (hwhole : Bytes.lf ∉ r.ahead.take r.capacity) :
    ∃ q, Reader.Passed 0 r q ∧ peekLine r =
      .error (if r.capacity ≤ r.ahead.length then .failed (.http .headersTooLong)
        else r.inflow.ending.halt (.io .eof)) q := by
  have hends := looks_awaitLine.ends rfl hfits
  unfold Reader.lookAhead at hends
  rw [lookLine_whole hwhole] at hends
  by_cases hfull : r.capacity ≤ r.ahead.length
  · rw [if_pos hfull] at hends ⊢
    obtain ⟨q, hawait, hpassed⟩ := hends
    exact ⟨q, hpassed, by rw [peekLine, hawait]⟩
  · rw [if_neg hfull] at hends ⊢
    obtain ⟨q, hawait, hpassed⟩ := hends
    exact ⟨q, hpassed, by rw [peekLine, hawait]⟩

/-- **Looking for a line comes to what there is to see**, and passes nothing. -/
theorem ends_peekLine {r : Reader} {outcome : Except (Halt Error) (String × Nat)} (hfits : r.Fits)
    (h : Sight r.capacity r.inflow.ending r.ahead outcome) : Reader.Ends peekLine r 0 outcome := by
  cases h with
  | line shown isLine =>
    obtain ⟨hline, htext⟩ := isTextLine_iff.1 isLine
    obtain ⟨q, hpassed, hpeek⟩ := peekLine_shown hfits hline shown
    rw [htext] at hpeek
    exact ⟨q, hpeek, hpassed⟩
  | garbled shown whole noText =>
    obtain ⟨q, hpassed, hpeek⟩ := peekLine_shown hfits ⟨_, rfl, whole⟩ shown
    rw [lineText?_garbled noText] at hpeek
    exact ⟨q, hpeek, hpassed⟩
  | tooLong full whole =>
    obtain ⟨q, hpassed, hpeek⟩ := peekLine_whole hfits whole
    rw [if_pos full] at hpeek
    exact ⟨q, hpeek, hpassed⟩
  | ended short whole halts =>
    obtain ⟨q, hpassed, hpeek⟩ :=
      peekLine_whole hfits fun hin => whole (List.mem_of_mem_take hin)
    rw [if_neg (Nat.not_le_of_lt short), halts] at hpeek
    exact ⟨q, hpeek, hpassed⟩

/-- **There is nothing else to see than what looking comes to.** -/
theorem outcome_peekLine {r : Reader} {outcome : Except (Halt Error) (String × Nat)}
    (hfits : r.Fits) :
    Act.outcome peekLine r = outcome ↔ Sight r.capacity r.inflow.ending r.ahead outcome := by
  constructor
  · rintro rfl
    obtain ⟨outcome, hsight⟩ := exists_sight r.capacity r.inflow.ending r.ahead
    rwa [(ends_peekLine hfits hsight).outcome.1]
  · intro hsight
    exact (ends_peekLine hfits hsight).outcome.1

/-! ## 3. What the bytes ahead decide -/

/-- What stands at the end of a stream is no fault of the line. -/
theorem halt_ne_failed {error : Error} (h : ∀ fault, error ≠ .io fault) :
    ending.halt (.io .eof) ≠ .failed error := by
  intro halts
  cases ending <;> cases halts <;> exact h _ rfl

/-- Reading a line in place goes by the bytes that the buffer can hold, of those in it and those on
the stream, however they are cut. -/
structure SeesLine (r : Reader) : Prop where
  /-- What is returned is the text of a line, without what ends it, and the length with that. -/
  line : ∀ text n, Act.outcome peekLine r = .ok (text, n) ↔
    ∃ line, line <+: r.ahead.take r.capacity ∧ IsTextLine text line ∧ line.length = n
  /-- Something is returned exactly if there is a line feed, and a text in front of the first. -/
  found : (∃ p, Act.outcome peekLine r = .ok p) ↔
    ∃ text rest, r.ahead.take r.capacity = Bytes.ofString text ++ Bytes.lf :: rest ∧
      Bytes.lf ∉ Bytes.ofString text
  /-- If there is none in front of it, that is the failure. -/
  garbled : Act.outcome peekLine r = .error (.failed .invalidUtf8) ↔
    ∃ content rest, r.ahead.take r.capacity = content ++ Bytes.lf :: rest ∧
      Bytes.lf ∉ content ∧ ∀ text, content ≠ Bytes.ofString text
  /-- So is a buffer's fill of bytes without a line feed. -/
  tooLong : Act.outcome peekLine r = .error (.failed (.http .headersTooLong)) ↔
    r.capacity ≤ r.ahead.length ∧ Bytes.lf ∉ r.ahead.take r.capacity
  /-- And so is the end of the stream in front of both. -/
  early : Act.outcome peekLine r = .error (.failed (.io .eof)) ↔
    (r.ahead.length < r.capacity ∧ Bytes.lf ∉ r.ahead) ∧
      (r.inflow.ending = .eof ∨ r.inflow.ending = .fault .eof)
  /-- What stands at the end of the stream instead is passed on. -/
  ended : r.ahead.length < r.capacity → Bytes.lf ∉ r.ahead →
    Act.outcome peekLine r = .error (r.inflow.ending.halt (.io .eof))
  /-- Only behind a stream that does not end is there something to wait for. -/
  waits : Act.outcome peekLine r = .error .stalled ↔
    (r.ahead.length < r.capacity ∧ Bytes.lf ∉ r.ahead) ∧ r.inflow.ending = .hang
  /-- Nothing is consumed. -/
  kept : (Act.after peekLine r).ahead = r.ahead
  /-- Nothing is taken off the stream that the buffer does not hold. -/
  held : (Act.after peekLine r).unread.length ≤ r.capacity
  /-- And nothing beyond is looked at. -/
  blind : ∀ r' : Reader, r'.Fits → r'.capacity = r.capacity →
    r'.ahead.take r.capacity = r.ahead.take r.capacity →
    (r.capacity ≤ r.ahead.length ∨ r'.inflow.ending = r.inflow.ending) →
    Act.outcome peekLine r' = Act.outcome peekLine r

/-- **The first line is read in place exactly if the buffer can hold it and it is text.**  This
holds of a buffer of any capacity, whatever it holds already, and of every stream. -/
theorem peekLine_seesLine {r : Reader} (hfits : r.Fits) : SeesLine r where
  line text n := by
    rw [outcome_peekLine hfits]
    constructor
    · intro h
      cases h with
      | line shown isLine => exact ⟨_, shown, isLine, rfl⟩
    · rintro ⟨line, hshown, hline, rfl⟩
      exact .line hshown hline
  found := by
    simp only [outcome_peekLine hfits]
    constructor
    · rintro ⟨p, hsight⟩
      cases hsight with
      | line shown isLine =>
        obtain ⟨inner, rfl, hwhole⟩ := isLine.exists_content
        obtain ⟨rest, hrest⟩ := shown
        exact ⟨inner, rest, by simp [← hrest], hwhole⟩
    · rintro ⟨text, rest, hsplit, hwhole⟩
      obtain ⟨inner, hline⟩ := exists_isTextLine hwhole
      exact ⟨_, .line ⟨rest, by simp [hsplit]⟩ hline⟩
  garbled := by
    rw [outcome_peekLine hfits]
    constructor
    · intro h
      cases h with
      | garbled shown whole noText =>
        obtain ⟨rest, hrest⟩ := shown
        exact ⟨_, rest, by simp [← hrest], whole, noText⟩
      | ended short whole halts => exact absurd halts (halt_ne_failed nofun)
    · rintro ⟨content, rest, hsplit, hwhole, hnoText⟩
      exact .garbled ⟨rest, by simp [hsplit]⟩ hwhole hnoText
  tooLong := by
    rw [outcome_peekLine hfits]
    constructor
    · intro h
      cases h with
      | tooLong full whole => exact ⟨full, whole⟩
      | ended short whole halts => exact absurd halts (halt_ne_failed nofun)
    · rintro ⟨hfull, hwhole⟩
      exact .tooLong hfull hwhole
  early := by
    rw [outcome_peekLine hfits]
    constructor
    · intro h
      cases h with
      | ended short whole halts =>
        refine ⟨⟨short, whole⟩, ?_⟩
        generalize r.inflow.ending = ending at halts ⊢
        cases ending with
        | eof => exact .inl rfl
        | hang => cases halts
        | fault error => cases halts; exact .inr rfl
    · rintro ⟨⟨hshort, hwhole⟩, hend | hend⟩ <;> exact .ended hshort hwhole (by rw [hend]; rfl)
  ended hshort hwhole := (outcome_peekLine hfits).2 (.ended hshort hwhole rfl)
  waits := by
    rw [outcome_peekLine hfits]
    constructor
    · intro h
      cases h with
      | ended short whole halts =>
        refine ⟨⟨short, whole⟩, ?_⟩
        generalize r.inflow.ending = ending at halts ⊢
        cases ending <;> cases halts
        rfl
    · rintro ⟨⟨hshort, hwhole⟩, hend⟩
      exact .ended hshort hwhole (by rw [hend]; rfl)
  kept := by
    obtain ⟨outcome, hsight⟩ := exists_sight r.capacity r.inflow.ending r.ahead
    exact (ends_peekLine hfits hsight).outcome.2.ahead
  held := by
    obtain ⟨outcome, hsight⟩ := exists_sight r.capacity r.inflow.ending r.ahead
    have hpassed := (ends_peekLine hfits hsight).outcome.2
    rw [← hpassed.capacity]
    exact hpassed.fits hfits
  blind r' hfits' hcap htake hending := by
    rw [outcome_peekLine hfits', hcap]
    exact ((outcome_peekLine hfits).1 rfl).congr htake hending

/-- A small buffer that holds a part of a line. -/
def partLine : Reader := ⟨6, 2, Bytes.ofString "ab", ⟨[[99, 13], [10, 255]], .eof⟩⟩

theorem peekLine_partLine : partLine.Fits ∧
    Act.outcome peekLine partLine = .ok ("abc", 5) ∧
    (Act.after peekLine partLine).ahead = partLine.ahead := by
  have hfits : partLine.Fits := show 2 ≤ 6 by decide
  have hsees := peekLine_seesLine hfits
  exact ⟨hfits, (hsees.line "abc" 5).2 ⟨textLine "abc", by decide, .crlf (by decide), by decide⟩,
    hsees.kept⟩

end Http

end UrlTransfer
