/-
# Lines in a stream

A line ends with its first line feed, wherever the stream is cut.  Looking for it goes on as long
as the buffer has room, so what is found is the line of the stream and not of the buffer
(`lineLength?_append`): dropping a line drops it from the stream (`computes_skipLine`), and a line
that fits into the buffer is seen as a whole (`awaitLine_line`).

Header fields are lines.  `HeaderLines` says which bytes are a block of them, up to the empty line
behind the last one.  A block is taken exactly as far as it goes (`takeFields_iff`), which says in
one what is returned and what stays ahead.
-/
import UrlTransfer.Http.Line
import UrlTransfer.Http.Body
import UrlTransfer.Proofs.Keeping
import UrlTransfer.Proofs.Stream.Parsing

namespace UrlTransfer

namespace Http

/-! ## 1. The first line of a byte string -/

/-- A line with the line feed that ends it. -/
def IsLine (line : Bytes) : Prop := ∃ text, line = text ++ [Bytes.lf] ∧ Bytes.lf ∉ text

theorem lineLength?_none {bytes : Bytes} : lineLength? bytes = none ↔ Bytes.lf ∉ bytes := by
  unfold lineLength?
  rw [Option.map_eq_none_iff, List.idxOf?_eq_none_iff]

/-- What follows the first line does not matter for it. -/
theorem lineLength?_append {bytes : Bytes} {n : Nat} (h : lineLength? bytes = some n)
    (rest : Bytes) : lineLength? (bytes ++ rest) = some n := by
  unfold lineLength? List.idxOf? at h ⊢
  obtain ⟨i, hi, rfl⟩ := Option.map_eq_some_iff.1 h
  rw [List.findIdx?_append, hi]
  rfl

/-- What stands before the first line feed belongs to the line. -/
theorem lineLength?_append_none {bytes : Bytes} (h : lineLength? bytes = none) (rest : Bytes) :
    lineLength? (bytes ++ rest) = (lineLength? rest).map (· + bytes.length) := by
  unfold lineLength? List.idxOf? at h ⊢
  rw [List.findIdx?_append, Option.map_eq_none_iff.1 h]
  cases rest.findIdx? (· == Bytes.lf) with
  | none => rfl
  | some i => simp; omega

theorem IsLine.lineLength? {line : Bytes} (h : IsLine line) (rest : Bytes) :
    lineLength? (line ++ rest) = some line.length := by
  obtain ⟨text, rfl, htext⟩ := h
  refine lineLength?_append ?_ rest
  rw [lineLength?_append_none (lineLength?_none.2 htext)]
  simp [Http.lineLength?, List.idxOf?_singleton, Nat.add_comm]

/-- **Every byte string with a line feed starts with a line.** -/
theorem isLine_of_lineLength? {bytes : Bytes} {n : Nat} (h : lineLength? bytes = some n) :
    IsLine (bytes.take n) ∧ n ≤ bytes.length := by
  unfold Http.lineLength? at h
  obtain ⟨i, hi, rfl⟩ := Option.map_eq_some_iff.1 h
  obtain ⟨hlt, hlf, hbefore⟩ := List.findIdx?_eq_some_iff_getElem.1 hi
  refine ⟨⟨bytes.take i, ?_, ?_⟩, hlt⟩
  · rw [List.take_succ_eq_append_getElem hlt]
    congr 2
    simpa using hlf
  · intro hmem
    obtain ⟨j, hj, hj'⟩ := List.mem_take_iff_getElem.1 hmem
    have := hbefore j (by omega)
    simp_all

/-! ## 2. Dropping a line -/

/-- Drops a line. -/
def skipParser : Parser Unit := fun bytes =>
  match lineLength? bytes with
  | some n => .ok ((), bytes.drop n)
  | none => .error .partialFile

theorem skipLine_more {r r' : Reader} {k : Nat} (hline : lineLength? r.unread = none)
    (hfill : r.discard.fill = .ok (k + 1) r') : skipLine r = skipLine r' := by
  rw [skipLine, hline]
  dsimp only
  split <;> rename_i h <;> rw [hfill] at h <;> cases h
  rfl

theorem skipLine_end {r r' : Reader} (hline : lineLength? r.unread = none)
    (hfill : r.discard.fill = .ok 0 r') : skipLine r = .error (.failed .partialFile) r' := by
  rw [skipLine, hline]
  dsimp only
  split <;> rename_i h <;> rw [hfill] at h <;> cases h
  rfl

variable {capacity : Nat}

theorem skipLine_run {r : Reader} (hroom : 0 < capacity)
    (hmem : (Readers.holding capacity).mem r) :
    match lineLength? r.ahead with
    | some n => ∃ r', skipLine r = .ok () r' ∧ Reader.Passed n r r'
    | none => ∃ r', skipLine r = .error (.failed .partialFile) r' := by
  induction hsize : r.inflow.size using Nat.strongRecOn generalizing r with
  | ind size ih =>
    cases hline : lineLength? r.unread with
    | some n =>
      rw [Reader.ahead, lineLength?_append hline]
      refine ⟨r.consume n, ?_, Reader.consume_passed (lineLength?_le hline).2⟩
      rw [skipLine, hline]
    | none =>
      rw [Reader.ahead, lineLength?_append_none hline]
      have hdiscard := Reader.discard_passed r
      have hmem' := (Readers.holding capacity).stays hdiscard hmem
      rcases Readers.fill_cases hmem' hroom with
        ⟨hrest, r', hfill, -⟩ | ⟨k, r', hfill, hpassed, hmem'', hless⟩
      · rw [show r.inflow.rest = [] from hrest]
        exact ⟨r', skipLine_end hline hfill⟩
      · have hahead : r'.ahead = r.inflow.rest := hpassed.ahead
        have hrun := ih _ (by rw [← hsize]; exact hless) hmem'' rfl
        rw [hahead] at hrun
        rw [skipLine_more hline hfill]
        cases hnext : lineLength? r.inflow.rest with
        | none =>
          rw [hnext] at hrun
          exact hrun
        | some n =>
          rw [hnext] at hrun
          obtain ⟨r'', hskip, hpassed'⟩ := hrun
          have hall := (hdiscard.trans hpassed).trans hpassed'
          rw [show r.unread.length + 0 + n = n + r.unread.length by omega] at hall
          exact ⟨r'', hskip, hall⟩

/-- **Dropping a line of the buffer, however often it is filled, drops a line of the stream.** -/
theorem computes_skipLine (hroom : 0 < capacity) :
    (Readers.holding capacity).Computes skipLine skipParser := by
  refine .of_run fun r hmem => ?_
  have hrun := skipLine_run hroom hmem
  unfold skipParser
  cases hline : lineLength? r.ahead with
  | none =>
    rw [hline] at hrun
    exact hrun
  | some n =>
    rw [hline] at hrun
    obtain ⟨r', hskip, hpassed⟩ := hrun
    exact ⟨n, r', hskip, hpassed, rfl⟩

/-! ## 3. Header fields -/

/-- Finds a line that fits into the buffer, and leaves it. -/
def awaitParser (capacity : Nat) : Parser Nat := fun bytes =>
  match lineLength? bytes with
  | some n => if n ≤ capacity then .ok (n, bytes) else .error (.http .headersTooLong)
  | none => .error (if capacity ≤ bytes.length then .http .headersTooLong else .io .eof)

theorem awaitLine_more {r r' : Reader} {k : Nat} (hline : lineLength? r.unread = none)
    (hfill : r.fill = .ok (k + 1) r') : awaitLine r = awaitLine r' := by
  rw [awaitLine, hline]
  dsimp only
  split <;> rename_i h <;> rw [hfill] at h <;> cases h
  rfl

theorem awaitLine_end {r r' : Reader} (hline : lineLength? r.unread = none)
    (hfill : r.fill = .ok 0 r') :
    awaitLine r = if r'.unread.length = r'.capacity then
      .error (.failed (.http .headersTooLong)) r' else .error (.failed (.io .eof)) r' := by
  rw [awaitLine, hline]
  dsimp only
  split <;> rename_i h <;> rw [hfill] at h <;> cases h
  rfl

/-- A line that does not end in a full buffer is too long. -/
theorem awaitParser_full {bytes : Bytes} (hline : lineLength? bytes = none)
    (hfull : bytes.length = capacity) (rest : Bytes) :
    awaitParser capacity (bytes ++ rest) = .error (.http .headersTooLong) := by
  unfold awaitParser
  rw [lineLength?_append_none hline]
  cases hrest : lineLength? rest with
  | none =>
    dsimp only [Option.map_none]
    rw [if_pos (by rw [List.length_append]; omega)]
  | some n =>
    have := (lineLength?_le hrest).1
    dsimp only [Option.map_some]
    rw [if_neg (by omega)]

theorem awaitLine_run {r : Reader} (hmem : (Readers.holding capacity).mem r) :
    match awaitParser capacity r.ahead with
    | .ok (n, _) => ∃ r', awaitLine r = .ok n r' ∧ Reader.Passed 0 r r' ∧ n ≤ r'.unread.length
    | .error e => ∃ r', awaitLine r = .error (.failed e) r' := by
  induction hsize : r.inflow.size using Nat.strongRecOn generalizing r with
  | ind size ih =>
    have hfits : r.unread.length ≤ capacity := by
      rw [← hmem.2.1]
      exact hmem.2.2
    cases hline : lineLength? r.unread with
    | some n =>
      have hn := (lineLength?_le hline).2
      unfold awaitParser
      rw [Reader.ahead, lineLength?_append hline]
      dsimp only
      rw [if_pos (by omega)]
      refine ⟨r, ?_, .refl r, hn⟩
      rw [awaitLine, hline]
    | none =>
      rcases Nat.eq_or_lt_of_le hfits with hfull | hspace
      · have hfill : r.fill = .ok 0 r.compact := if_pos (hfull.trans hmem.2.1.symm)
        have hfull' : r.compact.unread.length = r.compact.capacity := hfull.trans hmem.2.1.symm
        rw [Reader.ahead, awaitParser_full hline hfull, awaitLine_end hline hfill, if_pos hfull']
        exact ⟨_, rfl⟩
      · rcases Readers.fill_cases hmem hspace with
          ⟨hrest, r', hfill, hunread, hcap⟩ | ⟨k, r', hfill, hpassed, hmem', hless⟩
        · have hahead : r.ahead = r.unread := by rw [Reader.ahead, hrest, List.append_nil]
          rw [awaitLine_end hline hfill, if_neg (by rw [hunread, hcap]; omega)]
          unfold awaitParser
          rw [hahead, hline]
          dsimp only
          rw [if_neg (by omega)]
          exact ⟨r', rfl⟩
        · have hrun := ih _ (by rw [← hsize]; exact hless) hmem' rfl
          rw [awaitLine_more hline hfill]
          rw [show r'.ahead = r.ahead from hpassed.ahead] at hrun
          cases hparse : awaitParser capacity r.ahead with
          | error e =>
            rw [hparse] at hrun
            exact hrun
          | ok p =>
            rw [hparse] at hrun
            obtain ⟨r'', hawait, hpassed', hn⟩ := hrun
            exact ⟨r'', hawait, hpassed.trans hpassed', hn⟩

/-- Takes a header field, or the empty line behind the last one. -/
def fieldParser (capacity : Nat) : Parser (Option Field) := fun bytes =>
  match awaitParser capacity bytes with
  | .error e => .error e
  | .ok (n, _) =>
    match lineText? (bytes.take n) with
    | none => .error .invalidUtf8
    | some text =>
      if text.isEmpty then .ok (none, bytes.drop n)
      else
        match parseLine text with
        | .ok (name, value) => .ok (some ⟨name, value, n⟩, bytes.drop n)
        | .error fault => .error (.http fault)

/-- **Taking a header field takes its line off the stream.** -/
theorem computes_takeField :
    (Readers.holding capacity).Computes takeField (fieldParser capacity) := by
  refine .of_run fun r hmem => ?_
  have hrun := awaitLine_run hmem
  unfold fieldParser takeField peekLine
  cases hparse : awaitParser capacity r.ahead with
  | error e =>
    rw [hparse] at hrun
    obtain ⟨r', hawait⟩ := hrun
    rw [hawait]
    exact ⟨r', rfl⟩
  | ok p =>
    obtain ⟨n, _⟩ := p
    rw [hparse] at hrun
    obtain ⟨r', hawait, hpassed, hn⟩ := hrun
    have htake : r'.unread.take n = r.ahead.take n := by
      rw [← show r'.ahead = r.ahead from hpassed.ahead, Reader.ahead,
        List.take_append_of_le_length hn]
    have hconsumed : Reader.Passed n r (r'.consume n) := by
      have hboth := hpassed.trans (Reader.consume_passed hn)
      rw [Nat.zero_add] at hboth
      exact hboth
    rw [hawait]
    dsimp only
    rw [htake]
    cases lineText? (r.ahead.take n) with
    | none => exact ⟨r', rfl⟩
    | some text =>
      dsimp only
      by_cases hempty : text.isEmpty
      · rw [if_pos hempty, if_pos hempty]
        exact ⟨n, _, rfl, hconsumed, rfl⟩
      · rw [if_neg hempty, if_neg hempty]
        cases parseLine text with
        | error fault => exact ⟨r', rfl⟩
        | ok header => exact ⟨n, _, rfl, hconsumed, rfl⟩

/-! ## 4. Blocks of header fields -/

/-- The line of a header field. -/
structure IsFieldLine (capacity : Nat) (line : Bytes) (field : Field) : Prop where
  isLine : IsLine line
  fits : line.length ≤ capacity
  text : ∃ text, lineText? line = some text ∧ text.isEmpty = false ∧
    parseLine text = .ok (field.name, field.value)
  size : field.size = line.length

/-- Lines of header fields, and an empty line behind them; **every line fits into the buffer**. -/
inductive HeaderLines (capacity : Nat) : Bytes → List Field → Prop where
  | blank {line : Bytes} : IsLine line → line.length ≤ capacity → lineText? line = some "" →
      HeaderLines capacity line []
  | field {line lines : Bytes} {field : Field} {fields : List Field} :
      IsFieldLine capacity line field → HeaderLines capacity lines fields →
      HeaderLines capacity (line ++ lines) (field :: fields)

theorem awaitParser_line {line : Bytes} (hline : IsLine line) (hfits : line.length ≤ capacity)
    (rest : Bytes) : awaitParser capacity (line ++ rest) = .ok (line.length, line ++ rest) := by
  unfold awaitParser
  rw [hline.lineLength?]
  exact if_pos hfits

theorem awaitParser_ok {bytes more : Bytes} {n : Nat}
    (h : awaitParser capacity bytes = .ok (n, more)) :
    IsLine (bytes.take n) ∧ (bytes.take n).length = n ∧ n ≤ capacity := by
  unfold awaitParser at h
  split at h
  · next hline =>
    split at h
    · next hfits =>
      cases h
      obtain ⟨hisLine, hle⟩ := isLine_of_lineLength? hline
      exact ⟨hisLine, List.length_take_of_le hle, hfits⟩
    · cases h
  · cases h

/-- The block ends with the empty line. -/
theorem fieldParser_blank {line : Bytes} (hline : IsLine line) (hfits : line.length ≤ capacity)
    (htext : lineText? line = some "") (rest : Bytes) :
    fieldParser capacity (line ++ rest) = .ok (none, rest) := by
  unfold fieldParser
  rw [awaitParser_line hline hfits]
  dsimp only
  rw [List.take_left, htext, List.drop_left]
  rfl

/-- A field is taken off with its line. -/
theorem fieldParser_field {line : Bytes} {field : Field}
    (hline : IsFieldLine capacity line field) (rest : Bytes) :
    fieldParser capacity (line ++ rest) = .ok (some field, rest) := by
  obtain ⟨text, htext, hempty, hparse⟩ := hline.text
  unfold fieldParser
  rw [awaitParser_line hline.isLine hline.fits]
  dsimp only
  rw [List.take_left, htext, List.drop_left]
  dsimp only
  rw [if_neg (by simp [hempty]), hparse, ← hline.size]

/-- **What is taken off is a line of one of the two kinds.** -/
theorem fieldParser_ok {bytes rest : Bytes} {o : Option Field}
    (h : fieldParser capacity bytes = .ok (o, rest)) :
    ∃ line, bytes = line ++ rest ∧
      match o with
      | none => HeaderLines capacity line []
      | some field => IsFieldLine capacity line field := by
  unfold fieldParser at h
  split at h
  · cases h
  · next n more hawait =>
    obtain ⟨hline, hlength, hfits⟩ := awaitParser_ok hawait
    refine ⟨bytes.take n, ?_⟩
    split at h
    · cases h
    · next text htext =>
      split at h
      · next hempty =>
        cases h
        refine ⟨(List.take_append_drop n bytes).symm, .blank hline (by omega) ?_⟩
        rw [htext, String.isEmpty_iff.1 hempty]
      · next hempty =>
        split at h
        · next hparse =>
          cases h
          exact ⟨(List.take_append_drop n bytes).symm, hline, by omega,
            ⟨text, htext, by simpa using hempty, hparse⟩, hlength.symm⟩
        · cases h

/-- A table with more fields. -/
def addFields (headers : Headers) (fields : List Field) : Headers :=
  fields.foldl (fun headers field => headers.append field.name field.value) headers

theorem takeFields_done {r r' : Reader} (h : takeField r = .ok none r') (headers : Headers) :
    takeFields none (r, headers) = .ok () (r', headers) := by
  rw [takeFields]
  split <;> rename_i h' <;> rw [h] at h' <;> cases h'
  rfl

theorem takeFields_more {r r' : Reader} {field : Field} (h : takeField r = .ok (some field) r')
    (headers : Headers) :
    takeFields none (r, headers) = takeFields none (r', headers.append field.name field.value) := by
  rw [takeFields]
  split <;> rename_i h' <;> rw [h] at h' <;> cases h'
  rfl

theorem takeFields_error {r r' : Reader} {halt : Halt Error} (h : takeField r = .error halt r')
    (headers : Headers) : takeFields none (r, headers) = .error halt (r', headers) := by
  rw [takeFields]
  split <;> rename_i h' <;> rw [h] at h' <;> cases h'
  rfl

/-- A block in front is taken. -/
theorem takeFields_of_lines {lines : Bytes} {fields : List Field}
    (h : HeaderLines capacity lines fields) {r : Reader} {rest : Bytes}
    (hmem : (Readers.holding capacity).mem r) (hahead : r.ahead = lines ++ rest)
    (headers : Headers) :
    ∃ r', takeFields none (r, headers) = .ok () (r', addFields headers fields) ∧
      r'.ahead = rest := by
  induction h generalizing r headers with
  | blank hline hfits htext =>
    obtain ⟨r', htake, hrest, -⟩ := computes_takeField.ok hmem
      (by rw [hahead]; exact fieldParser_blank hline hfits htext rest)
    exact ⟨r', takeFields_done htake headers, hrest⟩
  | @field line lines field fields hline _ ih =>
    rw [List.append_assoc] at hahead
    obtain ⟨r', htake, hrest, hmem'⟩ := computes_takeField.ok hmem
      (by rw [hahead]; exact fieldParser_field hline (lines ++ rest))
    rw [takeFields_more htake]
    exact ih hmem' hrest _

/-- What was taken was a block. -/
theorem lines_of_takeFields {r r' : Reader} {headers headers' : Headers}
    (hmem : (Readers.holding capacity).mem r)
    (h : takeFields none (r, headers) = .ok () (r', headers')) :
    ∃ lines fields, r.ahead = lines ++ r'.ahead ∧ HeaderLines capacity lines fields ∧
      headers' = addFields headers fields := by
  induction hsize : r.size using Nat.strongRecOn generalizing r headers with
  | ind size ih =>
    cases htake : takeField r with
    | error halt r1 => rw [takeFields_error htake] at h; cases h
    | ok o r1 =>
      obtain ⟨hparse, hmem1⟩ := computes_takeField.of_ok hmem htake
      obtain ⟨line, hahead, hline⟩ := fieldParser_ok hparse
      cases o with
      | none =>
        rw [takeFields_done htake] at h
        cases h
        exact ⟨line, [], hahead, hline, rfl⟩
      | some field =>
        rw [takeFields_more htake] at h
        have hless := size_takeField htake
        obtain ⟨lines, fields, hahead1, hlines, hheaders⟩ := ih _ (by omega) hmem1 h rfl
        refine ⟨line ++ lines, field :: fields, ?_, .field hline hlines, hheaders⟩
        rw [hahead, hahead1, List.append_assoc]

/-- **Exactly a block of header fields is taken**, and everything behind its empty line stays. -/
theorem takeFields_iff {r : Reader} (hmem : (Readers.holding capacity).mem r)
    (headers headers' : Headers) (rest : Bytes) :
    (∃ r', takeFields none (r, headers) = .ok () (r', headers') ∧ r'.ahead = rest) ↔
      ∃ lines fields, r.ahead = lines ++ rest ∧ HeaderLines capacity lines fields ∧
        headers' = addFields headers fields := by
  constructor
  · rintro ⟨r', htake, rfl⟩
    exact lines_of_takeFields hmem htake
  · rintro ⟨lines, fields, hahead, hlines, rfl⟩
    exact takeFields_of_lines hlines hmem hahead headers

/-! ## 5. Why a line is not taken -/

/-- The errors that taking lines and header fields can fail with. -/
inductive OfLine : Error → Prop where
  | io (fault : IoError) : OfLine (.io fault)
  | tooLong : OfLine (.http .headersTooLong)
  | notUtf8 : OfLine .invalidUtf8
  | name : OfLine (.http .invalidHeaderName)
  | value : OfLine (.http .invalidHeaderValue)

theorem ofLine_of_parseHeader {name value : String} {fault : HttpError}
    (h : parseHeader name value = .error fault) : OfLine (.http fault) := by
  unfold parseHeader at h
  split at h
  · cases h
  · cases h; exact .name
  · cases h; exact .value

theorem ofLine_of_parseLine {text : String} {fault : HttpError}
    (h : parseLine text = .error fault) : OfLine (.http fault) := by
  unfold parseLine at h
  split at h
  exact ofLine_of_parseHeader h

theorem failsWith_awaitLine : Act.FailsWith OfLine awaitLine := by
  intro r e r' h
  fun_induction awaitLine r with
  | case1 => cases h
  | case2 r _ halt r'' _ =>
    cases halt with
    | stalled => cases h
    | failed fault => cases h; exact .io fault
  | case3 => cases h; exact .tooLong
  | case4 => cases h; exact .io _
  | case5 _ _ _ _ _ ih => exact ih h

theorem failsWith_peekLine : Act.FailsWith OfLine peekLine := by
  intro r e r' h
  unfold peekLine at h
  split at h
  · next hawait => cases h; exact failsWith_awaitLine hawait
  · split at h
    · cases h
    · cases h; exact .notUtf8

theorem failsWith_takeLine : Act.FailsWith OfLine takeLine := by
  intro r e r' h
  unfold takeLine at h
  split at h
  · next hpeek => cases h; exact failsWith_peekLine hpeek
  · cases h

theorem failsWith_takeField : Act.FailsWith OfLine takeField := by
  intro r e r' h
  unfold takeField at h
  split at h
  · next hpeek => cases h; exact failsWith_peekLine hpeek
  · split at h
    · cases h
    · split at h
      · cases h
      · next hparse => cases h; exact ofLine_of_parseLine hparse

/-- **A block that is not taken is at fault in one of its lines**, or too long. -/
theorem failsWith_takeFields (limit : Option Nat) : Act.FailsWith OfLine (takeFields limit) := by
  intro p e p' h
  fun_induction takeFields limit p with
  | case1 _ _ _ _ _ hfield => cases h; exact failsWith_takeField hfield
  | case2 => cases h
  | case3 _ _ _ _ _ ih => exact ih h
  | case4 => cases h; exact .tooLong
  | case5 _ _ _ _ _ _ _ ih => exact ih h

end Http

end UrlTransfer
