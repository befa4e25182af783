/-
# Chunked bodies

Which byte strings are a chunked body is said here by a grammar, without a word about reading: a
size is up to sixteen digits (`IsSize`), the rest of its line is anything that does not go on with
a digit (`SizeLine`), and a body is a number of chunks (`DataChunks`) and the line of a size of
zero.  `Faulty` lists what else may stand behind the chunks, each with the error that it is.

Every byte string is of one of these forms (`chunks_total`), and at each of them reading to the end
does what the form says: it passes a chunk and brings its data (`passes_chunk`), it ends behind the
last size (`brings_last`), or it fails (`brings_faulty`).  That the forms exclude each other is not
proved on its own; it follows because reading can only do one thing.

The buffer has to hold one byte more than the digits of a size.  Nothing else is asked of it: where
the pieces of the stream are cut does not matter.
-/
import UrlTransfer.Proofs.Http.Due
import UrlTransfer.Proofs.Http.Lines
import UrlTransfer.Proofs.Text.Utf8

namespace UrlTransfer

namespace Http

/-! ## 1. Sizes -/

/-- The digits of a size. -/
structure IsSize (n : Nat) (digits : Bytes) : Prop where
  nonempty : digits ≠ []
  few : digits.length ≤ maxSizeDigits
  hex : ∀ b ∈ digits, isHexDigit b = true
  value : hexValue digits = n

/-- A size does not go on here. -/
def EndsSize (bytes : Bytes) : Prop := ∃ b rest, bytes = b :: rest ∧ isHexDigit b = false

theorem EndsSize.append {bytes : Bytes} (h : EndsSize bytes) (rest : Bytes) :
    EndsSize (bytes ++ rest) := by
  obtain ⟨b, more, rfl, hb⟩ := h
  exact ⟨b, more ++ rest, rfl, hb⟩

/-- How many digits the size in front has. -/
def sizeLength (bytes : Bytes) : Except Error Nat :=
  match (bytes.take (maxSizeDigits + 1)).findIdx? (!isHexDigit ·) with
  | some 0 => .error (.http .invalidChunkSize)
  | some n => .ok n
  | none => .error (if maxSizeDigits < bytes.length then .http .chunkTooLarge else .partialFile)

theorem findIdx?_digits {digits : Bytes} (h : ∀ b ∈ digits, isHexDigit b = true) :
    digits.findIdx? (!isHexDigit ·) = none := by
  rw [List.findIdx?_eq_none_iff]
  intro b hb
  rw [h b hb]
  rfl

/-- Digits that end are as many as stand there. -/
theorem sizeLength_digits {digits rest : Bytes} (hdigits : ∀ b ∈ digits, isHexDigit b = true)
    (hfew : digits.length ≤ maxSizeDigits) (hrest : EndsSize rest) :
    sizeLength (digits ++ rest) =
      if digits = [] then .error (.http .invalidChunkSize) else .ok digits.length := by
  obtain ⟨b, more, rfl, hb⟩ := hrest
  obtain ⟨k, hk⟩ : ∃ k, maxSizeDigits + 1 - digits.length = k + 1 :=
    ⟨maxSizeDigits - digits.length, by omega⟩
  have hfind : ((digits ++ b :: more).take (maxSizeDigits + 1)).findIdx? (!isHexDigit ·) =
      some digits.length := by
    rw [List.take_append, List.take_of_length_le (by omega), hk, List.take_succ_cons,
      List.findIdx?_append, findIdx?_digits hdigits, List.findIdx?_cons, hb]
    simp
  unfold sizeLength
  rw [hfind]
  cases digits <;> rfl

/-- More digits than a size can have. -/
theorem sizeLength_tooLarge {digits : Bytes} (hdigits : ∀ b ∈ digits, isHexDigit b = true)
    (hmany : digits.length = maxSizeDigits + 1) (rest : Bytes) :
    sizeLength (digits ++ rest) = .error (.http .chunkTooLarge) := by
  unfold sizeLength
  rw [← hmany, List.take_left, findIdx?_digits hdigits]
  dsimp only
  rw [if_pos (by rw [List.length_append]; omega)]

/-- Digits that the end of the stream cuts short. -/
theorem sizeLength_cut {digits : Bytes} (hdigits : ∀ b ∈ digits, isHexDigit b = true)
    (hfew : digits.length ≤ maxSizeDigits) :
    sizeLength digits = .error .partialFile := by
  unfold sizeLength
  rw [List.take_of_length_le (by omega), findIdx?_digits hdigits]
  dsimp only
  rw [if_neg (by omega)]

/-- **Every byte string starts with some digits**: too many, or as many as there are bytes, or as
many as stand in front of another byte. -/
theorem digits_cases (bytes : Bytes) :
    ∃ digits rest, bytes = digits ++ rest ∧ (∀ b ∈ digits, isHexDigit b = true) ∧
      (digits.length = maxSizeDigits + 1 ∨
        digits.length ≤ maxSizeDigits ∧ (rest = [] ∨ EndsSize rest)) := by
  have hdigits : ∀ b ∈ bytes.takeWhile isHexDigit, isHexDigit b = true :=
    List.all_eq_true.1 List.all_takeWhile
  by_cases hmany : maxSizeDigits < (bytes.takeWhile isHexDigit).length
  · refine ⟨(bytes.takeWhile isHexDigit).take (maxSizeDigits + 1),
      (bytes.takeWhile isHexDigit).drop (maxSizeDigits + 1) ++ bytes.dropWhile isHexDigit,
      ?_, fun b hb => hdigits b (List.mem_of_mem_take hb), .inl (List.length_take_of_le hmany)⟩
    rw [← List.append_assoc, List.take_append_drop, List.takeWhile_append_dropWhile]
  · refine ⟨bytes.takeWhile isHexDigit, bytes.dropWhile isHexDigit,
      List.takeWhile_append_dropWhile.symm, hdigits, .inr ⟨Nat.not_lt.1 hmany, ?_⟩⟩
    have hhead := List.head?_dropWhile_not isHexDigit bytes
    cases hrest : bytes.dropWhile isHexDigit with
    | nil => exact .inl rfl
    | cons b more =>
      rw [hrest] at hhead
      exact .inr ⟨b, more, rfl, by simpa using hhead⟩

/-- **What is known of a size stays known.** -/
theorem sizeLength_append {bytes : Bytes} (h : sizeLength bytes ≠ .error .partialFile)
    (rest : Bytes) : sizeLength (bytes ++ rest) = sizeLength bytes := by
  rcases digits_cases bytes with ⟨digits, more, rfl, hhex, hmany | ⟨hfew, rfl | hends⟩⟩
  · rw [List.append_assoc, sizeLength_tooLarge hhex hmany, sizeLength_tooLarge hhex hmany]
  · rw [List.append_nil, sizeLength_cut hhex hfew] at h
    exact absurd rfl h
  · rw [List.append_assoc, sizeLength_digits hhex hfew hends,
      sizeLength_digits hhex hfew (hends.append rest)]

/-- More bytes are asked for only where a few are there. -/
theorem length_of_sizeLength {bytes : Bytes} (h : sizeLength bytes = .error .partialFile) :
    bytes.length ≤ maxSizeDigits := by
  unfold sizeLength at h
  split at h
  · cases h
  · cases h
  · split at h
    · cases h
    · next hfew => exact Nat.not_lt.1 hfew

theorem sizeLength_le {bytes : Bytes} {n : Nat} (h : sizeLength bytes = .ok n) :
    n ≤ bytes.length := by
  unfold sizeLength at h
  split at h
  · cases h
  · next hfind =>
    cases h
    obtain ⟨hlt, -⟩ := List.findIdx?_eq_some_iff_getElem.1 hfind
    rw [List.length_take] at hlt
    omega
  · cases h

/-! ## 2. The grammar -/

/-- The line of a size, with anything behind the size that is no digit. -/
inductive SizeLine (n : Nat) : Bytes → Prop where
  | mk {digits tail : Bytes} : IsSize n digits → EndsSize tail → IsLine tail →
      SizeLine n (digits ++ tail)

/-- Chunks of data, and the data. -/
inductive DataChunks : Bytes → Bytes → Prop where
  | nil : DataChunks [] []
  | cons {n : Nat} {line data chunks more : Bytes} : SizeLine n line → n ≠ 0 →
      data.length = n → DataChunks chunks more →
      DataChunks (line ++ data ++ Bytes.crlf ++ chunks) (data ++ more)

/-- Bytes behind the chunks that are no chunk, and what is wrong with them. -/
inductive Faulty : Bytes → Error → Prop where
  /-- A size has more than sixteen digits. -/
  | tooLarge {digits rest : Bytes} : (∀ b ∈ digits, isHexDigit b = true) →
      digits.length = maxSizeDigits + 1 → Faulty (digits ++ rest) (.http .chunkTooLarge)
  /-- A size has no digit. -/
  | noSize {bytes : Bytes} : EndsSize bytes → Faulty bytes (.http .invalidChunkSize)
  /-- The data are followed by two bytes that are no line end. -/
  | badEnd {n : Nat} {line data last rest : Bytes} : SizeLine n line → n ≠ 0 →
      data.length = n → last.length = 2 → last ≠ Bytes.crlf →
      Faulty (line ++ data ++ last ++ rest) (.http .invalidChunkEnd)
  /-- The stream ends within a size. -/
  | cutSize {digits : Bytes} : (∀ b ∈ digits, isHexDigit b = true) →
      digits.length ≤ maxSizeDigits → Faulty digits .partialFile
  /-- The stream ends within the rest of the line. -/
  | cutLine {n : Nat} {digits tail : Bytes} : IsSize n digits → EndsSize tail →
      Bytes.lf ∉ tail → Faulty (digits ++ tail) .partialFile
  /-- The stream ends within the data. -/
  | cutData {n : Nat} {line data : Bytes} : SizeLine n line → data.length < n →
      Faulty (line ++ data) .partialFile
  /-- The stream ends within the line end behind the data. -/
  | cutEnd {n : Nat} {line data last : Bytes} : SizeLine n line → n ≠ 0 → data.length = n →
      last.length < 2 → Faulty (line ++ data ++ last) .partialFile

/-- **Every byte string starts with the line of a size, or is faulty.** -/
theorem sizeLine_cases (bytes : Bytes) :
    (∃ n line rest, bytes = line ++ rest ∧ SizeLine n line) ∨ ∃ e, Faulty bytes e := by
  rcases digits_cases bytes with ⟨digits, rest, rfl, hhex, hmany | ⟨hfew, rfl | hends⟩⟩
  · exact .inr ⟨_, .tooLarge hhex hmany⟩
  · rw [List.append_nil]
    exact .inr ⟨_, .cutSize hhex hfew⟩
  · by_cases hnone : digits = []
    · rw [hnone]
      exact .inr ⟨_, .noSize hends⟩
    have hsize : IsSize (hexValue digits) digits := ⟨hnone, hfew, hhex, rfl⟩
    cases hline : lineLength? rest with
    | none => exact .inr ⟨_, .cutLine hsize hends (lineLength?_none.1 hline)⟩
    | some k =>
      obtain ⟨hisLine, -⟩ := isLine_of_lineLength? hline
      refine .inl ⟨_, digits ++ rest.take k, rest.drop k, ?_, .mk hsize ?_ hisLine⟩
      · rw [List.append_assoc, List.take_append_drop]
      · obtain ⟨b, more, rfl, hb⟩ := hends
        obtain ⟨j, rfl⟩ : ∃ j, k = j + 1 := ⟨k - 1, by have := (lineLength?_le hline).1; omega⟩
        exact ⟨b, more.take j, rfl, hb⟩

/-- The line of a size is not empty. -/
theorem SizeLine.length_pos {n : Nat} {line : Bytes} (h : SizeLine n line) : 0 < line.length := by
  obtain ⟨hsize, -, -⟩ := h
  rw [List.length_append]
  have := List.length_pos_iff.2 hsize.nonempty
  omega

/-- Bytes in front are there, or are cut short. -/
theorem split_cases (n : Nat) (bytes : Bytes) :
    bytes.length < n ∨ ∃ front rest, bytes = front ++ rest ∧ front.length = n := by
  by_cases h : bytes.length < n
  · exact .inl h
  · exact .inr ⟨bytes.take n, bytes.drop n, (List.take_append_drop n bytes).symm,
      List.length_take_of_le (Nat.not_lt.1 h)⟩

/-- Behind the line of a size stand the data and their line end, or there is a fault. -/
theorem data_cases {n : Nat} {line : Bytes} (hline : SizeLine n line) (hn : n ≠ 0)
    (rest : Bytes) :
    (∃ data more, rest = data ++ Bytes.crlf ++ more ∧ data.length = n) ∨
      ∃ e, Faulty (line ++ rest) e := by
  rcases split_cases n rest with hshort | ⟨data, rest, rfl, hdata⟩
  · exact .inr ⟨_, .cutData hline hshort⟩
  rcases split_cases 2 rest with hshort | ⟨last, rest, rfl, hlast⟩
  · rw [← List.append_assoc]
    exact .inr ⟨_, .cutEnd hline hn hdata hshort⟩
  by_cases hcrlf : last = Bytes.crlf
  · subst hcrlf
    exact .inl ⟨data, rest, (List.append_assoc _ _ _).symm, hdata⟩
  · rw [show line ++ (data ++ (last ++ rest)) = line ++ data ++ last ++ rest by
      simp only [List.append_assoc]]
    exact .inr ⟨_, .badEnd hline hn hdata hlast hcrlf⟩

/-- **Every byte string is chunks of data, and then the line of a size of zero or a fault.** -/
theorem chunks_total (bytes : Bytes) :
    ∃ chunks data rest, bytes = chunks ++ rest ∧ DataChunks chunks data ∧
      ((∃ line more, rest = line ++ more ∧ SizeLine 0 line) ∨ ∃ e, Faulty rest e) := by
  induction hlength : bytes.length using Nat.strongRecOn generalizing bytes with
  | ind length ih =>
    rcases sizeLine_cases bytes with ⟨n, line, rest, rfl, hline⟩ | hfault
    · by_cases hn : n = 0
      · subst hn
        exact ⟨[], [], _, rfl, .nil, .inl ⟨line, rest, rfl, hline⟩⟩
      · rcases data_cases hline hn rest with ⟨data, more, rfl, hdata⟩ | hfault
        · have hless : more.length < length := by
            have := hline.length_pos
            simp only [List.length_append] at hlength
            omega
          obtain ⟨chunks, data', rest', rfl, hchunks, hend⟩ := ih _ hless more rfl
          refine ⟨_, _, rest', ?_, hchunks.cons hline hn hdata, hend⟩
          simp only [List.append_assoc]
        · exact ⟨[], [], _, rfl, .nil, .inr hfault⟩
    · exact ⟨[], [], bytes, rfl, .nil, .inr hfault⟩

/-! ## 3. Sizes and line ends in a stream -/

/-- Takes a size. -/
def sizeParser : Parser Nat := fun bytes =>
  match sizeLength bytes with
  | .ok n => .ok (hexValue (bytes.take n), bytes.drop n)
  | .error e => .error e

/-- Takes a size and the rest of its line. -/
def sizeLineParser : Parser Nat := do
  let n ← sizeParser
  skipParser
  return n

/-- Takes the line end behind data. -/
def endParser : Parser Unit := fun bytes =>
  if bytes.length < 2 then .error .partialFile
  else if bytes.take 2 = Bytes.crlf then .ok ((), bytes.drop 2)
  else .error (.http .invalidChunkEnd)

variable {capacity : Nat}

/-- What the buffer shows of a size decides whether it is filled. -/
theorem awaitChunkSize_eq (r : Reader) :
    awaitChunkSize r =
      match sizeLength r.unread with
      | .ok n => .ok n r
      | .error .partialFile =>
        match r.fill with
        | .error halt r' => .error (halt.map .io) r'
        | .ok 0 r' => .error (.failed .partialFile) r'
        | .ok (_ + 1) r' => awaitChunkSize r'
      | .error e => .error (.failed e) r := by
  rw [awaitChunkSize]
  unfold sizeLength
  cases (r.unread.take (maxSizeDigits + 1)).findIdx? (!isHexDigit ·) with
  | some i => cases i <;> rfl
  | none =>
    dsimp only
    by_cases hmany : maxSizeDigits < r.unread.length
    · rw [if_pos hmany, if_pos hmany]
    · rw [if_neg hmany, if_neg hmany]
      cases r.fill with
      | error halt r' => rfl
      | ok k r' => cases k <;> rfl

/-- **The size is the one of the stream**, as soon as the buffer shows where it ends. -/
theorem awaitChunkSize_run {r : Reader} (hroom : maxSizeDigits < capacity)
    (hmem : (Readers.holding capacity).mem r) :
    match sizeLength r.ahead with
    | .ok n => ∃ r', awaitChunkSize r = .ok n r' ∧ Reader.Passed 0 r r' ∧ n ≤ r'.unread.length
    | .error e => ∃ r', awaitChunkSize r = .error (.failed e) r' := by
  -- On what has not arrived yet: a buffer that does not show the end of a size is filled.
  induction hlength : r.inflow.size using Nat.strongRecOn generalizing r with
  | ind size ih =>
    by_cases hsize : sizeLength r.unread = .error .partialFile
    · have hfew := Nat.lt_of_le_of_lt (length_of_sizeLength hsize) hroom
      rw [awaitChunkSize_eq, hsize]
      dsimp only
      rcases Readers.fill_cases hmem hfew with
        ⟨hrest, r', hfill, -⟩ | ⟨k, r', hfill, hpassed, hmem', hless⟩
      · rw [Reader.ahead, hrest, List.append_nil, hsize, hfill]
        exact ⟨r', rfl⟩
      · have hrun := ih _ (by rw [← hlength]; exact hless) hmem' rfl
        rw [hfill]
        rw [show r'.ahead = r.ahead from hpassed.ahead] at hrun
        cases hcount : sizeLength r.ahead with
        | error e =>
          rw [hcount] at hrun
          exact hrun
        | ok n =>
          rw [hcount] at hrun
          obtain ⟨r'', hawait, hpassed', hn⟩ := hrun
          exact ⟨r'', hawait, hpassed.trans hpassed', hn⟩
    · rw [Reader.ahead, sizeLength_append hsize, awaitChunkSize_eq]
      cases hcount : sizeLength r.unread with
      | ok n => exact ⟨r, rfl, .refl r, sizeLength_le hcount⟩
      | error e =>
        dsimp only
        split
        · next h => cases h
        · next h => rw [hcount, h] at hsize; exact absurd rfl hsize
        · next h => cases h; exact ⟨r, rfl⟩

/-- **Taking a size takes its digits off the stream.** -/
theorem computes_takeChunkSize (hroom : maxSizeDigits < capacity) :
    (Readers.holding capacity).Computes takeChunkSize sizeParser := by
  refine .of_run fun r hmem => ?_
  have hrun := awaitChunkSize_run hroom hmem
  unfold takeChunkSize sizeParser
  cases hcount : sizeLength r.ahead with
  | error e =>
    rw [hcount] at hrun
    obtain ⟨r', hawait⟩ := hrun
    rw [hawait]
    exact ⟨r', rfl⟩
  | ok n =>
    rw [hcount] at hrun
    obtain ⟨r', hawait, hpassed, hn⟩ := hrun
    rw [hawait, ← show r'.ahead = r.ahead from hpassed.ahead]
    have hconsumed := hpassed.trans (Reader.consume_passed hn)
    rw [Nat.zero_add] at hconsumed
    refine ⟨n, r'.consume n, ?_, hconsumed, ?_⟩
    · rw [Reader.ahead, List.take_append_of_le_length hn]
    · rw [show r'.ahead = r.ahead from hpassed.ahead]

/-- **Taking a line end takes two bytes off the stream.** -/
theorem computes_takeChunkEnd : (Readers.holding capacity).Computes takeChunkEnd endParser := by
  refine .of_run fun r hmem => ?_
  unfold takeChunkEnd endParser
  by_cases hshort : r.ahead.length < 2
  · rw [if_pos hshort]
    by_cases hnone : r.ahead = []
    · obtain ⟨r', hread, -⟩ := Reader.readExactly?_none (n := 2) (by decide) hnone hmem.1
      rw [hread]
      exact ⟨r', rfl⟩
    · obtain ⟨r', hread, -⟩ := Reader.readExactly?_short hnone hshort hmem.1
      rw [hread]
      exact ⟨r', rfl⟩
  · obtain ⟨r', hread, hpassed⟩ :=
      Reader.readExactly?_some (n := 2) (by decide) (Nat.not_lt.1 hshort)
    rw [if_neg hshort, hread]
    dsimp only
    by_cases hcrlf : r.ahead.take 2 = Bytes.crlf
    · rw [if_pos hcrlf, if_pos hcrlf]
      exact ⟨2, r', rfl, hpassed, rfl⟩
    · rw [if_neg hcrlf, if_neg hcrlf]
      exact ⟨r', rfl⟩

/-- Takes the line of a size. -/
def takeSizeLine : Act Error Reader Nat := do
  let n ← takeChunkSize
  skipLine
  return n

theorem computes_takeSizeLine (hroom : maxSizeDigits < capacity) :
    (Readers.holding capacity).Computes takeSizeLine sizeLineParser :=
  (computes_takeChunkSize hroom).bind fun _ =>
    (computes_skipLine (Nat.zero_lt_of_lt hroom)).bind fun _ => .pure _

/-! ## 4. Sizes and line ends of the grammar -/

theorem sizeParser_digits {n : Nat} {digits rest : Bytes} (hsize : IsSize n digits)
    (hrest : EndsSize rest) : sizeParser (digits ++ rest) = .ok (n, rest) := by
  unfold sizeParser
  rw [sizeLength_digits hsize.hex hsize.few hrest, if_neg hsize.nonempty]
  dsimp only
  rw [List.take_left, List.drop_left, hsize.value]

/-- The line of a size is taken. -/
theorem sizeLineParser_line {n : Nat} {line : Bytes} (h : SizeLine n line) (rest : Bytes) :
    sizeLineParser (line ++ rest) = .ok (n, rest) := by
  cases h with
  | @mk digits tail hsize hends hline =>
    have hskip : skipParser (tail ++ rest) = .ok ((), rest) := by
      unfold skipParser
      rw [hline.lineLength?]
      dsimp only
      rw [List.drop_left]
    unfold sizeLineParser
    rw [List.append_assoc, Parser.bind_ok (sizeParser_digits hsize (hends.append rest)),
      Parser.bind_ok hskip]
    rfl

theorem sizeLineParser_sizeLength {bytes : Bytes} {e : Error} (h : sizeLength bytes = .error e) :
    sizeLineParser bytes = .error e := by
  refine Parser.bind_error ?_
  unfold sizeParser
  rw [h]

/-- The line of a size is cut short. -/
theorem sizeLineParser_cut {n : Nat} {digits tail : Bytes} (hsize : IsSize n digits)
    (hends : EndsSize tail) (htail : Bytes.lf ∉ tail) :
    sizeLineParser (digits ++ tail) = .error .partialFile := by
  have hskip : skipParser tail = .error .partialFile := by
    unfold skipParser
    rw [lineLength?_none.2 htail]
  unfold sizeLineParser
  rw [Parser.bind_ok (sizeParser_digits hsize hends), Parser.bind_error hskip]

theorem endParser_crlf (rest : Bytes) : endParser (Bytes.crlf ++ rest) = .ok ((), rest) := rfl

theorem endParser_bad {last : Bytes} (hlength : last.length = 2) (hlast : last ≠ Bytes.crlf)
    (rest : Bytes) : endParser (last ++ rest) = .error (.http .invalidChunkEnd) := by
  unfold endParser
  rw [if_neg (by rw [List.length_append]; omega), ← hlength, List.take_left, if_neg hlast]

theorem endParser_cut {last : Bytes} (hlength : last.length < 2) :
    endParser last = .error .partialFile := if_pos hlength

/-! ## 5. Reading over sizes and line ends -/

namespace Body

theorem onReader_ok {α : Type} {x : Act Error Reader α} {b : Body} {a : α} {r : Reader}
    (h : x b.reader = .ok a r) : onReader x b = .ok a { b with reader := r } :=
  Act.within_run h

theorem onReader_error {α : Type} {x : Act Error Reader α} {b : Body} {halt : Halt Error}
    {r : Reader} (h : x b.reader = .error halt r) :
    onReader x b = .error halt { b with reader := r } :=
  Act.within_error h

section

variable {b : Body} {r : Reader} {halt : Halt Error} {size : Nat}

theorem passEnd_ok (hframing : b.framing = .chunkEnd) (h : takeChunkEnd b.reader = .ok () r) :
    passEnd b = .ok () { b with reader := r, framing := .chunkSize } := by
  unfold passEnd
  rw [hframing]
  dsimp only
  rw [Act.bind_ok (onReader_ok h)]
  rfl

theorem passEnd_error (hframing : b.framing = .chunkEnd)
    (h : takeChunkEnd b.reader = .error halt r) :
    passEnd b = .error halt { b with reader := r } := by
  have hpass : passEnd b =
      (onReader takeChunkEnd >>= fun _ => setFraming .chunkSize) b := by
    unfold passEnd
    rw [hframing]
  rw [hpass]
  exact Act.bind_error (onReader_error h)

theorem passSize_ok {n : Nat} (hframing : b.framing = .chunkSize)
    (h : takeChunkSize b.reader = .ok n r) :
    passSize b = .ok () { b with reader := r, framing := .chunkExtension n } := by
  unfold passSize
  rw [hframing]
  dsimp only
  rw [Act.bind_ok (onReader_ok h)]
  rfl

theorem passSize_error (hframing : b.framing = .chunkSize)
    (h : takeChunkSize b.reader = .error halt r) :
    passSize b = .error halt { b with reader := r } := by
  have hpass : passSize b =
      (onReader takeChunkSize >>= fun size => setFraming (.chunkExtension size)) b := by
    unfold passSize
    rw [hframing]
  rw [hpass]
  exact Act.bind_error (onReader_error h)

theorem passExtension_ok {n : Nat} (hframing : b.framing = .chunkExtension n)
    (h : skipLine b.reader = .ok () r) :
    passExtension b =
      .ok () { b with reader := r, framing := if n = 0 then .trailers else .chunkData n } := by
  unfold passExtension
  rw [hframing]
  dsimp only
  rw [Act.bind_ok (onReader_ok h)]
  rfl

theorem passExtension_error {n : Nat} (hframing : b.framing = .chunkExtension n)
    (h : skipLine b.reader = .error halt r) :
    passExtension b = .error halt { b with reader := r } := by
  have hpass : passExtension b = (onReader skipLine >>= fun _ =>
      setFraming (if n = 0 then .trailers else .chunkData n)) b := by
    unfold passExtension
    rw [hframing]
  rw [hpass]
  exact Act.bind_error (onReader_error h)

theorem passEnd_ne (hframing : b.framing ≠ .chunkEnd) : passEnd b = .ok () b := by
  unfold passEnd
  split
  · next h => exact absurd h hframing
  · rfl

/-- **The line of a size is passed**; a size of zero is the last. -/
theorem read_chunkSize {n : Nat} (hframing : b.framing = .chunkSize) (hsize : 0 < size)
    (h : takeSizeLine b.reader = .ok n r) :
    read size b =
      if n = 0 then .ok [] { b with reader := r, framing := .trailers }
      else read size { b with reader := r, framing := .chunkData n } := by
  obtain ⟨n', r', hn, h⟩ := Act.bind_eq_ok.1 h
  obtain ⟨_, r'', hskip, h⟩ := Act.bind_eq_ok.1 h
  cases h
  have hend : passEnd b = .ok () b := passEnd_ne (by simp [hframing])
  have hread : read size b = readData size
      { b with reader := r, framing := if n = 0 then .trailers else .chunkData n } := by
    unfold read
    rw [if_neg (Nat.ne_of_gt hsize), Act.bind_ok hend, Act.bind_ok (passSize_ok hframing hn),
      Act.bind_ok (passExtension_ok rfl hskip)]
  rw [hread]
  by_cases hn : n = 0
  · rw [if_pos hn, if_pos hn]
    rfl
  · rw [if_neg hn, if_neg hn]
    exact (read_readData hsize rfl rfl rfl).symm

theorem read_chunkSize_error (hframing : b.framing = .chunkSize) (hsize : 0 < size)
    (h : takeSizeLine b.reader = .error halt r) : ∃ b', read size b = .error halt b' := by
  have hend : passEnd b = .ok () b := passEnd_ne (by simp [hframing])
  unfold read
  rw [if_neg (Nat.ne_of_gt hsize), Act.bind_ok hend]
  cases htake : takeChunkSize b.reader with
  | error halt' r' =>
    unfold takeSizeLine at h
    rw [Act.bind_error htake] at h
    cases h
    exact ⟨_, Act.bind_error (passSize_error hframing htake)⟩
  | ok n r' =>
    unfold takeSizeLine at h
    rw [Act.bind_ok htake] at h
    rw [Act.bind_ok (passSize_ok hframing htake)]
    cases hskip : skipLine r' with
    | error halt' r'' =>
      rw [Act.bind_error hskip] at h
      cases h
      exact ⟨_, Act.bind_error (passExtension_error rfl hskip)⟩
    | ok _ r'' =>
      rw [Act.bind_ok hskip] at h
      cases h

/-- **The line end behind the data is passed.** -/
theorem read_chunkEnd (hframing : b.framing = .chunkEnd) (hsize : 0 < size)
    (h : takeChunkEnd b.reader = .ok () r) :
    read size b = read size { b with reader := r, framing := .chunkSize } := by
  have hend' : passEnd { b with reader := r, framing := .chunkSize } =
      .ok () { b with reader := r, framing := .chunkSize } := rfl
  unfold read
  rw [if_neg (Nat.ne_of_gt hsize), if_neg (Nat.ne_of_gt hsize), Act.bind_ok (passEnd_ok hframing h),
    Act.bind_ok hend']

theorem read_chunkEnd_error (hframing : b.framing = .chunkEnd) (hsize : 0 < size)
    (h : takeChunkEnd b.reader = .error halt r) :
    read size b = .error halt { b with reader := r } := by
  unfold read
  rw [if_neg (Nat.ne_of_gt hsize), Act.bind_error (passEnd_error hframing h)]

end

/-! ## 6. Reading to the end -/

/-- The body has come to this framing, and these bytes are ahead. -/
structure At (capacity : Nat) (framing : Framing) (ahead : Bytes) (b : Body) : Prop where
  framing : b.framing = framing
  mem : (Readers.holding capacity).mem b.reader
  ahead : b.reader.ahead = ahead

/-- Reading to the end brings these data first, and comes to a place. -/
def Passes (capacity : Nat) (b : Body) (data : Bytes) (framing : Framing) (ahead : Bytes) : Prop :=
  ∃ b1, At capacity framing ahead b1 ∧ ∀ {more halt b'}, Brings b1 more halt b' →
    Brings b (data ++ more) halt b'

section

variable {capacity n : Nat} {b : Body} {line data rest : Bytes}

/-- The line of a size is passed. -/
theorem passes_size (hroom : maxSizeDigits < capacity)
    (hat : At capacity .chunkSize (line ++ rest) b) (hline : SizeLine n line) (hn : n ≠ 0) :
    Passes capacity b [] (.chunkData n) rest := by
  obtain ⟨r, htake, hahead, hmem⟩ := (computes_takeSizeLine hroom).ok hat.mem
    (by rw [hat.ahead]; exact sizeLineParser_line hline rest)
  have hread := read_chunkSize hat.framing (by decide : 0 < portion) htake
  rw [if_neg hn] at hread
  exact ⟨_, ⟨rfl, hmem, hahead⟩, Brings.congr hread⟩

/-- The data are passed. -/
theorem passes_data (hat : At capacity (.chunkData n) (data ++ rest) b) (hn : n ≠ 0)
    (hdata : data.length = n) : Passes capacity b data .chunkEnd rest := by
  have hthere : n ≤ b.reader.ahead.length := by
    rw [hat.ahead, List.length_append]
    omega
  obtain ⟨r, hpassed, hbrings⟩ :=
    brings_due isDue_chunkData hat.framing (Nat.pos_of_ne_zero hn) hthere
  rw [hat.ahead, ← hdata, List.take_left] at hbrings
  refine ⟨_, ⟨rfl, (Readers.holding capacity).stays hpassed hat.mem, ?_⟩, hbrings⟩
  rw [hpassed.ahead, hat.ahead, ← hdata, List.drop_left]

/-- The line end behind the data is passed. -/
theorem passes_end (hat : At capacity .chunkEnd (Bytes.crlf ++ rest) b) :
    Passes capacity b [] .chunkSize rest := by
  obtain ⟨r, htake, hahead, hmem⟩ :=
    computes_takeChunkEnd.ok hat.mem (by rw [hat.ahead]; exact endParser_crlf rest)
  have hread := read_chunkEnd hat.framing (by decide : 0 < portion) htake
  exact ⟨_, ⟨rfl, hmem, hahead⟩, Brings.congr hread⟩

/-- **A chunk is passed**, and its data are brought. -/
theorem passes_chunk (hroom : maxSizeDigits < capacity)
    (hat : At capacity .chunkSize (line ++ data ++ Bytes.crlf ++ rest) b)
    (hline : SizeLine n line) (hn : n ≠ 0) (hdata : data.length = n) :
    Passes capacity b data .chunkSize rest := by
  rw [List.append_assoc, List.append_assoc] at hat
  obtain ⟨b1, hat1, hbrings1⟩ := passes_size hroom hat hline hn
  obtain ⟨b2, hat2, hbrings2⟩ := passes_data hat1 hn hdata
  obtain ⟨b3, hat3, hbrings3⟩ := passes_end hat2
  exact ⟨b3, hat3, fun hrest => hbrings1 (hbrings2 (hbrings3 hrest))⟩

/-- Any number of chunks is passed. -/
theorem passes_chunks {chunks : Bytes} (hchunks : DataChunks chunks data)
    (hroom : maxSizeDigits < capacity) (hat : At capacity .chunkSize (chunks ++ rest) b) :
    Passes capacity b data .chunkSize rest := by
  induction hchunks generalizing b with
  | nil => exact ⟨b, hat, id⟩
  | cons hline hn hdata _ ih =>
    rw [List.append_assoc] at hat
    obtain ⟨b1, hat1, hbrings1⟩ := passes_chunk hroom hat hline hn hdata
    obtain ⟨b2, hat2, hbrings2⟩ := ih hat1
    refine ⟨b2, hat2, fun hrest => ?_⟩
    rw [List.append_assoc]
    exact hbrings1 (hbrings2 hrest)

/-- **Reading ends behind the line of a size of zero**, and takes nothing more. -/
theorem brings_last (hroom : maxSizeDigits < capacity)
    (hat : At capacity .chunkSize (line ++ rest) b) (hline : SizeLine 0 line) :
    ∃ b', Brings b [] none b' ∧ At capacity .trailers rest b' := by
  obtain ⟨r, htake, hahead, hmem⟩ := (computes_takeSizeLine hroom).ok hat.mem
    (by rw [hat.ahead]; exact sizeLineParser_line hline rest)
  have hread := read_chunkSize hat.framing (by decide : 0 < portion) htake
  rw [if_pos rfl] at hread
  exact ⟨_, Brings.nil hread, rfl, hmem, hahead⟩

/-- What is no line of a size fails. -/
theorem fails_size {bytes : Bytes} {e : Error} (hroom : maxSizeDigits < capacity)
    (hat : At capacity .chunkSize bytes b) (hparse : sizeLineParser bytes = .error e) :
    ∃ data b', Brings b data (some (.failed e)) b' := by
  obtain ⟨r, htake⟩ :=
    (computes_takeSizeLine hroom).error hat.mem (by rw [hat.ahead]; exact hparse)
  obtain ⟨b', hread⟩ := read_chunkSize_error hat.framing (by decide : 0 < portion) htake
  exact ⟨[], b', Brings.error hread⟩

/-- What is no line end behind the data fails. -/
theorem fails_end {e : Error} (hroom : maxSizeDigits < capacity)
    (hat : At capacity .chunkSize (line ++ data ++ rest) b) (hline : SizeLine n line) (hn : n ≠ 0)
    (hdata : data.length = n) (hparse : endParser rest = .error e) :
    ∃ data b', Brings b data (some (.failed e)) b' := by
  rw [List.append_assoc] at hat
  obtain ⟨b1, hat1, hbrings1⟩ := passes_size hroom hat hline hn
  obtain ⟨b2, hat2, hbrings2⟩ := passes_data hat1 hn hdata
  obtain ⟨r, htake⟩ :=
    computes_takeChunkEnd.error hat2.mem (by rw [hat2.ahead]; exact hparse)
  have hread := read_chunkEnd_error hat2.framing (by decide : 0 < portion) htake
  exact ⟨_, _, hbrings1 (hbrings2 (Brings.error hread))⟩

/-- **A fault fails with its error.** -/
theorem brings_faulty {bytes : Bytes} {e : Error} (hfaulty : Faulty bytes e)
    (hroom : maxSizeDigits < capacity) (hat : At capacity .chunkSize bytes b) :
    ∃ data b', Brings b data (some (.failed e)) b' := by
  cases hfaulty with
  | tooLarge hhex hmany =>
    exact fails_size hroom hat (sizeLineParser_sizeLength (sizeLength_tooLarge hhex hmany _))
  | noSize hends =>
    have hnone : ∀ b ∈ ([] : Bytes), isHexDigit b = true := nofun
    have hsize := sizeLength_digits hnone (Nat.zero_le _) hends
    exact fails_size hroom hat (sizeLineParser_sizeLength hsize)
  | cutSize hhex hfew =>
    exact fails_size hroom hat (sizeLineParser_sizeLength (sizeLength_cut hhex hfew))
  | cutLine hdigits hends htail =>
    exact fails_size hroom hat (sizeLineParser_cut hdigits hends htail)
  | badEnd hline hn hdata hlength hlast =>
    rw [List.append_assoc] at hat
    exact fails_end hroom hat hline hn hdata (endParser_bad hlength hlast _)
  | cutEnd hline hn hdata hlast => exact fails_end hroom hat hline hn hdata (endParser_cut hlast)
  | @cutData n line data hline hshort =>
    obtain ⟨b1, hat1, hbrings1⟩ := passes_size hroom hat hline (Nat.ne_zero_of_lt hshort)
    obtain ⟨b', hbrings⟩ := brings_short isDue_chunkData hat1.framing
      (by rw [hat1.ahead]; exact hshort) hat1.mem.1
    exact ⟨_, b', hbrings1 hbrings⟩

end

/-! ## 7. Chunked bodies -/

/-- Chunks of data and the line of a size of zero, and what stands behind it. -/
def IsChunked (bytes data rest : Bytes) : Prop :=
  ∃ chunks line, bytes = chunks ++ line ++ rest ∧ DataChunks chunks data ∧ SizeLine 0 line

/-- Chunks of data, and a fault. -/
def IsBroken (bytes : Bytes) (e : Error) : Prop :=
  ∃ chunks data rest, bytes = chunks ++ rest ∧ DataChunks chunks data ∧ Faulty rest e

theorem chunked_or_broken (bytes : Bytes) :
    (∃ data rest, IsChunked bytes data rest) ∨ ∃ e, IsBroken bytes e := by
  rcases chunks_total bytes with
    ⟨chunks, data, rest, rfl, hchunks, ⟨line, more, rfl, hline⟩ | ⟨e, hfaulty⟩⟩
  · refine .inl ⟨data, more, chunks, line, ?_, hchunks, hline⟩
    rw [List.append_assoc]
  · exact .inr ⟨e, chunks, data, rest, rfl, hchunks, hfaulty⟩

section

variable {capacity : Nat} {b : Body} {bytes : Bytes}

theorem bytes_of_isChunked {data rest : Bytes} (hroom : maxSizeDigits < capacity)
    (hat : At capacity .chunkSize bytes b) (hchunked : IsChunked bytes data rest) :
    ∃ b', b.bytes = .ok data b' ∧ At capacity .trailers rest b' := by
  obtain ⟨chunks, line, rfl, hchunks, hline⟩ := hchunked
  rw [List.append_assoc] at hat
  obtain ⟨b1, hat1, hbrings1⟩ := passes_chunks hchunks hroom hat
  obtain ⟨b', hlast, hat'⟩ := brings_last hroom hat1 hline
  have hbrings := hbrings1 hlast
  rw [List.append_nil] at hbrings
  exact ⟨b', hbrings.bytes_ok, hat'⟩

theorem bytes_of_isBroken {e : Error} (hroom : maxSizeDigits < capacity)
    (hat : At capacity .chunkSize bytes b) (hbroken : IsBroken bytes e) :
    ∃ b', b.bytes = .error (.failed e) b' := by
  obtain ⟨chunks, data, rest, rfl, hchunks, hfaulty⟩ := hbroken
  obtain ⟨b1, hat1, hbrings1⟩ := passes_chunks hchunks hroom hat
  obtain ⟨_, b', hbrings⟩ := brings_faulty hfaulty hroom hat1
  exact ⟨b', (hbrings1 hbrings).bytes_error⟩

/-- What was read was a chunked body. -/
theorem isChunked_of_bytes {data : Bytes} {b' : Body} (hroom : maxSizeDigits < capacity)
    (hat : At capacity .chunkSize bytes b) (h : b.bytes = .ok data b') :
    IsChunked bytes data b'.reader.ahead ∧ At capacity .trailers b'.reader.ahead b' := by
  rcases chunked_or_broken bytes with ⟨data', rest, hchunked⟩ | ⟨e, hbroken⟩
  · obtain ⟨b'', hbytes, hat'⟩ := bytes_of_isChunked hroom hat hchunked
    rw [hbytes] at h
    cases h
    rw [hat'.ahead]
    exact ⟨hchunked, hat'⟩
  · obtain ⟨b'', hbytes⟩ := bytes_of_isBroken hroom hat hbroken
    rw [hbytes] at h
    cases h

/-- What failed was broken. -/
theorem isBroken_of_bytes {e : Error} {b' : Body} (hroom : maxSizeDigits < capacity)
    (hat : At capacity .chunkSize bytes b) (h : b.bytes = .error (.failed e) b') :
    IsBroken bytes e := by
  rcases chunked_or_broken bytes with ⟨data', rest, hchunked⟩ | ⟨e', hbroken⟩
  · obtain ⟨b'', hbytes, -⟩ := bytes_of_isChunked hroom hat hchunked
    rw [hbytes] at h
    cases h
  · obtain ⟨b'', hbytes⟩ := bytes_of_isBroken hroom hat hbroken
    rw [hbytes] at h
    cases h
    exact hbroken

/-- The trailers are a block of header fields. -/
theorem trailers_iff (hat : At capacity .trailers bytes b) (headers : Headers) (rest : Bytes) :
    (∃ b', b.trailers = .ok headers b' ∧ b'.reader.ahead = rest) ↔
      ∃ lines fields, bytes = lines ++ rest ∧ HeaderLines capacity lines fields ∧
        headers = addFields .empty fields := by
  rw [← hat.ahead, ← takeFields_iff hat.mem]
  unfold trailers
  rw [hat.framing]
  dsimp only
  constructor
  · rintro ⟨b', htrailers, hahead⟩
    cases htake : takeFields none (b.reader, .empty) with
    | error halt s => rw [htake] at htrailers; cases htrailers
    | ok _ s =>
      rw [htake] at htrailers
      cases htrailers
      exact ⟨s.1, rfl, hahead⟩
  · rintro ⟨r, htake, hahead⟩
    rw [htake]
    exact ⟨_, rfl, hahead⟩

end

/-- **A chunked body is decoded exactly.**  Reading it to the end succeeds on chunked bodies alone,
with their data, and stops behind the last of their lines; on everything else it fails, with the
error of the fault.  What stands behind is left to the trailers, which take the block of header
fields and nothing more.  The buffer has room for a size and one more byte, which is little beside
`Reader.defaultCapacity`. -/
theorem bytes_iff_chunked {b : Body} (hframing : b.framing = .chunkSize)
    (heof : b.reader.inflow.ending = .eof) (hfits : b.reader.Fits)
    (hroom : maxSizeDigits < b.reader.capacity) :
    (∀ data rest, (∃ b', b.bytes = .ok data b' ∧ b'.reader.ahead = rest) ↔
      IsChunked b.reader.ahead data rest) ∧
    (∀ e, (∃ b', b.bytes = .error (.failed e) b') ↔ IsBroken b.reader.ahead e) ∧
    ((∃ data b', b.bytes = .ok data b') ∨ ∃ e b', b.bytes = .error (.failed e) b') ∧
    ∀ data b', b.bytes = .ok data b' → ∀ headers rest,
      (∃ b'', b'.trailers = .ok headers b'' ∧ b''.reader.ahead = rest) ↔
        ∃ lines fields, b'.reader.ahead = lines ++ rest ∧
          HeaderLines b.reader.capacity lines fields ∧ headers = addFields .empty fields := by
  have hat : At b.reader.capacity .chunkSize b.reader.ahead b :=
    ⟨hframing, ⟨heof, rfl, hfits⟩, rfl⟩
  refine ⟨fun data rest => ⟨?_, ?_⟩, fun e => ⟨?_, bytes_of_isBroken hroom hat⟩, ?_, ?_⟩
  · rintro ⟨b', hbytes, rfl⟩
    exact (isChunked_of_bytes hroom hat hbytes).1
  · intro hchunked
    obtain ⟨b', hbytes, hat'⟩ := bytes_of_isChunked hroom hat hchunked
    exact ⟨b', hbytes, hat'.ahead⟩
  · rintro ⟨b', hbytes⟩
    exact isBroken_of_bytes hroom hat hbytes
  · rcases chunked_or_broken b.reader.ahead with ⟨data, rest, hchunked⟩ | ⟨e, hbroken⟩
    · obtain ⟨b', hbytes, -⟩ := bytes_of_isChunked hroom hat hchunked
      exact .inl ⟨data, b', hbytes⟩
    · exact .inr ⟨e, bytes_of_isBroken hroom hat hbroken⟩
  · intro data b' hbytes
    exact trailers_iff (isChunked_of_bytes hroom hat hbytes).2

/-- A body of one chunk in pieces that cut every line, and a byte that is no part of it. -/
def abcInPieces : Body :=
  { reader := .ofInflow ⟨[[51, 13], [10, 97], [98, 99, 13], [10, 48], [13, 10, 13], [10, 88]], .eof⟩
    framing := .chunkSize
    reusable := false }

theorem bytes_iff_chunked_abc :
    ∃ b' b'', abcInPieces.bytes = .ok [97, 98, 99] b' ∧ b'.trailers = .ok .empty b'' ∧
      b''.reader.ahead = [88] := by
  have hends : EndsSize Bytes.crlf := ⟨13, [10], rfl, by decide⟩
  have hline : IsLine Bytes.crlf := ⟨[13], rfl, by decide⟩
  have hthree : IsSize 3 [51] :=
    ⟨by decide, by decide, List.forall_mem_singleton.2 (by decide), by decide⟩
  have hzero : IsSize 0 [48] :=
    ⟨by decide, by decide, List.forall_mem_singleton.2 (by decide), by decide⟩
  have hdata : ([97, 98, 99] : Bytes).length = 3 := rfl
  have hchunks : DataChunks [51, 13, 10, 97, 98, 99, 13, 10] [97, 98, 99] :=
    .cons (.mk hthree hends hline) (by decide) hdata .nil
  obtain ⟨hok, -, -, htrailers⟩ := bytes_iff_chunked (b := abcInPieces) rfl rfl
    (Reader.fits_ofInflow _) (by decide)
  obtain ⟨b', hbytes, hahead⟩ :=
    (hok [97, 98, 99] [13, 10, 88]).2 ⟨_, _, rfl, hchunks, .mk hzero hends hline⟩
  have htext : lineText? Bytes.crlf = some "" := Utf8.decode?_ofString ""
  have hblank : HeaderLines abcInPieces.reader.capacity Bytes.crlf [] :=
    .blank hline (by decide) htext
  obtain ⟨b'', hread, hrest⟩ :=
    (htrailers _ b' hbytes .empty [88]).2 ⟨_, _, hahead, hblank, rfl⟩
  exact ⟨b', b'', hbytes, hread, hrest⟩

end Body

end Http

end UrlTransfer
