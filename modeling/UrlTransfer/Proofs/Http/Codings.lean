/-
# Encodings on one line, and on many

The encodings of a body are a list.  A server may write the list on one line, with commas between
the encodings, or on several, cut at any of the commas (`encodings_intercalate`).  `Spreads` says
of two heads that they differ in that alone, and `OneList` what follows if the list is one however
it is written: the bodies are framed in the same way, in chunks exactly if one of the encodings is
chunked, and so the same bytes come of both.

The program looks at the first line only, and at no line with a byte that is not ASCII.  So a list
on many lines is chunked where its first line is (`ofHead_of_first`), and the two heads agree
exactly if there is nothing to find or the first line has it (`oneList_iff`).
-/
import UrlTransfer.Proofs.WebSocket.Words
import UrlTransfer.Proofs.Http.HostHeader

namespace UrlTransfer

namespace Http

/-! ## 1. The encodings of a list -/

/-- Is the byte a space or a tab? -/
def isBlankByte (b : UInt8) : Bool := b == 32 || b == 9

/-- The bytes without the blanks at both ends. -/
def trimBlanks (bytes : Bytes) : Bytes :=
  ((bytes.dropWhile isBlankByte).reverse.dropWhile isBlankByte).reverse

namespace HeaderValue

/-- The encodings between the commas, each without the blanks around it. -/
def encodings (v : HeaderValue) : List Bytes := (v.bytes.splitOn 44).map trimBlanks

/-- One of the encodings is chunked, in letters of either case. -/
def ListsChunked (v : HeaderValue) : Prop :=
  ∃ encoding ∈ v.encodings, Bytes.toLower encoding = Bytes.ofString "chunked"

instance (v : HeaderValue) : Decidable v.ListsChunked :=
  inferInstanceAs (Decidable (∃ encoding ∈ v.encodings, _))

/-- **Cut at a comma, a list falls into two.** -/
theorem encodings_cut (before after : Bytes) :
    encodings ⟨before ++ 44 :: after⟩ = encodings ⟨before⟩ ++ encodings ⟨after⟩ := by
  have hsplit : (before ++ 44 :: after).splitOn 44 = before.splitOn 44 ++ after.splitOn 44 :=
    List.splitOnP_append_cons before after (beq_self_eq_true (44 : UInt8))
  unfold encodings
  rw [hsplit, List.map_append]

/-- **And at any number of commas into as many.** -/
theorem encodings_intercalate (first : HeaderValue) (later : List HeaderValue) :
    encodings ⟨[44].intercalate ((first :: later).map HeaderValue.bytes)⟩ =
      (first :: later).flatMap encodings := by
  induction later generalizing first with
  | nil => simp [List.intercalate]
  | cons second rest ih =>
    have hcut : [44].intercalate ((first :: second :: rest).map HeaderValue.bytes) =
        first.bytes ++ 44 :: [44].intercalate ((second :: rest).map HeaderValue.bytes) := rfl
    rw [hcut, encodings_cut, ih second]
    rfl

end HeaderValue

/-! ## 2. The list as the program reads it -/

/-- On bytes of text, the blanks of a text are spaces and tabs. -/
theorem dropWhile_chars {bytes : Bytes} (h : ∀ b ∈ bytes, HeaderValue.isTextByte b = true) :
    bytes.chars.dropWhile isBlank = Bytes.chars (bytes.dropWhile isBlankByte) := by
  induction bytes with
  | nil => rfl
  | cons b rest ih =>
    have hblank : isBlank (Char.ofNat b.toNat) = isBlankByte b := by
      rw [Bool.eq_iff_iff, HeaderValue.isBlank_char (h b List.mem_cons_self), isBlankByte,
        Bool.or_eq_true, beq_iff_eq, beq_iff_eq]
    show List.dropWhile isBlank (Char.ofNat b.toNat :: Bytes.chars rest) = _
    rw [List.dropWhile_cons, List.dropWhile_cons, hblank]
    split
    · exact ih fun c hc => h c (List.mem_cons_of_mem b hc)
    · rfl

/-- **Trimming a text trims its bytes.** -/
theorem trim_chars {bytes : Bytes} (h : ∀ b ∈ bytes, HeaderValue.isTextByte b = true) :
    Text.trim bytes.chars = Bytes.chars (trimBlanks bytes) := by
  have hreverse (bs : Bytes) : (Bytes.chars bs).reverse = Bytes.chars bs.reverse :=
    List.map_reverse.symm
  have hfront : ∀ b ∈ (bytes.dropWhile isBlankByte).reverse,
      HeaderValue.isTextByte b = true := by
    intro b hb
    exact h b ((List.dropWhile_suffix _).subset (List.mem_reverse.1 hb))
  unfold Text.trim Text.trimEnd Text.trimStart trimBlanks
  rw [dropWhile_chars h, hreverse, dropWhile_chars hfront, hreverse]

/-- Small letters are the same for bytes and for their characters. -/
theorem toLower_chars (bytes : Bytes) :
    bytes.chars.map Char.toLower = Bytes.chars (Bytes.toLower bytes) := by
  have hall : ∀ n < 256, (Char.ofNat n).toLower =
      Char.ofNat (Bytes.lowerByte (UInt8.ofNat n)).toNat := by decide +kernel
  have hbyte (b : UInt8) :
      (Char.ofNat b.toNat).toLower = Char.ofNat (Bytes.lowerByte b).toNat := by
    have hb := hall b.toNat b.toNat_lt
    rwa [UInt8.ofNat_toNat] at hb
  simp only [Bytes.chars, Bytes.toLower, List.map_map, Function.comp_def, hbyte]

/-- **On a line of text the program finds what the line lists.** -/
theorem listsChunked_iff {v : HeaderValue} {text : String} (htext : v.text? = some text) :
    listsChunked text = true ↔ v.ListsChunked := by
  obtain ⟨hall, rfl⟩ := HeaderValue.text?_eq_some_iff.1 htext
  have hchunked : "chunked".toList = Bytes.chars (Bytes.ofString "chunked") := by decide
  have hfound {item : Bytes} (hitem : item ∈ v.bytes.splitOn 44) :
      (Text.trim item.chars).map Char.toLower = "chunked".toList ↔
        Bytes.toLower (trimBlanks item) = Bytes.ofString "chunked" := by
    have hbytes : ∀ b ∈ item, HeaderValue.isTextByte b = true :=
      fun b hb => List.all_eq_true.1 hall b (WebSocket.mem_of_mem_splitOn hitem hb)
    rw [trim_chars hbytes, toLower_chars, hchunked]
    exact ⟨Bytes.chars_injective, congrArg Bytes.chars⟩
  unfold listsChunked HeaderValue.ListsChunked HeaderValue.encodings Text.splitAt
  rw [String.toList_ofList, WebSocket.chars_splitOn, List.any_map, List.any_eq_true]
  constructor
  · rintro ⟨item, hmem, h⟩
    exact ⟨_, List.mem_map_of_mem hmem, (hfound hmem).1 (beq_iff_eq.1 h)⟩
  · rintro ⟨_, hmem, h⟩
    obtain ⟨item, hitem, rfl⟩ := List.mem_map.1 hmem
    exact ⟨item, hitem, beq_iff_eq.2 ((hfound hitem).2 h)⟩

/-- A line of text that lists chunked; a line that is no text lists nothing to the program. -/
def FindsChunked (v : HeaderValue) : Prop := v.text?.isSome = true ∧ v.ListsChunked

/-- **The first line decides on the framing**, if the response has a body. -/
theorem ofHead_of_first {method : Method} {status : Status} {headers : Headers}
    {first : HeaderValue} (hkind : isBodiless method status = false)
    (hfirst : headers.get? .transferEncoding = some first) :
    (FindsChunked first → Framing.ofHead method status headers = .ok .chunkSize) ∧
    (¬ FindsChunked first → Framing.ofHead method status headers = .ok .untilEnd) := by
  have hempty : listsChunked "" = false := by decide
  have hfinds : listsChunked (first.text?.getD "") = true ↔ FindsChunked first := by
    unfold FindsChunked
    cases htext : first.text? with
    | none => simp [hempty]
    | some text => simp [listsChunked_iff htext]
  unfold Framing.ofHead
  rw [if_neg (by simp [hkind]), hfirst]
  constructor
  · intro h
    rw [← hfinds] at h
    simp only [h, if_true]
  · intro h
    rw [← hfinds] at h
    simp only [h, Bool.false_eq_true, if_false]

/-! ## 3. One list, written in two ways -/

/-- Two heads of responses that differ in how the list of encodings is written: `one` has it on
one line, `many` has it on the line `first` and those that follow. -/
structure Spreads (one many : Headers) (value first : HeaderValue) (later : List HeaderValue) :
    Prop where
  line : one.values .transferEncoding = [value]
  lines : many.values .transferEncoding = first :: later
  /-- The lines have the encodings of the list, in the same order. -/
  same : value.encodings = (first :: later).flatMap HeaderValue.encodings
  /-- All other headers are the same. -/
  others : ∀ name, name ≠ .transferEncoding → one.values name = many.values name

/-- The table of some lines has the values of each name in their order. -/
theorem values_ofLines (name : HeaderName) (lines : List (HeaderName × HeaderValue)) :
    (Headers.ofList lines).values name = valuesOf name lines := by
  have hfrom (headers : Headers) :
      (lines.foldl (fun h line => h.append line.1 line.2) headers).values name =
        headers.values name ++ valuesOf name lines := by
    unfold valuesOf
    induction lines generalizing headers with
    | nil => simp
    | cons line rest ih =>
      rw [List.foldl_cons, ih, Headers.values_append, List.append_assoc]
      by_cases h : line.1 = name
      · simp [h]
      · simp [h, Ne.symm h]
  exact hfrom .empty

namespace Spreads

/-- **The lines of the list may stand anywhere among the others.** -/
theorem ofLines {one many : List (HeaderName × HeaderValue)} {value first : HeaderValue}
    {later : List HeaderValue} (hline : valuesOf .transferEncoding one = [value])
    (hlines : valuesOf .transferEncoding many = first :: later)
    (hsame : value.encodings = (first :: later).flatMap HeaderValue.encodings)
    (hothers : one.filter (·.1 ≠ .transferEncoding) = many.filter (·.1 ≠ .transferEncoding)) :
    Spreads (.ofList one) (.ofList many) value first later := by
  refine ⟨(values_ofLines _ one).trans hline, (values_ofLines _ many).trans hlines, hsame, ?_⟩
  intro name hname
  have hkeeps (lines : List (HeaderName × HeaderValue)) :
      valuesOf name (lines.filter (·.1 ≠ .transferEncoding)) = valuesOf name lines := by
    unfold valuesOf
    rw [List.filter_filter]
    refine congrArg (List.map Prod.snd) (List.filter_congr fun line _ => ?_)
    by_cases h : line.1 = name
    · simp [h, hname]
    · simp [h]
  rw [values_ofLines, values_ofLines, ← hkeeps one, ← hkeeps many, hothers]

variable {one many : Headers} {value first : HeaderValue} {later : List HeaderValue}
  {method : Method} {status : Status}

theorem get_line (h : Spreads one many value first later) :
    one.get? .transferEncoding = some value := by
  unfold Headers.get?
  rw [h.line]
  rfl

theorem get_lines (h : Spreads one many value first later) :
    many.get? .transferEncoding = some first := by
  unfold Headers.get?
  rw [h.lines]
  rfl

theorem get_other (h : Spreads one many value first later) {name : HeaderName}
    (hname : name ≠ .transferEncoding) : one.get? name = many.get? name := by
  unfold Headers.get?
  rw [h.others name hname]

/-- What the first line lists, the list does. -/
theorem lists_of_first (h : Spreads one many value first later) (hfirst : first.ListsChunked) :
    value.ListsChunked := by
  obtain ⟨encoding, hmem, hchunked⟩ := hfirst
  refine ⟨encoding, ?_, hchunked⟩
  rw [h.same, List.flatMap_cons]
  exact List.mem_append_left _ hmem

end Spreads

/-- **The list is one, however it is written.** -/
structure OneList (method : Method) (status : Status) (one many : Headers) (value : HeaderValue) :
    Prop where
  /-- Both bodies are framed in the same way. -/
  framing : Framing.ofHead method status one = Framing.ofHead method status many
  /-- Whatever follows the heads, the same bytes, or the same failure, come of both. -/
  bytes : ∀ reader, ∃ b b',
    Body.ofHead method status one reader = .ok b ∧
    Body.ofHead method status many reader = .ok b' ∧ b.bytes = b'.bytes
  /-- A body is in chunks exactly if one of the encodings is chunked. -/
  chunked : isBodiless method status = false →
    (Framing.ofHead method status one = .ok .chunkSize ↔ value.ListsChunked)

namespace OneList

variable {method : Method} {status : Status} {one many : Headers} {value first : HeaderValue}
  {later : List HeaderValue}

/-- Bodies that are framed in the same way are the same. -/
theorem of_framing (h : Spreads one many value first later) {framing : Framing}
    (hone : Framing.ofHead method status one = .ok framing)
    (hmany : Framing.ofHead method status many = .ok framing)
    (hchunked : isBodiless method status = false →
      (framing = .chunkSize ↔ value.ListsChunked)) :
    OneList method status one many value := by
  refine ⟨hone.trans hmany.symm, fun reader => ?_, fun hkind => ?_⟩
  · have hbody : Body.ofHead method status one reader =
        Body.ofHead method status many reader := by
      unfold Body.ofHead
      rw [hone, hmany, h.get_other (by decide)]
    have hok : ∃ b, Body.ofHead method status one reader = .ok b := by
      unfold Body.ofHead
      rw [hone]
      exact ⟨_, rfl⟩
    obtain ⟨b, hb⟩ := hok
    exact ⟨b, b, hb, hbody.symm.trans hb, rfl⟩
  · rw [hone, Except.ok.injEq]
    exact hchunked hkind

end OneList

/-- **A list on many lines counts as the same list on one exactly if** the response has no body, or
none of the encodings is chunked, or the first line lists it and both that line and the list are
text. -/
theorem oneList_iff {method : Method} {status : Status} {one many : Headers}
    {value first : HeaderValue} {later : List HeaderValue}
    (h : Spreads one many value first later) :
    OneList method status one many value ↔
      isBodiless method status = true ∨ ¬ value.ListsChunked ∨
        (value.text?.isSome = true ∧ first.text?.isSome = true ∧ first.ListsChunked) := by
  cases hkind : isBodiless method status with
  | true =>
    have hnone (headers : Headers) : Framing.ofHead method status headers = .ok .finished := by
      unfold Framing.ofHead
      rw [if_pos hkind]
    refine ⟨fun _ => .inl rfl, fun _ => .of_framing h (hnone one) (hnone many) ?_⟩
    rw [hkind]
    nofun
  | false =>
    obtain ⟨hone, hone'⟩ := ofHead_of_first hkind h.get_line
    obtain ⟨hmany, hmany'⟩ := ofHead_of_first hkind h.get_lines
    constructor
    · intro hlist
      by_cases hvalue : value.ListsChunked
      · have hframing := (hlist.chunked hkind).2 hvalue
        have hfound : FindsChunked value := by
          by_contra hnot
          rw [hone' hnot] at hframing
          cases hframing
        have hfirst : FindsChunked first := by
          by_contra hnot
          rw [hlist.framing, hmany' hnot] at hframing
          cases hframing
        exact .inr (.inr ⟨hfound.1, hfirst⟩)
      · exact .inr (.inl hvalue)
    · rintro (hbodiless | hvalue | ⟨htext, hfirst⟩)
      · cases hbodiless
      · have hnot : ¬ FindsChunked first := fun hfirst => hvalue (h.lists_of_first hfirst.2)
        refine .of_framing h (hone' fun hfound => hvalue hfound.2) (hmany' hnot) fun _ => ?_
        exact ⟨nofun, fun hchunked => absurd hchunked hvalue⟩
      · have hvalue := h.lists_of_first hfirst.2
        refine .of_framing h (hone ⟨htext, hvalue⟩) (hmany hfirst) fun _ => ?_
        exact ⟨fun _ => hvalue, fun _ => rfl⟩

/-- A list whose first encoding is chunked, cut behind it, with another header between. -/
theorem oneList_iff_chunked_gzip :
    let one := Headers.ofList
      [(.transferEncoding, .ofText "chunked,gzip"), (.contentLength, .ofText "5")]
    let many := Headers.ofList
      [(.transferEncoding, .ofText "chunked"), (.contentLength, .ofText "5"),
        (.transferEncoding, .ofText "gzip")]
    Spreads one many (.ofText "chunked,gzip") (.ofText "chunked") [.ofText "gzip"] ∧
      OneList .get .okay one many (.ofText "chunked,gzip") := by
  intro one many
  have hvalue : HeaderValue.ofText "chunked,gzip" =
      ⟨[44].intercalate [Bytes.ofString "chunked", Bytes.ofString "gzip"]⟩ := by decide
  have hcut := HeaderValue.encodings_intercalate (.ofText "chunked") [.ofText "gzip"]
  have hspreads : Spreads one many (.ofText "chunked,gzip") (.ofText "chunked")
      [.ofText "gzip"] :=
    Spreads.ofLines (by decide) (by decide) (hvalue ▸ hcut) (by decide)
  exact ⟨hspreads, (oneList_iff hspreads).2 (.inr (.inr (by decide)))⟩

/-- **A list whose first line has another encoding is not found to be chunked**: the chunks, with
their sizes, pass for the data. -/
theorem not_oneList_gzip_chunked :
    let one := Headers.ofList [(.transferEncoding, .ofText "gzip, chunked")]
    let many := Headers.ofList
      [(.transferEncoding, .ofText "gzip"), (.transferEncoding, .ofText "chunked")]
    Spreads one many (.ofText "gzip, chunked") (.ofText "gzip") [.ofText "chunked"] ∧
      Framing.ofHead .get .okay one = .ok .chunkSize ∧
      Framing.ofHead .get .okay many = .ok .untilEnd ∧
      ¬ OneList .get .okay one many (.ofText "gzip, chunked") := by
  intro one many
  have hspreads : Spreads one many (.ofText "gzip, chunked") (.ofText "gzip")
      [.ofText "chunked"] := by
    refine Spreads.ofLines ?_ ?_ ?_ ?_
    all_goals decide
  have hone : Framing.ofHead .get .okay one = .ok .chunkSize := by rfl
  have hmany : Framing.ofHead .get .okay many = .ok .untilEnd := by rfl
  refine ⟨hspreads, hone, hmany, fun hlist => ?_⟩
  have hframing := hlist.framing
  rw [hone, hmany] at hframing
  cases hframing

end Http

end UrlTransfer
