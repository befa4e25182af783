/-
# Lines that are written are read back

Whoever sends the head of a message writes it as text: a first line, a line for each header, and an
empty line.  Whoever receives it takes lines off the stream and parses them.  The two meet here, for
headers whose names are names and whose values are values from which nothing would be cut off
(`IsWritten`): each line is read as the text that it was written from (`lineText?_textLine`), each
header as its name in small letters and its value (`isFieldLine_fieldLine`), and a block of them as
the fields in their order (`headerLines_fieldLines`).

What a table of headers holds in the end is asked for by name, so the values of the fields that were
read are told apart by their names (`values_addFields`).
-/
import UrlTransfer.Proofs.Http.Heads
import UrlTransfer.Proofs.Text.Graphic

namespace UrlTransfer

namespace Http

open Text (IsGraphic Graphic Printed)

/-! ## 1. Lines -/

/-- A text as a line. -/
def textLine (s : String) : Bytes := Bytes.ofString s ++ Bytes.crlf

/-- **A text is read back from its line.** -/
theorem lineText?_textLine (s : String) : lineText? (textLine s) = some s := by
  have hfeed : (textLine s).dropLast = Bytes.ofString s ++ [13] := by
    unfold textLine Bytes.crlf
    rw [show Bytes.ofString s ++ [13, 10] = (Bytes.ofString s ++ [13]) ++ [10] by simp,
      List.dropLast_concat]
  unfold lineText?
  dsimp only
  rw [hfeed, List.getLast?_concat, if_pos rfl, List.dropLast_concat]
  exact Utf8.decode?_ofString s

/-- A text without a line feed is one line. -/
theorem isLine_of_noFeed {s : String} (h : Bytes.lf ∉ Bytes.ofString s) : IsLine (textLine s) := by
  refine ⟨Bytes.ofString s ++ [13], by simp [textLine, Bytes.crlf, Bytes.lf], fun hin => ?_⟩
  rw [List.mem_append, List.mem_singleton] at hin
  rcases hin with hin | hfeed
  · exact h hin
  · cases hfeed

theorem noFeed_printed {s : String} (h : Printed s) : Bytes.lf ∉ Bytes.ofString s := by
  rw [Text.ofString_ascii h.ascii, List.mem_map]
  rintro ⟨c, hc, hfeed⟩
  have hnumber := congrArg UInt8.toNat hfeed
  have hsmall := h.ascii c hc
  rw [Utf8.toNat_ofNat (by omega)] at hnumber
  have hfeed' : c.toNat = 10 := hnumber
  rcases h c hc with rfl | ⟨hlow, -⟩
  · cases hfeed'
  · omega

/-- A text without control characters is one line. -/
theorem isLine_textLine {s : String} (h : Printed s) : IsLine (textLine s) :=
  isLine_of_noFeed (noFeed_printed h)

theorem length_textLine {s : String} (h : Printed s) :
    (textLine s).length = s.toList.length + 2 := by
  unfold textLine
  rw [List.length_append, Text.length_ofString h.ascii]
  rfl

/-! ## 2. Header fields -/

/-- A name as it is read: in small letters. -/
def nameOf (name : String) : HeaderName := ⟨String.ofList (name.toList.map Char.toLower)⟩

/-- The line of a header. -/
def fieldLine (name value : String) : Bytes := textLine (name ++ ": " ++ value)

/-- What a header is read as. -/
def fieldOf (name value : String) : Field where
  name := nameOf name
  value := .ofText value
  size := (fieldLine name value).length

/-- Is it the name of a header, in letters of either case? -/
def IsName (name : String) : Prop := (HeaderName.parse? name).isSome = true

instance : DecidablePred IsName := fun _ => inferInstanceAs (Decidable (_ = _))

theorem IsName.parse? {name : String} (h : IsName name) :
    HeaderName.parse? name = some (nameOf name) := by
  unfold nameOf
  unfold IsName HeaderName.parse? at *
  dsimp only at h ⊢
  split at h
  · next hname => rw [if_pos hname]
  · cases h

/-- A character of a name leaves a mark, and is not the colon behind the name. -/
theorem isGraphic_of_isTokenChar {c : Char} (h : isTokenChar c = true) : IsGraphic c ∧ c ≠ ':' := by
  have hmarks : Graphic "!#$%&'*+-.^_`|~" := by decide
  have hother : ':' ∉ "!#$%&'*+-.^_`|~".toList := by decide
  unfold isTokenChar at h
  rw [Bool.or_eq_true, List.contains_iff_mem] at h
  rcases h with h | h
  · have hcolon : ':'.toNat = 58 := rfl
    have hnumber : (48 ≤ c.toNat ∧ c.toNat ≤ 57) ∨ (65 ≤ c.toNat ∧ c.toNat ≤ 90) ∨
        (97 ≤ c.toNat ∧ c.toNat ≤ 122) := by
      have hval : c.toNat = c.val.toNat := rfl
      delta Char.isAlphanum Char.isAlpha Char.isUpper Char.isLower Char.isDigit at h
      simp only [Bool.or_eq_true, Bool.and_eq_true, decide_eq_true_eq, ge_iff_le,
        UInt32.le_iff_toNat_le, Char.reduceVal, UInt32.reduceToNat] at h
      omega
    exact ⟨⟨by omega, by omega⟩, fun hc => by rw [hc, hcolon] at hnumber; omega⟩
  · exact ⟨hmarks c h, fun hc => hother (hc ▸ h)⟩

theorem IsName.chars {name : String} (h : IsName name) :
    ∀ c ∈ name.toList, IsGraphic c ∧ c ≠ ':' := by
  unfold IsName HeaderName.parse? at h
  dsimp only at h
  split at h
  · next hname => exact fun c hc => isGraphic_of_isTokenChar (List.all_eq_true.1 hname.2.2 c hc)
  · cases h

theorem IsName.graphic {name : String} (h : IsName name) : Graphic name :=
  fun c hc => (h.chars c hc).1

/-- The first colon stands behind the name. -/
theorem splitOnce_colon {name rest : String} (h : ∀ c ∈ name.toList, c ≠ ':') :
    Text.splitOnce ':' (name ++ ":" ++ rest) = some (name, rest) := by
  have hcolon : ":".toList = [':'] := rfl
  have hbefore : ∀ c ∈ name.toList, decide (c ≠ ':') = true := by simpa using h
  unfold Text.splitOnce
  dsimp only
  rw [String.toList_append, String.toList_append, hcolon, List.append_assoc, List.singleton_append,
    List.dropWhile_append_of_pos hbefore, List.dropWhile_cons_of_neg (by simp),
    List.takeWhile_append_of_pos hbefore, List.takeWhile_cons_of_neg (by simp)]
  simp

/-- A text that can be the value of a header, and from which nothing would be cut off. -/
structure IsValue (value : String) : Prop where
  allowed : (Bytes.ofString value).all isValueByte = true
  whole : Text.trimmed value = value

/-- A graphic text is the value of a header. -/
theorem IsValue.of_graphic {value : String} (h : Graphic value) : IsValue value := by
  refine ⟨?_, Text.trimmed_graphic h⟩
  rw [Text.ofString_ascii h.ascii, List.all_map, List.all_eq_true]
  intro c hc
  obtain ⟨hlow, hhigh⟩ := h c hc
  have hnumber := Utf8.toNat_ofNat (show c.toNat < 256 by omega)
  simp only [Function.comp_apply, isValueByte, Bool.or_eq_true, Bool.and_eq_true,
    decide_eq_true_eq, bne_iff_ne, ne_eq, UInt8.le_iff_toNat_le, ← UInt8.toNat_inj, hnumber,
    UInt8.reduceToNat]
  omega

theorem IsValue.ofBytes? {value : String} (h : IsValue value) :
    HeaderValue.ofBytes? (Bytes.ofString value) = some (.ofText value) := if_pos h.allowed

/-- There is no line feed in a value. -/
theorem IsValue.noFeed {value : String} (h : IsValue value) : Bytes.lf ∉ Bytes.ofString value := by
  intro hin
  have hallowed := List.all_eq_true.1 h.allowed _ hin
  exact absurd hallowed (by decide)

/-- **A header that is written is read back**, its name in small letters. -/
theorem parseLine_written {name value : String} (hname : IsName name) (hvalue : IsValue value) :
    parseLine (name ++ ": " ++ value) = .ok (nameOf name, .ofText value) := by
  have hsplit : Text.splitOnce ':' (name ++ ": " ++ value) = some (name, " " ++ value) := by
    rw [show name ++ ": " ++ value = name ++ ":" ++ (" " ++ value) by
      simp [← String.toList_inj, String.toList_append]]
    exact splitOnce_colon fun c hc => (hname.chars c hc).2
  unfold parseLine parseHeader
  rw [hsplit, Option.getD_some]
  dsimp only
  rw [Text.trimmed_graphic hname.graphic, Text.trimmed_blank hvalue.whole, hname.parse?,
    hvalue.ofBytes?]

variable {capacity : Nat}

theorem printed_field {name value : String} (hname : IsName name) (hvalue : Graphic value) :
    Printed (name ++ ": " ++ value) := by
  have hcolon : Printed ": " := by decide
  exact (hname.graphic.printed.append hcolon).append hvalue.printed

theorem length_fieldLine {name value : String} (hname : IsName name) (hvalue : Graphic value) :
    (fieldLine name value).length = name.toList.length + value.toList.length + 4 := by
  have hmark : (": " : String).toList.length = 2 := rfl
  unfold fieldLine
  rw [length_textLine (printed_field hname hvalue), String.toList_append, String.toList_append,
    List.length_append, List.length_append, hmark]
  omega

/-- A header can be written: it has a name, a value that is read as it is, and a line that fits into
the buffer. -/
structure IsWritten (capacity : Nat) (p : String × String) : Prop where
  isName : IsName p.1
  isValue : IsValue p.2
  fits : (fieldLine p.1 p.2).length ≤ capacity

theorem isLine_fieldLine {name value : String} (hname : IsName name) (hvalue : IsValue value) :
    IsLine (fieldLine name value) := by
  refine isLine_of_noFeed ?_
  rw [Bytes.ofString_append, Bytes.ofString_append, List.mem_append, List.mem_append, not_or,
    not_or]
  exact ⟨⟨noFeed_printed hname.graphic.printed, by decide⟩, hvalue.noFeed⟩

theorem isFieldLine_fieldLine {p : String × String} (h : IsWritten capacity p) :
    IsFieldLine capacity (fieldLine p.1 p.2) (fieldOf p.1 p.2) where
  isLine := isLine_fieldLine h.isName h.isValue
  fits := h.fits
  text := by
    refine ⟨_, lineText?_textLine _, ?_, parseLine_written h.isName h.isValue⟩
    simp [← Bool.not_eq_true, String.isEmpty_iff]
  size := rfl

/-- **A block of headers that is written is read back**, in the order of its lines. -/
theorem headerLines_fieldLines {fields : List (String × String)} (hroom : 2 ≤ capacity)
    (h : ∀ p ∈ fields, IsWritten capacity p) :
    HeaderLines capacity (fields.flatMap (fun p => fieldLine p.1 p.2) ++ Bytes.crlf)
      (fields.map fun p => fieldOf p.1 p.2) := by
  induction fields with
  | nil =>
    refine .blank ⟨[13], by decide, by decide⟩ hroom ?_
    exact lineText?_textLine ""
  | cons p rest ih =>
    rw [List.flatMap_cons, List.append_assoc, List.map_cons]
    exact .field (isFieldLine_fieldLine (h p List.mem_cons_self))
      (ih fun q hq => h q (List.mem_cons_of_mem p hq))

/-- Lines that fit into the buffer take no more than the buffer each. -/
theorem fieldsSize_le {fields : List (String × String)}
    (h : ∀ p ∈ fields, IsWritten capacity p) :
    fieldsSize (fields.map fun p => fieldOf p.1 p.2) ≤ fields.length * capacity := by
  induction fields with
  | nil => exact Nat.zero_le _
  | cons p rest ih =>
    have hfirst := (h p List.mem_cons_self).fits
    have hrest := ih fun q hq => h q (List.mem_cons_of_mem p hq)
    have hcons : fieldsSize ((p :: rest).map fun p => fieldOf p.1 p.2) =
        (fieldLine p.1 p.2).length + fieldsSize (rest.map fun p => fieldOf p.1 p.2) := rfl
    rw [hcons, List.length_cons, Nat.succ_mul]
    omega

/-- The lines of a table are the lines of its headers. -/
theorem lines_eq (fields : List (String × String)) :
    Headers.lines (fields.map fun p => (⟨p.1⟩, .ofText p.2)) =
      fields.flatMap fun p => fieldLine p.1 p.2 := by
  have hline (p : String × String) :
      Bytes.ofString p.1 ++ Bytes.ofString ": " ++ Bytes.ofString p.2 ++ Bytes.crlf =
        fieldLine p.1 p.2 := by
    unfold fieldLine textLine
    rw [Bytes.ofString_append, Bytes.ofString_append]
  unfold Headers.lines
  rw [List.flatMap_map]
  exact congrArg (List.flatMap · fields) (funext hline)

/-! ## 3. Values -/

/-- **The values of a name are those of the fields with that name**, in their order. -/
theorem values_addFields (name : HeaderName) (headers : Headers) (fields : List Field) :
    (addFields headers fields).values name =
      headers.values name ++ (fields.filter (·.name = name)).map Field.value := by
  unfold addFields
  induction fields generalizing headers with
  | nil => simp
  | cons field rest ih =>
    rw [List.foldl_cons, ih, Headers.values_append, List.append_assoc]
    by_cases h : field.name = name
    · simp [h]
    · simp [h, Ne.symm h]

theorem Headers.mem_names_append {headers : Headers} {name other : HeaderName}
    {value : HeaderValue} : other ∈ (headers.append name value).entries.map Prod.fst ↔
      other ∈ headers.entries.map Prod.fst ∨ other = name := by
  obtain ⟨entries⟩ := headers
  unfold Headers.append
  induction entries with
  | nil => simp [appendTo]
  | cons entry rest ih =>
    obtain ⟨n, values⟩ := entry
    by_cases hn : n = name
    · rw [appendTo, if_pos hn, List.map_cons, List.map_cons, List.mem_cons, ← hn]
      exact ⟨.inl, fun h => h.elim id .inl⟩
    · rw [appendTo, if_neg hn, List.map_cons, List.map_cons, List.mem_cons, List.mem_cons, ih,
        or_assoc]

/-- **The names of a table are those of the fields**, and those that were there. -/
theorem mem_names_addFields {headers : Headers} {fields : List Field} {name : HeaderName} :
    name ∈ (addFields headers fields).entries.map Prod.fst ↔
      name ∈ headers.entries.map Prod.fst ∨ name ∈ fields.map Field.name := by
  unfold addFields
  induction fields generalizing headers with
  | nil => simp
  | cons field rest ih =>
    rw [List.foldl_cons, ih, Headers.mem_names_append, List.map_cons, List.mem_cons, or_assoc]

/-- The first value of a name is that of the first header with the name. -/
theorem get?_addFields (name : HeaderName) (fields : List (String × String)) :
    (addFields .empty (fields.map fun p => fieldOf p.1 p.2)).get? name =
      (fields.find? fun p => nameOf p.1 = name).map fun p => .ofText p.2 := by
  have hnone : Headers.empty.values name = [] := rfl
  unfold Headers.get?
  rw [values_addFields, hnone, List.nil_append, List.head?_map, List.head?_filter, List.find?_map,
    Option.map_map]
  rfl

/-- A graphic text is read back from a value. -/
theorem text?_ofText {value : String} (h : Graphic value) :
    (HeaderValue.ofText value).text? = some value := by
  have hnumber (c : Char) (hc : c ∈ value.toList) : (UInt8.ofNat c.toNat).toNat = c.toNat :=
    Utf8.toNat_ofNat (Nat.lt_of_lt_of_le (h c hc).2 (by decide))
  have hbytes : (HeaderValue.ofText value).bytes.all HeaderValue.isTextByte = true := by
    show (Bytes.ofString value).all HeaderValue.isTextByte = true
    rw [Text.ofString_ascii h.ascii, List.all_map, List.all_eq_true]
    intro c hc
    obtain ⟨hlow, hhigh⟩ := h c hc
    simp only [Function.comp_apply, HeaderValue.isTextByte, Bool.or_eq_true, Bool.and_eq_true,
      decide_eq_true_eq, UInt8.le_iff_toNat_le, UInt8.lt_iff_toNat_lt, hnumber c hc,
      UInt8.reduceToNat]
    omega
  have hchars : (HeaderValue.ofText value).bytes.map (fun b => Char.ofNat b.toNat) =
      value.toList := by
    show (Bytes.ofString value).map _ = _
    rw [Text.ofString_ascii h.ascii, List.map_map]
    calc value.toList.map _ = value.toList.map id :=
          List.map_congr_left fun c hc => by simp [hnumber c hc]
      _ = value.toList := List.map_id _
  unfold HeaderValue.text?
  rw [if_pos hbytes, hchars, String.ofList_toList]

end Http

end UrlTransfer
