/-
# What a header says

The opening handshake looks at the first value of a few headers: for a word, a list of words, a
version or a key.  The functions that look work on texts, which they trim and compare in either
case.  `Spells` and `Padded` say what they look for in terms of the bytes of a value alone.

A value that is no text counts as empty, and no word is empty; so a word is found exactly where the
bytes of the value spell it (`isWord_valueOf`).  In a list this is different: there another item
can spoil the text, and a list counts only if all of its bytes are visible characters, spaces and
tabs (`ListsWord`, `lists_valueOf`).
-/
import Mathlib.Data.List.Basic
import Mathlib.Data.List.TakeWhile
import UrlTransfer.Proofs.Codec.Base64
import UrlTransfer.Proofs.Http.Writing
import UrlTransfer.WebSocket.Handshake

namespace UrlTransfer

/-! ## 1. Trimming -/

namespace Text

/-- Trimming cuts off blanks, at both ends. -/
theorem trim_parts (cs : List Char) : ∃ before after, cs = before ++ (trim cs ++ after) ∧
    (∀ c ∈ before, isBlank c = true) ∧ ∀ c ∈ after, isBlank c = true := by
  refine ⟨cs.takeWhile isBlank, ((trimStart cs).reverse.takeWhile isBlank).reverse, ?_, ?_, ?_⟩
  · have hend := List.takeWhile_append_dropWhile (p := isBlank) (l := (trimStart cs).reverse)
    have hback : trim cs ++ ((trimStart cs).reverse.takeWhile isBlank).reverse = trimStart cs := by
      unfold trim trimEnd
      rw [← List.reverse_append, hend, List.reverse_reverse]
    rw [hback]
    exact List.takeWhile_append_dropWhile.symm
  · intro c hc
    exact List.mem_takeWhile_imp hc
  · intro c hc
    exact List.mem_takeWhile_imp (List.mem_reverse.1 hc)

/-- **Nothing but the blanks around it is cut off a graphic text.** -/
theorem trim_padded {before middle after : List Char} (hbefore : ∀ c ∈ before, isBlank c = true)
    (hmiddle : ∀ c ∈ middle, IsGraphic c) (hafter : ∀ c ∈ after, isBlank c = true) :
    trim (before ++ (middle ++ after)) = middle := by
  have hback : trimStart middle.reverse = middle.reverse :=
    trimStart_graphic fun c hc => hmiddle c (List.mem_reverse.1 hc)
  have hfront : trimStart (before ++ (middle ++ after)) = trimStart (middle ++ after) :=
    List.dropWhile_append_of_pos hbefore
  unfold trim
  rw [hfront]
  cases middle with
  | nil =>
    have hnothing : trimStart ([] ++ after) = [] := List.dropWhile_eq_nil_iff.2 hafter
    rw [hnothing]
    rfl
  | cons c rest =>
    have hc := (hmiddle c List.mem_cons_self).not_blank
    have hstays : trimStart (c :: rest ++ after) = c :: rest ++ after :=
      List.dropWhile_cons_of_neg (by rw [hc]; exact Bool.false_ne_true)
    rw [hstays]
    unfold trimEnd
    rw [List.reverse_append, List.dropWhile_append_of_pos fun d hd =>
      hafter d (List.mem_reverse.1 hd)]
    unfold trimStart at hback
    rw [hback, List.reverse_reverse]

end Text

/-! ## 2. Texts of bytes -/

namespace Bytes

/-- A character for each byte. -/
def chars (bytes : Bytes) : List Char := bytes.map fun b => Char.ofNat b.toNat

@[simp] theorem chars_append (bytes more : Bytes) :
    chars (bytes ++ more) = chars bytes ++ chars more := List.map_append

theorem toNat_char (b : UInt8) : (Char.ofNat b.toNat).toNat = b.toNat :=
  Utf8.toNat_charOfNat (by have := b.toNat_lt; omega)

theorem char_injective {b c : UInt8} (h : Char.ofNat b.toNat = Char.ofNat c.toNat) : b = c := by
  have hnat := congrArg Char.toNat h
  rw [toNat_char, toNat_char] at hnat
  exact UInt8.toNat_inj.1 hnat

theorem chars_injective {bytes other : Bytes} (h : chars bytes = chars other) : bytes = other :=
  List.map_injective_iff.2 (fun _ _ => char_injective) h

/-- A text of ASCII is one character for each byte. -/
theorem chars_ofString {s : String} (h : Text.Ascii s.toList) : chars (ofString s) = s.toList := by
  have hback (c : Char) (hc : c ∈ s.toList) : Char.ofNat (UInt8.ofNat c.toNat).toNat = c := by
    rw [Utf8.toNat_ofNat (Nat.lt_trans (h c hc) (by decide)), Char.ofNat_toNat]
  rw [Text.ofString_ascii h, chars, List.map_map]
  calc s.toList.map _ = s.toList.map id := List.map_congr_left hback
    _ = s.toList := List.map_id _

/-- The bytes of ASCII are sent as they are. -/
theorem ofString_chars {bytes : Bytes} (h : ∀ b ∈ bytes, b.toNat < 128) :
    ofString (String.ofList (chars bytes)) = bytes := by
  have hascii : Text.Ascii (chars bytes) := by
    intro c hc
    obtain ⟨b, hb, rfl⟩ := List.mem_map.1 hc
    rw [toNat_char]
    exact h b hb
  apply chars_injective
  rw [chars_ofString (by rwa [String.toList_ofList]), String.toList_ofList]

end Bytes

namespace Http.HeaderValue

/-- A value is text if its bytes are, and has a character for each of them. -/
theorem text?_eq_some_iff {v : HeaderValue} {text : String} :
    v.text? = some text ↔ v.bytes.all isTextByte = true ∧ text = String.ofList v.bytes.chars := by
  unfold text? Bytes.chars
  by_cases h : v.bytes.all isTextByte = true
  · simp [h, eq_comm]
  · simp [h]

theorem isTextByte_lt {b : UInt8} (h : isTextByte b = true) : b.toNat < 128 := by
  simp only [isTextByte, Bool.or_eq_true, Bool.and_eq_true, decide_eq_true_eq, beq_iff_eq,
    UInt8.le_iff_toNat_le, UInt8.lt_iff_toNat_lt, ← UInt8.toNat_inj, UInt8.reduceToNat] at h
  omega

/-- The blanks in a text are spaces and tabs. -/
theorem isBlank_char {b : UInt8} (h : isTextByte b = true) :
    isBlank (Char.ofNat b.toNat) = true ↔ b = 32 ∨ b = 9 := by
  have hall : ∀ n < 256, isTextByte (UInt8.ofNat n) = true →
      (isBlank (Char.ofNat n) = true ↔ n = 32 ∨ n = 9) := by decide +kernel
  have hb := hall b.toNat b.toNat_lt
  rw [UInt8.ofNat_toNat] at hb
  rw [hb h, ← UInt8.toNat_inj, ← UInt8.toNat_inj]
  rfl

end Http.HeaderValue

namespace WebSocket

open Http (HeaderValue HeaderName Headers)

/-! ## 3. Blanks around -/

/-- The bytes are these, with spaces and tabs around them. -/
def Padded (middle bytes : Bytes) : Prop :=
  ∃ before after, bytes = before ++ (middle ++ after) ∧ ∀ b ∈ before ++ after, b = 32 ∨ b = 9

/-- The bytes spell a word: its letters, each of them small or a capital, with blanks around. -/
def Spells (word : String) (bytes : Bytes) : Prop :=
  ∃ middle, Padded middle bytes ∧ Bytes.toLower middle = Bytes.ofString word

/-- The list, with commas between its items, has one that spells the word.  All of it has to be
visible characters, spaces and tabs. -/
structure ListsWord (word : String) (bytes : Bytes) : Prop where
  text : bytes.all HeaderValue.isTextByte = true
  item : ∃ item ∈ bytes.splitOn 44, Spells word item

theorem isTextByte_of_graphic {b : UInt8} (h : Text.IsGraphic (Char.ofNat b.toNat)) :
    HeaderValue.isTextByte b = true := by
  obtain ⟨hlow, hhigh⟩ := h
  rw [Bytes.toNat_char] at hlow hhigh
  simp only [HeaderValue.isTextByte, Bool.or_eq_true, Bool.and_eq_true, decide_eq_true_eq,
    UInt8.le_iff_toNat_le, UInt8.lt_iff_toNat_lt, UInt8.reduceToNat]
  omega

/-- Blanks around a word do not spoil a text. -/
theorem Padded.text {middle bytes : Bytes} (h : Padded middle bytes)
    (hmiddle : ∀ b ∈ middle, Text.IsGraphic (Char.ofNat b.toNat)) :
    bytes.all HeaderValue.isTextByte = true := by
  obtain ⟨before, after, rfl, hblank⟩ := h
  have haround : ∀ b ∈ before ++ after, HeaderValue.isTextByte b = true := by
    intro b hb
    rcases hblank b hb with rfl | rfl <;> rfl
  simp only [List.all_eq_true, List.mem_append] at haround ⊢
  rintro b (hb | hb | hb)
  · exact haround b (.inl hb)
  · exact isTextByte_of_graphic (hmiddle b hb)
  · exact haround b (.inr hb)

/-- What trimming leaves of a text are the bytes between the blanks. -/
theorem exists_trim {bytes : Bytes} (hbytes : bytes.all HeaderValue.isTextByte = true) :
    ∃ middle, Text.trim bytes.chars = middle.chars ∧ Padded middle bytes := by
  obtain ⟨before, after, hparts, hbefore, hafter⟩ := Text.trim_parts bytes.chars
  obtain ⟨front, rest, rfl, hfront, hrest⟩ := List.map_eq_append_iff.1 hparts
  obtain ⟨middle, back, rfl, hmiddle, hback⟩ := List.map_eq_append_iff.1 hrest
  refine ⟨middle, hmiddle.symm, front, back, rfl, ?_⟩
  have htext := List.all_eq_true.1 hbytes
  intro b hb
  rcases List.mem_append.1 hb with hb | hb
  · refine (HeaderValue.isBlank_char (htext b (List.mem_append_left _ hb))).1 (hbefore _ ?_)
    rw [← hfront]
    exact List.mem_map_of_mem hb
  · refine (HeaderValue.isBlank_char (htext b ?_)).1 (hafter _ ?_)
    · exact List.mem_append_right _ (List.mem_append_right _ hb)
    · rw [← hback]
      exact List.mem_map_of_mem hb

/-- **Trimming finds what is between the blanks.** -/
theorem trim_padded {middle bytes : Bytes} (h : Padded middle bytes)
    (hmiddle : ∀ b ∈ middle, Text.IsGraphic (Char.ofNat b.toNat)) :
    Text.trim bytes.chars = middle.chars := by
  obtain ⟨before, after, rfl, hblank⟩ := h
  have haround : ∀ b ∈ before ++ after, isBlank (Char.ofNat b.toNat) = true := by
    intro b hb
    rcases hblank b hb with rfl | rfl <;> rfl
  rw [Bytes.chars_append, Bytes.chars_append]
  refine Text.trim_padded ?_ ?_ ?_
  · intro c hc
    obtain ⟨b, hb, rfl⟩ := List.mem_map.1 hc
    exact haround b (List.mem_append_left _ hb)
  · intro c hc
    obtain ⟨b, hb, rfl⟩ := List.mem_map.1 hc
    exact hmiddle b hb
  · intro c hc
    obtain ⟨b, hb, rfl⟩ := List.mem_map.1 hc
    exact haround b (List.mem_append_right _ hb)

/-- The bytes of a graphic text are graphic. -/
theorem graphic_bytes {s : String} (h : Text.Graphic s) {b : UInt8} (hb : b ∈ Bytes.ofString s) :
    Text.IsGraphic (Char.ofNat b.toNat) := by
  refine h _ ?_
  rw [← Bytes.chars_ofString h.ascii]
  exact List.mem_map_of_mem hb

/-! ## 4. Words -/

/-- A word to be looked for: graphic characters, without capitals. -/
structure IsSmallWord (word : String) : Prop where
  graphic : Text.Graphic word
  small : Bytes.toLower (Bytes.ofString word) = Bytes.ofString word
  some : Bytes.ofString word ≠ []

/-- A letter of either case is graphic. -/
theorem graphic_of_lower {b : UInt8} (h : Text.IsGraphic (Char.ofNat (Bytes.lowerByte b).toNat)) :
    Text.IsGraphic (Char.ofNat b.toNat) := by
  unfold Text.IsGraphic at h ⊢
  rw [Bytes.toNat_char] at h ⊢
  unfold Bytes.lowerByte Bytes.isUpper at h
  split at h
  · next hupper =>
    simp only [Bool.and_eq_true, decide_eq_true_eq, UInt8.le_iff_toNat_le,
      UInt8.reduceToNat] at hupper
    omega
  · exact h

theorem IsSmallWord.graphic_bytes {word : String} (hword : IsSmallWord word) {middle : Bytes}
    (h : Bytes.toLower middle = Bytes.ofString word) :
    ∀ b ∈ middle, Text.IsGraphic (Char.ofNat b.toNat) := by
  intro b hb
  refine graphic_of_lower (WebSocket.graphic_bytes hword.graphic ?_)
  rw [← h]
  exact List.mem_map_of_mem hb

/-- **A text is a word exactly if its bytes spell it.** -/
theorem isWord_iff {word : String} (hword : IsSmallWord word) {bytes : Bytes}
    (hbytes : bytes.all HeaderValue.isTextByte = true) :
    isWord word (String.ofList bytes.chars) = true ↔ Spells word bytes := by
  have hlow {middle : Bytes} (hpadded : Padded middle bytes) : ∀ b ∈ middle, b.toNat < 128 := by
    obtain ⟨before, after, rfl, -⟩ := hpadded
    intro b hb
    refine HeaderValue.isTextByte_lt (List.all_eq_true.1 hbytes b ?_)
    exact List.mem_append_right _ (List.mem_append_left _ hb)
  unfold isWord Text.trimmed Bytes.equalsIgnoringCase
  rw [String.toList_ofList, beq_iff_eq, hword.small]
  constructor
  · intro h
    obtain ⟨middle, htrim, hpadded⟩ := exists_trim hbytes
    rw [htrim, Bytes.ofString_chars (hlow hpadded)] at h
    exact ⟨middle, hpadded, h⟩
  · rintro ⟨middle, hpadded, h⟩
    rw [trim_padded hpadded (hword.graphic_bytes h), Bytes.ofString_chars (hlow hpadded)]
    exact h

/-- Nothing is no word. -/
theorem not_isWord_empty {word : String} (hword : IsSmallWord word) : isWord word "" = false := by
  have hne : [] ≠ Bytes.ofString word := hword.some.symm
  unfold isWord Bytes.equalsIgnoringCase
  rw [hword.small]
  exact beq_eq_false_iff_ne.2 hne

theorem Spells.text {word : String} (hword : IsSmallWord word) {bytes : Bytes}
    (h : Spells word bytes) : bytes.all HeaderValue.isTextByte = true := by
  obtain ⟨middle, hpadded, hlower⟩ := h
  exact hpadded.text (hword.graphic_bytes hlower)

/-! ## 5. First values -/

/-- The first value of a header, if it is text. -/
theorem valueOf_cases (name : HeaderName) (headers : Headers) :
    (∃ v ∈ headers.get? name, v.bytes.all HeaderValue.isTextByte = true ∧
      valueOf name headers = String.ofList v.bytes.chars) ∨
    (valueOf name headers = "" ∧
      ∀ v ∈ headers.get? name, ¬ v.bytes.all HeaderValue.isTextByte = true) := by
  unfold valueOf
  cases hget : headers.get? name with
  | none => exact .inr ⟨rfl, nofun⟩
  | some v =>
    cases htext : v.text? with
    | none =>
      refine .inr ⟨by simp [htext], fun v' hv' hall => ?_⟩
      cases hv'
      rw [HeaderValue.text?_eq_some_iff.2 ⟨hall, rfl⟩] at htext
      cases htext
    | some text =>
      obtain ⟨hall, rfl⟩ := HeaderValue.text?_eq_some_iff.1 htext
      exact .inl ⟨v, rfl, hall, by simp [htext]⟩

section

variable {name : HeaderName} {headers : Headers} {word : String}

/-- **A header is a word exactly if its first value spells it.** -/
theorem isWord_valueOf (hword : IsSmallWord word) :
    isWord word (valueOf name headers) = true ↔ ∃ v ∈ headers.get? name, Spells word v.bytes := by
  rcases valueOf_cases name headers with ⟨v, hv, htext, hvalue⟩ | ⟨hvalue, hnone⟩
  · rw [hvalue, isWord_iff hword htext]
    constructor
    · intro h
      exact ⟨v, hv, h⟩
    · rintro ⟨v', hv', h⟩
      rwa [Option.mem_unique hv hv']
  · rw [hvalue, not_isWord_empty hword]
    constructor
    · nofun
    · rintro ⟨v, hv, h⟩
      exact absurd (h.text hword) (hnone v hv)

/-- **A header is a text exactly if its first value is, but for the blanks around it.** -/
theorem trimmed_valueOf {text : String} (hgraphic : Text.Graphic text) (hsome : text ≠ "") :
    Text.trimmed (valueOf name headers) = text ↔
      ∃ v ∈ headers.get? name, Padded (Bytes.ofString text) v.bytes := by
  have hbytes : ∀ b ∈ Bytes.ofString text, Text.IsGraphic (Char.ofNat b.toNat) :=
    fun b hb => graphic_bytes hgraphic hb
  rcases valueOf_cases name headers with ⟨v, hv, htext, hvalue⟩ | ⟨hvalue, hnone⟩
  · rw [hvalue, Text.trimmed, String.toList_ofList]
    constructor
    · intro h
      obtain ⟨middle, htrim, hpadded⟩ := exists_trim htext
      have hmiddle : middle = Bytes.ofString text := by
        apply Bytes.chars_injective
        rw [Bytes.chars_ofString hgraphic.ascii, ← h, String.toList_ofList, htrim]
      exact ⟨v, hv, hmiddle ▸ hpadded⟩
    · rintro ⟨v', hv', h⟩
      rw [Option.mem_unique hv hv', trim_padded h hbytes, Bytes.chars_ofString hgraphic.ascii,
        String.ofList_toList]
  · rw [hvalue]
    constructor
    · intro h
      exact absurd h.symm hsome
    · rintro ⟨v, hv, h⟩
      exact absurd (h.text hbytes) (hnone v hv)

/-- The items of a list are those of its text. -/
theorem chars_splitOn (bytes : Bytes) :
    bytes.chars.splitOn ',' = (bytes.splitOn 44).map Bytes.chars := by
  have hcomma (b : UInt8) : (Char.ofNat b.toNat == ',') = (b == 44) := by
    have hchar : Char.ofNat b.toNat = Char.ofNat (44 : UInt8).toNat ↔ b = 44 :=
      ⟨Bytes.char_injective, fun h => by rw [h]⟩
    rw [Bool.eq_iff_iff, beq_iff_eq, beq_iff_eq, ← hchar]
    rfl
  unfold List.splitOn
  induction bytes with
  | nil => rfl
  | cons b rest ih =>
    show List.splitOnP _ (Char.ofNat b.toNat :: Bytes.chars rest) = _
    rw [List.splitOnP_cons_eq_if_modifyHead, List.splitOnP_cons_eq_if_modifyHead, hcomma, ih]
    split
    · rfl
    · cases rest.splitOnP (· == 44) <;> rfl

theorem mem_of_mem_splitOn {bytes item : Bytes} {separator : UInt8}
    (hitem : item ∈ bytes.splitOn separator) {b : UInt8} (hb : b ∈ item) : b ∈ bytes := by
  unfold List.splitOn at hitem
  induction bytes generalizing item with
  | nil =>
    rw [List.splitOnP_nil, List.mem_singleton] at hitem
    rw [hitem] at hb
    cases hb
  | cons c rest ih =>
    rw [List.splitOnP_cons_eq_if_modifyHead] at hitem
    split at hitem
    · rcases List.mem_cons.1 hitem with rfl | hitem
      · cases hb
      · exact List.mem_cons_of_mem c (ih hitem hb)
    · cases hrest : rest.splitOnP (· == separator) with
      | nil => rw [hrest] at hitem; cases hitem
      | cons first items =>
        rw [hrest] at hitem ih
        rcases List.mem_cons.1 hitem with rfl | hitem
        · rcases List.mem_cons.1 hb with rfl | hb
          · exact List.mem_cons_self
          · exact List.mem_cons_of_mem c (ih List.mem_cons_self hb)
        · exact List.mem_cons_of_mem c (ih (List.mem_cons_of_mem first hitem) hb)

/-- **A header lists a word exactly if its first value does.** -/
theorem lists_valueOf (hword : IsSmallWord word) :
    (Text.pieces ',' (valueOf name headers)).any (isWord word) = true ↔
      ∃ v ∈ headers.get? name, ListsWord word v.bytes := by
  rcases valueOf_cases name headers with ⟨v, hv, htext, hvalue⟩ | ⟨hvalue, hnone⟩
  · have hitems : ∀ item ∈ v.bytes.splitOn 44, item.all HeaderValue.isTextByte = true := by
      intro item hitem
      rw [List.all_eq_true] at htext ⊢
      exact fun b hb => htext b (mem_of_mem_splitOn hitem hb)
    have hpieces : (Text.pieces ',' (String.ofList v.bytes.chars)).any (isWord word) = true ↔
        ∃ item ∈ v.bytes.splitOn 44, Spells word item := by
      unfold Text.pieces Text.splitAt
      rw [String.toList_ofList, chars_splitOn, List.map_map, List.any_map, List.any_eq_true]
      constructor
      · rintro ⟨item, hitem, h⟩
        exact ⟨item, hitem, (isWord_iff hword (hitems item hitem)).1 h⟩
      · rintro ⟨item, hitem, h⟩
        exact ⟨item, hitem, (isWord_iff hword (hitems item hitem)).2 h⟩
    rw [hvalue, hpieces]
    constructor
    · intro h
      exact ⟨v, hv, htext, h⟩
    · rintro ⟨v', hv', h⟩
      rw [Option.mem_unique hv hv']
      exact h.item
  · have hpieces : Text.pieces ',' "" = [""] := rfl
    rw [hvalue, hpieces]
    simp only [List.any_cons, List.any_nil, Bool.or_false, not_isWord_empty hword]
    constructor
    · nofun
    · rintro ⟨v, hv, h⟩
      exact absurd h.text (hnone v hv)

end

end WebSocket

end UrlTransfer
