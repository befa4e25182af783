/-
# Texts of graphic characters

The graphic characters of ASCII are those that leave a mark: letters, digits and punctuation, and
neither blanks nor control characters.  What stands in the head of a message is made of them, with
single blanks between.

A text in ASCII is one byte for each character when it is sent (`ofString_ascii`).  A graphic one
has nothing around it that trimming would cut off (`trimmed_graphic`), and no blank inside; so
whoever takes a line apart at its blanks gets the words back that it was put together from
(`pieces_intercalate`).
-/
import UrlTransfer.Proofs.Text.Utf8
import UrlTransfer.Text.Blank
import UrlTransfer.Text.Numeral

namespace UrlTransfer

namespace Text

/-! ## 1. Characters -/

/-- Characters of ASCII only. -/
def Ascii (cs : List Char) : Prop := ∀ c ∈ cs, c.toNat < 128

instance : DecidablePred Ascii := fun cs => List.decidableBAll _ cs

theorem Ascii.append {cs ds : List Char} (hcs : Ascii cs) (hds : Ascii ds) : Ascii (cs ++ ds) :=
  fun c hc => (List.mem_append.1 hc).elim (hcs c) (hds c)

theorem Ascii.reverse {cs : List Char} (h : Ascii cs) : Ascii cs.reverse :=
  fun c hc => h c (List.mem_reverse.1 hc)

/-- Is it a character of ASCII that leaves a mark? -/
def IsGraphic (c : Char) : Prop := 32 < c.toNat ∧ c.toNat < 127

instance : DecidablePred IsGraphic := fun _ => inferInstanceAs (Decidable (_ ∧ _))

/-- The character with a number between those of the blank and of the last control character. -/
theorem isGraphic_ofNat {n : Nat} (h : 32 < n ∧ n < 127) : IsGraphic (Char.ofNat n) := by
  have hn : (Char.ofNat n).toNat = n := Utf8.toNat_charOfNat (by omega)
  unfold IsGraphic
  rw [hn]
  exact h

theorem IsGraphic.not_blank {c : Char} (h : IsGraphic c) : isBlank c = false := by
  obtain ⟨hlow, hhigh⟩ := h
  have hval : c.toNat = c.val.toNat := rfl
  simp only [isBlank, Bool.or_eq_false_iff, Bool.and_eq_false_iff, beq_eq_false_iff_ne, ne_eq,
    decide_eq_false_iff_not, Char.le_def, UInt32.le_iff_toNat_le, Char.ext_iff,
    ← UInt32.toNat_inj, Char.reduceVal, UInt32.reduceToNat]
  omega

/-! ## 2. Texts -/

/-- A text of graphic characters. -/
def Graphic (s : String) : Prop := ∀ c ∈ s.toList, IsGraphic c

instance : DecidablePred Graphic := fun s => List.decidableBAll _ s.toList

theorem graphic_ofList {cs : List Char} : Graphic (String.ofList cs) ↔ ∀ c ∈ cs, IsGraphic c := by
  simp [Graphic]

theorem Graphic.append {s t : String} (hs : Graphic s) (ht : Graphic t) : Graphic (s ++ t) := by
  intro c hc
  rw [String.toList_append, List.mem_append] at hc
  exact hc.elim (hs c) (ht c)

theorem Graphic.join {l : List String} (h : ∀ s ∈ l, Graphic s) : Graphic (String.join l) := by
  intro c hc
  rw [String.toList_join, List.mem_flatMap] at hc
  obtain ⟨s, hs, hcs⟩ := hc
  exact h s hs c hcs

/-- What a list is put together from stands in one of its parts, or between them. -/
theorem mem_intercalate {α : Type} {a : α} {between : List α} {parts : List (List α)}
    (h : a ∈ between.intercalate parts) : a ∈ between ∨ ∃ part ∈ parts, a ∈ part := by
  induction parts with
  | nil => cases h
  | cons part rest ih =>
    cases rest with
    | nil =>
      rw [List.intercalate_singleton] at h
      exact .inr ⟨part, List.mem_singleton_self part, h⟩
    | cons next rest =>
      rw [List.intercalate_cons_cons, List.mem_append, List.mem_append] at h
      rcases h with (h | h) | h
      · exact .inr ⟨part, List.mem_cons_self, h⟩
      · exact .inl h
      · rcases ih h with hbetween | ⟨other, hother, hin⟩
        · exact .inl hbetween
        · exact .inr ⟨other, List.mem_cons_of_mem part hother, hin⟩

theorem Graphic.intercalate {between : String} {l : List String} (hbetween : Graphic between)
    (h : ∀ s ∈ l, Graphic s) : Graphic (between.intercalate l) := by
  intro c hc
  rw [String.toList_intercalate] at hc
  rcases mem_intercalate hc with hin | ⟨part, hpart, hin⟩
  · exact hbetween c hin
  · obtain ⟨s, hs, rfl⟩ := List.mem_map.1 hpart
    exact h s hs c hin

theorem Graphic.ascii {s : String} (h : Graphic s) : Ascii s.toList :=
  fun c hc => Nat.lt_succ_of_lt (h c hc).2

/-! ## 3. Trimming -/

theorem trimStart_graphic {cs : List Char} (h : ∀ c ∈ cs, IsGraphic c) : trimStart cs = cs := by
  cases cs with
  | nil => rfl
  | cons c rest =>
    have hc := (h c List.mem_cons_self).not_blank
    unfold trimStart
    rw [List.dropWhile_cons_of_neg (by rw [hc]; exact Bool.false_ne_true)]

/-- **Nothing is cut off a graphic text.** -/
theorem trim_graphic {cs : List Char} (h : ∀ c ∈ cs, IsGraphic c) : trim cs = cs := by
  have hback : trimStart cs.reverse = cs.reverse :=
    trimStart_graphic fun c hc => h c (List.mem_reverse.1 hc)
  unfold trim trimEnd
  rw [trimStart_graphic h]
  unfold trimStart at hback
  rw [hback, List.reverse_reverse]

theorem trimmed_graphic {s : String} (h : Graphic s) : trimmed s = s := by
  unfold trimmed
  rw [trim_graphic h, String.ofList_toList]

/-- A blank in front is all that is cut off, if nothing else would be. -/
theorem trimmed_blank {s : String} (h : trimmed s = s) : trimmed (" " ++ s) = s := by
  have hfront : trimStart (" " ++ s).toList = trimStart s.toList := by
    rw [String.toList_append]
    exact List.dropWhile_cons_of_pos (by decide)
  have hsame : trimmed (" " ++ s) = trimmed s := by
    unfold trimmed trim
    rw [hfront]
  rw [hsame, h]

/-! ## 4. Words -/

/-- A text that fits on a line: graphic characters, and blanks between them. -/
def Printed (s : String) : Prop := ∀ c ∈ s.toList, c = ' ' ∨ IsGraphic c

instance : DecidablePred Printed := fun s => List.decidableBAll _ s.toList

theorem Graphic.printed {s : String} (h : Graphic s) : Printed s := fun c hc => .inr (h c hc)

theorem Printed.append {s t : String} (hs : Printed s) (ht : Printed t) : Printed (s ++ t) := by
  intro c hc
  rw [String.toList_append, List.mem_append] at hc
  exact hc.elim (hs c) (ht c)

theorem Printed.ascii {s : String} (h : Printed s) : Ascii s.toList := by
  intro c hc
  rcases h c hc with rfl | hgraphic
  · decide
  · exact Nat.lt_succ_of_lt hgraphic.2

/-- **Words with blanks between them are told apart.** -/
theorem pieces_intercalate {words : List String} (hsome : words ≠ []) (h : ∀ w ∈ words, Graphic w) :
    pieces ' ' (" ".intercalate words) = words := by
  have hblank : ¬ IsGraphic ' ' := by decide
  unfold pieces splitAt
  rw [String.toList_intercalate]
  show ((([' '].intercalate (words.map String.toList)).splitOn ' ').map String.ofList) = words
  rw [List.splitOn_intercalate ' ' ?_ (by simpa using hsome), List.map_map]
  · simp [Function.comp_def]
  · intro cs hcs hin
    obtain ⟨w, hw, rfl⟩ := List.mem_map.1 hcs
    exact hblank (h w hw _ hin)

/-! ## 5. Bytes -/

/-- A character of ASCII is sent as one byte. -/
theorem encodeChar_ascii {c : Char} (h : c.toNat < 128) :
    String.utf8EncodeChar c = [UInt8.ofNat c.toNat] := by
  have hn : (UInt8.ofNat c.toNat).toNat = c.toNat := Utf8.toNat_ofNat (by omega)
  have hlead : (UInt8.ofNat c.toNat).toNat < 0x80 := by omega
  have hone := Utf8.encode_one hlead
  rwa [hn, Char.ofNat_toNat] at hone

/-- **A text in ASCII is sent as one byte for each character.** -/
theorem ofString_ascii {s : String} (h : Ascii s.toList) :
    Bytes.ofString s = s.toList.map fun c => UInt8.ofNat c.toNat := by
  unfold Bytes.ofString
  generalize s.toList = cs at h
  induction cs with
  | nil => rfl
  | cons c rest ih =>
    rw [List.flatMap_cons, encodeChar_ascii (h c List.mem_cons_self),
      ih fun d hd => h d (List.mem_cons_of_mem c hd)]
    rfl

theorem length_ofString {s : String} (h : Ascii s.toList) :
    (Bytes.ofString s).length = s.toList.length := by
  rw [ofString_ascii h, List.length_map]

/-- A character beyond ASCII ends in a byte beyond ASCII. -/
theorem getLast_encodeChar {c : Char} (h : 128 ≤ c.toNat) :
    ∃ front last, String.utf8EncodeChar c = front ++ [last] ∧ 128 ≤ last.toNat := by
  have hval : c.val.toNat = c.toNat := rfl
  have hlast : 128 ≤ (UInt8.ofNat (c.toNat % 0x40 + 0x80)).toNat := by
    rw [Utf8.toNat_ofNat (by omega)]
    omega
  unfold String.utf8EncodeChar
  simp only [hval]
  rw [if_neg (by omega)]
  split
  · exact ⟨[_], _, rfl, hlast⟩
  · split
    · exact ⟨[_, _], _, rfl, hlast⟩
    · exact ⟨[_, _, _], _, rfl, hlast⟩

/-- **What stands in front of an ASCII byte at the end of a text is a text.** -/
theorem exists_ofString_of_concat {front : Bytes} {last : UInt8} {text : String}
    (hlast : last.toNat < 128) (h : front ++ [last] = Bytes.ofString text) :
    ∃ inner, front = Bytes.ofString inner := by
  unfold Bytes.ofString at h
  rcases List.eq_nil_or_concat text.toList with hnil | ⟨cs, c, hconcat⟩
  · rw [hnil] at h
    simp at h
  · rw [hconcat, List.concat_eq_append, List.flatMap_append, List.flatMap_singleton] at h
    rcases Nat.lt_or_ge c.toNat 128 with hascii | hbeyond
    · rw [encodeChar_ascii hascii] at h
      exact ⟨String.ofList cs, by simpa [Bytes.ofString] using (List.append_inj' h rfl).1⟩
    · obtain ⟨bytes, b, hencode, hb⟩ := getLast_encodeChar hbeyond
      rw [hencode, ← List.append_assoc] at h
      have hsame : last = b := by simpa using (List.append_inj' h rfl).2
      rw [hsame] at hlast
      omega

/-! ## 6. Numerals -/

/-- The digits of a number are graphic, in every base that has digits. -/
theorem isGraphic_toDigits {base n : Nat} (hbase : 1 < base ∧ base ≤ 16) {c : Char}
    (hc : c ∈ Nat.toDigits base n) : IsGraphic c := by
  have hdigit : ∀ d < 16, IsGraphic (Nat.digitChar d) := by decide
  -- On the number: every digit but the last is one of the number without the last digit.
  induction n using Nat.strongRecOn with
  | ind n ih =>
    rcases Nat.lt_or_ge n base with hless | hmore
    · rw [Nat.toDigits_of_lt_base hless, List.mem_singleton] at hc
      rw [hc]
      exact hdigit n (by omega)
    · rw [Nat.toDigits_of_base_le hbase.1 hmore, List.mem_append, List.mem_singleton] at hc
      rcases hc with hc | rfl
      · exact ih _ (Nat.div_lt_self (by omega) hbase.1) hc
      · have hmod := Nat.mod_lt n (show 0 < base by omega)
        exact hdigit _ (by omega)

theorem graphic_decimal (n : Nat) : Graphic (Numeral.decimal n) :=
  graphic_ofList.2 fun _ hc => isGraphic_toDigits (by decide) hc

theorem graphic_hex (n : Nat) : Graphic (Numeral.hex n) :=
  graphic_ofList.2 fun _ hc => isGraphic_toDigits (by decide) hc

end Text

end UrlTransfer
