/-
# Base 64 is read back

Every byte string has one written form, which strict reading turns back into it (`decode?_encode`),
and strict reading reads nothing else (`decode?_eq_some_iff`).  The form has four characters for
every three bytes that were begun (`length_encode`), and all of them are graphic
(`graphic_encode`), so that it can stand in a line of a message.

Reading and writing go by groups.  In a whole group no character is the padding (`char_ne_pad`),
which is what tells it from a short one at the end.
-/
import UrlTransfer.Codec.Base64
import UrlTransfer.Proofs.Text.Graphic

namespace UrlTransfer

namespace Base64

/-! ## 1. Digits -/

/-- **Digits are read back.** -/
theorem value?_char : ∀ value < 64, value? (char value) = some value := by decide

theorem char_ne_pad : ∀ value < 64, char value ≠ '=' := by decide

theorem isGraphic_char : ∀ value < 64, Text.IsGraphic (char value) := by decide

/-- What is read as a digit is the digit of its value. -/
theorem eq_char_of_value? {c : Char} {value : Nat} (h : value? c = some value) :
    value < 64 ∧ c = char value := by
  have hdigits : ∀ n < 128, ∀ value ∈ value? (Char.ofNat n),
      value < 64 ∧ Char.ofNat n = char value := by decide
  have hascii : c.toNat < 128 := by
    have hval : c.toNat = c.val.toNat := rfl
    unfold value? at h
    simp only [Bool.and_eq_true, decide_eq_true_eq, Char.le_def, UInt32.le_iff_toNat_le, beq_iff_eq,
      Char.reduceVal, UInt32.reduceToNat] at h
    split at h
    · omega
    · split at h
      · omega
      · split at h
        · omega
        · split at h
          · next hc => subst hc; decide
          · split at h
            · next hc => subst hc; decide
            · cases h
  have hdigit := hdigits c.toNat hascii value
  rw [Char.ofNat_toNat] at hdigit
  exact hdigit h

/-! ## 2. Groups -/

/-- A whole group is three bytes, also at the end. -/
theorem decodeFrom_group {read : Bytes} {a b c d : Nat} (ha : a < 64) (hb : b < 64) (hc : c < 64)
    (hd : d < 64) (rest : List Char) :
    decodeFrom read (char a :: char b :: char c :: char d :: rest) =
      decodeFrom (UInt8.ofNat (c * 64 + d) :: UInt8.ofNat (b * 16 + c / 4) ::
        UInt8.ofNat (a * 4 + b / 16) :: read) rest := by
  have hpad := char_ne_pad d hd
  rw [decodeFrom]
  · simp only [value?_char _ ha, value?_char _ hb, value?_char _ hc, value?_char _ hd]
    rfl
  · rintro - h -
    exact hpad h
  · rintro h -
    exact hpad h

/-- What stands in front of a number of six bits fills up a byte. -/
theorem ofNat_of_bits {b : UInt8} {n : Nat} (h : n % 256 = b.toNat) : UInt8.ofNat n = b := by
  rw [← UInt8.toNat_inj]
  simpa using h

/-- The digits that a byte was put together from, and the bits of them that it has. -/
theorem digits_of_first {a b : Nat} (ha : a < 64) (hb : b < 64) :
    (UInt8.ofNat (a * 4 + b / 16)).toNat / 4 = a ∧
      (UInt8.ofNat (a * 4 + b / 16)).toNat % 4 = b / 16 := by
  rw [UInt8.toNat_ofNat']
  omega

theorem digits_of_middle {b c : Nat} (hc : c < 64) :
    (UInt8.ofNat (b * 16 + c / 4)).toNat / 16 = b % 16 ∧
      (UInt8.ofNat (b * 16 + c / 4)).toNat % 16 = c / 4 := by
  rw [UInt8.toNat_ofNat']
  omega

theorem digits_of_last {c d : Nat} (hd : d < 64) :
    (UInt8.ofNat (c * 64 + d)).toNat / 64 = c % 4 ∧
      (UInt8.ofNat (c * 64 + d)).toNat % 64 = d := by
  rw [UInt8.toNat_ofNat']
  omega

/-- **A byte string is read back**, behind whatever was read before it. -/
theorem decodeFrom_encode (read bytes : Bytes) :
    decodeFrom read (encode bytes) = some (read.reverse ++ bytes) := by
  fun_induction encode bytes generalizing read with
  | case1 a b c rest ih =>
    have ha := a.toNat_lt
    have hb := b.toNat_lt
    have hc := c.toNat_lt
    rw [decodeFrom_group (by omega) (by omega) (by omega) (by omega),
      ofNat_of_bits (b := c) (by omega), ofNat_of_bits (b := b) (by omega),
      ofNat_of_bits (b := a) (by omega), ih]
    simp
  | case2 a b =>
    have ha := a.toNat_lt
    have hb := b.toNat_lt
    have hpad := char_ne_pad (b.toNat % 16 * 4) (by omega)
    rw [decodeFrom]
    · rw [value?_char _ (by omega), value?_char _ (by omega), value?_char _ (by omega)]
      show (if b.toNat % 16 * 4 % 4 = 0 then _ else none) = _
      rw [if_pos (by omega), ofNat_of_bits (b := b) (by omega), ofNat_of_bits (b := a) (by omega)]
      simp
    · exact hpad
  | case3 a =>
    have ha := a.toNat_lt
    rw [decodeFrom, value?_char _ (by omega), value?_char _ (by omega)]
    show (if a.toNat % 4 * 16 % 16 = 0 then _ else none) = _
    rw [if_pos (by omega), ofNat_of_bits (b := a) (by omega)]
    simp
  | case4 => simp [decodeFrom]

/-- **Strict reading inverts writing.** -/
theorem decode?_encode (bytes : Bytes) : decode? (encode bytes) = some bytes :=
  decodeFrom_encode [] bytes

/-- **What is read is a written form**, behind whatever was read before it. -/
theorem eq_encode_of_decodeFrom {read all : Bytes} {cs : List Char}
    (h : decodeFrom read cs = some all) :
    ∃ bytes, all = read.reverse ++ bytes ∧ cs = encode bytes := by
  fun_induction decodeFrom read cs with
  | case1 read => exact ⟨[], by simpa using h.symm, rfl⟩
  | case2 read a b =>
    simp only [Option.bind_eq_bind, Option.bind_eq_some_iff] at h
    obtain ⟨a, hra, b, hrb, h⟩ := h
    obtain ⟨ha, rfl⟩ := eq_char_of_value? hra
    obtain ⟨hb, rfl⟩ := eq_char_of_value? hrb
    split at h
    · next hzero =>
      have hbits := digits_of_first ha hb
      have hlow : b / 16 * 16 = b := by omega
      refine ⟨[UInt8.ofNat (a * 4 + b / 16)], by simpa using h.symm, ?_⟩
      rw [encode, hbits.1, hbits.2, hlow]
    · cases h
  | case3 read a b c =>
    simp only [Option.bind_eq_bind, Option.bind_eq_some_iff] at h
    obtain ⟨a, hra, b, hrb, c, hrc, h⟩ := h
    obtain ⟨ha, rfl⟩ := eq_char_of_value? hra
    obtain ⟨hb, rfl⟩ := eq_char_of_value? hrb
    obtain ⟨hc, rfl⟩ := eq_char_of_value? hrc
    split at h
    · next hzero =>
      have hfirst := digits_of_first ha hb
      have hsecond := digits_of_middle (b := b) hc
      have hmiddle : b / 16 * 16 + b % 16 = b := by omega
      have hlow : c / 4 * 4 = c := by omega
      refine ⟨[UInt8.ofNat (a * 4 + b / 16), UInt8.ofNat (b * 16 + c / 4)],
        by simpa using h.symm, ?_⟩
      rw [encode, hfirst.1, hfirst.2, hsecond.1, hsecond.2, hmiddle, hlow]
    · cases h
  | case4 read a b c d rest _ _ ih =>
    simp only [Option.bind_eq_bind, Option.bind_eq_some_iff] at h
    obtain ⟨a, hra, b, hrb, c, hrc, d, hrd, h⟩ := h
    obtain ⟨bytes, hall, hrest⟩ := ih a b c d h
    obtain ⟨ha, rfl⟩ := eq_char_of_value? hra
    obtain ⟨hb, rfl⟩ := eq_char_of_value? hrb
    obtain ⟨hc, rfl⟩ := eq_char_of_value? hrc
    obtain ⟨hd, rfl⟩ := eq_char_of_value? hrd
    have hfirst := digits_of_first ha hb
    have hsecond := digits_of_middle (b := b) hc
    have hthird := digits_of_last (c := c) hd
    have hmiddle : b / 16 * 16 + b % 16 = b := by omega
    have hlow : c / 4 * 4 + c % 4 = c := by omega
    refine ⟨UInt8.ofNat (a * 4 + b / 16) :: UInt8.ofNat (b * 16 + c / 4) ::
      UInt8.ofNat (c * 64 + d) :: bytes, ?_, ?_⟩
    · simpa using hall
    · rw [encode, hfirst.1, hfirst.2, hsecond.1, hsecond.2, hthird.1, hthird.2, hmiddle, hlow,
        ← hrest]
  | case5 read cs => cases h

/-- **Strict reading reads the written form, and nothing else.** -/
theorem decode?_eq_some_iff {cs : List Char} {bytes : Bytes} :
    decode? cs = some bytes ↔ cs = encode bytes := by
  constructor
  · intro h
    obtain ⟨out, hout, hcs⟩ := eq_encode_of_decodeFrom h
    rw [hcs, hout]
    simp
  · rintro rfl
    exact decode?_encode bytes

/-! ## 3. The written form -/

/-- Every group that was begun has four characters. -/
theorem length_encode (bytes : Bytes) : (encode bytes).length = 4 * ((bytes.length + 2) / 3) := by
  fun_induction encode bytes with
  | case1 a b c rest ih =>
    simp only [List.length_cons, ih]
    omega
  | case2 | case3 | case4 => simp

/-- **The written form is graphic.** -/
theorem isGraphic_encode {bytes : Bytes} {d : Char} (hd : d ∈ encode bytes) : Text.IsGraphic d := by
  have hpad : Text.IsGraphic '=' := by decide
  fun_induction encode bytes with
  | case1 a b c rest ih =>
    have ha := a.toNat_lt
    have hb := b.toNat_lt
    have hc := c.toNat_lt
    simp only [List.mem_cons] at hd
    rcases hd with rfl | rfl | rfl | rfl | hd
    · exact isGraphic_char _ (by omega)
    · exact isGraphic_char _ (by omega)
    · exact isGraphic_char _ (by omega)
    · exact isGraphic_char _ (by omega)
    · exact ih hd
  | case2 a b =>
    have ha := a.toNat_lt
    have hb := b.toNat_lt
    simp only [List.mem_cons, List.not_mem_nil, or_false] at hd
    rcases hd with rfl | rfl | rfl | rfl
    · exact isGraphic_char _ (by omega)
    · exact isGraphic_char _ (by omega)
    · exact isGraphic_char _ (by omega)
    · exact hpad
  | case3 a =>
    have ha := a.toNat_lt
    simp only [List.mem_cons, List.not_mem_nil, or_false] at hd
    rcases hd with rfl | rfl | rfl | rfl
    · exact isGraphic_char _ (by omega)
    · exact isGraphic_char _ (by omega)
    · exact hpad
    · exact hpad
  | case4 => cases hd

theorem graphic_encode (bytes : Bytes) : Text.Graphic (String.ofList (encode bytes)) :=
  Text.graphic_ofList.2 fun _ => isGraphic_encode

end Base64

end UrlTransfer
