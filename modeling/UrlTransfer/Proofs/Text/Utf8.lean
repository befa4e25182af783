/-
# UTF-8 is read back

`Utf8.scan` takes one character off the front of a byte string, and `Utf8.decode?` does so to the
end.  Both are tied here to the encoder that every text is sent with (`Bytes.ofString`).

* `scan_encode`, `scan_char`: a scan finds a character exactly where its bytes stand in front.
* `decode?_eq_some_iff`: **a byte string is read as a text exactly if it is the UTF-8 form of that
  text**.  So strict reading accepts every text that is sent, gives back no other, and no byte
  string is the form of two.

The four lengths of a character are treated one by one (`scan_one` to `scan_four` for reading,
`encode_one` to `encode_four` for writing), on the numbers of the bytes; each pair meets in
`low`, the six bits that a continuation byte carries.
-/
import UrlTransfer.Text.Utf8

namespace UrlTransfer

namespace Utf8

/-! ## 1. The classes of bytes, as intervals of numbers -/

theorem isContinuation_iff (b : UInt8) :
    isContinuation b = true ↔ 0x80 ≤ b.toNat ∧ b.toNat ≤ 0xBF := by
  simp [isContinuation, UInt8.le_iff_toNat_le]

/-- Which bytes may stand second is what keeps overlong forms, surrogates and numbers beyond the
last character out. -/
theorem isSecond_iff (lead b : UInt8) :
    isSecond lead b = true ↔
      (if lead.toNat = 0xE0 then 0xA0 ≤ b.toNat ∧ b.toNat ≤ 0xBF
        else if lead.toNat = 0xED then 0x80 ≤ b.toNat ∧ b.toNat ≤ 0x9F
        else if lead.toNat = 0xF0 then 0x90 ≤ b.toNat ∧ b.toNat ≤ 0xBF
        else if lead.toNat = 0xF4 then 0x80 ≤ b.toNat ∧ b.toNat ≤ 0x8F
        else 0x80 ≤ b.toNat ∧ b.toNat ≤ 0xBF) := by
  unfold isSecond secondRange
  simp only [beq_iff_eq, ← UInt8.toNat_inj, UInt8.reduceToNat]
  repeat' split
  all_goals simp [UInt8.le_iff_toNat_le]

theorem toNat_ofNat {n : Nat} (h : n < 256) : (UInt8.ofNat n).toNat = n := by
  simp [Nat.mod_eq_of_lt h]

theorem ofNat_eq {b : UInt8} {n : Nat} (h : n = b.toNat) : UInt8.ofNat n = b := by
  rw [h, UInt8.ofNat_toNat]

/-- The number of a character that is no surrogate. -/
theorem toNat_charOfNat {n : Nat} (h : n < 0xD800 ∨ (0xDFFF < n ∧ n < 0x110000)) :
    (Char.ofNat n).val.toNat = n := by
  have hvalid : n.isValidChar := h
  unfold Char.ofNat
  rw [dif_pos hvalid]
  rfl

/-! ## 2. Scanning a character, by its length -/

theorem scan_one {lead : UInt8} (h : lead.toNat < 0x80) (rest : Bytes) :
    scan lead rest = .char (Char.ofNat lead.toNat) rest := by
  unfold scan
  rw [if_pos (UInt8.lt_iff_toNat_lt.2 h)]

theorem scan_two {lead b : UInt8} (h : 0xC2 ≤ lead.toNat ∧ lead.toNat ≤ 0xDF)
    (hb : isContinuation b = true) (rest : Bytes) :
    scan lead (b :: rest) = .char (Char.ofNat (lead.toNat % 32 * 64 + low b)) rest := by
  unfold scan
  have h1 : ¬ lead < 0x80 := by rw [UInt8.lt_iff_toNat_lt]; simp; omega
  have h2 : (0xC2 ≤ lead && lead ≤ 0xDF) = true := by simpa [UInt8.le_iff_toNat_le] using h
  rw [if_neg h1, if_pos h2]
  simp [hb]

theorem scan_three {lead b c : UInt8} (h : 0xE0 ≤ lead.toNat ∧ lead.toNat ≤ 0xEF)
    (hb : isSecond lead b = true) (hc : isContinuation c = true) (rest : Bytes) :
    scan lead (b :: c :: rest) =
      .char (Char.ofNat (lead.toNat % 16 * 4096 + low b * 64 + low c)) rest := by
  unfold scan
  have h1 : ¬ lead < 0x80 := by rw [UInt8.lt_iff_toNat_lt]; simp; omega
  have h2 : ¬ (0xC2 ≤ lead && lead ≤ 0xDF) = true := by simp [UInt8.le_iff_toNat_le]; omega
  have h3 : (0xE0 ≤ lead && lead ≤ 0xEF) = true := by simpa [UInt8.le_iff_toNat_le] using h
  rw [if_neg h1, if_neg h2, if_pos h3]
  simp [hb, hc]

theorem scan_four {lead b c d : UInt8} (h : 0xF0 ≤ lead.toNat ∧ lead.toNat ≤ 0xF4)
    (hb : isSecond lead b = true) (hc : isContinuation c = true)
    (hd : isContinuation d = true) (rest : Bytes) :
    scan lead (b :: c :: d :: rest) =
      .char (Char.ofNat (lead.toNat % 8 * 262144 + low b * 4096 + low c * 64 + low d)) rest := by
  unfold scan
  have h1 : ¬ lead < 0x80 := by rw [UInt8.lt_iff_toNat_lt]; simp; omega
  have h2 : ¬ (0xC2 ≤ lead && lead ≤ 0xDF) = true := by simp [UInt8.le_iff_toNat_le]; omega
  have h3 : ¬ (0xE0 ≤ lead && lead ≤ 0xEF) = true := by simp [UInt8.le_iff_toNat_le]; omega
  have h4 : (0xF0 ≤ lead && lead ≤ 0xF4) = true := by simpa [UInt8.le_iff_toNat_le] using h
  rw [if_neg h1, if_neg h2, if_neg h3, if_pos h4]
  simp [hb, hc, hd]

/-- **The bytes of a character are scanned as that character**, whatever follows them. -/
theorem scan_encode (c : Char) :
    ∃ lead more, String.utf8EncodeChar c = lead :: more ∧
      ∀ rest, scan lead (more ++ rest) = .char c rest := by
  have hval : c.val.toNat = c.toNat := rfl
  have hvalid : c.toNat < 0xD800 ∨ (0xDFFF < c.toNat ∧ c.toNat < 0x110000) := c.valid
  have hback : ∀ {n : Nat}, n = c.toNat → Char.ofNat n = c := by
    rintro n rfl
    exact Char.ofNat_toNat c
  unfold String.utf8EncodeChar
  simp only [hval]
  split
  · have h0 := toNat_ofNat (show c.toNat < 256 by omega)
    refine ⟨_, _, rfl, fun rest => ?_⟩
    rw [List.nil_append, scan_one (by omega), hback h0]
  split
  · have h0 := toNat_ofNat (show c.toNat / 64 % 0x20 + 0xc0 < 256 by omega)
    have h1 := toNat_ofNat (show c.toNat % 0x40 + 0x80 < 256 by omega)
    refine ⟨_, _, rfl, fun rest => ?_⟩
    rw [List.cons_append, List.nil_append,
      scan_two (by omega) (by rw [isContinuation_iff]; omega), hback (by unfold low; omega)]
  split
  · have h0 := toNat_ofNat (show c.toNat / 4096 % 0x10 + 0xe0 < 256 by omega)
    have h1 := toNat_ofNat (show c.toNat / 64 % 0x40 + 0x80 < 256 by omega)
    have h2 := toNat_ofNat (show c.toNat % 0x40 + 0x80 < 256 by omega)
    have hsecond : isSecond (UInt8.ofNat (c.toNat / 4096 % 0x10 + 0xe0))
        (UInt8.ofNat (c.toNat / 64 % 0x40 + 0x80)) = true := by
      rw [isSecond_iff]
      split
      · omega
      · split
        · omega
        · rw [if_neg (by omega), if_neg (by omega)]
          omega
    refine ⟨_, _, rfl, fun rest => ?_⟩
    rw [List.cons_append, List.cons_append, List.nil_append,
      scan_three (by omega) hsecond (by rw [isContinuation_iff]; omega),
      hback (by unfold low; omega)]
  · have h0 := toNat_ofNat (show c.toNat / 262144 % 0x08 + 0xf0 < 256 by omega)
    have h1 := toNat_ofNat (show c.toNat / 4096 % 0x40 + 0x80 < 256 by omega)
    have h2 := toNat_ofNat (show c.toNat / 64 % 0x40 + 0x80 < 256 by omega)
    have h3 := toNat_ofNat (show c.toNat % 0x40 + 0x80 < 256 by omega)
    have hsecond : isSecond (UInt8.ofNat (c.toNat / 262144 % 0x08 + 0xf0))
        (UInt8.ofNat (c.toNat / 4096 % 0x40 + 0x80)) = true := by
      rw [isSecond_iff, if_neg (by omega), if_neg (by omega)]
      split
      · omega
      · split <;> omega
    refine ⟨_, _, rfl, fun rest => ?_⟩
    rw [List.cons_append, List.cons_append, List.cons_append, List.nil_append,
      scan_four (by omega) hsecond (by rw [isContinuation_iff]; omega)
        (by rw [isContinuation_iff]; omega),
      hback (by unfold low; omega)]

/-! ## 3. The bytes of a character, by their number -/

theorem encode_one {lead : UInt8} (h : lead.toNat < 0x80) :
    String.utf8EncodeChar (Char.ofNat lead.toNat) = [lead] := by
  have hn := toNat_charOfNat (n := lead.toNat) (by omega)
  unfold String.utf8EncodeChar
  simp only [hn]
  rw [if_pos (by omega), ofNat_eq rfl]

theorem encode_two {lead b : UInt8} (h : 0xC2 ≤ lead.toNat ∧ lead.toNat ≤ 0xDF)
    (hb : isContinuation b = true) :
    String.utf8EncodeChar (Char.ofNat (lead.toNat % 32 * 64 + low b)) = [lead, b] := by
  rw [isContinuation_iff] at hb
  have hn := toNat_charOfNat (n := lead.toNat % 32 * 64 + low b) (by unfold low; omega)
  unfold String.utf8EncodeChar
  simp only [hn]
  unfold low
  rw [if_neg (by omega), if_pos (by omega), ofNat_eq (b := lead) (by omega),
    ofNat_eq (b := b) (by omega)]

theorem encode_three {lead b c : UInt8} (h : 0xE0 ≤ lead.toNat ∧ lead.toNat ≤ 0xEF)
    (hb : isSecond lead b = true) (hc : isContinuation c = true) :
    String.utf8EncodeChar (Char.ofNat (lead.toNat % 16 * 4096 + low b * 64 + low c)) =
      [lead, b, c] := by
  rw [isContinuation_iff] at hc
  rw [isSecond_iff] at hb
  have hb' : 0x80 ≤ b.toNat ∧ b.toNat ≤ 0xBF ∧ (lead.toNat = 0xE0 → 0xA0 ≤ b.toNat) ∧
      (lead.toNat = 0xED → b.toNat ≤ 0x9F) := by
    repeat' split at hb
    all_goals omega
  have hn := toNat_charOfNat (n := lead.toNat % 16 * 4096 + low b * 64 + low c)
    (by unfold low; omega)
  unfold String.utf8EncodeChar
  simp only [hn]
  unfold low
  rw [if_neg (by omega), if_neg (by omega), if_pos (by omega), ofNat_eq (b := lead) (by omega),
    ofNat_eq (b := b) (by omega), ofNat_eq (b := c) (by omega)]

theorem encode_four {lead b c d : UInt8} (h : 0xF0 ≤ lead.toNat ∧ lead.toNat ≤ 0xF4)
    (hb : isSecond lead b = true) (hc : isContinuation c = true)
    (hd : isContinuation d = true) :
    String.utf8EncodeChar
        (Char.ofNat (lead.toNat % 8 * 262144 + low b * 4096 + low c * 64 + low d)) =
      [lead, b, c, d] := by
  rw [isContinuation_iff] at hc hd
  rw [isSecond_iff, if_neg (by omega), if_neg (by omega)] at hb
  have hb' : 0x80 ≤ b.toNat ∧ b.toNat ≤ 0xBF ∧ (lead.toNat = 0xF0 → 0x90 ≤ b.toNat) ∧
      (lead.toNat = 0xF4 → b.toNat ≤ 0x8F) := by
    repeat' split at hb
    all_goals omega
  have hn := toNat_charOfNat
    (n := lead.toNat % 8 * 262144 + low b * 4096 + low c * 64 + low d) (by unfold low; omega)
  unfold String.utf8EncodeChar
  simp only [hn]
  unfold low
  rw [if_neg (by omega), if_neg (by omega), if_neg (by omega), ofNat_eq (b := lead) (by omega),
    ofNat_eq (b := b) (by omega), ofNat_eq (b := c) (by omega), ofNat_eq (b := d) (by omega)]

/-- **What is scanned as a character is the bytes of that character.** -/
theorem scan_char {lead : UInt8} {rest rest' : Bytes} {c : Char}
    (h : scan lead rest = .char c rest') : lead :: rest = String.utf8EncodeChar c ++ rest' := by
  unfold scan at h
  simp only [UInt8.lt_iff_toNat_lt, UInt8.le_iff_toNat_le, UInt8.reduceToNat, Bool.and_eq_true,
    decide_eq_true_eq] at h
  split at h
  · next hlead =>
    cases h
    rw [encode_one hlead]
    rfl
  split at h
  · next hlead =>
    repeat' split at h
    all_goals cases h
    next hb =>
      rw [encode_two hlead hb]
      rfl
  split at h
  · next hlead =>
    repeat' split at h
    all_goals cases h
    next hb _ _ hc =>
      rw [encode_three hlead hb hc]
      rfl
  split at h
  · next hlead =>
    repeat' split at h
    all_goals cases h
    next hb _ _ hc _ _ hd =>
      rw [encode_four hlead hb hc hd]
      rfl
  · cases h

/-! ## 4. Texts -/

/-- One character more has been read. -/
theorem decodeFrom_encode (read : List Char) (c : Char) (rest : Bytes) :
    decodeFrom read (String.utf8EncodeChar c ++ rest) = decodeFrom (c :: read) rest := by
  obtain ⟨lead, more, hc, hscan⟩ := scan_encode c
  rw [hc, List.cons_append, decodeFrom]
  split
  · next hchar =>
    rw [hscan rest] at hchar
    cases hchar
    rfl
  · next hbad =>
    rw [hscan rest] at hbad
    cases hbad

theorem decodeFrom_flatMap (read cs : List Char) :
    decodeFrom read (cs.flatMap String.utf8EncodeChar) = some (read.reverse ++ cs) := by
  induction cs generalizing read with
  | nil => simp [decodeFrom]
  | cons c cs ih =>
    rw [List.flatMap_cons, decodeFrom_encode, ih]
    simp

theorem eq_flatMap_of_decodeFrom {read cs : List Char} {bytes : Bytes}
    (h : decodeFrom read bytes = some cs) :
    ∃ more, cs = read.reverse ++ more ∧ bytes = more.flatMap String.utf8EncodeChar := by
  fun_induction decodeFrom read bytes with
  | case1 read =>
    cases h
    exact ⟨[], by simp, rfl⟩
  | case2 read lead rest c rest' hscan ih =>
    obtain ⟨more, hcs, hrest⟩ := ih h
    refine ⟨c :: more, by simpa using hcs, ?_⟩
    rw [scan_char hscan, hrest, List.flatMap_cons]
  | case3 => cases h

/-- **Strict reading inverts the encoder**: it gives a text exactly for the UTF-8 form of that
text. -/
theorem decode?_eq_some_iff {bytes : Bytes} {text : String} :
    decode? bytes = some text ↔ bytes = Bytes.ofString text := by
  unfold decode? Bytes.ofString
  constructor
  · intro h
    obtain ⟨cs, hcs, rfl⟩ := Option.map_eq_some_iff.1 h
    obtain ⟨more, rfl, hbytes⟩ := eq_flatMap_of_decodeFrom hcs
    simpa using hbytes
  · rintro rfl
    rw [decodeFrom_flatMap]
    simp

/-- Texts are read back. -/
theorem decode?_ofString (text : String) : decode? (Bytes.ofString text) = some text :=
  decode?_eq_some_iff.2 rfl

end Utf8

end UrlTransfer
