/-
# Which lengths a head announces

The length of a body is announced by a numeral: one or more decimal digits, whose value has 64 bits,
with any blanks around them.  Leading zeros are allowed, and nothing else is: no sign, no list, no
other character.  `IsNumeral` is that grammar, with the value in Mathlib's digits; `TakesLengths`
says that a head is taken by it, so that what it does not have is an error and never a body without
a length.

The program reads such a header as it reads a number that a user writes, and that may have a plus
sign in front (`parse?_chars`).  So it takes one word too many: the grammar holds exactly where the
value is no numeral behind a plus sign (`takesLengths_iff`).  The size of a chunk, which is as much
of a length, is read without one.
-/
import Mathlib.Data.Nat.Digits.Defs
import UrlTransfer.Proofs.Http.Length
import UrlTransfer.Proofs.WebSocket.Words

namespace UrlTransfer

namespace Http

/-! ## 1. Numerals -/

/-- The number that decimal digits stand for, the most significant first. -/
def decimalValue (digits : Bytes) : Nat :=
  Nat.ofDigits 10 (digits.reverse.map fun b => b.toNat - 48)

/-- The bytes are a numeral for a number of 64 bits. -/
structure IsNumeral (digits : Bytes) (n : Nat) : Prop where
  some : digits ≠ []
  decimal : ∀ b ∈ digits, 48 ≤ b.toNat ∧ b.toNat ≤ 57
  value : decimalValue digits = n
  fits : n < 2 ^ 64

variable {bytes digits : Bytes} {n : Nat}

theorem decimalValue_cons (b : UInt8) (rest : Bytes) :
    decimalValue (b :: rest) = (b.toNat - 48) * 10 ^ rest.length + decimalValue rest := by
  unfold decimalValue
  rw [List.reverse_cons, List.map_append, Nat.ofDigits_append, List.length_map, List.length_reverse]
  simp [Nat.mul_comm, Nat.add_comm]

theorem digit?_char (b : UInt8) : Numeral.digit? 10 (Char.ofNat b.toNat) =
    if 48 ≤ b.toNat ∧ b.toNat ≤ 57 then some (b.toNat - 48) else none := by
  have hall : ∀ n < 256, Numeral.digit? 10 (Char.ofNat n) =
      if 48 ≤ n ∧ n ≤ 57 then some (n - 48) else none := by decide +kernel
  exact hall b.toNat b.toNat_lt

/-- **Digits are read from the left as they are worth from the right.** -/
theorem valueFrom?_chars {start : Nat} :
    Numeral.valueFrom? 10 start bytes.chars = some n ↔
      (∀ b ∈ bytes, 48 ≤ b.toNat ∧ b.toNat ≤ 57) ∧
        start * 10 ^ bytes.length + decimalValue bytes = n := by
  induction bytes generalizing start with
  | nil => simp [Bytes.chars, Numeral.valueFrom?, decimalValue]
  | cons b rest ih =>
    have hchars : Bytes.chars (b :: rest) = Char.ofNat b.toNat :: Bytes.chars rest := rfl
    have hchar := digit?_char b
    rw [decimalValue_cons, List.forall_mem_cons, List.length_cons, hchars]
    by_cases hdigit : 48 ≤ b.toNat ∧ b.toNat ≤ 57
    · rw [if_pos hdigit] at hchar
      have hvalue : (start * 10 + (b.toNat - 48)) * 10 ^ rest.length =
          start * 10 ^ (rest.length + 1) + (b.toNat - 48) * 10 ^ rest.length := by
        rw [Nat.pow_succ, Nat.add_mul, Nat.mul_assoc, Nat.mul_comm 10]
      simp only [Numeral.valueFrom?, hchar]
      rw [ih, hvalue, Nat.add_assoc]
      exact ⟨fun h => ⟨⟨hdigit, h.1⟩, h.2⟩, fun h => ⟨h.1.2, h.2⟩⟩
    · rw [if_neg hdigit] at hchar
      simp [Numeral.valueFrom?, hchar, hdigit]

theorem read?_chars : (Numeral.read? 10 bytes.chars).filter (· < 2 ^ 64) = some n ↔
    IsNumeral bytes n := by
  have hempty : bytes.chars.isEmpty = true ↔ bytes = [] := by simp [Bytes.chars]
  unfold Numeral.read?
  rw [Option.filter_eq_some_iff]
  by_cases hnil : bytes = []
  · rw [if_pos (hempty.2 hnil)]
    exact iff_of_false (fun h => Option.some_ne_none n h.1.symm) fun h => h.some hnil
  · rw [if_neg (fun h => hnil (hempty.1 h)), valueFrom?_chars, Nat.zero_mul, Nat.zero_add,
      decide_eq_true_eq]
    exact ⟨fun h => ⟨hnil, h.1.1, h.1.2, h.2⟩, fun h => ⟨⟨h.decimal, h.value⟩, h.fits⟩⟩

/-- **A number is read off a numeral, and off one behind a plus sign.** -/
theorem parse?_chars : Numeral.parse? 10 (2 ^ 64) bytes.chars = some n ↔
    IsNumeral bytes n ∨ ∃ digits, bytes = 43 :: digits ∧ IsNumeral digits n := by
  unfold Numeral.parse?
  dsimp only
  split
  · next rest hplus =>
    obtain ⟨b, digits, rfl, hb, rfl⟩ := List.map_eq_cons_iff.1 hplus
    obtain rfl : b = 43 := Bytes.char_injective hb
    have hsign : ¬ IsNumeral (43 :: digits) n := by
      intro h
      exact absurd (h.decimal 43 List.mem_cons_self) (by decide)
    rw [show digits.map (fun b => Char.ofNat b.toNat) = Bytes.chars digits from rfl, read?_chars]
    constructor
    · exact fun h => .inr ⟨digits, rfl, h⟩
    · rintro (h | ⟨_, heq, h⟩)
      · exact absurd h hsign
      · cases heq
        exact h
  · next hnone =>
    rw [read?_chars]
    constructor
    · exact .inl
    · rintro (h | ⟨digits, rfl, h⟩)
      · exact h
      · exact absurd rfl (hnone (Bytes.chars digits))

/-! ## 2. Values -/

theorem IsNumeral.graphic (h : IsNumeral digits n) :
    ∀ b ∈ digits, Text.IsGraphic (Char.ofNat b.toNat) := by
  intro b hb
  have hdigit := h.decimal b hb
  unfold Text.IsGraphic
  rw [Bytes.toNat_char]
  omega

namespace HeaderValue

/-- The value is a numeral, with blanks around it. -/
def IsLength (v : HeaderValue) (n : Nat) : Prop :=
  ∃ digits, WebSocket.Padded digits v.bytes ∧ IsNumeral digits n

/-- The value is a plus sign and a numeral, with blanks around them. -/
def IsSignedLength (v : HeaderValue) (n : Nat) : Prop :=
  ∃ digits, WebSocket.Padded (43 :: digits) v.bytes ∧ IsNumeral digits n

variable {v : HeaderValue} {m : Nat}

theorem graphic_signed (h : IsNumeral digits n) :
    ∀ b ∈ 43 :: digits, Text.IsGraphic (Char.ofNat b.toNat) := by
  intro b hb
  rcases List.mem_cons.1 hb with rfl | hb
  · decide
  · exact h.graphic b hb

/-- A value is not both. -/
theorem IsLength.not_signed (h : v.IsLength m) : ¬ v.IsSignedLength n := by
  obtain ⟨digits, hpadded, hdigits⟩ := h
  rintro ⟨digits', hpadded', hdigits'⟩
  have htrim := WebSocket.trim_padded hpadded hdigits.graphic
  rw [WebSocket.trim_padded hpadded' (graphic_signed hdigits')] at htrim
  obtain rfl := Bytes.chars_injective htrim
  exact absurd (hdigits.decimal 43 List.mem_cons_self) (by decide)

end HeaderValue

/-- **These are the values that are taken for a length.** -/
theorem parseLength?_eq_some_iff {v : HeaderValue} :
    parseLength? v = some n ↔ v.IsLength n ∨ v.IsSignedLength n := by
  have hparse {middle : Bytes} (htext : v.bytes.all HeaderValue.isTextByte = true)
      (htrim : Text.trim v.bytes.chars = middle.chars) :
      parseLength? v = Numeral.parse? 10 (2 ^ 64) middle.chars := by
    unfold parseLength?
    rw [HeaderValue.text?_eq_some_iff.2 ⟨htext, rfl⟩, ← htrim]
    simp
  constructor
  · intro h
    have htext : v.bytes.all HeaderValue.isTextByte = true := by
      obtain ⟨text, htext, -⟩ := Option.bind_eq_some_iff.1 h
      exact (HeaderValue.text?_eq_some_iff.1 htext).1
    obtain ⟨middle, htrim, hpadded⟩ := WebSocket.exists_trim htext
    rw [hparse htext htrim] at h
    rcases parse?_chars.1 h with hdigits | ⟨digits, rfl, hdigits⟩
    · exact .inl ⟨middle, hpadded, hdigits⟩
    · exact .inr ⟨digits, hpadded, hdigits⟩
  · rintro (⟨digits, hpadded, hdigits⟩ | ⟨digits, hpadded, hdigits⟩)
    · rw [hparse (hpadded.text hdigits.graphic) (WebSocket.trim_padded hpadded hdigits.graphic)]
      exact parse?_chars.2 (.inl hdigits)
    · have hgraphic := HeaderValue.graphic_signed hdigits
      rw [hparse (hpadded.text hgraphic) (WebSocket.trim_padded hpadded hgraphic)]
      exact parse?_chars.2 (.inr ⟨digits, rfl, hdigits⟩)

/-! ## 3. Bodies -/

variable {method : Method} {status : Status} {headers : Headers} {v : HeaderValue}

/-- The value is a numeral behind a plus sign. -/
def HeaderValue.IsSigned (v : HeaderValue) : Prop := ∃ n, v.IsSignedLength n

/-- A head that announces a length with this value is taken by the grammar of lengths: the body has
that length, or there is an error that names the header, and nothing else comes of it. -/
structure TakesLengths (method : Method) (status : Status) (headers : Headers) (v : HeaderValue) :
    Prop where
  accepts : ∀ reader n, (∃ b, Body.ofHead method status headers reader = .ok b ∧
    b.framing = .length n) ↔ v.IsLength n
  refuses : (∀ n, ¬ v.IsLength n) → ∀ reader, Body.ofHead method status headers reader =
    .error (.invalidHeader .contentLength v.lossyText)

/-- A value that is not taken for a length is an error. -/
theorem ofHead_noLength (hkind : isBodiless method status = false)
    (hencoding : headers.get? .transferEncoding = none)
    (hlength : headers.get? .contentLength = some v) (hvalue : parseLength? v = none)
    (reader : Reader) :
    Body.ofHead method status headers reader =
      .error (.invalidHeader .contentLength v.lossyText) := by
  have hframing : Framing.ofHead method status headers =
      .error (.invalidHeader .contentLength v.lossyText) := by
    unfold Framing.ofHead
    rw [if_neg (by simp [hkind]), hencoding, hlength]
    dsimp only
    rw [hvalue]
  unfold Body.ofHead
  rw [hframing]
  rfl

/-- **A body has the length that its value is taken for.** -/
theorem ofHead_length_iff (hkind : isBodiless method status = false)
    (hencoding : headers.get? .transferEncoding = none)
    (hlength : headers.get? .contentLength = some v) (reader : Reader) (n : Nat) :
    (∃ b, Body.ofHead method status headers reader = .ok b ∧ b.framing = .length n) ↔
      parseLength? v = some n := by
  constructor
  · rintro ⟨b, hbody, hframing⟩
    cases hvalue : parseLength? v with
    | none =>
      rw [ofHead_noLength hkind hencoding hlength hvalue] at hbody
      cases hbody
    | some m =>
      obtain ⟨b', hbody', -, hframing'⟩ :=
        Body.ofHead_length hkind hencoding hlength hvalue reader
      cases hbody'.symm.trans hbody
      cases hframing'.symm.trans hframing
      rfl
  · intro hvalue
    obtain ⟨b, hbody, -, hframing⟩ := Body.ofHead_length hkind hencoding hlength hvalue reader
    exact ⟨b, hbody, hframing⟩

/-- **Lengths are taken by their grammar exactly if there is no plus sign in front.**  In front of a
numeral it counts for nothing.  Every other value is an error, and never does a value that is no
length leave a body that lasts until the connection ends. -/
theorem takesLengths_iff (hkind : isBodiless method status = false)
    (hencoding : headers.get? .transferEncoding = none)
    (hlength : headers.get? .contentLength = some v) :
    (TakesLengths method status headers v ↔ ¬ v.IsSigned) ∧
    (∀ reader n, (∃ b, Body.ofHead method status headers reader = .ok b ∧
      b.framing = .length n) ↔ v.IsLength n ∨ v.IsSignedLength n) ∧
    ((∀ n, ¬ v.IsLength n ∧ ¬ v.IsSignedLength n) → ∀ reader,
      Body.ofHead method status headers reader =
        .error (.invalidHeader .contentLength v.lossyText)) ∧
    (∀ reader b, Body.ofHead method status headers reader = .ok b →
      ∃ n, b.framing = .length n) := by
  have htaken (reader : Reader) (n : Nat) : (∃ b, Body.ofHead method status headers reader = .ok b ∧
      b.framing = .length n) ↔ v.IsLength n ∨ v.IsSignedLength n := by
    rw [ofHead_length_iff hkind hencoding hlength, parseLength?_eq_some_iff]
  have hrefused (hnone : ∀ n, ¬ v.IsLength n ∧ ¬ v.IsSignedLength n) (reader : Reader) :
      Body.ofHead method status headers reader =
        .error (.invalidHeader .contentLength v.lossyText) := by
    refine ofHead_noLength hkind hencoding hlength ?_ reader
    rw [Option.eq_none_iff_forall_ne_some]
    intro n hvalue
    rcases parseLength?_eq_some_iff.1 hvalue with hlength | hsigned
    · exact (hnone n).1 hlength
    · exact (hnone n).2 hsigned
  refine ⟨⟨?_, ?_⟩, htaken, hrefused, ?_⟩
  · rintro htakes ⟨n, hsigned⟩
    have hlength := (htakes.accepts (.ofInflow .empty) n).1 ((htaken _ n).2 (.inr hsigned))
    exact hlength.not_signed hsigned
  · intro hunsigned
    have hnever (n : Nat) : ¬ v.IsSignedLength n := fun h => hunsigned ⟨n, h⟩
    refine ⟨fun reader n => ?_, fun hnone => hrefused fun n => ⟨hnone n, hnever n⟩⟩
    rw [htaken]
    exact or_iff_left (hnever n)
  · intro reader b hbody
    cases hvalue : parseLength? v with
    | none =>
      rw [ofHead_noLength hkind hencoding hlength hvalue] at hbody
      cases hbody
    | some n =>
      obtain ⟨b', hbody', -, hframing⟩ :=
        Body.ofHead_length hkind hencoding hlength hvalue reader
      cases hbody'.symm.trans hbody
      exact ⟨n, hframing⟩

/-- A length with zeros in front, and blanks on both sides. -/
def paddedLength : HeaderValue := .ofText " 007\t"

theorem takesLengths_iff_padded :
    let headers := Headers.ofList [(.contentLength, paddedLength)]
    (isBodiless .get .okay = false ∧ headers.get? .transferEncoding = none ∧
        headers.get? .contentLength = some paddedLength) ∧
      TakesLengths .get .okay headers paddedLength ∧
      ∃ b, Body.ofHead .get .okay headers (.ofInflow .empty) = .ok b ∧ b.framing = .length 7 := by
  intro headers
  have hkind : isBodiless .get .okay = false := by decide
  have hencoding : headers.get? .transferEncoding = none := by decide
  have hlength : headers.get? .contentLength = some paddedLength := by decide
  have hseven : paddedLength.IsLength 7 :=
    ⟨[48, 48, 55], ⟨[32], [9], by decide, by simp⟩, ⟨by decide, by simp, by decide, by decide⟩⟩
  have htakes : TakesLengths .get .okay headers paddedLength :=
    (takesLengths_iff hkind hencoding hlength).1.2
      fun ⟨_, hsigned⟩ => hseven.not_signed hsigned
  exact ⟨⟨hkind, hencoding, hlength⟩, htakes, (htakes.accepts _ 7).2 hseven⟩

/-- A length behind a plus sign. -/
def signedLength : HeaderValue := .ofText "+5"

/-- **A sign is no part of a length, and it is taken for one.** -/
theorem not_takesLengths_signed :
    let headers := Headers.ofList [(.contentLength, signedLength)]
    isBodiless .get .okay = false ∧ headers.get? .transferEncoding = none ∧
      headers.get? .contentLength = some signedLength ∧
      (∃ b, Body.ofHead .get .okay headers (.ofInflow .empty) = .ok b ∧ b.framing = .length 5) ∧
      (∀ n, ¬ signedLength.IsLength n) ∧ ¬ TakesLengths .get .okay headers signedLength := by
  intro headers
  have hkind : isBodiless .get .okay = false := by decide
  have hencoding : headers.get? .transferEncoding = none := by decide
  have hlength : headers.get? .contentLength = some signedLength := by decide
  have hsigned : signedLength.IsSignedLength 5 :=
    ⟨[53], ⟨[], [], by decide, by simp⟩, ⟨by decide, by simp, by decide, by decide⟩⟩
  have hfive := (ofHead_length_iff hkind hencoding hlength (.ofInflow .empty) 5).2
    (parseLength?_eq_some_iff.2 (.inr hsigned))
  refine ⟨hkind, hencoding, hlength, hfive, fun n h => h.not_signed hsigned, fun htakes => ?_⟩
  exact ((htakes.accepts _ 5).1 hfive).not_signed hsigned

end Http

end UrlTransfer
