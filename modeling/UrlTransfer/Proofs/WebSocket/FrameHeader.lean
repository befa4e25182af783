/-
# Frame headers as bytes

`FrameHeader.read` takes a header out of a buffer.  Here it is compared with `FrameHeader.parser`,
which takes a header off the front of a byte string: on every stream that ends, however it is cut,
the one does what the other says (`computes_read`).

The writer of headers is read back: a header with a length below 2^63, written in front of any
bytes, is taken off again and leaves exactly those bytes (`parser_encode`).  The three forms of a
length meet the three cases of the reader because numbers of a fixed width are read back
(`toNat_ofNat`).
-/
import UrlTransfer.Proofs.Stream.Parsing
import UrlTransfer.WebSocket.Header

namespace UrlTransfer

/-! ## 1. Numbers in network order -/

namespace Bytes

theorem foldl_ofNat (width n start : Nat) :
    (ofNat width n).foldl (fun n b => n * 256 + b.toNat) start =
      start * 256 ^ width + n % 256 ^ width := by
  induction width generalizing start with
  | zero => simp [ofNat, Nat.mod_one]
  | succ width ih =>
    have hbyte : (UInt8.ofNat (n / 256 ^ width)).toNat = n / 256 ^ width % 256 := by simp
    have hmod : n % 256 ^ (width + 1) =
        n / 256 ^ width % 256 * 256 ^ width + n % 256 ^ width := by
      rw [Nat.pow_succ, Nat.mod_mul, Nat.mul_comm (256 ^ width), Nat.add_comm]
    rw [ofNat, List.foldl_cons, ih, hbyte, hmod, Nat.add_mul, Nat.pow_succ, Nat.mul_assoc,
      Nat.mul_comm 256, Nat.add_assoc]

/-- **A number that fits its width is read back.** -/
theorem toNat_ofNat {width n : Nat} (h : n < 256 ^ width) : toNat (ofNat width n) = n := by
  unfold toNat
  rw [foldl_ofNat, Nat.zero_mul, Nat.zero_add, Nat.mod_eq_of_lt h]

end Bytes

namespace WebSocket

namespace FrameHeader

/-! ## 2. The parser -/

/-- Takes a number of `width` bytes. -/
def number (width : Nat) : Parser Nat := do
  return Bytes.toNat (← Parser.take width)

/-- Takes the bytes of a length that does not stand in the second byte.  **The first bit of eight
bytes has to be clear.** -/
def lengthParser (second : Nat) : Parser Nat :=
  if second % 128 = length16 then number 2
  else if second % 128 = length64 then do
    let length ← number 8
    if length < 2 ^ 63 then return length else Parser.fail (.webSocket .invalidLength)
  else return second % 128

/-- Takes the masking key that the first bit of the second byte announces. -/
def keyParser (second : Nat) : Parser (Option UInt32) :=
  if second < maskBit then return none
  else do return some (UInt32.ofNat (← number 4))

/-- Takes what follows the first two bytes.  **Reserved bits count before the kind, and the kind
before the length.** -/
def restParser (first second : Nat) : Parser FrameHeader :=
  if first / 16 % 8 * 16 ≠ 0 then
    Parser.fail (.webSocket (.reservedBits (first / 16 % 8 * 16)))
  else
    match Opcode.ofCode? (first % 16) with
    | none => Parser.fail (.webSocket (.invalidOpcode (first % 16)))
    | some op => do
      let length ← lengthParser second
      let key ← keyParser second
      return { fin := finBit ≤ first, op, key, length }

/-- Takes a header off a byte string; there is none only where there is no byte. -/
def parser : Parser (Option FrameHeader)
  | [] => .ok (none, [])
  | [_] => .error (.io .eof)
  | first :: second :: rest =>
    match restParser first.toNat second.toNat rest with
    | .ok (h, rest') => .ok (some h, rest')
    | .error e => .error e

/-! ## 3. Reading computes the parser -/

variable {K : Readers}

theorem computes_readNumber {width : Nat} (hwidth : 0 < width) :
    K.Computes (readNumber width) (number width) :=
  (Readers.Computes.readExactly hwidth).bind fun _ => .pure _

theorem computes_readLength (second : Nat) :
    K.Computes (readLength second) (lengthParser second) := by
  refine .ite (computes_readNumber (by decide)) (.ite ?_ (.pure _))
  exact (computes_readNumber (by decide)).bind fun length => .ite (.pure length) (.fail _)

theorem computes_readKey (second : Nat) : K.Computes (readKey second) (keyParser second) :=
  .ite (.pure none) ((computes_readNumber (by decide)).bind fun _ => .pure _)

theorem computes_readRest (first second : Nat) :
    K.Computes (readRest first second) (restParser first second) := by
  refine .ite (.fail _) ?_
  cases Opcode.ofCode? (first % 16) with
  | none => exact .fail _
  | some op =>
    exact (computes_readLength second).bind fun _ =>
      (computes_readKey second).bind fun _ => .pure _

/-- The first two bytes are there. -/
theorem read_cons {r : Reader} {first second : UInt8} {rest : Bytes}
    (h : r.ahead = first :: second :: rest) :
    ∃ r', Reader.Passed 2 r r' ∧ r'.ahead = rest ∧
      read r = (readRest first.toNat second.toNat >>= fun h => pure (some h)) r' := by
  obtain ⟨r', hread, hpassed⟩ :=
    Reader.readExactly?_some (n := 2) (r := r) (by decide) (by rw [h]; simp)
  rw [h] at hread
  have htake : Act.mapError Error.io (Reader.readExactly? 2) r = .ok (some [first, second]) r' :=
    Act.mapError_ok hread
  refine ⟨r', hpassed, by rw [hpassed.ahead, h]; rfl, ?_⟩
  unfold read
  exact Act.bind_ok htake

/-- The stream ends in front of a header. -/
theorem read_none {r : Reader} (h : r.ahead = []) (hend : r.inflow.ending = .eof) :
    ∃ r', Reader.Passed 0 r r' ∧ read r = .ok none r' := by
  obtain ⟨r', hread, hpassed⟩ := Reader.readExactly?_none (n := 2) (by decide) h hend
  have htake : Act.mapError Error.io (Reader.readExactly? 2) r = .ok none r' :=
    Act.mapError_ok hread
  refine ⟨r', hpassed, ?_⟩
  unfold read
  exact Act.bind_ok htake

/-- The stream ends behind the first byte of a header. -/
theorem read_one {r : Reader} {b : UInt8} (h : r.ahead = [b]) (hend : r.inflow.ending = .eof) :
    ∃ r', read r = .error (.failed (.io .eof)) r' := by
  obtain ⟨r', hread, -⟩ :=
    Reader.readExactly?_short (n := 2) (by rw [h]; simp) (by rw [h]; simp) hend
  have htake : Act.mapError Error.io (Reader.readExactly? 2) r =
      .error (.failed (.io .eof)) r' :=
    Act.mapError_error hread
  refine ⟨r', ?_⟩
  unfold read
  exact Act.bind_error htake

/-- **Reading a header is taking it off the bytes ahead.** -/
theorem computes_read : K.Computes read parser where
  ok := by
    intro r o rest hmem h
    match hahead : r.ahead with
    | [] =>
      rw [hahead] at h
      cases h
      obtain ⟨r', hpassed, hread⟩ := read_none hahead (K.ends hmem)
      exact ⟨r', hread, by rw [hpassed.ahead, hahead]; rfl, K.stays hpassed hmem⟩
    | [b] => rw [hahead] at h; cases h
    | first :: second :: more =>
      obtain ⟨r', hpassed, hmore, hread⟩ := read_cons hahead
      rw [hahead, parser] at h
      split at h
      · next hparse =>
        cases h
        obtain ⟨r'', hrest, hahead', hmem'⟩ :=
          (computes_readRest first.toNat second.toNat).ok (K.stays hpassed hmem)
            (by rw [hmore]; exact hparse)
        exact ⟨r'', by rw [hread, Act.bind_ok hrest]; rfl, hahead', hmem'⟩
      · cases h
  error := by
    intro r e hmem h
    match hahead : r.ahead with
    | [] => rw [hahead] at h; cases h
    | [b] =>
      rw [hahead] at h
      cases h
      exact read_one hahead (K.ends hmem)
    | first :: second :: more =>
      obtain ⟨r', hpassed, hmore, hread⟩ := read_cons hahead
      rw [hahead, parser] at h
      split at h
      · cases h
      · next hparse =>
        cases h
        obtain ⟨r'', hrest⟩ :=
          (computes_readRest first.toNat second.toNat).error (K.stays hpassed hmem)
            (by rw [hmore]; exact hparse)
        exact ⟨r'', by rw [hread, Act.bind_error hrest]⟩

/-! ## 4. What is written is read back -/

/-- The bit of the second byte for a masked frame, as `encode` writes it. -/
def maskedBit (key : Option UInt32) : Nat := if key.isSome then maskBit else 0

/-- The bytes of a length behind the second byte. -/
def extendedLength (length : Nat) : Bytes :=
  if length < length16 then [] else if length < 65536 then Bytes.ofNat 2 length
  else Bytes.ofNat 8 length

/-- What stands in the second byte for a length. -/
def shortLength (length : Nat) : Nat :=
  if length < length16 then length else if length < 65536 then length16 else length64

/-- The bytes of a masking key. -/
def keyBytes (key : Option UInt32) : Bytes :=
  match key with
  | some key => Bytes.ofNat 4 key.toNat
  | none => []

/-- The parts of a written header. -/
theorem encode_eq (h : FrameHeader) :
    h.encode = UInt8.ofNat ((if h.fin then finBit else 0) + h.op.code) ::
      UInt8.ofNat (maskedBit h.key + shortLength h.length) ::
        (extendedLength h.length ++ keyBytes h.key) := by
  obtain ⟨fin, op, key, length⟩ := h
  unfold encode maskedBit extendedLength shortLength keyBytes
  dsimp only
  by_cases h16 : length < length16
  · simp only [if_pos h16]
    rfl
  · simp only [if_neg h16]
    by_cases h64 : length < 65536
    · simp only [if_pos h64]
      rfl
    · simp only [if_neg h64]
      rfl

theorem shortLength_lt (length : Nat) : shortLength length < 128 := by
  unfold shortLength length16 length64
  split
  · omega
  · split <;> omega

/-- The second byte of a written header, as a number. -/
theorem toNat_second (key : Option UInt32) (length : Nat) :
    (UInt8.ofNat (maskedBit key + shortLength length)).toNat =
      maskedBit key + shortLength length := by
  have := shortLength_lt length
  have hbit : maskedBit key ≤ 128 := by
    unfold maskedBit maskBit
    split <;> omega
  rw [UInt8.toNat_ofNat']
  exact Nat.mod_eq_of_lt (by omega)

/-- A number is read back. -/
theorem number_ofNat {width n : Nat} (h : n < 256 ^ width) (rest : Bytes) :
    number width (Bytes.ofNat width n ++ rest) = .ok (n, rest) := by
  unfold number
  rw [Parser.bind_ok (Parser.take_append (Bytes.length_ofNat width n) rest), Bytes.toNat_ofNat h]
  rfl

/-- **A length is read back** from the second byte and the bytes behind it. -/
theorem lengthParser_encode {length : Nat} (h : length < 2 ^ 63) (key : Option UInt32)
    (rest : Bytes) :
    lengthParser (maskedBit key + shortLength length) (extendedLength length ++ rest) =
      .ok (length, rest) := by
  have hshort : (maskedBit key + shortLength length) % 128 = shortLength length := by
    have := shortLength_lt length
    unfold maskedBit maskBit
    split <;> omega
  unfold lengthParser
  rw [hshort]
  unfold shortLength extendedLength length16 length64
  by_cases h16 : length < 126
  · simp only [if_pos h16]
    rw [if_neg (by omega), if_neg (by omega)]
    rfl
  · simp only [if_neg h16]
    by_cases h64 : length < 65536
    · simp only [if_pos h64, if_true]
      exact number_ofNat (by omega) rest
    · simp only [if_neg h64]
      rw [if_neg (by decide), if_pos trivial, Parser.bind_ok (number_ofNat (by omega) rest),
        if_pos h]
      rfl

/-- A masking key is read back. -/
theorem keyParser_encode (key : Option UInt32) (length : Nat) (rest : Bytes) :
    keyParser (maskedBit key + shortLength length) (keyBytes key ++ rest) = .ok (key, rest) := by
  have := shortLength_lt length
  unfold keyParser maskedBit maskBit keyBytes
  cases key with
  | none =>
    rw [if_pos (by simpa using this)]
    rfl
  | some key =>
    have hkey : key.toNat < 256 ^ 4 := key.toNat_lt
    rw [if_neg (by simp), Parser.bind_ok (number_ofNat hkey rest)]
    simp

/-- **A header is read back**, and what was written behind it is left. -/
theorem parser_encode {h : FrameHeader} (hlength : h.length < 2 ^ 63) (rest : Bytes) :
    parser (h.encode ++ rest) = .ok (some h, rest) := by
  obtain ⟨fin, op, key, length⟩ := h
  have hcode := Opcode.code_lt op
  have hfirst : (UInt8.ofNat ((if fin then finBit else 0) + op.code)).toNat =
      (if fin then finBit else 0) + op.code := by
    rw [UInt8.toNat_ofNat']
    refine Nat.mod_eq_of_lt ?_
    unfold finBit
    split <;> omega
  rw [encode_eq, List.cons_append, List.cons_append, List.append_assoc, parser]
  dsimp only at hlength ⊢
  rw [hfirst, toNat_second]
  unfold restParser
  have hreserved : ((if fin then finBit else 0) + op.code) / 16 % 8 * 16 = 0 := by
    unfold finBit
    split <;> omega
  have hop : ((if fin then finBit else 0) + op.code) % 16 = op.code := by
    unfold finBit
    split <;> omega
  have hfin : decide (finBit ≤ (if fin then finBit else 0) + op.code) = fin := by
    unfold finBit
    cases fin with
    | false => simp; omega
    | true => simp
  rw [hreserved, if_neg (by simp), hop, Opcode.ofCode?_code]
  dsimp only
  rw [Parser.bind_ok (lengthParser_encode hlength key (keyBytes key ++ rest)),
    Parser.bind_ok (keyParser_encode key length rest), hfin]
  rfl

end FrameHeader

end WebSocket

end UrlTransfer
