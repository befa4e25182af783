/-
# How a frame header is spelled

A header has two bytes and then, where they announce them, those of its length and those of its key.
Its length may stand in the second byte, in two bytes or in eight: a reader takes every form that
the length fits (`LengthForm`), the writer chooses the first of them.  So a header has up to three
spellings (`Spells`).

The parser takes off exactly the spellings (`parser_iff`), each part of it exactly those of its part
of the header.  What is written is a spelling, and every other one is longer (`Spells.shortest`),
since the forms of a length differ in how many bytes they take and in nothing else.

To go from bytes to streams, that may end in any way, takes two properties of parsers, kept along
sequences: what an action reads is what the parser takes off the bytes ahead (`Parser.Tells`), and
a parser on a front of what it takes off comes to the same or to the end of the bytes
(`Parser.Steady`).
-/
import UrlTransfer.Proofs.WebSocket.Aligning

namespace UrlTransfer

/-! ## 1. Numbers in network order -/

namespace Bytes

theorem foldl_toNat (bytes : Bytes) (start : Nat) :
    bytes.foldl (fun n b => n * 256 + b.toNat) start =
      start * 256 ^ bytes.length + toNat bytes := by
  unfold toNat
  induction bytes generalizing start with
  | nil => simp
  | cons b rest ih =>
    rw [List.foldl_cons, List.foldl_cons, ih, ih (0 * 256 + b.toNat), List.length_cons,
      Nat.pow_succ, Nat.zero_mul, Nat.zero_add, Nat.add_mul, Nat.mul_assoc,
      Nat.mul_comm 256, Nat.add_assoc]

theorem toNat_cons (b : UInt8) (rest : Bytes) :
    toNat (b :: rest) = b.toNat * 256 ^ rest.length + toNat rest := by
  show (b :: rest).foldl _ 0 = _
  rw [List.foldl_cons, foldl_toNat, Nat.zero_mul, Nat.zero_add]

theorem toNat_lt (bytes : Bytes) : toNat bytes < 256 ^ bytes.length := by
  induction bytes with
  | nil => decide
  | cons b rest ih =>
    have hb : b.toNat + 1 ≤ 256 := b.toNat_lt
    rw [toNat_cons, List.length_cons, Nat.pow_succ]
    calc b.toNat * 256 ^ rest.length + toNat rest
        < b.toNat * 256 ^ rest.length + 256 ^ rest.length := Nat.add_lt_add_left ih _
      _ = (b.toNat + 1) * 256 ^ rest.length := (Nat.succ_mul _ _).symm
      _ ≤ 256 * 256 ^ rest.length := Nat.mul_le_mul_right _ hb
      _ = 256 ^ rest.length * 256 := Nat.mul_comm _ _

/-- Digits in front of the last ones do not count. -/
theorem ofNat_add (width front n : Nat) :
    ofNat width (front * 256 ^ width + n) = ofNat width n := by
  induction width generalizing front with
  | zero => rfl
  | succ width ih =>
    have hpos : 0 < 256 ^ width := Nat.pow_pos (by decide)
    have hfront : front * 256 ^ (width + 1) = 256 ^ width * (front * 256) := by
      rw [Nat.pow_succ, Nat.mul_comm front, Nat.mul_assoc, Nat.mul_comm 256]
    have hdigit : UInt8.ofNat (front * 256 + n / 256 ^ width) = UInt8.ofNat (n / 256 ^ width) := by
      rw [← UInt8.toNat_inj, UInt8.toNat_ofNat', UInt8.toNat_ofNat', Nat.add_comm]
      exact Nat.add_mul_mod_self_right _ _ _
    rw [ofNat, ofNat, hfront, Nat.mul_add_div hpos, hdigit, Nat.mul_comm, ih]

/-- **Bytes are those of their number.** -/
theorem ofNat_toNat (bytes : Bytes) : ofNat bytes.length (toNat bytes) = bytes := by
  induction bytes with
  | nil => rfl
  | cons b rest ih =>
    have hpos : 0 < 256 ^ rest.length := Nat.pow_pos (by decide)
    have hdigit : (b.toNat * 256 ^ rest.length + toNat rest) / 256 ^ rest.length = b.toNat := by
      rw [Nat.mul_comm, Nat.mul_add_div hpos, Nat.div_eq_of_lt (toNat_lt rest), Nat.add_zero]
    rw [List.length_cons, ofNat, toNat_cons, hdigit, ofNat_add, ih, UInt8.ofNat_toNat]

end Bytes

/-! ## 2. What an action reads -/

namespace Reader

/-- What is read exactly is what is ahead. -/
theorem readExactly?_eq_some {n : Nat} {r r' : Reader} {got : Bytes}
    (h : readExactly? n r = .ok (some got) r') :
    n ≤ r.ahead.length ∧ got = r.ahead.take n ∧ r'.ahead = r.ahead.drop n := by
  have hlength := length_of_readExactly? h
  unfold readExactly? at h
  obtain ⟨all, q, hread, hrest⟩ := Act.bind_eq_ok.1 h
  obtain ⟨rfl, rfl⟩ : all = got ∧ q = r' := by
    split at hrest
    · cases hrest
    · split at hrest
      · cases hrest; exact ⟨rfl, rfl⟩
      · cases hrest
  obtain ⟨houtcome, hpassed⟩ := (ends_readFully r n).of_ok hread
  by_cases hn : n ≤ r.ahead.length
  · rw [if_pos hn] at houtcome
    cases houtcome
    exact ⟨hn, rfl, hpassed.ahead⟩
  · rw [if_neg hn] at houtcome
    cases hending : r.inflow.ending with
    | eof =>
      rw [hending] at houtcome
      cases houtcome
      exact absurd (Nat.le_of_eq hlength.symm) hn
    | hang => rw [hending] at houtcome; cases houtcome
    | fault error => rw [hending] at houtcome; cases houtcome

end Reader

namespace Parser

variable {α β : Type}

/-- What the action reads is what the parser takes off the bytes ahead, however they end. -/
def Tells (f : Parser α) (x : Act Error Reader α) : Prop :=
  ∀ ⦃r a r'⦄, x r = .ok a r' → f r.ahead = .ok (a, r'.ahead)

namespace Tells

theorem pure (a : α) : Tells (Pure.pure a) (Pure.pure a) := by
  intro r b r' h
  cases h
  rfl

theorem fail (error : Error) (f : Parser α) : Tells f (Act.fail error) := by
  intro r a r' h
  cases h

theorem bind {f : Parser α} {x : Act Error Reader α} {k : α → Parser β}
    {g : α → Act Error Reader β} (hf : Tells f x) (hk : ∀ a, Tells (k a) (g a)) :
    Tells (f >>= k) (x >>= g) := by
  intro r b r' h
  obtain ⟨a, q, hx, hg⟩ := Act.bind_eq_ok.1 h
  rw [bind_ok (hf hx)]
  exact hk a hg

theorem ite {p : Prop} [Decidable p] {f g : Parser α} {x y : Act Error Reader α}
    (hf : Tells f x) (hg : Tells g y) : Tells (if p then f else g) (if p then x else y) := by
  split
  · exact hf
  · exact hg

theorem readExactly (n : Nat) :
    Tells (Parser.take n) (Act.mapError Error.io (Reader.readExactly n)) := by
  intro r got r' h
  obtain ⟨o, q, hexact, hrest⟩ := Act.bind_eq_ok.1 (Act.mapError_eq_ok.1 h)
  cases o with
  | none => cases hrest
  | some got =>
    cases hrest
    obtain ⟨hn, hgot, hahead⟩ := Reader.readExactly?_eq_some hexact
    rw [take_enough hn, hgot, hahead]

end Tells

/-- On a front of bytes the parser comes to the same as on all of them, or to their end. -/
def Steady (f : Parser α) : Prop :=
  ∀ ⦃bytes more a left⦄, f (bytes ++ more) = .ok (a, left) →
    (∃ rest, f bytes = .ok (a, rest) ∧ left = rest ++ more) ∨ f bytes = .error (.io .eof)

namespace Steady

theorem pure (a : α) : Steady (Pure.pure a) := by
  intro bytes more b left h
  cases h
  exact .inl ⟨bytes, rfl, rfl⟩

theorem fail (error : Error) : Steady (Parser.fail error : Parser α) := by
  intro bytes more a left h
  cases h

theorem bind {f : Parser α} {k : α → Parser β} (hf : Steady f) (hk : ∀ a, Steady (k a)) :
    Steady (f >>= k) := by
  intro bytes more b left h
  obtain ⟨a, rest, hparse, hrest⟩ := bind_eq_ok.1 h
  rcases hf hparse with ⟨rest', hfront, rfl⟩ | hend
  · rw [bind_ok hfront]
    exact hk a hrest
  · exact .inr (bind_error hend)

theorem ite {p : Prop} [Decidable p] {f g : Parser α} (hf : Steady f) (hg : Steady g) :
    Steady (if p then f else g) := by
  split
  · exact hf
  · exact hg

theorem take (n : Nat) : Steady (Parser.take n) := by
  intro bytes more got left h
  by_cases hshort : bytes.length < n
  · exact .inr (take_short hshort)
  · have hn : n ≤ bytes.length := Nat.not_lt.1 hshort
    rw [take_enough (by rw [List.length_append]; omega)] at h
    cases h
    refine .inl ⟨bytes.drop n, ?_, List.drop_append_of_le_length hn⟩
    rw [take_enough hn, List.take_append_of_le_length hn]

end Steady

end Parser

namespace WebSocket

namespace FrameHeader

theorem tells_readNumber (width : Nat) : (number width).Tells (readNumber width) :=
  (Parser.Tells.readExactly width).bind fun _ => .pure _

theorem tells_readLength (second : Nat) : (lengthParser second).Tells (readLength second) := by
  refine .ite (tells_readNumber 2) (.ite ?_ (.pure _))
  exact (tells_readNumber 8).bind fun length => .ite (.pure length) (.fail _ _)

theorem tells_readKey (second : Nat) : (keyParser second).Tells (readKey second) :=
  .ite (.pure none) ((tells_readNumber 4).bind fun _ => .pure _)

theorem tells_readRest (first second : Nat) :
    (restParser first second).Tells (readRest first second) := by
  refine .ite (.fail _ _) ?_
  cases Opcode.ofCode? (first % 16) with
  | none => exact .fail _ _
  | some op =>
    exact (tells_readLength second).bind fun _ => (tells_readKey second).bind fun _ => .pure _

/-- **A header that is read is the one that the parser takes off.** -/
theorem parsed_of_read {r r' : Reader} {h : FrameHeader} (hread : read r = .ok (some h) r') :
    parser r.ahead = .ok (some h, r'.ahead) := by
  obtain ⟨o, q, htake, hrest⟩ := Act.bind_eq_ok.1 hread
  have hexact : Reader.readExactly? 2 r = .ok o q := Act.mapError_eq_ok.1 htake
  cases o with
  | none => cases hrest
  | some bytes =>
    obtain ⟨-, hbytes, hahead⟩ := Reader.readExactly?_eq_some hexact
    match bytes, Reader.length_of_readExactly? hexact with
    | [first, second], _ =>
      obtain ⟨h', q', hmore, hsome⟩ := Act.bind_eq_ok.1 hrest
      cases hsome
      have hparse := tells_readRest _ _ hmore
      rw [← List.take_append_drop 2 r.ahead, ← hbytes, ← hahead]
      show parser (first :: second :: q.ahead) = _
      rw [parser, hparse]

theorem steady_number (width : Nat) : (number width).Steady :=
  (Parser.Steady.take width).bind fun _ => .pure _

theorem steady_lengthParser (second : Nat) : (lengthParser second).Steady := by
  refine .ite (steady_number 2) (.ite ?_ (.pure _))
  exact (steady_number 8).bind fun length => .ite (.pure length) (.fail _)

theorem steady_keyParser (second : Nat) : (keyParser second).Steady :=
  .ite (.pure none) ((steady_number 4).bind fun _ => .pure _)

theorem steady_restParser (first second : Nat) : (restParser first second).Steady := by
  refine .ite (.fail _) ?_
  cases Opcode.ofCode? (first % 16) with
  | none => exact .fail _
  | some op =>
    exact (steady_lengthParser second).bind fun _ => (steady_keyParser second).bind fun _ => .pure _

/-- **A header that is cut off is the end of the stream, too early.** -/
theorem parser_cut {bytes more : Bytes} {h : FrameHeader} (hbytes : bytes ≠ []) (hmore : more ≠ [])
    (hparse : parser (bytes ++ more) = .ok (some h, [])) : parser bytes = .error (.io .eof) := by
  match bytes with
  | [] => exact absurd rfl hbytes
  | [_] => rfl
  | first :: second :: rest =>
    rw [List.cons_append, List.cons_append, parser] at hparse
    cases hrest : restParser first.toNat second.toNat (rest ++ more) with
    | error e => rw [hrest] at hparse; cases hparse
    | ok p =>
      obtain ⟨h', left⟩ := p
      rw [hrest] at hparse
      cases hparse
      rcases steady_restParser _ _ hrest with ⟨left, -, hleft⟩ | hend
      · exact absurd (List.append_eq_nil_iff.1 hleft.symm).2 hmore
      · rw [parser, hend]

/-! ## 3. Spellings -/

/-- What the second byte says of a length, and the bytes that it takes behind it. -/
inductive LengthForm (length : Nat) : Nat → Bytes → Prop where
  | short (h : length < length16) : LengthForm length length []
  | medium (h : length < 2 ^ 16) : LengthForm length length16 (Bytes.ofNat 2 length)
  | long (h : length < 2 ^ 63) : LengthForm length length64 (Bytes.ofNat 8 length)

/-- The bit of the first byte for the last frame of a message. -/
def finalBit (fin : Bool) : Nat := if fin then finBit else 0

/-- The bytes are one way to write a header. -/
def Spells (h : FrameHeader) (bytes : Bytes) : Prop :=
  ∃ code extension, LengthForm h.length code extension ∧
    bytes = UInt8.ofNat (finalBit h.fin + h.op.code) ::
      UInt8.ofNat (maskedBit h.key + code) :: (extension ++ keyBytes h.key)

namespace LengthForm

variable {length code : Nat} {extension : Bytes}

theorem code_lt (h : LengthForm length code extension) : code < 128 := by
  cases h with
  | short h => exact Nat.lt_trans h (by decide)
  | medium h => decide
  | long h => decide

theorem length_lt (h : LengthForm length code extension) : length < 2 ^ 63 := by
  cases h with
  | short h => exact Nat.lt_trans h (by decide)
  | medium h => exact Nat.lt_trans h (by decide)
  | long h => exact h

/-- What the writer chooses is a form. -/
theorem chosen (h : length < 2 ^ 63) :
    LengthForm length (shortLength length) (extendedLength length) := by
  unfold shortLength extendedLength
  by_cases h16 : length < length16
  · rw [if_pos h16, if_pos h16]
    exact .short h16
  · rw [if_neg h16, if_neg h16]
    by_cases h64 : length < 65536
    · rw [if_pos h64, if_pos h64]
      exact .medium h64
    · rw [if_neg h64, if_neg h64]
      exact .long h

/-- **Every other form is longer** than what the writer chooses. -/
theorem shortest (h : LengthForm length code extension) :
    code = shortLength length ∧ extension = extendedLength length ∨
      (extendedLength length).length < extension.length := by
  unfold shortLength extendedLength
  cases h with
  | short h => exact .inl ⟨(if_pos h).symm, (if_pos h).symm⟩
  | medium h =>
    by_cases h16 : length < length16
    · rw [if_pos h16, if_pos h16]
      exact .inr (by rw [Bytes.length_ofNat]; decide)
    · rw [if_neg h16, if_neg h16]
      exact .inl ⟨(if_pos h).symm, (if_pos h).symm⟩
  | long h =>
    by_cases h16 : length < length16
    · rw [if_pos h16, if_pos h16]
      exact .inr (by rw [Bytes.length_ofNat]; decide)
    · rw [if_neg h16, if_neg h16]
      by_cases h64 : length < 65536
      · rw [if_pos h64, if_pos h64]
        exact .inr (by rw [Bytes.length_ofNat, Bytes.length_ofNat]; decide)
      · rw [if_neg h64, if_neg h64]
        exact .inl ⟨rfl, rfl⟩

end LengthForm

/-- A number is taken off exactly if its bytes stand in front. -/
theorem number_iff {width n : Nat} {bytes rest : Bytes} :
    number width bytes = .ok (n, rest) ↔
      n < 256 ^ width ∧ bytes = Bytes.ofNat width n ++ rest := by
  constructor
  · intro h
    obtain ⟨got, rest', htake, hpure⟩ := Parser.bind_eq_ok.1 h
    cases hpure
    by_cases hshort : bytes.length < width
    · rw [Parser.take_short hshort] at htake
      cases htake
    · rw [Parser.take_enough (Nat.not_lt.1 hshort)] at htake
      cases htake
      have hlength : (bytes.take width).length = width :=
        List.length_take_of_le (Nat.not_lt.1 hshort)
      have hlt := Bytes.toNat_lt (bytes.take width)
      have hbytes := Bytes.ofNat_toNat (bytes.take width)
      rw [hlength] at hlt hbytes
      exact ⟨hlt, by rw [hbytes, List.take_append_drop]⟩
  · rintro ⟨hlt, rfl⟩
    exact number_ofNat hlt rest

/-- **A length is taken off exactly if one of its forms stands there.** -/
theorem lengthParser_iff {second length : Nat} {bytes rest : Bytes} :
    lengthParser second bytes = .ok (length, rest) ↔
      ∃ extension, LengthForm length (second % 128) extension ∧ bytes = extension ++ rest := by
  unfold lengthParser
  by_cases h16 : second % 128 = length16
  · rw [if_pos h16, number_iff, h16]
    constructor
    · rintro ⟨hlt, hbytes⟩
      exact ⟨_, .medium hlt, hbytes⟩
    · rintro ⟨extension, hform, hbytes⟩
      cases hform with
      | short h => exact absurd h (Nat.lt_irrefl _)
      | medium h => exact ⟨h, hbytes⟩
  · rw [if_neg h16]
    by_cases h64 : second % 128 = length64
    · rw [if_pos h64, h64, Parser.bind_eq_ok]
      constructor
      · rintro ⟨n, left, hnumber, hbound⟩
        by_cases hlt : n < 2 ^ 63
        · rw [if_pos hlt] at hbound
          cases hbound
          exact ⟨_, .long hlt, (number_iff.1 hnumber).2⟩
        · rw [if_neg hlt] at hbound
          cases hbound
      · rintro ⟨extension, hform, hbytes⟩
        cases hform with
        | short h => exact absurd h (by decide)
        | long h =>
          exact ⟨length, rest, number_iff.2 ⟨Nat.lt_trans h (by decide), hbytes⟩, if_pos h ▸ rfl⟩
    · rw [if_neg h64]
      constructor
      · intro h
        cases h
        refine ⟨[], .short ?_, rfl⟩
        have hcode := Nat.mod_lt second (show 0 < 128 by decide)
        unfold length16 length64 at *
        omega
      · rintro ⟨extension, hform, hbytes⟩
        generalize second % 128 = code at *
        cases hform with
        | short h => rw [hbytes]; rfl
        | medium h => exact absurd rfl h16
        | long h => exact absurd rfl h64

/-- A key is taken off exactly if it is announced and stands there. -/
theorem keyParser_iff {second : Nat} {key : Option UInt32} {bytes rest : Bytes} :
    keyParser second bytes = .ok (key, rest) ↔
      (key.isSome ↔ maskBit ≤ second) ∧ bytes = keyBytes key ++ rest := by
  unfold keyParser
  by_cases hbit : second < maskBit
  · rw [if_pos hbit]
    constructor
    · intro h
      cases h
      exact ⟨iff_of_false (by decide) (Nat.not_le.2 hbit), rfl⟩
    · rintro ⟨hkey, hbytes⟩
      cases key with
      | none => rw [hbytes]; rfl
      | some key => exact absurd (hkey.1 rfl) (Nat.not_le.2 hbit)
  · rw [if_neg hbit, Parser.bind_eq_ok]
    constructor
    · rintro ⟨n, left, hnumber, hpure⟩
      cases hpure
      obtain ⟨hlt, hbytes⟩ := number_iff.1 hnumber
      refine ⟨iff_of_true rfl (Nat.not_lt.1 hbit), ?_⟩
      have hkey : (UInt32.ofNat n).toNat = n := by
        rw [UInt32.toNat_ofNat']
        exact Nat.mod_eq_of_lt hlt
      rw [hbytes, keyBytes, hkey]
    · rintro ⟨hkey, hbytes⟩
      cases key with
      | none => exact absurd (hkey.2 (Nat.not_lt.1 hbit)) (by decide)
      | some key =>
        refine ⟨key.toNat, rest, number_iff.2 ⟨key.toNat_lt, hbytes⟩, ?_⟩
        rw [UInt32.ofNat_toNat]
        rfl

/-- The kind of a code has this code. -/
theorem code_of_ofCode? {n : Nat} {op : Opcode} (h : Opcode.ofCode? n = some op) : op.code = n := by
  have hcode := List.find?_some h
  exact eq_of_beq hcode

/-- What the first byte says: **no reserved bit, one of the six kinds**, and whether the frame is
the last. -/
theorem first_iff {first : UInt8} {fin : Bool} {op : Opcode} :
    first = UInt8.ofNat (finalBit fin + op.code) ↔
      first.toNat / 16 % 8 * 16 = 0 ∧ Opcode.ofCode? (first.toNat % 16) = some op ∧
        decide (finBit ≤ first.toNat) = fin := by
  have hcode := Opcode.code_lt op
  have hbit : finalBit fin = 0 ∧ fin = false ∨ finalBit fin = 128 ∧ fin = true := by
    cases fin
    · exact .inl ⟨rfl, rfl⟩
    · exact .inr ⟨rfl, rfl⟩
  constructor
  · rintro rfl
    have hfirst : (UInt8.ofNat (finalBit fin + op.code)).toNat = finalBit fin + op.code := by
      rw [UInt8.toNat_ofNat']
      exact Nat.mod_eq_of_lt (by omega)
    rw [hfirst]
    have hop : (finalBit fin + op.code) % 16 = op.code := by omega
    refine ⟨by omega, by rw [hop, Opcode.ofCode?_code], ?_⟩
    unfold finBit
    rcases hbit with ⟨hbit, rfl⟩ | ⟨hbit, rfl⟩
    · exact decide_eq_false (by omega)
    · exact decide_eq_true (by omega)
  · rintro ⟨hreserved, hop, hfin⟩
    have hlow := code_of_ofCode? hop
    have hlt := first.toNat_lt
    rw [← UInt8.toNat_inj, UInt8.toNat_ofNat']
    unfold finBit at hfin
    rcases hbit with ⟨hbit, rfl⟩ | ⟨hbit, rfl⟩
    · have := of_decide_eq_false hfin
      omega
    · have := of_decide_eq_true hfin
      omega

/-- What the second byte says: whether there is a key, and of which form the length is. -/
theorem second_iff {second : UInt8} {key : Option UInt32} {code : Nat} (hcode : code < 128) :
    second = UInt8.ofNat (maskedBit key + code) ↔
      second.toNat % 128 = code ∧ (key.isSome ↔ maskBit ≤ second.toNat) := by
  have hlt := second.toNat_lt
  have hbit : maskedBit key = 0 ∧ ¬ key.isSome ∨ maskedBit key = 128 ∧ key.isSome := by
    cases key with
    | none => exact .inl ⟨rfl, by decide⟩
    | some key => exact .inr ⟨rfl, rfl⟩
  rw [← UInt8.toNat_inj, UInt8.toNat_ofNat']
  unfold maskBit
  rcases hbit with ⟨hbit, hkey⟩ | ⟨hbit, hkey⟩
  · rw [hbit, iff_false_left hkey]
    omega
  · rw [hbit, iff_true_left hkey]
    omega

theorem restParser_iff {first second : Nat} {h : FrameHeader} {bytes rest : Bytes} :
    restParser first second bytes = .ok (h, rest) ↔
      (first / 16 % 8 * 16 = 0 ∧ Opcode.ofCode? (first % 16) = some h.op ∧
        decide (finBit ≤ first) = h.fin) ∧
      ∃ left, lengthParser second bytes = .ok (h.length, left) ∧
        keyParser second left = .ok (h.key, rest) := by
  unfold restParser
  by_cases hreserved : first / 16 % 8 * 16 = 0
  · rw [if_neg (not_not_intro hreserved)]
    cases hop : Opcode.ofCode? (first % 16) with
    | none =>
      exact iff_of_false (fun hparse => by cases hparse) fun hparts => by cases hparts.1.2.1
    | some op =>
      constructor
      · intro hparse
        obtain ⟨length, left, hlength, hparse⟩ := Parser.bind_eq_ok.1 hparse
        obtain ⟨key, left', hkey, hpure⟩ := Parser.bind_eq_ok.1 hparse
        cases hpure
        exact ⟨⟨hreserved, rfl, rfl⟩, left, hlength, hkey⟩
      · obtain ⟨fin, op', key, length⟩ := h
        rintro ⟨⟨-, hop', hfin⟩, left, hlength, hkey⟩
        cases hop'
        cases hfin
        dsimp only
        rw [Parser.bind_ok hlength, Parser.bind_ok hkey]
        rfl
  · rw [if_pos hreserved]
    exact iff_of_false (fun hparse => by cases hparse) fun hparts => hreserved hparts.1.1

/-- **A header is taken off exactly if one of its spellings stands in front.** -/
theorem parser_iff {h : FrameHeader} {bytes rest : Bytes} :
    parser bytes = .ok (some h, rest) ↔ ∃ front, Spells h front ∧ bytes = front ++ rest := by
  constructor
  · intro hparse
    match bytes with
    | [] => cases hparse
    | [_] => cases hparse
    | first :: second :: more =>
      rw [parser] at hparse
      cases hmore : restParser first.toNat second.toNat more with
      | error e => rw [hmore] at hparse; cases hparse
      | ok p =>
        rw [hmore] at hparse
        cases hparse
        obtain ⟨hfirst, left, hlength, hkey⟩ := restParser_iff.1 hmore
        obtain ⟨extension, hform, rfl⟩ := lengthParser_iff.1 hlength
        obtain ⟨hmasked, rfl⟩ := keyParser_iff.1 hkey
        refine ⟨_, ⟨_, extension, hform, rfl⟩, ?_⟩
        rw [← first_iff.2 hfirst, ← (second_iff hform.code_lt).2 ⟨rfl, hmasked⟩,
          List.cons_append, List.cons_append, List.append_assoc]
  · rintro ⟨front, ⟨code, extension, hform, rfl⟩, rfl⟩
    generalize hfirst : UInt8.ofNat (finalBit h.fin + h.op.code) = first
    generalize hsecond : UInt8.ofNat (maskedBit h.key + code) = second
    obtain ⟨hcode, hmasked⟩ := (second_iff hform.code_lt).1 hsecond.symm
    rw [List.cons_append, List.cons_append, List.append_assoc, parser,
      restParser_iff.2 ⟨first_iff.1 hfirst.symm, keyBytes h.key ++ rest,
        lengthParser_iff.2 ⟨extension, hcode.symm ▸ hform, rfl⟩, keyParser_iff.2 ⟨hmasked, rfl⟩⟩]

namespace Spells

variable {h : FrameHeader} {bytes : Bytes}

/-- What is written is a spelling. -/
theorem encode (hlength : h.length < 2 ^ 63) : Spells h h.encode :=
  ⟨_, _, .chosen hlength, encode_eq h⟩

/-- **Every other spelling is longer** than what is written. -/
theorem shortest (hspells : Spells h bytes) :
    bytes = h.encode ∨ h.encode.length < bytes.length := by
  obtain ⟨code, extension, hform, rfl⟩ := hspells
  rw [encode_eq]
  rcases hform.shortest with ⟨rfl, rfl⟩ | hlonger
  · exact .inl rfl
  · refine .inr ?_
    simp only [List.length_cons, List.length_append]
    omega

end Spells

/-! ## 4. Reading and writing -/

/-- How many bytes a length takes behind the second byte, where seven or sixteen bits are enough or
not. -/
def lengthWidth (length : Nat) : Nat := if length < 126 then 0 else if length < 65536 then 2 else 8

theorem length_encode_eq (h : FrameHeader) :
    h.encode.length = 2 + lengthWidth h.length + if h.key.isSome then 4 else 0 := by
  have hextension : (extendedLength h.length).length = lengthWidth h.length := by
    unfold extendedLength lengthWidth length16
    split
    · rfl
    · split <;> exact Bytes.length_ofNat _ _
  have hkey : (keyBytes h.key).length = if h.key.isSome then 4 else 0 := by
    cases h.key <;> rfl
  rw [encode_eq, List.length_cons, List.length_cons, List.length_append, hextension, hkey]
  omega

/-- What is known of bytes that are taken for a header. -/
structure Taken (h : FrameHeader) (bytes : Bytes) : Prop where
  spells : Spells h bytes
  length_lt : h.length < 2 ^ 63
  /-- No reserved bit is set. -/
  reserved : ∀ first ∈ bytes.head?, first.toNat / 16 % 8 = 0
  /-- The kind is one of the six. -/
  kind : ∀ first ∈ bytes.head?, first.toNat % 16 = h.op.code
  shortest : bytes = h.encode ∨ h.encode.length < bytes.length

theorem Spells.taken {h : FrameHeader} {bytes : Bytes} (hspells : Spells h bytes) :
    Taken h bytes := by
  have hshortest := hspells.shortest
  obtain ⟨code, extension, hform, rfl⟩ := hspells
  obtain ⟨hreserved, hop, -⟩ := first_iff.1 (rfl : UInt8.ofNat (finalBit h.fin + h.op.code) = _)
  refine ⟨⟨code, extension, hform, rfl⟩, hform.length_lt, ?_, ?_, hshortest⟩
  · rintro first ⟨⟩
    omega
  · rintro first ⟨⟩
    exact (code_of_ofCode? hop).symm

/-- **Headers are read as they are written, and in no other bytes but longer spellings of them.**  A
header that is written in front of any bytes is read, and they are left; it takes the fewest bytes
that its length and its key allow, and any other bytes that are read as it are more.  Whatever is
read as a header has no reserved bit, one of the six kinds, and a length of 63 bits.  Instead of a
header the end is found exactly where the stream ends in front of its first byte, and behind that
byte, but in front of its last, it is the end too early. -/
theorem reads_spellings :
    (∀ h : FrameHeader, h.length < 2 ^ 63 →
      (∀ (r : Reader) (rest : Bytes), r.ahead = h.encode ++ rest →
        ∃ r', read r = .ok (some h) r' ∧ r'.ahead = rest) ∧
      h.encode.length = 2 + lengthWidth h.length + if h.key.isSome then 4 else 0) ∧
    (∀ (h : FrameHeader) (r r' : Reader), read r = .ok (some h) r' →
      ∃ bytes, r.ahead = bytes ++ r'.ahead ∧ Taken h bytes) ∧
    (∀ r : Reader, (∃ r', read r = .ok none r') ↔ r.ahead = [] ∧ r.inflow.ending = .eof) ∧
    (∀ (h : FrameHeader) (r : Reader) (more : Bytes), Spells h (r.ahead ++ more) → r.ahead ≠ [] →
      more ≠ [] → r.inflow.ending = .eof → ∃ r', read r = .error (.failed (.io .eof)) r') := by
  refine ⟨fun h hlength => ⟨fun r rest hahead => ?_, length_encode_eq h⟩, fun h r r' hread => ?_,
    Session.read_none_iff, fun h r more hspells hbytes hmore hend => ?_⟩
  · have hparse := parser_encode hlength []
    rw [List.append_nil] at hparse
    exact read_of_parsed hparse hahead
  · obtain ⟨bytes, hspells, hahead⟩ := parser_iff.1 (parsed_of_read hread)
    exact ⟨bytes, hahead, hspells.taken⟩
  · have hparse : parser (r.ahead ++ more) = .ok (some h, []) :=
      parser_iff.2 ⟨_, hspells, (List.append_nil _).symm⟩
    exact (computes_read (K := Readers.ending)).error hend (parser_cut hbytes hmore hparse)

/-- A masked header of 126 bytes takes sixteen bits for them; it is read in front of two bytes, and
cut off behind the first byte of the key. -/
theorem reads_spellings_masked :
    (∃ r', read (Reader.ofInflow ⟨[[130, 254], [0, 126, 1, 2, 3], [4, 5, 6]], .eof⟩) =
        .ok (some ⟨true, .binary, some 0x01020304, 126⟩) r' ∧ r'.ahead = [5, 6]) ∧
      ∃ r', read (Reader.ofInflow ⟨[[130, 254, 0], [126, 1]], .eof⟩) =
        .error (.failed (.io .eof)) r' := by
  have hencode : encode ⟨true, .binary, some 0x01020304, 126⟩ = [130, 254, 0, 126, 1, 2, 3, 4] := by
    decide
  refine ⟨?_, ?_⟩
  · exact (reads_spellings.1 ⟨true, .binary, some 0x01020304, 126⟩ (by decide)).1 _ [5, 6]
      (by rw [hencode]; rfl)
  · exact reads_spellings.2.2.2 ⟨true, .binary, some 0x01020304, 126⟩ _ [2, 3, 4]
      (show Spells _ [130, 254, 0, 126, 1, 2, 3, 4] from hencode ▸ Spells.encode (by decide))
      (by decide) (by decide) rfl

end FrameHeader

end WebSocket

end UrlTransfer
