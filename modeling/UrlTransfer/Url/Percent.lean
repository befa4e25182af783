/-
# Percent-encoding

A byte that may not stand in a part of a URL is written as `%` and two hexadecimal digits.  Which
bytes these are depends on the part; every byte beyond ASCII is one of them everywhere.
-/
import UrlTransfer.Text.Numeral

namespace UrlTransfer

namespace Percent

/-- Is the byte a control character or beyond ASCII? -/
def inControls (b : UInt8) : Bool := b < 0x20 || 0x7F ≤ b

/-- Is the byte one of these ASCII characters? -/
def among (chars : String) (b : UInt8) : Bool := chars.toList.any (·.toNat == b.toNat)

/-- The bytes encoded in a fragment. -/
def inFragment (b : UInt8) : Bool := inControls b || among " \"<>`" b

/-- The bytes encoded in a path. -/
def inPath (b : UInt8) : Bool := inFragment b || among "#?\x7b\x7d" b

/-- The bytes encoded in a user name or password. -/
def inUserInfo (b : UInt8) : Bool := inPath b || among "/:;=@[\\]^|" b

/-- The bytes encoded in a query; a quote is encoded where the scheme is a special one. -/
def inQuery (special : Bool) (b : UInt8) : Bool :=
  inControls b || among " \"#<>" b || (special && b == 0x27)

/-- One digit of an encoded byte. -/
def digit (n : Nat) : Char := if n < 10 then Char.ofNat (48 + n) else Char.ofNat (55 + n)

/-- The characters for a byte. -/
def encodeByte (encoded : UInt8 → Bool) (b : UInt8) : List Char :=
  if encoded b then ['%', digit (b.toNat / 16), digit (b.toNat % 16)] else [Char.ofNat b.toNat]

/-- The encoded form of a text. -/
def encode (encoded : UInt8 → Bool) (cs : List Char) : List Char :=
  (cs.flatMap String.utf8EncodeChar).flatMap (encodeByte encoded)

/-- Decoding with the bytes read so far, the last first. -/
def decodeFrom (read : Bytes) : Bytes → Bytes
  | [] => read.reverse
  | 0x25 :: a :: b :: rest =>
    match Numeral.digit? 16 (Char.ofNat a.toNat), Numeral.digit? 16 (Char.ofNat b.toNat) with
    | some hi, some lo => decodeFrom (UInt8.ofNat (hi * 16 + lo) :: read) rest
    | _, _ => decodeFrom (0x25 :: read) (a :: b :: rest)
  | b :: rest => decodeFrom (b :: read) rest
termination_by bytes => bytes.length

/-- The bytes that a text stands for; a `%` without two digits stands for itself. -/
def decode (cs : List Char) : Bytes := decodeFrom [] (cs.flatMap String.utf8EncodeChar)

end Percent

end UrlTransfer
