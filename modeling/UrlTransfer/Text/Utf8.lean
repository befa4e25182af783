/-
# Reading UTF-8

A byte string is read from the front, one scalar value at a time (`Utf8.scan`).  What cannot be
read is cut into the longest pieces that could still have become a character, or single bytes:
strict reading (`decode?`) refuses at the first such piece and lossy reading (`decodeLossy`)
puts U+FFFD in the place of each.
-/
import UrlTransfer.Bytes

namespace UrlTransfer

namespace Utf8

/-- What the front of a byte string holds. -/
inductive Scan where
  /-- One character, and the bytes after it. -/
  | char (c : Char) (rest : Bytes)
  /-- A piece that is no character, and the bytes after it. -/
  | bad (rest : Bytes)

/-- The bytes after the first piece. -/
def Scan.rest : Scan → Bytes
  | .char _ rest => rest
  | .bad rest => rest

/-- Is this one of the bytes 80 to BF that continue a character? -/
def isContinuation (b : UInt8) : Bool := 0x80 ≤ b && b ≤ 0xBF

/-- The bytes that may stand second after `lead`, as an interval. -/
def secondRange (lead : UInt8) : UInt8 × UInt8 :=
  if lead == 0xE0 then (0xA0, 0xBF)
  else if lead == 0xED then (0x80, 0x9F)
  else if lead == 0xF0 then (0x90, 0xBF)
  else if lead == 0xF4 then (0x80, 0x8F)
  else (0x80, 0xBF)

/-- May `b` stand second after `lead`? -/
def isSecond (lead b : UInt8) : Bool :=
  (secondRange lead).1 ≤ b && b ≤ (secondRange lead).2

/-- The low six bits of a continuation byte. -/
def low (b : UInt8) : Nat := b.toNat % 64

/-- The first piece of `lead :: rest`. -/
def scan (lead : UInt8) (rest : Bytes) : Scan :=
  if lead < 0x80 then .char (Char.ofNat lead.toNat) rest
  else if 0xC2 ≤ lead && lead ≤ 0xDF then
    match rest with
    | b :: rest' =>
      if isContinuation b then .char (Char.ofNat (lead.toNat % 32 * 64 + low b)) rest'
      else .bad rest
    | [] => .bad rest
  else if 0xE0 ≤ lead && lead ≤ 0xEF then
    match rest with
    | b :: rest' =>
      if isSecond lead b then
        match rest' with
        | c :: rest'' =>
          if isContinuation c then
            .char (Char.ofNat (lead.toNat % 16 * 4096 + low b * 64 + low c)) rest''
          else .bad rest'
        | [] => .bad rest'
      else .bad rest
    | [] => .bad rest
  else if 0xF0 ≤ lead && lead ≤ 0xF4 then
    match rest with
    | b :: rest' =>
      if isSecond lead b then
        match rest' with
        | c :: rest'' =>
          if isContinuation c then
            match rest'' with
            | d :: rest''' =>
              if isContinuation d then
                .char
                  (Char.ofNat (lead.toNat % 8 * 262144 + low b * 4096 + low c * 64 + low d))
                  rest'''
              else .bad rest''
            | [] => .bad rest''
          else .bad rest'
        | [] => .bad rest'
      else .bad rest
    | [] => .bad rest
  else .bad rest

/-- **Scanning never goes back**: what is left is part of what followed the first byte. -/
theorem length_scan_rest_le (lead : UInt8) (rest : Bytes) :
    (scan lead rest).rest.length ≤ rest.length := by
  unfold scan
  repeat' split
  all_goals simp [Scan.rest]
  all_goals omega

/-- Strict reading with the characters read so far, the last first. -/
def decodeFrom (read : List Char) : Bytes → Option (List Char)
  | [] => some read.reverse
  | lead :: rest =>
    match _h : scan lead rest with
    | .char c rest' => decodeFrom (c :: read) rest'
    | .bad _ => none
termination_by bytes => bytes.length
decreasing_by
  have := length_scan_rest_le lead rest
  simp only [_h, Scan.rest] at this
  simp only [List.length_cons]
  omega

/-- The text that the bytes are the UTF-8 form of. -/
def decode? (bytes : Bytes) : Option String := (decodeFrom [] bytes).map String.ofList

/-- How many bytes stand before the first piece that is no character; `n` of them are counted. -/
def validLength (n : Nat) : Bytes → Nat
  | [] => n
  | lead :: rest =>
    match _h : scan lead rest with
    | .char _ rest' => validLength (n + (rest.length + 1 - rest'.length)) rest'
    | .bad _ => n
termination_by bytes => bytes.length
decreasing_by
  have := length_scan_rest_le lead rest
  simp only [_h, Scan.rest] at this
  simp only [List.length_cons]
  omega

/-- Lossy reading with the characters read so far, the last first. -/
def decodeLossyFrom (read : List Char) : Bytes → List Char
  | [] => read.reverse
  | lead :: rest =>
    match _h : scan lead rest with
    | .char c rest' => decodeLossyFrom (c :: read) rest'
    | .bad rest' => decodeLossyFrom ('\uFFFD' :: read) rest'
termination_by bytes => bytes.length
decreasing_by
  all_goals
    have := length_scan_rest_le lead rest
    simp only [_h, Scan.rest] at this
    simp only [List.length_cons]
    omega

/-- The text of the bytes, with U+FFFD for each piece that is no character. -/
def decodeLossy (bytes : Bytes) : String := String.ofList (decodeLossyFrom [] bytes)

end Utf8

end UrlTransfer
