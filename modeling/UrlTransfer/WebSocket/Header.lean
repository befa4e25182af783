/-
# Headers of frames

A header has two bytes: whether the frame is the last of its message and of which kind it is;
whether it is masked and how long its payload is.  A length that does not fit follows in two or
eight more bytes, and then the masking key in four.

The payload of a masked frame is combined with the key byte by byte (`mask`), which undoes itself.
-/
import UrlTransfer.Error
import UrlTransfer.Stream.Reader
import UrlTransfer.WebSocket.Frame

namespace UrlTransfer

namespace WebSocket

/-! ## 1. Masking -/

/-- A byte of a masking key; they repeat after four. -/
def keyByte (key : UInt32) (i : Nat) : UInt8 := UInt8.ofNat (key.toNat / 256 ^ (3 - i % 4))

/-- Combines data with a masking key, from the first byte of the key on. -/
def mask (key : UInt32) (content : Bytes) : Bytes :=
  content.mapIdx fun i b => b ^^^ keyByte key i

/-- Combines data with the key if there is one. -/
def maskBy (key : Option UInt32) (content : Bytes) : Bytes :=
  match key with
  | some key => mask key content
  | none => content

@[simp] theorem length_mask (key : UInt32) (content : Bytes) :
    (mask key content).length = content.length := by
  simp [mask]

/-- **Masking twice gives the data back.** -/
theorem mask_mask (key : UInt32) (content : Bytes) : mask key (mask key content) = content := by
  apply List.ext_getElem
  · simp
  · intro i _ _
    simp only [mask, List.getElem_mapIdx, UInt8.xor_assoc, UInt8.xor_self, UInt8.xor_zero]

/-! ## 2. Headers -/

/-- The header of a frame. -/
structure FrameHeader where
  fin : Bool
  op : Opcode
  key : Option UInt32
  /-- How many bytes of the payload have not been read. -/
  length : Nat
deriving Repr, DecidableEq

namespace FrameHeader

/-- The bit of the first byte that marks the last frame of a message. -/
def finBit : Nat := 128

/-- The bit of the second byte that marks a masked frame. -/
def maskBit : Nat := 128

/-- The lengths that stand in the second byte are below this. -/
def length16 : Nat := 126

/-- What stands in the second byte for a length of eight bytes. -/
def length64 : Nat := 127

/-- The bytes of a header. -/
def encode (h : FrameHeader) : Bytes :=
  let masked := if h.key.isSome then maskBit else 0
  UInt8.ofNat ((if h.fin then finBit else 0) + h.op.code) ::
    (if h.length < length16 then [UInt8.ofNat (masked + h.length)]
      else if h.length < 65536 then UInt8.ofNat (masked + length16) :: Bytes.ofNat 2 h.length
      else UInt8.ofNat (masked + length64) :: Bytes.ofNat 8 h.length) ++
    (match h.key with
      | some key => Bytes.ofNat 4 key.toNat
      | none => [])

/-- Reads a number of `width` bytes. -/
def readNumber (width : Nat) : Act Error Reader Nat := do
  return Bytes.toNat (← Act.mapError .io (Reader.readExactly width))

/-- Reads the length that the second byte stands for. -/
def readLength (second : Nat) : Act Error Reader Nat := do
  let short := second % 128
  if short = length16 then readNumber 2
  else if short = length64 then
    let length ← readNumber 8
    if length < 2 ^ 63 then return length else Act.fail (.webSocket .invalidLength)
  else return short

/-- Reads the masking key that the second byte announces. -/
def readKey (second : Nat) : Act Error Reader (Option UInt32) := do
  if second < maskBit then return none
  else return some (UInt32.ofNat (← readNumber 4))

/-- Reads the rest of a header behind its first two bytes. -/
def readRest (first second : Nat) : Act Error Reader FrameHeader := do
  let reserved := first / 16 % 8 * 16
  if reserved ≠ 0 then Act.fail (.webSocket (.reservedBits reserved))
  else
    match Opcode.ofCode? (first % 16) with
    | none => Act.fail (.webSocket (.invalidOpcode (first % 16)))
    | some op =>
      let length ← readLength second
      let key ← readKey second
      return { fin := finBit ≤ first, op, key, length }

/-- Reads a header, or finds the end of the stream in front of it. -/
def read : Act Error Reader (Option FrameHeader) := do
  match ← Act.mapError .io (Reader.readExactly? 2) with
  | some [first, second] => return some (← readRest first.toNat second.toNat)
  | _ => return none

end FrameHeader

end WebSocket

end UrlTransfer
