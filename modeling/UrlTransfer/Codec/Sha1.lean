/-
# The hash of a handshake key

The 160-bit hash that a WebSocket server answers a key with: the message is padded to blocks of
64 bytes, each block is expanded to eighty words, and eighty rounds mix them into five words of
state.
-/
import UrlTransfer.Bytes

namespace UrlTransfer

namespace Sha1

/-- Turns a word left by `n` bits. -/
def rotate (n : UInt32) (w : UInt32) : UInt32 := (w <<< n) ||| (w >>> (32 - n))

/-- The five words of state. -/
structure State where
  a : UInt32
  b : UInt32
  c : UInt32
  d : UInt32
  e : UInt32

/-- The state before the first block. -/
def State.start : State := ⟨0x67452301, 0xEFCDAB89, 0x98BADCFE, 0x10325476, 0xC3D2E1F0⟩

/-- Adds two states word by word. -/
def State.add (s t : State) : State := ⟨s.a + t.a, s.b + t.b, s.c + t.c, s.d + t.d, s.e + t.e⟩

/-- Round number `i`, with its word of the expanded block. -/
def round (s : State) (i : Nat) (w : UInt32) : State :=
  let (f, k) :=
    if i < 20 then ((s.b &&& s.c) ||| ((~~~s.b) &&& s.d), (0x5A827999 : UInt32))
    else if i < 40 then (s.b ^^^ s.c ^^^ s.d, 0x6ED9EBA1)
    else if i < 60 then ((s.b &&& s.c) ||| (s.b &&& s.d) ||| (s.c &&& s.d), 0x8F1BBCDC)
    else (s.b ^^^ s.c ^^^ s.d, 0xCA62C1D6)
  ⟨rotate 5 s.a + f + s.e + k + w, s.a, rotate 30 s.b, s.c, s.d⟩

/-- The words of a block. -/
def words : Bytes → List UInt32
  | a :: b :: c :: d :: rest => UInt32.ofNat (Bytes.toNat [a, b, c, d]) :: words rest
  | _ => []

/-- Adds `n` words to the expansion, which is held with the last word first. -/
def expand : Nat → List UInt32 → List UInt32
  | 0, ws => ws
  | n + 1, ws =>
    expand n (rotate 1 (ws.getD 2 0 ^^^ ws.getD 7 0 ^^^ ws.getD 13 0 ^^^ ws.getD 15 0) :: ws)

/-- The state after one more block. -/
def block (s : State) (bytes : Bytes) : State :=
  let schedule := (expand 64 (words bytes).reverse).reverse
  s.add ((schedule.zipIdx).foldl (fun s (w, i) => round s i w) s)

/-- The message filled up to whole blocks: a one bit, zeros, and the length in bits. -/
def pad (bytes : Bytes) : Bytes :=
  bytes ++ [0x80] ++ List.replicate ((119 - bytes.length % 64) % 64) 0 ++
    Bytes.ofNat 8 (bytes.length * 8)

/-- The state after the blocks of `bytes`. -/
def blocks (s : State) (bytes : Bytes) : State :=
  if _h : bytes.length < 64 then s else blocks (block s (bytes.take 64)) (bytes.drop 64)
termination_by bytes.length
decreasing_by simp only [List.length_drop]; omega

/-- The hash of a message: twenty bytes. -/
def hash (bytes : Bytes) : Bytes :=
  let s := blocks .start (pad bytes)
  [s.a, s.b, s.c, s.d, s.e].flatMap fun w => Bytes.ofNat 4 w.toNat

end Sha1

end UrlTransfer
