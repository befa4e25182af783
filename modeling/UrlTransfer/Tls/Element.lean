/-
# Elements of certificates

A certificate is a tree of elements, each of which is a tag, a length and a content.  Lengths have
one written form each, and end below 65535; tags take one byte.
-/
import UrlTransfer.Bytes

namespace UrlTransfer

namespace Tls

/-- An element: its tag and its content. -/
structure Element where
  tag : UInt8
  content : Bytes
deriving Repr, DecidableEq

namespace Element

/-! ## 1. Tags -/

/-- The tag of a truth value. -/
def boolean : UInt8 := 0x01
/-- The tag of an integer. -/
def integer : UInt8 := 0x02
/-- The tag of a string of bits. -/
def bitString : UInt8 := 0x03
/-- The tag of a string of bytes. -/
def octetString : UInt8 := 0x04
/-- The tag of an identifier. -/
def identifier : UInt8 := 0x06
/-- The tag of a sequence. -/
def sequence : UInt8 := 0x30

/-- The tag of part number `n` of a sequence, a part that has parts itself. -/
def part (n : UInt8) : UInt8 := 0xA0 + n

/-- The tag of part number `n` of a sequence, a part without parts. -/
def plainPart (n : UInt8) : UInt8 := 0x80 + n

/-! ## 2. Reading -/

/-- The length at the front of some bytes, in its shortest form, and how many bytes it takes. -/
def length? : Bytes → Option (Nat × Nat)
  | n :: rest =>
    if n < 0x80 then some (n.toNat, 1)
    else
      match n, rest with
      | 0x81, a :: _ => if a ≥ 0x80 then some (a.toNat, 2) else none
      | 0x82, a :: b :: _ =>
        let length := a.toNat * 256 + b.toNat
        if 256 ≤ length && length < 65535 then some (length, 3) else none
      | _, _ => none
  | [] => none

/-- The element at the front of some bytes, and the bytes behind it. -/
def read? : Bytes → Option (Element × Bytes)
  | tag :: rest => do
    if tag &&& 0x1F = 0x1F then none
    let (length, size) ← length? rest
    let content := (rest.drop size).take length
    if content.length < length then none
    some (⟨tag, content⟩, rest.drop (size + length))
  | [] => none

/-- The elements that some bytes consist of; each takes at least one byte. -/
def readAll? : Nat → Bytes → Option (List Element)
  | _, [] => some []
  | 0, _ => none
  | n + 1, bytes => do
    let (element, rest) ← read? bytes
    return element :: (← readAll? n rest)

/-- The elements that some bytes consist of. -/
def all? (bytes : Bytes) : Option (List Element) := readAll? bytes.length bytes

/-- The one element with this tag that some bytes are: its content. -/
def only? (tag : UInt8) (bytes : Bytes) : Option Bytes := do
  let [element] ← all? bytes | none
  if element.tag = tag then some element.content else none

/-- The elements inside a sequence. -/
def items? (e : Element) : Option (List Element) :=
  if e.tag = sequence then all? e.content else none

/-- The bytes of a string of bits that fills its last byte. -/
def bits? (e : Element) : Option Bytes :=
  match e.content with
  | 0 :: bytes => if e.tag = bitString then some bytes else none
  | _ => none

end Element

end Tls

end UrlTransfer
