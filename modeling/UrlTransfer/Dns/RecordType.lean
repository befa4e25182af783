/-
# Types of records

What a record says about a name is its type, a number; the types in use have names.  Not every
type with a name can be asked for: some stand only in messages.
-/
import UrlTransfer.Bytes

namespace UrlTransfer

namespace Dns

/-- The type of a record, by its number. -/
structure RecordType where
  code : Nat
deriving Repr, DecidableEq, Inhabited

namespace RecordType

/-! ## 1. Names -/

/-- An address of version 4. -/
def a : RecordType := ⟨1⟩
/-- An address of version 6. -/
def aaaa : RecordType := ⟨28⟩
/-- Extensions to a message. -/
def opt : RecordType := ⟨41⟩

/-- The types that can be asked for. -/
def asked : List (Nat × String) := [
  (1, "A"), (2, "NS"), (5, "CNAME"), (6, "SOA"), (10, "NULL"), (12, "PTR"), (13, "HINFO"),
  (15, "MX"), (16, "TXT"), (24, "SIG"), (25, "KEY"), (28, "AAAA"), (33, "SRV"), (35, "NAPTR"),
  (43, "DS"), (44, "SSHFP"), (46, "RRSIG"), (47, "NSEC"), (48, "DNSKEY"), (50, "NSEC3"),
  (51, "NSEC3PARAM"), (52, "TLSA"), (59, "CDS"), (60, "CDNSKEY"), (61, "OPENPGPKEY"),
  (62, "CSYNC"), (64, "SVCB"), (65, "HTTPS"), (250, "TSIG"), (252, "AXFR"), (255, "ANY"),
  (257, "CAA"), (65305, "ANAME")]

/-- The types with a name that stand only in messages. -/
def unasked : List (Nat × String) := [(0, "ZERO"), (41, "OPT"), (251, "IXFR")]

/-- The name of a type. -/
def text (t : RecordType) : String := ((asked ++ unasked).lookup t.code).getD "Unknown"

/-- The type of a name; a star is any type. -/
def parse? (s : String) : Option RecordType :=
  if s = "*" then some ⟨255⟩ else (asked.find? (·.2 == s)).map fun (code, _) => ⟨code⟩

/-! ## 2. Sets of types

A set of types is written in windows of 256 types: the number of the window, the number of bytes
that follow, and in these a bit for each type, the highest bit of a byte first.  Trailing bytes
without a bit are left out, so that 32 bytes can hold all of a window. -/

/-- The types whose bits are set in the bytes of a window. -/
def ofBits (window : Nat) (bits : Bytes) : List RecordType :=
  ((List.range (8 * bits.length)).filter fun i =>
    (bits.getD (i / 8) 0).toNat.testBit (7 - i % 8)).map fun i => ⟨window * 256 + i⟩

/-- The types of a set in the order of their bits, unless a bit is set behind the end of its
window; a last window that is cut short counts as far as it goes. -/
def ofWindows? : Bytes → Option (List RecordType)
  | window :: size :: rest =>
    let bits := rest.take size.toNat
    if size = 0 && !rest.isEmpty || (bits.drop 32).any (· ≠ 0) then none
    else (ofWindows? (rest.drop size.toNat)).map (ofBits window.toNat bits ++ ·)
  | _ => some []
termination_by bytes => bytes.length
decreasing_by
  simp only [List.length_drop, List.length_cons]
  omega

end RecordType

end Dns

end UrlTransfer
