/-
# Messages of the name service

A message is a header of twelve bytes and four sections: questions, answers, authorities and
additional records.

A message that is cut short or malformed anywhere is no message; bytes after its end do not
matter.
-/
import UrlTransfer.Dns.Record

namespace UrlTransfer

namespace Dns

/-- Reads a record. -/
def Record.read : Wire Record := do
  let name ← Name.read
  let type : RecordType := ⟨← Wire.number 2⟩
  if type = .opt && !name.labels.isEmpty then failure
  let recordClass : RecordClass := ⟨← Wire.number 2⟩
  let timeToLive ← Wire.number 4
  let length ← Wire.number 2
  let (message, pos) ← Wire.here
  if pos + length > message.length then failure
  let data ← if length = 0 then pure none else some <$> RecordData.read type length
  return ⟨name, type, recordClass, timeToLive, data⟩

/-- Reads a question. -/
def Query.read : Wire Query := do
  let name ← Name.read
  let type ← Wire.number 2
  let recordClass ← Wire.number 2
  return ⟨name, ⟨type⟩, ⟨recordClass⟩⟩

/-- An answer of a name server. -/
structure Response where
  id : Nat
  code : ResponseCode
  answers : List Record
  authorities : List Record
  additionals : List Record
deriving DecidableEq

/-- The records of all sections, in the order of the message. -/
def Response.records (r : Response) : List Record := r.answers ++ r.authorities ++ r.additionals

/-- The kinds of operation that a message may be about: query, status, notification, update. -/
def knownOperations : List Nat := [0, 2, 4, 5]

/-- Reads a message.  One record with extensions may stand among the additional ones; it is not
one of them, but holds the upper bits of the response code. -/
def Response.read : Wire Response := do
  let id ← Wire.number 2
  let flags ← Wire.number 2
  if !(knownOperations.contains (flags / 2048 % 16)) then failure
  let questions ← Wire.number 2
  let answers ← Wire.number 2
  let authorities ← Wire.number 2
  let additionals ← Wire.number 2
  let _ ← Wire.times Query.read questions
  let answers ← Wire.times Record.read answers
  let authorities ← Wire.times Record.read authorities
  let additionals ← Wire.times Record.read additionals
  let extensions := additionals.filter (·.type = .opt)
  if extensions.length > 1 then failure
  let high := (extensions.head?.map fun record => record.timeToLive / 16777216).getD 0
  return ⟨id, ⟨high * 16 + flags % 16⟩, answers, authorities, additionals.filter (·.type ≠ .opt)⟩

/-- The answer that a datagram holds. -/
def Response.parse? (datagram : Bytes) : Option Response := (Response.read datagram 0).map (·.1)

/-- The message that asks `query`, with recursion desired. -/
def Query.request (id : Nat) (query : Query) : Bytes :=
  Bytes.ofNat 2 id ++ Bytes.ofNat 2 0x0100 ++ Bytes.ofNat 2 1 ++ Bytes.ofNat 6 0 ++
    query.name.wire ++ Bytes.ofNat 2 query.type.code ++ Bytes.ofNat 2 query.recordClass.code

end Dns

end UrlTransfer
