/-
# Queries and records

What a resolver asks for and what it is told: a query names a domain, a type and a class of
records; a record has these three, a time it may be kept, and data whose form depends on the type.
-/
import UrlTransfer.Dns.RecordData

namespace UrlTransfer

namespace Dns

/-- The class of a record, by its number. -/
structure RecordClass where
  code : Nat
deriving Repr, DecidableEq, Inhabited

namespace RecordClass

/-- The internet, the one class in use. -/
def internet : RecordClass := ⟨1⟩

/-- The name of a class. -/
def text (c : RecordClass) : String :=
  ([(1, "IN"), (3, "CH"), (4, "HS"), (254, "NONE"), (255, "ANY")].lookup c.code).getD "UNKNOWN"

end RecordClass

/-- A question to a name server. -/
structure Query where
  name : Name
  type : RecordType
  recordClass : RecordClass := .internet
deriving Repr, DecidableEq, Inhabited

/-- The text of a query. -/
def Query.text (q : Query) : String :=
  q.name.text ++ " " ++ q.recordClass.text ++ " " ++ q.type.text

/-- A record; one that came with no data at all has none. -/
structure Record where
  name : Name
  type : RecordType
  recordClass : RecordClass
  timeToLive : Nat
  data : Option RecordData
deriving DecidableEq

/-- The outcome of a query, by its number. -/
structure ResponseCode where
  code : Nat
deriving Repr, DecidableEq, Inhabited

namespace ResponseCode

/-- The query was answered. -/
def noError : ResponseCode := ⟨0⟩

/-- The text of an outcome. -/
def text (c : ResponseCode) : String :=
  ([(0, "No Error"), (1, "Form Error"), (2, "Server Failure"), (3, "Non-Existent Domain"),
    (4, "Not Implemented"), (5, "Query Refused"), (6, "Name should not exist"),
    (7, "RR Set should not exist"), (8, "RR Set does not exist"), (9, "Not authorized"),
    (10, "Name not in zone"), (16, "TSIG Failure"), (17, "Key not recognized"),
    (18, "Signature out of time window"), (19, "Bad TKEY mode"), (20, "Duplicate key name"),
    (21, "Algorithm not supported"), (22, "Bad truncation"),
    (23, "Bad server cookie")].lookup c.code).getD "Unknown response code"

end ResponseCode

end Dns

end UrlTransfer
