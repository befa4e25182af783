/-
# Name servers

A name server is asked by a datagram with a random number, and answers with one that has the same
number.  Datagrams that are no message, or have another number, are passed over; what never comes
is a timeout.

Of an answer without a fault, all records of the right class and type count, in whichever section
and with whichever name they come.
-/
import UrlTransfer.Dns.Lookup
import UrlTransfer.Dns.Message
import UrlTransfer.Error
import UrlTransfer.Net.System
import UrlTransfer.Text.Duration

namespace UrlTransfer

namespace Dns

/-- A name server, and how long to wait for each of its answers. -/
structure NameServer where
  addr : SocketAddr
  timeout : Duration := .ofSeconds 5
deriving DecidableEq

namespace NameServer

/-- The largest message that is taken. -/
def maxMessage : Nat := 900

/-- The port that name servers usually have. -/
def usualPort : Nat := 53

/-- The name server at the usual port of an address. -/
def ofIp (ip : IpAddr) : NameServer := { addr := { ip, port := usualPort } }

/-- The name server at an address; at the usual port the scope does not count. -/
def ofAddr (addr : SocketAddr) : NameServer :=
  if addr.port = usualPort then ofIp addr.ip else { addr }

/-- The name of a name server in messages. -/
def describe (s : NameServer) : String := "name server " ++ s.addr.text

/-- The first answer with the given number among what comes back. -/
def await (id : Nat) : List Echo → Except (Halt IoError) Response
  | [] => .error .stalled
  | .error fault :: _ => .error (.failed fault)
  | .ok datagram :: rest =>
    match Response.parse? (datagram.take maxMessage) with
    | some response => if response.id = id then .ok response else await id rest
    | none => await id rest

/-- Asks a query, and waits for the answer.  A name that is too long is not sent. -/
def ask (query : Query) (s : NameServer) : Act Error System Response := do
  let id := Bytes.toNat (← System.random 2)
  let length := Name.wireLength query.name.labels
  if length > Name.maxWireLength then Act.fail (.dns (.nameTooLong length))
  let echoes ← Act.mapError .io (System.exchange s.addr (query.request id))
  match await id echoes with
  | .ok response => return response
  | .error (.failed fault) => Act.fail (.io fault)
  | .error .stalled => Act.stall

/-- What an answer says about a query. -/
def interpret (query : Query) (response : Response) : Except DnsError Lookup :=
  let refusal := DnsError.noRecords query response.authorities.head? response.code
  if response.code = .noError then
    let records := response.records.filter fun record =>
      record.recordClass = query.recordClass && record.type = query.type
    match records with
    | [] => .error (if response.records.any (·.name.sameAs query.name) then .noData else refusal)
    | first :: rest =>
      let validFor := rest.foldl (fun least record => min least record.timeToLive) first.timeToLive
      .ok { query, records, validFor := some validFor }
  else .error refusal

/-- Answers a query. -/
def lookup (query : Query) (s : NameServer) : Act Error System Lookup := do
  match ← Act.timely (s.ask query) with
  | none => Act.fail (.dns .timedOut)
  | some response => Act.ofExcept ((interpret query response).mapError .dns)

end NameServer

end Dns

end UrlTransfer
