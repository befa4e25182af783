/-
# Bytes that are sent

An `Outflow` is the sending side of a connection: what has been sent so far, which socket options
were set, how often it was shut down, and how much the peer will take before writing fails.
A failed write still sends the part that fits (`Outflow.write`).
-/
import UrlTransfer.Act
import UrlTransfer.Bytes
import UrlTransfer.Stream.Fault

namespace UrlTransfer

/-- Which directions of a connection a shutdown ends. -/
inductive ShutdownMode where
  | read
  | write
  | both
deriving Repr, DecidableEq

/-- The name of a shutdown. -/
def ShutdownMode.name : ShutdownMode → String
  | read => "read"
  | write => "write"
  | both => "both"

/-- The shutdown of a name. -/
def ShutdownMode.ofName? (name : String) : Option ShutdownMode :=
  [ShutdownMode.read, .write, .both].find? (·.name == name)

/-- What a peer takes: how many bytes in all, and what a write beyond them meets. -/
structure WriteLimit where
  total : Nat
  beyond : Halt IoError
deriving Repr, DecidableEq

/-- The sending side of a connection. -/
structure Outflow where
  /-- What has been sent. -/
  sent : Bytes := []
  limit : Option WriteLimit := none
  /-- Whether the peer records what it is sent. -/
  heard : Bool := true
  noDelay : Bool := false
  timeToLive : Option Nat := none
  shutdowns : List ShutdownMode := []
  /-- What shutting down the connection reports. -/
  shutdownFault : Option IoError := none
deriving Repr, DecidableEq

namespace Outflow

/-- Adds bytes to what was sent. -/
def push (bytes : Bytes) (o : Outflow) : Outflow :=
  if o.heard then { o with sent := o.sent ++ bytes } else o

/-- Sends all of `bytes`.  **Where they pass the limit the part that fits is sent**, and the
write fails; sending nothing never fails. -/
def write (bytes : Bytes) : Act IoError Outflow Unit := fun o =>
  match o.limit with
  | none => .ok () (o.push bytes)
  | some limit =>
    if bytes.length ≤ limit.total - o.sent.length then .ok () (o.push bytes)
    else .error limit.beyond (o.push (bytes.take (limit.total - o.sent.length)))

/-- Ends directions of the connection. -/
def shutdown (mode : ShutdownMode) : Act IoError Outflow Unit := fun o =>
  let o' := { o with shutdowns := o.shutdowns ++ [mode] }
  match o.shutdownFault with
  | none => .ok () o'
  | some error => .error (.failed error) o'

/-- Ends the sending direction; a connection that is gone already counts as ended. -/
def close : Act IoError Outflow Unit := fun o =>
  match shutdown .write o with
  | .error (.failed ⟨.notConnected, _, _⟩) o' => .ok () o'
  | result => result

end Outflow

end UrlTransfer
