/-
# Services in turn

A roster holds the services that may know the addresses of a host, and says how to go through them:
in rounds, one service after the other.  The first service always comes first.  With rotation, the
others start at another one in each round (`Roster.order`).

One service is asked for both versions of address: the first that knows any of the two ends the
search, and the addresses are its alone.  What a service is does not matter here; `lookup` is how it
answers, which may change the state `σ` that the services share.
-/
import UrlTransfer.Act
import UrlTransfer.Dns.Lookup
import UrlTransfer.Error
import UrlTransfer.Net.Address
import UrlTransfer.Text.Lowercase

namespace UrlTransfer

namespace Dns

/-- Services, and how to go through them. -/
structure Roster (κ : Type) where
  services : List κ := []
  attempts : Nat := 1
  rotate : Bool := false
  /-- How many rounds have rotated the services. -/
  rounds : Nat := 0
deriving DecidableEq

namespace Roster

variable {κ σ : Type}

/-- Do the services behind the first change their places? -/
def rotates (r : Roster κ) : Bool := r.rotate && r.services.length > 2

/-- The services in the order of round number `round`. -/
def orderAt (round : Nat) (r : Roster κ) : List κ :=
  match r.services with
  | [] => []
  | first :: others =>
    let shift := if r.rotates then round % others.length else 0
    first :: (others.drop shift ++ others.take shift)

/-- The services in the order of the next round. -/
def order {ε : Type} : Act ε (Roster κ × σ) (List κ) := fun (r, s) =>
  .ok (r.orderAt r.rounds) (if r.rotates then { r with rounds := r.rounds + 1 } else r, s)

variable (lookup : Query → κ → Act Error σ Lookup)

/-- Asks one service for both versions: the addresses that it knows, or why it knows none. -/
def askService (name : Name) (service : κ) : Act Error σ (Except Error Addresses) := do
  let a ← Act.attempt (lookup { name, type := .a } service)
  let aaaa ← Act.attempt (lookup { name, type := .aaaa } service)
  match a, aaaa with
  | .ok a, .ok aaaa => return .ok ((({} : Addresses).add a.records).add aaaa.records)
  | .ok a, .error _ => return .ok (({} : Addresses).add a.records)
  | .error _, .ok aaaa => return .ok (({} : Addresses).add aaaa.records)
  | .error _, .error error => return .error error

/-- Asks services one after the other, until one knows something; `error` is why the one before
did not. -/
def askServices (name : Name) (error : Option Error) :
    List κ → Act Error σ (Except (Option Error) Addresses)
  | [] => return .error error
  | service :: rest => do
    match ← askService lookup name service with
    | .ok addresses => return .ok addresses
    | .error error => askServices name (some error) rest

/-- Goes through all services, round after round. -/
def search (name : Name) (error : Option Error) : Nat → Act Error (Roster κ × σ) Addresses
  | 0 => Act.fail (error.getD (.dns .noData))
  | rounds + 1 => do
    let services ← order
    match ← Act.second (askServices lookup name error services) with
    | .ok addresses => return addresses
    | .error error => search name error rounds

/-- The addresses of a host, which may be named by one of them. -/
def resolve (host : String) : Act Error (Roster κ × σ) Addresses :=
  match IpAddr.parse? host with
  | some ip => return .ofIp ip
  | none => do
    let lower := Lowercase.text host
    match Name.parse? lower with
    | none => Act.fail (.dns (.invalidName lower))
    | some name =>
      let (r, _) ← get
      search lookup name none r.attempts

end Roster

end Dns

end UrlTransfer
