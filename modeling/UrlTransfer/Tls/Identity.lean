/-
# Trust in a server

The certificate of a server names its issuer and the server.  A client trusts it if one of its
anchors is the issuer and may vouch for the names, and one of the names is the one that the client
wants to reach (`Identity.verify`).
-/
import UrlTransfer.Tls.NameConstraints
import UrlTransfer.Tls.TrustAnchor

namespace UrlTransfer

namespace Tls

/-- Who a server is: the issuer of its certificate, and the names that it is for. -/
structure Identity where
  issuer : TrustAnchor
  names : List SubjectName
deriving DecidableEq

/-! ## 1. Keys -/

/-- The way in which certificates of servers are signed: on an elliptic curve, over a digest of 256
bits. -/
def signatureAlgorithm : Bytes := [6, 8, 42, 134, 72, 206, 61, 4, 3, 2]

/-- The kinds of key that can sign like this: those on a curve of 256 and of 384 bits. -/
def signingKeys : List Bytes :=
  [[6, 7, 42, 134, 72, 206, 61, 2, 1, 6, 8, 42, 134, 72, 206, 61, 3, 1, 7],
    [6, 7, 42, 134, 72, 206, 61, 2, 1, 6, 5, 43, 129, 4, 0, 34]]

/-- The kind of a key. -/
def keyKind? (key : Bytes) : Option Bytes := do
  let [kind, bits] ← Element.all? key | none
  let _ ← bits.bits?
  if kind.tag = Element.sequence then some kind.content else none

/-! ## 2. Issuers -/

/-- Whether an anchor vouches for a server. -/
def TrustAnchor.vouches (identity : Identity) (anchor : TrustAnchor) : Except TlsError Unit :=
  if anchor.subject ≠ identity.issuer.subject then .error .unknownIssuer
  else
    match keyKind? anchor.key with
    | none => .error .badEncoding
    | some kind =>
      if !signingKeys.contains kind then .error (.unsupportedKey signatureAlgorithm kind)
      else if anchor.key ≠ identity.issuer.key then .error .badSignature
      else
        match anchor.constraints with
        | some limits => checkNames limits identity.names
        | none => .ok ()

/-- Whether any of these anchors vouches for a server.  **Of their faults the weightiest counts**,
and of equal ones the first; `fault` is the weightiest so far. -/
def Identity.checkIssuer (identity : Identity) (fault : TlsError) :
    List TrustAnchor → Except TlsError Unit
  | [] => .error fault
  | anchor :: rest =>
    match anchor.vouches identity with
    | .ok () => .ok ()
    | .error other =>
      identity.checkIssuer (if fault.weight < other.weight then other else fault) rest

/-- Whether a client with these anchors trusts that it reached `server`; the issuer counts before
the name. -/
def Identity.verify (roots : List TrustAnchor) (server : ServerName) (identity : Identity) :
    Except TlsError Unit := do
  identity.checkIssuer .unknownIssuer roots
  if identity.names.any (·.isFor server) then return ()
  else throw (.wrongName server.text (identity.names.map SubjectName.text))

end Tls

end UrlTransfer
