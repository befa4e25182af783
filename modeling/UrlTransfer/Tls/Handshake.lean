/-
# Opening a secure connection

A client that opens the secure protocol meets a peer that speaks it, and then trusts it or not
(`Tls.Identity.verify`), or one that does not.  What the latter says is read as records of the
protocol: the first one that cannot be one ends the attempt, and so does an alert.

The other way round, a peer of the secure protocol answers a client without it by an alert, and
hears nothing that it says (`Conn.plain`).
-/
import UrlTransfer.Error
import UrlTransfer.Net.System

namespace UrlTransfer

namespace Tls

/-! ## 1. Records -/

/-- The names of the alerts. -/
def alertNames : List (Nat × String) := [
  (0, "CloseNotify"), (10, "UnexpectedMessage"), (20, "BadRecordMac"), (21, "DecryptionFailed"),
  (22, "RecordOverflow"), (30, "DecompressionFailure"), (40, "HandshakeFailure"),
  (41, "NoCertificate"), (42, "BadCertificate"), (43, "UnsupportedCertificate"),
  (44, "CertificateRevoked"), (45, "CertificateExpired"), (46, "CertificateUnknown"),
  (47, "IllegalParameter"), (48, "UnknownCA"), (49, "AccessDenied"), (50, "DecodeError"),
  (51, "DecryptError"), (60, "ExportRestriction"), (70, "ProtocolVersion"),
  (71, "InsufficientSecurity"), (80, "InternalError"), (86, "InappropriateFallback"),
  (90, "UserCanceled"), (100, "NoRenegotiation"), (109, "MissingExtension"),
  (110, "UnsupportedExtension"), (111, "CertificateUnobtainable"), (112, "UnrecognisedName"),
  (113, "BadCertificateStatusResponse"), (114, "BadCertificateHashValue"),
  (115, "UnknownPSKIdentity"), (116, "CertificateRequired"), (120, "NoApplicationProtocol")]

/-- The name of an alert. -/
def alertName (code : Nat) : String :=
  (alertNames.lookup code).getD ("Unknown(0x" ++ Numeral.hex code ++ ")")

/-- The largest content of a record. -/
def maxRecord : Nat := 18432

/-- What the bytes of a peer that cannot prove itself make of the attempt: a fault, or nothing as
long as more could follow.  Warnings are passed over. -/
def faultIn? : Nat → Bytes → Option TlsError
  | 0, _ => none
  | fuel + 1, bytes =>
    match bytes with
    | [] => none
    | kind :: rest =>
      if kind < 20 || 24 < kind then some (.corruptMessage "InvalidContentType")
      else
        match rest with
        | major :: _ :: high :: low :: content =>
          let length := high.toNat * 256 + low.toNat
          if major ≠ 3 then some (.corruptMessage "UnknownProtocolVersion")
          else if length = 0 && kind ≠ 23 then some (.corruptMessage "InvalidEmptyPayload")
          else if length ≥ maxRecord then some (.corruptMessage "MessageTooLarge")
          else if content.length < length then none
          else if kind = 21 then
            match content.take length with
            | [1, _] => faultIn? fuel (content.drop length)
            | [2, code] => some (.alert (alertName code.toNat))
            | _ => some (.corruptMessage "InvalidContentType")
          else if kind = 20 then faultIn? fuel (content.drop length)
          else some (.corruptMessage "InvalidContentType")
        | _ => none

/-- The end of a peer's stream before the protocol was agreed on. -/
def handshakeEof : IoError := { kind := .unexpectedEof, detail := some "tls handshake eof" }

/-- How the attempt ends with a peer that does not speak the protocol. -/
def misunderstanding (inflow : Inflow) : Halt Error :=
  let bytes := inflow.rest
  match faultIn? (bytes.length + 1) bytes with
  | some fault => .failed (.tls fault)
  | none =>
    match inflow.ending with
    | .eof => .failed (.io handshakeEof)
    | .hang => .stalled
    | .fault fault => .failed (.io fault)

/-- What a server of the protocol says to a client without it: an alert. -/
def refusal : Inflow := ⟨[[0x15, 3, 3, 0, 2, 2, 0x32]], .eof⟩

end Tls

/-! ## 2. Connections -/

namespace Conn

/-- A peer that hears nothing. -/
def deafen : Link → Link
  | .opened peer secure manner outflow =>
    .opened peer secure manner { outflow with heard := false }
  | link => link

/-- Speaks to the peer without the secure protocol. -/
def plain {ε : Type} (conn : Conn) : Act ε System Conn := fun s =>
  if conn.identity.isSome then
    .ok { conn with inflow := Tls.refusal } (s.changeLink conn.link deafen)
  else .ok conn s

/-- A link on which the secure protocol was opened in vain. -/
def misdirect : Link → Link
  | .opened peer secure _ outflow => .opened peer secure .misdirected outflow
  | link => link

/-- Agrees with the peer on the secure protocol, as a client with these anchors that wants to
reach `server`. -/
def encrypt (roots : List Tls.TrustAnchor) (server : Tls.ServerName) (conn : Conn) :
    Act Error System Conn := fun s =>
  match conn.identity with
  | none => .error (Tls.misunderstanding conn.inflow) (s.changeLink conn.link misdirect)
  | some identity =>
    match identity.verify roots server with
    | .ok () => .ok { conn with secure := true } s
    | .error fault => .error (.failed (.tls fault)) s

end Conn

end UrlTransfer
