/-
# Faults of a secure connection

Why a client does not trust the server that it reached, or cannot understand it.
-/
import UrlTransfer.Text.Numeral

namespace UrlTransfer

namespace Tls

/-- What makes a client give up a secure connection. -/
inductive TlsError where
  /-- The server does not speak the protocol. -/
  | corruptMessage (kind : String)
  /-- The server gave up. -/
  | alert (name : String)
  /-- No trusted certificate is the issuer of the server's. -/
  | unknownIssuer
  /-- A trusted certificate with the issuer's name cannot be read. -/
  | badEncoding
  /-- A trusted certificate with the issuer's name has another key. -/
  | badSignature
  /-- A trusted certificate with the issuer's name has a key of a kind that does not sign like
  this. -/
  | unsupportedKey (signature key : List UInt8)
  /-- The issuer may not vouch for the server's names. -/
  | forbiddenName
  /-- The issuer limits addresses by something that is no mask. -/
  | badMask
  /-- The issuer limits host names by something that is none. -/
  | badNameLimit
  /-- The server's certificate is for other names, of which there is at least one. -/
  | wrongName (host : String) (names : List String)
deriving Repr, DecidableEq

/-- Items with commas between them, and a word before the last. -/
def enumerated : List String → String
  | [] => ""
  | [one] => one
  | [one, two] => one ++ " or " ++ two
  | one :: rest => one ++ ", " ++ enumerated rest

/-- Numbers in brackets. -/
def numberList (bytes : List UInt8) : String :=
  "[" ++ ", ".intercalate (bytes.map fun b => Numeral.decimal b.toNat) ++ "]"

/-- How much a fault says about the issuer: of several, the one that says most is reported. -/
def TlsError.weight : TlsError → Nat
  | badSignature => 260
  | forbiddenName => 230
  | badMask => 180
  | unsupportedKey _ _ => 150
  | badNameLimit => 50
  | badEncoding => 10
  | _ => 0

/-- The wording of a fault. -/
def TlsError.message : TlsError → String
  | corruptMessage kind => "received corrupt message of type " ++ kind
  | alert name => "received fatal alert: " ++ name
  | unknownIssuer => "invalid peer certificate: UnknownIssuer"
  | badEncoding => "invalid peer certificate: BadEncoding"
  | badSignature => "invalid peer certificate: BadSignature"
  | unsupportedKey signature key =>
    "invalid peer certificate: UnsupportedSignatureAlgorithmForPublicKeyContext \x7b " ++
      "signature_algorithm_id: " ++ numberList signature ++ ", public_key_algorithm_id: " ++
      numberList key ++ " \x7d"
  | forbiddenName => "invalid peer certificate: Other(OtherError(NameConstraintViolation))"
  | badMask => "invalid peer certificate: Other(OtherError(InvalidNetworkMaskConstraint))"
  | badNameLimit => "invalid peer certificate: Other(OtherError(MalformedNameConstraint))"
  | wrongName host names =>
    "invalid peer certificate: certificate not valid for name \"" ++ host ++
      "\"; certificate is only valid for " ++ enumerated names

end Tls

end UrlTransfer
