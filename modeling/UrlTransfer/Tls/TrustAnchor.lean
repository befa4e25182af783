/-
# Trust anchors

Of a certificate that is trusted only three elements count: the name of its subject, its key, and
the limits that it sets on names (`TrustAnchor`).  All the rest has to be well formed.

Certificates are of the third version of their format, which knows extensions, or of the first.
An extension without a meaning here is passed over, unless it is marked as critical; one with a
meaning comes only once.
-/
import UrlTransfer.Tls.Element
import UrlTransfer.Tls.Pem

namespace UrlTransfer

namespace Tls

/-! ## 1. Extensions -/

/-- A statement inside a certificate: what it is about, whether it must be understood, and what it
says. -/
structure Extension where
  identifier : Bytes
  critical : Bool
  value : Bytes
deriving Repr, DecidableEq

namespace Extension

/-- Reads an extension, whose mark may be missing. -/
def ofElement? (e : Element) : Option Extension := do
  match ← e.items? with
  | [identifier, value] => make identifier [0x00] value
  | [identifier, mark, value] =>
    if mark.tag = Element.boolean then make identifier mark.content value else none
  | _ => none
where
  /-- The extension of three elements: a truth value is a byte of zeros or of ones. -/
  make (identifier : Element) (mark : Bytes) (value : Element) : Option Extension :=
    if identifier.tag ≠ Element.identifier || value.tag ≠ Element.octetString then none
    else if mark = [0x00] then some ⟨identifier.content, false, value.content⟩
    else if mark = [0xFF] then some ⟨identifier.content, true, value.content⟩
    else none

/-- The extension that says what the key may be used for: a string of bits. -/
def keyUsage : Bytes := [0x55, 0x1D, 15]

/-- The extension that limits the names of servers. -/
def nameConstraints : Bytes := [0x55, 0x1D, 30]

/-- The extensions with a meaning besides the key's use: further names, whether the subject may
issue certificates, limits on names, where certificates are withdrawn, and further uses of the key.
Each is a sequence. -/
def sequences : List Bytes :=
  [[0x55, 0x1D, 17], [0x55, 0x1D, 19], nameConstraints, [0x55, 0x1D, 31], [0x55, 0x1D, 37]]

/-- Is the extension well formed, and understood if it has to be? -/
def isAcceptable (e : Extension) : Bool :=
  if sequences.contains e.identifier then (Element.only? Element.sequence e.value).isSome
  else e.identifier = keyUsage || !e.critical

/-- Does the extension have a meaning here? -/
def isKnown (e : Extension) : Bool :=
  e.identifier = keyUsage || sequences.contains e.identifier

/-- The extensions of a list, if all can be accepted and **those with a meaning differ**. -/
def ofElements? (elements : List Element) : Option (List Extension) := do
  let extensions ← elements.mapM ofElement?
  let known := (extensions.filter isKnown).map identifier
  if extensions.all isAcceptable && known.eraseDups.length = known.length then some extensions
  else none

end Extension

/-! ## 2. Anchors -/

/-- Whom a client trusts to issue certificates: a name, a key, and perhaps limits on the names of
servers. -/
structure TrustAnchor where
  subject : Bytes
  key : Bytes
  constraints : Option Bytes := none
deriving Repr, DecidableEq

namespace TrustAnchor

/-- The element that says that a certificate is of the third version. -/
def thirdVersion : Element := ⟨Element.part 0, [0x02, 0x01, 0x02]⟩

/-- The anchor of a name, a key and the extensions. -/
def ofParts (subject key : Element) (extensions : List Extension) : TrustAnchor :=
  let limits := extensions.find? (·.identifier = Extension.nameConstraints)
  ⟨subject.content, key.content,
    limits.bind fun limits => Element.only? Element.sequence limits.value⟩

/-- The anchor of the inner part of a certificate, which was signed by `algorithm`.  **In the third
version the inner part names the algorithm too, and in the first it need not be the same.** -/
def ofInner? (algorithm : Element) (parts : List Element) : Option TrustAnchor :=
  let tags := parts.map (·.tag)
  let usual := Element.integer :: List.replicate 5 Element.sequence
  match parts with
  | [_, _, _, _, subject, key] => if tags = usual then some (ofParts subject key []) else none
  | version :: _ :: inner :: _ :: _ :: subject :: key :: rest =>
    if version ≠ thirdVersion || inner ≠ algorithm || (tags.drop 1).take 6 ≠ usual then none
    else
      match rest with
      | [] => some (ofParts subject key [])
      | [extensions] => do
        if extensions.tag ≠ Element.part 3 then none
        let list ← Element.all? (← Element.only? Element.sequence extensions.content)
        return ofParts subject key (← Extension.ofElements? list)
      | _ => none
  | _ => none

/-- The anchor that a certificate is for those who trust it.  The outer part holds the inner part,
the algorithm of the signature and the signature, which is not checked. -/
def ofCertificate? (certificate : Bytes) : Option TrustAnchor := do
  let [inner, algorithm, signature] ←
    Element.all? (← Element.only? Element.sequence certificate) | none
  let _ ← signature.bits?
  if algorithm.tag ≠ Element.sequence then none
  ofInner? algorithm (← inner.items?)

/-- The anchors of a file of certificates; a file that is spoilt has none. -/
def ofFile (content : Bytes) : List TrustAnchor :=
  ((Section.ofFile? content).getD []).filterMap fun s =>
    if s.label = Section.certificateLabel then ofCertificate? s.content else none

end TrustAnchor

end Tls

end UrlTransfer
