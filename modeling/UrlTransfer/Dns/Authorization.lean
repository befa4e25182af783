/-
# Authorizations to issue certificates

A domain says who may issue certificates for it: it names an authority, which may come with
parameters, or no authority at all, or where a violation is to be reported.

An authority is written as a name, a semicolon and `key=value` pairs with semicolons between them;
each of its parts may be missing.
-/
import UrlTransfer.Dns.Wire
import UrlTransfer.Url.Reader

namespace UrlTransfer

namespace Dns

/-! ## 1. Parameters -/

/-- A parameter of an authority. -/
structure IssuerParameter where
  key : String
  value : String
deriving Repr, DecidableEq, Inhabited

namespace IssuerParameter

/-- Does the character stand between parameters? -/
def isSeparator (c : Char) : Bool := c == ';' || c == ' ' || c == '\t'

/-- Is it a key?  A hyphen may stand from the third character on. -/
def isKey : List Char → Bool
  | [] => false
  | c :: rest =>
    Alphanumeric.isAlphanumeric c && rest.head? != some '-' &&
      rest.all fun c => Alphanumeric.isAlphanumeric c || c == '-'

/-- May the character stand in a value? -/
def isValueChar (c : Char) : Bool := '!' ≤ c && c ≤ '~' && c != ';'

/-- The parameters of a text. -/
def parse? (text : List Char) : Option (List IssuerParameter) :=
  match _h : text.dropWhile isSeparator with
  | [] => some []
  | c :: cs =>
    match _hcs : (c :: cs).dropWhile (· != '=') with
    | [] => none
    | _ :: rest =>
      let key := (c :: cs).takeWhile (· != '=')
      let value := rest.takeWhile (· != ';')
      if isKey key && value.all isValueChar then
        (parse? (rest.dropWhile (· != ';'))).map (⟨String.ofList key, String.ofList value⟩ :: ·)
      else none
termination_by text.length
decreasing_by
  have h₁ := (List.dropWhile_sublist isSeparator (l := text)).length_le
  have h₂ := (List.dropWhile_sublist (· != '=') (l := c :: cs)).length_le
  have h₃ := (List.dropWhile_sublist (· != ';') (l := rest)).length_le
  rw [_h] at h₁
  rw [_hcs] at h₂
  simp only [List.length_cons] at h₁ h₂
  omega

/-- The text of a parameter; one without a value is its key. -/
def text (p : IssuerParameter) : String :=
  if p.value.isEmpty then p.key else p.key ++ "=" ++ p.value

end IssuerParameter

/-! ## 2. What a domain says -/

/-- What a domain says about certificates. -/
inductive AuthorizationProperty where
  /-- Who may issue them, for the domain itself or for all names in it; without a name, nobody. -/
  | issuer (wildcard : Bool) (name : Option Name) (parameters : List IssuerParameter)
  /-- Where to report violations. -/
  | report (url : Url)
  /-- Anything else, under its tag. -/
  | other (tag : String) (value : Bytes)
deriving DecidableEq

/-- A statement of a domain about certificates. -/
structure Authorization where
  /-- Whether who does not understand the statement has to obey it nevertheless. -/
  critical : Bool
  property : AuthorizationProperty
deriving DecidableEq

namespace AuthorizationProperty

/-- The tag of a statement. -/
def tag : AuthorizationProperty → String
  | issuer false _ _ => "issue"
  | issuer true _ _ => "issuewild"
  | report _ => "iodef"
  | other tag _ => tag

/-- The text of what is said under the tag. -/
def valueText : AuthorizationProperty → String
  | issuer _ name parameters =>
    (name.map Name.text).getD "" ++ String.join (parameters.map fun p => "; " ++ p.text)
  | report url => url.text
  | other _ value => Utf8.decodeLossy value

/-- The characters of a text of which each byte is one. -/
def charsOf (bytes : Bytes) : List Char := bytes.map fun b => Char.ofNat b.toNat

/-- The name of an authority, which may be missing. -/
def issuerName? (bytes : Bytes) : Option (Option Name) :=
  if bytes.isEmpty then some none
  else ((Utf8.decode? bytes).bind Name.parseHost?).map some

/-- The byte of a semicolon. -/
def semicolon : UInt8 := 59

/-- The authority that some bytes name. -/
def issuer? (wildcard : Bool) (value : Bytes) : Option AuthorizationProperty := do
  let name ← issuerName? (value.takeWhile (· != semicolon))
  let parameters ← IssuerParameter.parse? (charsOf (value.dropWhile (· != semicolon)))
  return issuer wildcard name parameters

/-- The place for reports that some bytes name. -/
def report? (value : Bytes) : Option AuthorizationProperty := do
  match Url.parse (← Utf8.decode? value) with
  | .ok url => return report url
  | .error _ => none

/-- The statement under a tag in small letters. -/
def ofTag? (tag : String) (value : Bytes) : Option AuthorizationProperty :=
  match tag with
  | "issue" => issuer? false value
  | "issuewild" => issuer? true value
  | "iodef" => report? value
  | _ => some (other tag value)

end AuthorizationProperty

namespace Authorization

/-- The text of a statement. -/
def text (a : Authorization) : String :=
  (if a.critical then "128 " else "0 ") ++ a.property.tag ++ " \"" ++ a.property.valueText ++ "\""

/-- Is it a tag, of at most fifteen letters and digits? -/
def isTag (bytes : Bytes) : Bool :=
  !bytes.isEmpty && bytes.length ≤ 15 &&
    (AuthorizationProperty.charsOf bytes).all Char.isAlphanum

/-- Reads a statement that ends at the position `stop`; the case of its tag does not matter. -/
def read (stop : Nat) : Wire Authorization := do
  let flags ← Wire.number 1
  let tag ← Wire.string
  let value ← Wire.upTo stop
  if !isTag tag then failure
  let tag := String.ofList (AuthorizationProperty.charsOf (Bytes.toLower tag))
  return ⟨128 ≤ flags, ← Wire.found (AuthorizationProperty.ofTag? tag value)⟩

end Authorization

end Dns

end UrlTransfer
