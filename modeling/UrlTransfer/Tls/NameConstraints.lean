/-
# Limits on names

A trusted certificate may limit the names of the servers that it vouches for: by a list of which
at least one entry of the same kind has to match, and by one of which none may.  An entry is the
end of a host name, or an address with a mask.  Names of persons cannot be compared here, so an
entry that is one fits badly in both lists.
-/
import UrlTransfer.Tls.Element
import UrlTransfer.Tls.Fault
import UrlTransfer.Tls.ServerName

namespace UrlTransfer

namespace Tls

/-- An entry of a list, or a name to compare with the entries. -/
inductive GeneralName where
  | host (name : Bytes)
  | address (bytes : Bytes)
  /-- The name of a person or an organisation. -/
  | directory
  /-- A name of a kind that servers do not have. -/
  | other
deriving Repr, DecidableEq

namespace GeneralName

/-- The name in an element. -/
def ofElement? (e : Element) : Option GeneralName :=
  if e.tag = Element.plainPart 2 then some (host e.content)
  else if e.tag = Element.plainPart 7 then some (address e.content)
  else if e.tag = Element.part 4 then some directory
  else if [Element.part 0, Element.plainPart 1, Element.part 3, Element.part 5,
      Element.plainPart 6, Element.plainPart 8].contains e.tag then some other
  else none

/-- The name of a server. -/
def ofSubject : SubjectName → GeneralName
  | .domain name => host (Bytes.ofString name)
  | .address (.v4 ip) => address ip.octets
  | .address (.v6 ip) => address ip.bytes

end GeneralName

/-! ## 1. Host names -/

/-- Is it a host name, or with a dot at its front the end of one? -/
def isNameEnd (name : Bytes) : Bool :=
  let labels := name.splitOn 46
  let labels := if labels.head? = some [] && 1 < labels.length then labels.drop 1 else labels
  let isLabel (label : Bytes) : Bool :=
    !label.isEmpty && label.length ≤ 63 && label.head? != some 45 && label.getLast? != some 45 &&
      label.all fun b => (Char.ofNat b.toNat).isAlphanum || b == 45 || b == 95
  name.isEmpty || (name.length ≤ 253 && labels.all isLabel &&
    labels.getLast?.any fun label => !label.all fun b => (Char.ofNat b.toNat).isDigit)

/-- Does a host name end in the given way?  **It has to do so between two labels**, and a star at
its front stands for a whole label. -/
def hostMatches (name entry : Bytes) : Bool :=
  let name := Bytes.toLower name
  let entry := Bytes.toLower entry
  if entry.isEmpty then true
  else if entry.length < name.length then
    entry.isSuffixOf name &&
      (entry.head? = some 46 || (name.drop (name.length - entry.length - 1)).head? = some 46)
  else
    match name with
    | 42 :: rest => rest == (entry.drop 1).dropWhile (· != 46) && !rest.isEmpty
    | _ => name == entry

/-! ## 2. Addresses -/

/-- Is it a row of ones with nothing but zeros behind, in one byte? -/
def isMaskByte (b : UInt8) : Bool := [0, 128, 192, 224, 240, 248, 252, 254, 255].contains b

/-- Compares an address with an entry byte by byte, each with its mask, **up to the first byte that
differs**; `ones` says that the mask had nothing else so far. -/
def inNetwork (ones : Bool) : List (UInt8 × UInt8 × UInt8) → Except TlsError Bool
  | [] => .ok true
  | (byte, entry, mask) :: rest =>
    if !isMaskByte mask || (!ones && mask != 0) then .error .badMask
    else if (byte ^^^ entry) &&& mask = 0 then inNetwork (mask = 255) rest
    else .ok false

/-- Does an address lie in the network of an entry, which is an address with a mask?  An address of
the other version never does. -/
def addressMatches (address entry : Bytes) : Except TlsError Bool :=
  let size := address.length
  if entry.length = 2 * size then
    inNetwork true (address.zip ((entry.take size).zip (entry.drop size)))
  else if entry.length + 2 * size = 40 then .ok false
  else .error .badMask

/-! ## 3. Lists -/

/-- Does an entry of the list of the permitted names, or of the excluded ones, match a name?  It
says nothing about a name of another kind. -/
def entryMatches? (permitted : Bool) (name entry : GeneralName) : Except TlsError (Option Bool) :=
  match name, entry with
  | .host name, .host entry =>
    if isNameEnd entry then .ok (some (hostMatches name entry)) else .error .badNameLimit
  | .address name, .address entry => (addressMatches name entry).map some
  | .directory, .directory => .ok (some !permitted)
  | _, _ => .ok none

/-- The entry at the front of a list, and the rest of the list. -/
def readEntry (list : Bytes) : Except TlsError (GeneralName × Bytes) :=
  let read : Option (GeneralName × Bytes) := do
    let (outer, rest) ← Element.read? list
    let [inner] ← outer.items? | none
    return (← GeneralName.ofElement? inner, rest)
  match read with
  | some entry => .ok entry
  | none => .error .badEncoding

/-- Looks for a name in the list of the permitted names, or of the excluded ones; `verdicts` are
what the entries before said.  `fuel` bounds the number of entries. -/
def checkList (permitted : Bool) (name : GeneralName) (verdicts : List Bool) :
    Nat → Bytes → Except TlsError Unit
  | 0, _ => .ok ()
  | fuel + 1, list =>
    if list.isEmpty then
      if permitted && !verdicts.isEmpty && !verdicts.contains true then .error .forbiddenName
      else .ok ()
    else do
      let (entry, rest) ← readEntry list
      match ← entryMatches? permitted name entry with
      | some verdict =>
        if verdict && !permitted then throw .forbiddenName
        checkList permitted name (verdict :: verdicts) fuel rest
      | none => checkList permitted name verdicts fuel rest

/-- The list with this number at the front of some bytes, where it may be missing, and the bytes
behind it. -/
def readList (number : UInt8) (bytes : Bytes) : Except TlsError (Bytes × Bytes) :=
  if bytes.head? = some (Element.part number) then
    match Element.read? bytes with
    | some (list, rest) => .ok (list.content, rest)
    | none => .error .badEncoding
  else .ok ([], bytes)

/-- Whether limits allow the names of a server. -/
def checkNames (limits : Bytes) (names : List SubjectName) : Except TlsError Unit := do
  let (permitted, rest) ← readList 0 limits
  let (excluded, rest) ← readList 1 rest
  for name in names.map GeneralName.ofSubject ++ [.directory] do
    checkList true name [] (permitted.length + 1) permitted
    checkList false name [] (excluded.length + 1) excluded
  if !rest.isEmpty then throw .badEncoding

end Tls

end UrlTransfer
