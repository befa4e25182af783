/-
# Sections of text files

Certificates are stored as text: a line that begins a section, lines of base64, and a line that
ends it.  Text outside of sections does not count, and neither does that of a section without a
meaning.  A section that is not closed, or that has a meaning and whose text is not base64, spoils
the whole file.
-/
import UrlTransfer.Bytes
import UrlTransfer.Codec.Base64

namespace UrlTransfer

namespace Tls

/-- A section: its label and its data. -/
structure Section where
  label : Bytes
  content : Bytes
deriving Repr, DecidableEq

namespace Section

/-- The kinds of section that have a meaning. -/
def knownLabels : List Bytes :=
  ["CERTIFICATE", "RSA PRIVATE KEY", "PRIVATE KEY", "EC PRIVATE KEY", "PUBLIC KEY", "X509 CRL",
    "CERTIFICATE REQUEST", "ECHCONFIG"].map Bytes.ofString

/-- The label of sections with a certificate. -/
def certificateLabel : Bytes := Bytes.ofString "CERTIFICATE"

/-- What begins the first line of a section. -/
def opening : Bytes := Bytes.ofString "-----BEGIN "

/-- What begins the last line of a section with this label. -/
def closing (label : Bytes) : Bytes :=
  Bytes.ofString "-----END " ++ label ++ Bytes.ofString "-----"

/-- Does the byte end a line or stand for nothing at its end? -/
def isPadding (b : UInt8) : Bool := b == 10 || b == 13 || b == 32

/-- The lines of a file, which end at a carriage return or a line feed. -/
def lines (content : Bytes) : List Bytes := content.splitOnP fun b => b == 10 || b == 13

/-- The label in the first line of a section, which ends with five hyphens. -/
def labelOf? (line : Bytes) : Option Bytes :=
  let fromEnd := line.reverse.filter (fun b => !isPadding b)
  let hyphens := fromEnd.takeWhile (· == 45)
  if hyphens.length = 5 then
    let whole := (line.reverse.dropWhile fun b => b == 45 || isPadding b).reverse
    let padding := ((line.drop whole.length).takeWhile (· != 45))
    some ((whole ++ padding).drop opening.length)
  else none

/-- The bytes that lines of base64 stand for, the last of them first. -/
def decode? (lines : List Bytes) : Option Bytes :=
  Base64.decodeLenient? (lines.reverse.flatten.map fun b => Char.ofNat b.toNat)

/-- Reads sections line by line: `current` is the label of the open one, `text` its lines so far
and `found` the sections before it, both with the last first.  **A line that begins another section
inside of one changes only the label.** -/
def readLines (found : List Section) (current : Option Bytes) (text : List Bytes) :
    List Bytes → Option (List Section)
  | [] => if current.isSome then none else some found.reverse
  | line :: rest =>
    if opening.isPrefixOf line then
      match labelOf? line with
      | some label => readLines found (some label) text rest
      | none => none
    else
      match current with
      | none => readLines found none text rest
      | some label =>
        if (closing label).isPrefixOf line then
          if knownLabels.contains label then
            match decode? text with
            | none => none
            | some content => readLines (⟨label, content⟩ :: found) none [] rest
          else readLines found none [] rest
        else readLines found current (line :: text) rest

/-- The sections of a file, if none of them spoils it. -/
def ofFile? (content : Bytes) : Option (List Section) := readLines [] none [] (lines content)

end Section

end Tls

end UrlTransfer
