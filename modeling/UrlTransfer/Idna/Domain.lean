/-
# Domain names in ASCII and in letters

A domain is brought into its ASCII form label by label: its characters are mapped, labels with
the mark `xn--` are read back and have to hold what they claim, and labels with characters beyond
ASCII are written with the mark.  `toAscii?` fails where no name could look like this.
-/
import UrlTransfer.Idna.Direction
import UrlTransfer.Idna.Joiner
import UrlTransfer.Idna.Mapping
import UrlTransfer.Idna.Punycode
import UrlTransfer.Text.Blank

namespace UrlTransfer

namespace Idna

/-- The mark of a label that stands for one with characters beyond ASCII. -/
def mark : List Char := ['x', 'n', '-', '-']

/-- The longest label that is read back. -/
def maxRead : Nat := 2000

/-- The longest label that is written with the mark. -/
def maxWritten : Nat := 1000

/-- May a label consist of these characters, which the mapping does not change?  The first does not
combine, and joiners stand where they may. -/
def isValidLabel (label : List Char) : Bool :=
  !(label.head?.any Composition.isMark) && joinersFit [] label

/-- The label in letters, which a mapped label stands for. -/
def readLabel? (label : List Char) : Option (List Char) :=
  if mark.isPrefixOf label then do
    if label.length > mark.length + maxRead then none
    let letters ← Punycode.decode? (label.drop 4)
    if letters.any (128 ≤ ·.toNat) && mapText? letters == some letters && isValidLabel letters then
      some letters
    else none
  else if isValidLabel label then some label
  else none

/-- A label in ASCII. -/
def writeLabel? (label : List Char) : Option (List Char) :=
  if label.all (·.toNat < 128) then some label
  else if label.length > maxWritten then none
  else some (mark ++ Punycode.encode label)

/-- The labels of a domain in letters.  **If one has letters from right to left, all labels have to
be readable among them**, also those in ASCII. -/
def labels? (domain : List Char) : Option (List (List Char)) := do
  let labels ← (Text.splitAt '.' (← mapText? domain)).mapM readLabel?
  let directions := labels.map (·.map Direction.ofChar)
  if directions.any (·.any Direction.isFromRight) && !directions.all isReadable then none
  else some labels

/-- The domain in ASCII. -/
def toAscii? (domain : List Char) : Option (List Char) := do
  return ['.'].intercalate (← (← labels? domain).mapM writeLabel?)

/-- The domain in letters. -/
def toLetters? (domain : List Char) : Option (List Char) :=
  (labels? domain).map fun labels => ['.'].intercalate labels

end Idna

end UrlTransfer
