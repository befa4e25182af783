/-
# Domain names

A domain name is a list of labels, each a byte string of one to sixty-three bytes.  A name that
was written with a dot at its end, or that came in a message, is absolute; this shows when it is
printed, and nowhere else: names are compared label by label without regard to case.

In text a backslash takes the meaning from the next character, or stands before three octal digits.
A name of which every label is one of a host takes its ASCII form, in small letters; any other name
has to be in ASCII, and stays as it is.
-/
import UrlTransfer.Idna.Domain
import UrlTransfer.Text.Alphanumeric
import UrlTransfer.Text.Utf8

namespace UrlTransfer

namespace Dns

/-- May this ASCII character stand in a label?  A hyphen may not be the first character and a star
only the first; a dot gets there by being escaped. -/
def isLabelChar (first : Bool) (c : Char) : Bool :=
  c.isAlphanum || (c == '-' && !first) || c == '_' || (c == '*' && first) || c == '.'

/-- A label of these characters, if all of them may stand there and there are neither none nor
more than sixty-three. -/
def asciiLabel? : List Char → Option Bytes
  | [] => none
  | c :: rest =>
    if rest.length < 63 && isLabelChar true c && rest.all (isLabelChar false) then
      some ((c :: rest).map fun c => UInt8.ofNat c.toNat)
    else none

/-- May the character stand in the ASCII form of a host's label? -/
def isHostChar (c : Char) : Bool := c.isLower || c.isDigit || c == '-' || c == '.'

/-- The label of a host that a text stands for: a star alone and labels that start with an
underscore as they are, every other in its ASCII form. -/
def hostLabel? (cs : List Char) : Option Bytes :=
  if cs = ['*'] then some [42]
  else if cs.head? = some '_' then asciiLabel? cs
  else ((Idna.toAscii? cs).filter (·.all isHostChar)).bind asciiLabel?

/-- A domain name. -/
structure Name where
  labels : List Bytes
  absolute : Bool
deriving Repr, DecidableEq, Inhabited

namespace Name

/-- The name of the root. -/
def root : Name := ⟨[], true⟩

/-- How many bytes the name takes in a message. -/
def wireLength (labels : List Bytes) : Nat :=
  labels.foldr (fun label n => label.length + 1 + n) 1

/-- How many bytes a message has for a name. -/
def maxWireLength : Nat := 255

/-- The bytes of a name in a message: each label after its length, and a zero. -/
def wire (name : Name) : Bytes :=
  name.labels.flatMap (fun label => UInt8.ofNat label.length :: label) ++ [0]

/-- The labels without regard to case. -/
def key (name : Name) : List Bytes := name.labels.map Bytes.toLower

/-- Do the names have the same labels, without regard to case? -/
def sameAs (a b : Name) : Bool := a.key == b.key

/-! ## From text -/

/-- What the characters before mean for the next one. -/
inductive Escape where
  /-- It stands for itself. -/
  | plain
  /-- It was preceded by a backslash. -/
  | escaped
  /-- It continues an octal number, of which these digits are known. -/
  | octal (digits : List Nat)

/-- Is it a control character? -/
def isControl (c : Char) : Bool := c.toNat < 32 || (127 ≤ c.toNat && c.toNat < 160)

/-- The labels of a text in characters; `done` holds those before the current one, the last first,
and `label` the characters of the current one, the last first. -/
def collect (done : List (List Char)) (label : List Char) : Escape → List Char →
    Option (List (List Char))
  | _, [] => some (if label.isEmpty then done else label.reverse :: done).reverse
  | .plain, c :: rest =>
    if c == '.' then
      if label.isEmpty then none else collect (label.reverse :: done) [] .plain rest
    else if c == '\\' then collect done label .escaped rest
    else if isControl c || isBlank c then none
    else collect done (c :: label) .plain rest
  | .escaped, c :: rest =>
    if Alphanumeric.isNumber c then
      match Numeral.digit? 8 c with
      | some d => collect done label (.octal [d]) rest
      | none => none
    else collect done (c :: label) .plain rest
  | .octal [a, b], c :: rest =>
    match Numeral.digit? 8 c with
    | some d => collect done (Char.ofNat (a * 64 + b * 8 + d) :: label) .plain rest
    | none => none
  | .octal digits, c :: rest =>
    match Numeral.digit? 8 c with
    | some d => collect done label (.octal (digits ++ [d])) rest
    | none => none

/-- The name of labels in characters, each of which `label?` brings into bytes.  **It may be one
byte longer than a message allows**: then it can be known, but not asked for. -/
def ofLabels? (label? : List Char → Option Bytes) (absolute : Bool) (labels : List (List Char)) :
    Option Name := do
  let labels ← labels.mapM label?
  if wireLength labels > maxWireLength + 1 then none else some ⟨labels, absolute⟩

/-- Reads the text of a name, of which `label?` brings each label into bytes. -/
def parseWith? (label? : List Char → Option Bytes) (s : String) : Option Name := do
  if s = "." then return root
  ofLabels? label? (s.toList.getLast? == some '.') (← collect [] [] .plain s.toList)

/-- Reads the text of a name of which all labels are those of a host. -/
def parseHost? (s : String) : Option Name := parseWith? hostLabel? s

/-- Reads the text of a name.  **If one label is none of a host, all of them have to be in
ASCII.** -/
def parse? (s : String) : Option Name :=
  match parseHost? s with
  | some name => some name
  | none => parseWith? asciiLabel? s

/-! ## To text -/

/-- A byte of a label as it is printed: escaped unless it is a letter, a digit or one of the few
other characters of labels. -/
def byteText (first : Bool) (b : UInt8) : List Char :=
  let c := Char.ofNat b.toNat
  if b < 128 && c != '.' && isLabelChar first c then [c]
  else if 0x20 < b && b < 0x7F then ['\\', c]
  else
    ['\\', Char.ofNat (48 + b.toNat / 64), Char.ofNat (48 + b.toNat / 8 % 8),
      Char.ofNat (48 + b.toNat % 8)]

/-- A label as it is printed where it is not turned back into letters. -/
def plainLabelText : Bytes → List Char
  | [] => []
  | b :: rest => byteText true b ++ rest.flatMap (byteText false)

/-- A label as it is printed: one with a mark is turned back into letters if that is possible. -/
def labelText (label : Bytes) : List Char :=
  if (Bytes.ofString "xn--").isPrefixOf label then
    match Idna.toLetters? (Utf8.decodeLossy label).toList with
    | some letters => letters
    | none => plainLabelText label
  else plainLabelText label

/-- The text of a name. -/
def text (name : Name) : String :=
  let inner := ['.'].intercalate (name.labels.map labelText)
  String.ofList (if name.absolute then inner ++ ['.'] else inner)

end Name

end Dns

end UrlTransfer
