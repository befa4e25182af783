/-
# Reading JSON

Reading is strict: no leading zeros, no trailing commas, nothing after the value but blanks, and
at most 127 arrays and objects inside each other.  A fault says what was expected and where: line
and column count bytes, the column from the last line feed.

Each step works on a `Cursor`, the bytes from a position on.  A fault *at* the cursor is reported
at the position of the cursor, one *on the next byte* at the position after that byte.
-/
import UrlTransfer.Json.Value
import UrlTransfer.Text.Numeral
import UrlTransfer.Text.Utf8

namespace UrlTransfer

namespace Json

/-- What is wrong with a text that is no JSON. -/
inductive Flaw where
  | eofInList
  | eofInObject
  | eofInString
  | eofInValue
  | expectedColon
  | expectedListCommaOrEnd
  | expectedObjectCommaOrEnd
  | expectedIdent
  | expectedValue
  | invalidEscape
  | invalidNumber
  | numberOutOfRange
  | invalidCodePoint
  | controlCharacter
  | keyMustBeString
  | loneSurrogate
  | trailingComma
  | trailingCharacters
  | unfinishedSurrogate
  | tooDeep
deriving Repr, DecidableEq

/-- The wording of a flaw. -/
def Flaw.text : Flaw → String
  | eofInList => "EOF while parsing a list"
  | eofInObject => "EOF while parsing an object"
  | eofInString => "EOF while parsing a string"
  | eofInValue => "EOF while parsing a value"
  | expectedColon => "expected `:`"
  | expectedListCommaOrEnd => "expected `,` or `]`"
  | expectedObjectCommaOrEnd => "expected `,` or `\x7d`"
  | expectedIdent => "expected ident"
  | expectedValue => "expected value"
  | invalidEscape => "invalid escape"
  | invalidNumber => "invalid number"
  | numberOutOfRange => "number out of range"
  | invalidCodePoint => "invalid unicode code point"
  | controlCharacter => "control character (\\u0000-\\u001F) found while parsing a string"
  | keyMustBeString => "key must be a string"
  | loneSurrogate => "lone leading surrogate in hex escape"
  | trailingComma => "trailing comma"
  | trailingCharacters => "trailing characters"
  | unfinishedSurrogate => "unexpected end of hex escape"
  | tooDeep => "recursion limit exceeded"

/-- A flaw and the number of bytes before its place. -/
structure Fault where
  flaw : Flaw
  index : Nat
deriving Repr, DecidableEq

/-- The bytes from a position on. -/
structure Cursor where
  index : Nat
  rest : Bytes

/-- A step of reading. -/
abbrev Step (α : Type) := Except Fault (α × Cursor)

namespace Cursor

/-- The cursor after `n` bytes. -/
def skip (n : Nat) (c : Cursor) : Cursor := ⟨c.index + n, c.rest.drop n⟩

/-- A flaw at the cursor. -/
def fault {α : Type} (flaw : Flaw) (c : Cursor) : Except Fault α := .error ⟨flaw, c.index⟩

/-- A flaw on the next byte, or at the end if there is none. -/
def faultNext {α : Type} (flaw : Flaw) (c : Cursor) : Except Fault α :=
  .error ⟨flaw, if c.rest.isEmpty then c.index else c.index + 1⟩

/-- Skips blanks. -/
def blanks (c : Cursor) : Cursor :=
  c.skip (c.rest.takeWhile fun b => b == 32 || b == 10 || b == 9 || b == 13).length

end Cursor

/-- Is the byte an ASCII digit? -/
def isDigit (b : UInt8) : Bool := 48 ≤ b && b ≤ 57

/-- Reads the rest of a word such as `null`. -/
def word (value : Json) : Bytes → Cursor → Step Json
  | [], c => .ok (value, c)
  | w :: ws, c =>
    match c.rest with
    | [] => c.fault .eofInValue
    | b :: _ => if b = w then word value ws (c.skip 1) else (c.skip 1).fault .expectedIdent

/-! ## 1. Numbers -/

/-- Appends digits to a number as long as sixty-four bits hold it, and counts those that were
appended. -/
def appendDigits (kept count : Nat) : Bytes → Nat × Nat
  | [] => (kept, count)
  | b :: rest =>
    let longer := kept * 10 + (b.toNat - 48)
    if longer < 2 ^ 64 then appendDigits longer (count + 1) rest else (kept, count)

/-- Ends a number in binary floating point, unless it is too great. -/
def finishFloat (negative : Bool) (kept : Nat) (exponent : Int) (c : Cursor) : Step Json :=
  match Number.scale? kept exponent with
  | some magnitude => .ok (.number (.float negative magnitude), c)
  | none => c.fault .numberOutOfRange

/-- Ends a number without fraction and exponent, of which `dropped` digits did not fit. -/
def finishInteger (negative : Bool) (kept dropped : Nat) (c : Cursor) : Step Json :=
  if dropped = 0 then
    match Number.ofDigits? negative kept with
    | some n => .ok (.number n, c)
    | none => c.fault .numberOutOfRange
  else finishFloat negative kept dropped c

/-- The greatest exponent. -/
def maxExponent : Nat := 2 ^ 31 - 1

/-- The number that the digits of an exponent stand for, or **how many of them it takes to pass the
greatest exponent**; `value` and `count` are those of the digits before. -/
def exponentValue (value count : Nat) : Bytes → Except Nat Nat
  | [] => .ok value
  | b :: rest =>
    let value := value * 10 + (b.toNat - 48)
    if maxExponent < value then .error (count + 1) else exponentValue value (count + 1) rest

/-- Is the byte the letter before an exponent? -/
def isExponentMark (b : UInt8) : Bool := b == 101 || b == 69

/-- Reads the exponent, whose letter is the next byte.  **One that is too great is a flaw at the
digit that makes it so**, unless the number is zero or next to it. -/
def exponentPart (negative : Bool) (kept : Nat) (scale : Int) (c : Cursor) : Step Json :=
  let c := c.skip 1
  let (down, c) := match c.rest with
    | 43 :: _ => (false, c.skip 1)
    | 45 :: _ => (true, c.skip 1)
    | _ => (false, c)
  match c.rest with
  | [] => c.fault .eofInValue
  | b :: _ =>
    if isDigit b then
      let digits := c.rest.takeWhile isDigit
      match exponentValue 0 0 digits with
      | .error n =>
        if kept = 0 || down then
          .ok (.number (.float negative .zero), c.skip digits.length)
        else (c.skip n).fault .numberOutOfRange
      | .ok e =>
        let e : Int := e
        finishFloat negative kept (scale + if down then -e else e) (c.skip digits.length)
    else (c.skip 1).fault .invalidNumber

/-- Reads what follows the integer digits of a number, of which `dropped` did not fit. -/
def afterInteger (negative : Bool) (kept dropped : Nat) (c : Cursor) : Step Json :=
  match c.rest with
  | 46 :: _ =>
    let c := c.skip 1
    let digits := c.rest.takeWhile isDigit
    let c := c.skip digits.length
    if digits.isEmpty then c.faultNext (if c.rest.isEmpty then .eofInValue else .invalidNumber)
    else
      let (kept, count) := appendDigits kept 0 digits
      let scale : Int := (dropped : Int) - count
      if c.rest.head?.any isExponentMark then exponentPart negative kept scale c
      else finishFloat negative kept scale c
  | b :: _ =>
    if isExponentMark b then exponentPart negative kept dropped c
    else finishInteger negative kept dropped c
  | [] => finishInteger negative kept dropped c

/-- Reads a number, after its sign. -/
def numberFrom (negative : Bool) (c : Cursor) : Step Json :=
  match c.rest with
  | [] => c.fault .eofInValue
  | 48 :: next :: _ =>
    if isDigit next then (c.skip 1).faultNext .invalidNumber
    else afterInteger negative 0 0 (c.skip 1)
  | b :: _ =>
    if isDigit b then
      let digits := c.rest.takeWhile isDigit
      let (kept, count) := appendDigits 0 0 digits
      afterInteger negative kept (digits.length - count) (c.skip digits.length)
    else (c.skip 1).fault .invalidNumber

/-! ## 2. Strings -/

/-- Reads the four digits of an escape. -/
def hexEscape (c : Cursor) : Step Nat :=
  let digits := c.rest.take 4
  if digits.length < 4 then (c.skip digits.length).fault .eofInString
  else
    match Numeral.read? 16 (digits.map fun b => Char.ofNat b.toNat) with
    | some n => .ok (n, c.skip 4)
    | none => (c.skip 4).fault .invalidEscape

/-- Reads the second half of a character beyond sixteen bits, whose first half is `high`. -/
def lowSurrogate (high : Nat) (c : Cursor) : Except Fault (Nat × Cursor) := do
  let expect (b : UInt8) (c : Cursor) : Except Fault Cursor :=
    match c.rest with
    | [] => c.fault .eofInString
    | next :: _ => if next = b then .ok (c.skip 1) else (c.skip 1).fault .unfinishedSurrogate
  let c ← expect 92 c
  let c ← expect 117 c
  let (low, c) ← hexEscape c
  if low < 0xDC00 || 0xDFFF < low then c.fault .loneSurrogate
  else .ok (0x10000 + (high - 0xD800) * 1024 + (low - 0xDC00), c)

/-- Reads an escape after `\u`. -/
def unicodeEscape (c : Cursor) : Except Fault (Nat × Cursor) := do
  let (n, c) ← hexEscape c
  if 0xDC00 ≤ n && n ≤ 0xDFFF then c.fault .loneSurrogate
  else if 0xD800 ≤ n && n ≤ 0xDBFF then lowSurrogate n c
  else .ok (n, c)

/-- Reads an escape after its backslash. -/
def escape (c : Cursor) : Step Bytes :=
  match c.rest with
  | [] => c.fault .eofInString
  | b :: _ =>
    let c' := c.skip 1
    match Char.ofNat b.toNat with
    | '"' | '\\' | '/' => .ok ([b], c')
    | 'b' => .ok ([8], c')
    | 'f' => .ok ([12], c')
    | 'n' => .ok ([10], c')
    | 'r' => .ok ([13], c')
    | 't' => .ok ([9], c')
    | 'u' => (unicodeEscape c').map fun (n, c) => (String.utf8EncodeChar (Char.ofNat n), c)
    | _ => c'.fault .invalidEscape

/-- Ends a string that started at `start`, with the pieces before, the last first.  Escapes are
ASCII and stand for whole characters, so **the text as it is written shows what is no character**,
and where. -/
def finishString (start : Cursor) (read : List Bytes) (c : Cursor) : Step String :=
  match Utf8.decode? read.reverse.flatten with
  | some s => .ok (s, c.skip 1)
  | none =>
    .error ⟨.invalidCodePoint, start.index + Utf8.validLength 0 start.rest + 1⟩

/-- Reads the rest of a string that started at `start`; `read` holds the pieces before, the last
first.  `fuel` bounds the number of pieces. -/
def stringRest (start : Cursor) (read : List Bytes) : Nat → Cursor → Step String
  | 0, c => c.fault .eofInString
  | fuel + 1, c =>
    let plain := c.rest.takeWhile fun b => 32 ≤ b && b ≠ 34 && b ≠ 92
    let c := c.skip plain.length
    match c.rest with
    | [] => c.fault .eofInString
    | 34 :: _ => finishString start (plain :: read) c
    | 92 :: _ =>
      match escape (c.skip 1) with
      | .ok (piece, c) => stringRest start (piece :: plain :: read) fuel c
      | .error fault => .error fault
    | _ => (c.skip 1).fault .controlCharacter

/-- Reads a string, whose quote is the next byte. -/
def quoted (c : Cursor) : Step String :=
  stringRest (c.skip 1) [] (c.rest.length + 1) (c.skip 1)

/-! ## 3. Values -/

/-- Reads the items of an array and its end; `fuel` bounds their number. -/
def items (item : Cursor → Step Json) (read : List Json) : Nat → Cursor → Step Json
  | 0, c => c.fault .eofInList
  | fuel + 1, c =>
    let c := c.blanks
    let next (c : Cursor) : Step Json :=
      match item c with
      | .ok (value, c) => items item (value :: read) fuel c
      | .error fault => .error fault
    match c.rest with
    | [] => c.faultNext .eofInList
    | 93 :: _ => .ok (.array read.reverse, c.skip 1)
    | b :: _ =>
      if read.isEmpty then next c
      else if b = 44 then
        let c := (c.skip 1).blanks
        match c.rest with
        | [] => c.faultNext .eofInValue
        | 93 :: _ => c.faultNext .trailingComma
        | _ => next c
      else c.faultNext .expectedListCommaOrEnd

/-- Reads the members of an object and its end; `fuel` bounds their number. -/
def members (item : Cursor → Step Json) (first : Bool) (read : List (String × Json)) :
    Nat → Cursor → Step Json
  | 0, c => c.fault .eofInObject
  | fuel + 1, c =>
    let c := c.blanks
    let next (c : Cursor) : Step Json :=
      match quoted c with
      | .error fault => .error fault
      | .ok (key, c) =>
        let c := c.blanks
        match c.rest with
        | [] => c.faultNext .eofInObject
        | 58 :: _ =>
          match item (c.skip 1) with
          | .ok (value, c) => members item false (insert key value read) fuel c
          | .error fault => .error fault
        | _ => c.faultNext .expectedColon
    match c.rest with
    | [] => c.faultNext .eofInObject
    | 125 :: _ => .ok (.object read, c.skip 1)
    | b :: _ =>
      if first then
        if b = 34 then next c else c.faultNext .keyMustBeString
      else if b = 44 then
        let c := (c.skip 1).blanks
        match c.rest with
        | [] => c.faultNext .eofInValue
        | 34 :: _ => next c
        | 125 :: _ => c.faultNext .trailingComma
        | _ => c.faultNext .keyMustBeString
      else c.faultNext .expectedObjectCommaOrEnd

/-- Reads a value that is no array and no object, or leaves those to `inner`. -/
def scalarOr (inner : UInt8 → Cursor → Step Json) (c : Cursor) : Step Json :=
  let c := c.blanks
  match c.rest with
  | [] => c.faultNext .eofInValue
  | b :: _ =>
    match Char.ofNat b.toNat with
    | 'n' => word .null (Bytes.ofString "ull") (c.skip 1)
    | 't' => word (.bool true) (Bytes.ofString "rue") (c.skip 1)
    | 'f' => word (.bool false) (Bytes.ofString "alse") (c.skip 1)
    | '-' => numberFrom true (c.skip 1)
    | '"' => (quoted c).map fun (s, c) => (.string s, c)
    | '[' | '\x7b' => inner b c
    | _ => if isDigit b then numberFrom false c else c.faultNext .expectedValue

/-- Reads a value with at most `depth` arrays and objects inside each other. -/
def value : Nat → Cursor → Step Json
  | 0, c => scalarOr (fun _ c => c.faultNext .tooDeep) c
  | depth + 1, c =>
    scalarOr (fun b c =>
      if b = 91 then items (value depth) [] (c.rest.length + 1) (c.skip 1)
      else members (value depth) true [] (c.rest.length + 1) (c.skip 1)) c

/-- How many arrays and objects may stand inside each other. -/
def depthLimit : Nat := 127

/-- What is wrong with a text, and in which line and column. -/
structure Error where
  flaw : Flaw
  line : Nat
  column : Nat
deriving Repr, DecidableEq

/-- The wording of an error. -/
def Error.message (e : Error) : String :=
  e.flaw.text ++ " at line " ++ Numeral.decimal e.line ++ " column " ++ Numeral.decimal e.column

/-- Puts a fault into line and column. -/
def Fault.locate (text : Bytes) (f : Fault) : Error :=
  let before := text.take f.index
  ⟨f.flaw, before.count 10 + 1, (before.reverse.takeWhile (· ≠ 10)).length⟩

/-- Reads a text that is one value. -/
def parse (text : Bytes) : Except Error Json :=
  match value depthLimit ⟨0, text⟩ with
  | .error fault => .error (fault.locate text)
  | .ok (v, c) =>
    let c := c.blanks
    if c.rest.isEmpty then .ok v
    else .error (Fault.locate text ⟨.trailingCharacters, c.index + 1⟩)

end Json

end UrlTransfer
