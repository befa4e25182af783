/-
# Header fields

A header has a name, written in small letters, and a value of bytes.  A `Headers` table keeps the
names in the order in which each first came, and the values of one name together in the order of
their arrival: `append` adds a value, `insert` replaces all values of a name and keeps its place.
-/
import UrlTransfer.Bytes
import UrlTransfer.Text.Numeral
import UrlTransfer.Text.Utf8

namespace UrlTransfer

namespace Http

/-- May the character stand in a method or in the name of a header? -/
def isTokenChar (c : Char) : Bool := c.isAlphanum || "!#$%&'*+-.^_`|~".toList.contains c

/-- The name of a header. -/
structure HeaderName where
  text : String
deriving Repr, DecidableEq, Inhabited

namespace HeaderName

/-- How long a name can be. -/
def maxLength : Nat := 65535

/-- Reads a name: one or more token characters, in letters of either case. -/
def parse? (s : String) : Option HeaderName :=
  let cs := s.toList
  if cs ≠ [] ∧ cs.length ≤ maxLength ∧ cs.all isTokenChar then
    some ⟨String.ofList (cs.map Char.toLower)⟩
  else none

/-- Tells which protocols a connection changes to. -/
def connection : HeaderName := ⟨"connection"⟩
/-- The length of the body. -/
def contentLength : HeaderName := ⟨"content-length"⟩
/-- The host that a request is for. -/
def host : HeaderName := ⟨"host"⟩
/-- Where a redirection points to. -/
def location : HeaderName := ⟨"location"⟩
/-- How the body is encoded for the transfer. -/
def transferEncoding : HeaderName := ⟨"transfer-encoding"⟩
/-- The protocol that a connection changes to. -/
def upgrade : HeaderName := ⟨"upgrade"⟩
/-- The proof that a server understood the key. -/
def webSocketAccept : HeaderName := ⟨"sec-websocket-accept"⟩
/-- The key of a client. -/
def webSocketKey : HeaderName := ⟨"sec-websocket-key"⟩
/-- The version of the message protocol. -/
def webSocketVersion : HeaderName := ⟨"sec-websocket-version"⟩

end HeaderName

/-- May the byte stand in the value of a header? -/
def isValueByte (b : UInt8) : Bool := (0x20 ≤ b && b != 0x7F) || b == 0x09

/-- The value of a header. -/
structure HeaderValue where
  bytes : Bytes
deriving Repr, DecidableEq, Inhabited

namespace HeaderValue

/-- The value of these bytes, if all of them may stand in one. -/
def ofBytes? (bytes : Bytes) : Option HeaderValue :=
  if bytes.all isValueByte then some ⟨bytes⟩ else none

/-- The value of a text, which the caller knows to have none but fitting characters. -/
def ofText (s : String) : HeaderValue := ⟨Bytes.ofString s⟩

/-- Is the byte a visible ASCII character, a space or a tab? -/
def isTextByte (b : UInt8) : Bool := (0x20 ≤ b && b < 0x7F) || b == 0x09

/-- The value as text, if it has none but ASCII characters. -/
def text? (v : HeaderValue) : Option String :=
  if v.bytes.all isTextByte then some (String.ofList (v.bytes.map fun b => Char.ofNat b.toNat))
  else none

/-- The value as text, with marks where it is none. -/
def lossyText (v : HeaderValue) : String := Utf8.decodeLossy v.bytes

/-- A byte of a value in quotes. -/
def quotedByte (b : UInt8) : List Char :=
  if b == 0x22 then ['\\', '"']
  else if isTextByte b then [Char.ofNat b.toNat]
  else '\\' :: 'x' :: Numeral.write 16 b.toNat

/-- The value in quotes, with other than ASCII characters as numbers. -/
def quoted (v : HeaderValue) : String :=
  String.ofList ('"' :: v.bytes.flatMap quotedByte ++ ['"'])

end HeaderValue

/-- A table of headers: names in the order in which they first came, each with its values. -/
structure Headers where
  entries : List (HeaderName × List HeaderValue) := []
deriving Repr, DecidableEq, Inhabited

namespace Headers

/-- No headers. -/
def empty : Headers := {}

/-- The values of a name, in the order of their arrival. -/
def values (name : HeaderName) (h : Headers) : List HeaderValue := (h.entries.lookup name).getD []

/-- The first value of a name. -/
def get? (name : HeaderName) (h : Headers) : Option HeaderValue := (h.values name).head?

/-- Is there a value for the name? -/
def contains (name : HeaderName) (h : Headers) : Bool := (h.get? name).isSome

/-- Adds a value in the entries of a table. -/
def appendTo (name : HeaderName) (value : HeaderValue) :
    List (HeaderName × List HeaderValue) → List (HeaderName × List HeaderValue)
  | [] => [(name, [value])]
  | (n, values) :: rest =>
    if n = name then (n, values ++ [value]) :: rest else (n, values) :: appendTo name value rest

/-- Adds a value behind the others of its name. -/
def append (name : HeaderName) (value : HeaderValue) (h : Headers) : Headers :=
  ⟨appendTo name value h.entries⟩

/-- Replaces the values of a name in the entries of a table. -/
def insertTo (name : HeaderName) (value : HeaderValue) :
    List (HeaderName × List HeaderValue) → List (HeaderName × List HeaderValue)
  | [] => [(name, [value])]
  | (n, values) :: rest =>
    if n = name then (n, [value]) :: rest else (n, values) :: insertTo name value rest

/-- Replaces the values of a name, which keeps its place. -/
def insert (name : HeaderName) (value : HeaderValue) (h : Headers) : Headers :=
  ⟨insertTo name value h.entries⟩

/-- Every value with its name. -/
def toList (h : Headers) : List (HeaderName × HeaderValue) :=
  h.entries.flatMap fun (name, values) => values.map (name, ·)

/-- The table of a list of headers. -/
def ofList (list : List (HeaderName × HeaderValue)) : Headers :=
  list.foldl (fun h (name, value) => h.append name value) empty

/-- The lines of a message that stand for the headers. -/
def lines (headers : List (HeaderName × HeaderValue)) : Bytes :=
  headers.flatMap fun (name, value) =>
    Bytes.ofString name.text ++ Bytes.ofString ": " ++ value.bytes ++ Bytes.crlf

/-! ## What the operations do to the values -/

theorem lookup_appendTo (name other : HeaderName) (value : HeaderValue)
    (entries : List (HeaderName × List HeaderValue)) :
    ((appendTo name value entries).lookup other).getD [] =
      (entries.lookup other).getD [] ++ (if other = name then [value] else []) := by
  induction entries with
  | nil =>
    by_cases h : other = name
    · simp [appendTo, h]
    · have : (other == name) = false := by simp [h]
      simp [appendTo, List.lookup_cons, this, h]
  | cons entry rest ih =>
    obtain ⟨n, values⟩ := entry
    by_cases hn : n = name
    · subst hn
      by_cases h : other = n
      · simp [appendTo, h]
      · have : (other == n) = false := by simp [h]
        simp [appendTo, List.lookup_cons, this, h]
    · by_cases ho : other = n
      · subst ho
        simp [appendTo, hn]
      · have : (other == n) = false := by simp [ho]
        simpa [appendTo, hn, List.lookup_cons, this] using ih

/-- **Appending adds a value to its own name and to no other.** -/
theorem values_append (name other : HeaderName) (value : HeaderValue) (h : Headers) :
    (h.append name value).values other =
      h.values other ++ (if other = name then [value] else []) :=
  lookup_appendTo name other value h.entries

theorem lookup_insertTo (name other : HeaderName) (value : HeaderValue)
    (entries : List (HeaderName × List HeaderValue)) :
    ((insertTo name value entries).lookup other).getD [] =
      if other = name then [value] else (entries.lookup other).getD [] := by
  induction entries with
  | nil =>
    by_cases h : other = name
    · simp [insertTo, h]
    · have : (other == name) = false := by simp [h]
      simp [insertTo, List.lookup_cons, this, h]
  | cons entry rest ih =>
    obtain ⟨n, values⟩ := entry
    by_cases hn : n = name
    · subst hn
      by_cases h : other = n
      · simp [insertTo, h]
      · have : (other == n) = false := by simp [h]
        simp [insertTo, List.lookup_cons, this, h]
    · by_cases ho : other = n
      · subst ho
        simp [insertTo, hn]
      · have : (other == n) = false := by simp [ho]
        simpa [insertTo, hn, List.lookup_cons, this] using ih

/-- **Inserting leaves one value for its name**, and the values of every other. -/
theorem values_insert (name other : HeaderName) (value : HeaderValue) (h : Headers) :
    (h.insert name value).values other = if other = name then [value] else h.values other :=
  lookup_insertTo name other value h.entries

end Headers

end Http

end UrlTransfer
