/-
# Lines and header fields on a connection

The head of a message is read line by line out of the buffer.  A line ends with a line feed, and
one carriage return before it does not belong to it.  It has to fit into the buffer: `awaitLine`
fills until there is a line feed, and fails where the buffer is full or the stream ends first.

Looking for a line changes nothing about the bytes ahead (`awaitLine_view`); taking a header field
drops its line, of at least one byte (`size_takeField`), which is why reading a head ends.
-/
import UrlTransfer.Error
import UrlTransfer.Stream.Reader

namespace UrlTransfer

namespace Http

/-! ## 1. Lines -/

/-- How many bytes the first line takes with its line feed, if there is one. -/
def lineLength? (bytes : Bytes) : Option Nat := (bytes.idxOf? Bytes.lf).map (· + 1)

/-- Fills the buffer until it holds a line, and tells how many bytes the line takes. -/
def awaitLine : Act Error Reader Nat := fun r =>
  match lineLength? r.unread with
  | some n => .ok n r
  | none =>
    match _h : r.fill with
    | .error halt r' => .error (halt.map .io) r'
    | .ok 0 r' =>
      if r'.unread.length = r'.capacity then .error (.failed (.http .headersTooLong)) r'
      else .error (.failed (.io .eof)) r'
    | .ok (_ + 1) r' => awaitLine r'
termination_by r => r.inflow.size
decreasing_by
  have := Reader.inflow_size_fill _h
  omega

/-- The text of a line without what ends it, if it is UTF-8. -/
def lineText? (line : Bytes) : Option String :=
  let text := line.dropLast
  Utf8.decode? (if text.getLast? = some 13 then text.dropLast else text)

/-- The first line, which stays in the buffer, and how many bytes it takes there. -/
def peekLine : Act Error Reader (String × Nat) := fun r =>
  match awaitLine r with
  | .error halt r' => .error halt r'
  | .ok n r' =>
    match lineText? (r'.unread.take n) with
    | some text => .ok (text, n) r'
    | none => .error (.failed .invalidUtf8) r'

/-- The first line, which is taken out of the buffer, and how many bytes it took. -/
def takeLine : Act Error Reader (String × Nat) := fun r =>
  match peekLine r with
  | .error halt r' => .error halt r'
  | .ok (text, n) r' => .ok (text, n) (r'.consume n)

/-! ## 2. Header fields -/

/-- A header field, and how many bytes its line took. -/
structure Field where
  name : HeaderName
  value : HeaderValue
  size : Nat
deriving Repr, DecidableEq

/-- Name and value of a header, as a caller writes them; a wrong name counts before a wrong
value. -/
def parseHeader (name value : String) : Except HttpError (HeaderName × HeaderValue) :=
  match HeaderName.parse? name, HeaderValue.ofBytes? (Bytes.ofString value) with
  | some name, some value => .ok (name, value)
  | none, _ => .error .invalidHeaderName
  | _, none => .error .invalidHeaderValue

/-- The header of a line: what stands before and after the first colon, without blanks around it.
A line without a colon is a name, and its value is empty. -/
def parseLine (line : String) : Except HttpError (HeaderName × HeaderValue) :=
  let (name, value) := (Text.splitOnce ':' line).getD (line, "")
  parseHeader (Text.trimmed name) (Text.trimmed value)

/-- Takes the next header field out of the buffer, or the empty line behind the last one. -/
def takeField : Act Error Reader (Option Field) := fun r =>
  match peekLine r with
  | .error halt r' => .error halt r'
  | .ok (text, n) r' =>
    if text.isEmpty then .ok none (r'.consume n)
    else
      match parseLine text with
      | .ok (name, value) => .ok (some ⟨name, value, n⟩) (r'.consume n)
      | .error fault => .error (.failed (.http fault)) r'

/-! ## 3. What is ahead -/

theorem lineLength?_le {bytes : Bytes} {n : Nat} (h : lineLength? bytes = some n) :
    0 < n ∧ n ≤ bytes.length := by
  unfold lineLength? at h
  obtain ⟨i, hi, rfl⟩ := Option.map_eq_some_iff.1 h
  have := List.of_findIdx?_eq_some hi
  have hlt : i < bytes.length := Nat.lt_of_not_le fun hge => by
    simp [List.getElem?_eq_none hge] at this
  omega

/-- **Waiting for a line keeps the bytes ahead**, and the line is in the buffer. -/
theorem awaitLine_view {r r' : Reader} {n : Nat} (h : awaitLine r = .ok n r') :
    r'.ahead = r.ahead ∧ 0 < n ∧ n ≤ r'.unread.length := by
  fun_induction awaitLine r with
  | case1 r m hm => cases h; exact ⟨rfl, lineLength?_le hm⟩
  | case2 => cases h
  | case3 => cases h
  | case4 => cases h
  | case5 r _ k r'' hfill ih =>
    obtain ⟨hahead, hpos, hle⟩ := ih h
    exact ⟨hahead.trans (Reader.fill_ahead hfill).1, hpos, hle⟩

theorem peekLine_view {r r' : Reader} {text : String} {n : Nat}
    (h : peekLine r = .ok (text, n) r') :
    r'.ahead = r.ahead ∧ 0 < n ∧ n ≤ r'.unread.length := by
  unfold peekLine at h
  split at h
  · cases h
  · next hawait =>
    split at h
    · cases h; exact awaitLine_view hawait
    · cases h

theorem size_takeField {r r' : Reader} {field : Field} (h : takeField r = .ok (some field) r') :
    r'.size < r.size := by
  unfold takeField at h
  split at h
  · cases h
  · next hpeek =>
    obtain ⟨hahead, hpos, hle⟩ := peekLine_view hpeek
    split at h
    · cases h
    · split at h
      · cases h
        rw [Reader.size_consume]
        have : r.size = Reader.size _ := congrArg List.length hahead.symm
        simp only [Reader.size, Reader.ahead, List.length_append] at this ⊢
        omega
      · cases h

/-! ## 4. Heads -/

/-- Takes header fields up to the empty line.  **With a limit, it fails at the line that passes
it**; the fields before are kept in the table. -/
def takeFields (limit : Option Nat) : Act Error (Reader × Headers) Unit := fun (r, headers) =>
  match _h : takeField r with
  | .error halt r' => .error halt (r', headers)
  | .ok none r' => .ok () (r', headers)
  | .ok (some field) r' =>
    match limit with
    | none => takeFields none (r', headers.append field.name field.value)
    | some left =>
      if left < field.size then .error (.failed (.http .headersTooLong)) (r', headers)
      else takeFields (some (left - field.size)) (r', headers.append field.name field.value)
termination_by p => p.1.size
decreasing_by all_goals exact size_takeField _h

end Http

end UrlTransfer
