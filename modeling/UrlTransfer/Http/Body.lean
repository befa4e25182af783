/-
# Bodies of responses

What follows the head of a response is framed in one of four ways: there is none, its length is
known, it comes in chunks that each tell their length, or it lasts until the connection ends.
`Framing` is that choice together with how far the reading has come; `Framing.ofHead` takes it
from the head.

A read returns some bytes of the body, and none only at its end.  Every byte that is returned was
ahead of the reader before (`size_read`), which is why reading a body to its end ends.
-/
import UrlTransfer.Http.Line
import UrlTransfer.Http.Method

namespace UrlTransfer

namespace Http

/-! ## 1. Framing -/

/-- Where the data of a body ends, and how far the reading has come. -/
inductive Framing where
  /-- Nothing is left. -/
  | finished
  /-- The data last until the connection ends. -/
  | untilEnd
  /-- So many bytes are left. -/
  | length (left : Nat)
  /-- In front of the size of a chunk. -/
  | chunkSize
  /-- Behind the size of a chunk, in front of the end of its line. -/
  | chunkExtension (size : Nat)
  /-- In the data of a chunk, of which so many bytes are left. -/
  | chunkData (left : Nat)
  /-- Behind the data of a chunk, in front of the line end that follows them. -/
  | chunkEnd
  /-- Behind the last chunk, in front of the trailers. -/
  | trailers
deriving Repr, DecidableEq

/-- Is the encoding in a list of them? -/
def listsChunked (encodings : String) : Bool :=
  (Text.splitAt ',' encodings.toList).any fun encoding =>
    (Text.trim encoding).map Char.toLower == "chunked".toList

/-- Reads the length of a body. -/
def parseLength? (value : HeaderValue) : Option Nat := do
  Numeral.parse? 10 (2 ^ 64) (Text.trim (← value.text?).toList)

/-- Does a response of this kind have no body, whatever its headers? -/
def isBodiless (method : Method) (status : Status) : Bool :=
  method == .head || status.code == 204 || status.code == 304 || status.code < 200

/-- The framing that a head stands for.  **An encoding counts before a length**, and a length that
is no number is a fault. -/
def Framing.ofHead (method : Method) (status : Status) (headers : Headers) :
    Except HttpError Framing :=
  if isBodiless method status then .ok .finished
  else
    match headers.get? .transferEncoding with
    | some encoding =>
      .ok (if listsChunked (encoding.text?.getD "") then .chunkSize else .untilEnd)
    | none =>
      match headers.get? .contentLength with
      | none => .ok .untilEnd
      | some value =>
        match parseLength? value with
        | some n => .ok (.length n)
        | none => .error (.invalidHeader .contentLength value.lossyText)

/-- The rest of a response: where its data come from, and how they are framed. -/
structure Body where
  reader : Reader
  framing : Framing
  /-- Whether the server offered to keep the connection. -/
  reusable : Bool
deriving Repr, DecidableEq

namespace Body

/-- The body behind a head. -/
def ofHead (method : Method) (status : Status) (headers : Headers) (reader : Reader) :
    Except HttpError Body := do
  let framing ← Framing.ofHead method status headers
  let reusable := (headers.get? .connection).any fun value =>
    Bytes.equalsIgnoringCase value.bytes (Bytes.ofString "keep-alive")
  return { reader, framing, reusable }

/-- How many bytes are left, where that is known. -/
def remaining (b : Body) : Option Nat :=
  match b.framing with
  | .finished => some 0
  | .length left => some left
  | _ => none

end Body

/-! ## 2. Chunks -/

/-- How many digits the size of a chunk can have. -/
def maxSizeDigits : Nat := 16

/-- Is the byte a hexadecimal digit? -/
def isHexDigit (b : UInt8) : Bool := (Numeral.digit? 16 (Char.ofNat b.toNat)).isSome

/-- Fills the buffer until it holds the size of a chunk and one more byte, and tells how many
digits the size has. -/
def awaitChunkSize : Act Error Reader Nat := fun r =>
  match (r.unread.take (maxSizeDigits + 1)).findIdx? (!isHexDigit ·) with
  | some 0 => .error (.failed (.http .invalidChunkSize)) r
  | some n => .ok n r
  | none =>
    if r.unread.length > maxSizeDigits then .error (.failed (.http .chunkTooLarge)) r
    else
      match _h : r.fill with
      | .error halt r' => .error (halt.map .io) r'
      | .ok 0 r' => .error (.failed .partialFile) r'
      | .ok (_ + 1) r' => awaitChunkSize r'
termination_by r => r.inflow.size
decreasing_by
  have := Reader.inflow_size_fill _h
  omega

/-- The number that hexadecimal digits stand for. -/
def hexValue (digits : Bytes) : Nat :=
  (Numeral.valueFrom? 16 0 (digits.map fun b => Char.ofNat b.toNat)).getD 0

/-- Takes the size of a chunk. -/
def takeChunkSize : Act Error Reader Nat := fun r =>
  match awaitChunkSize r with
  | .error halt r' => .error halt r'
  | .ok n r' => .ok (hexValue (r'.unread.take n)) (r'.consume n)

/-- Drops everything up to the next line feed, and the line feed. -/
def skipLine : Act Error Reader Unit := fun r =>
  match lineLength? r.unread with
  | some n => .ok () (r.consume n)
  | none =>
    match _h : r.discard.fill with
    | .error halt r' => .error (halt.map .io) r'
    | .ok 0 r' => .error (.failed .partialFile) r'
    | .ok (_ + 1) r' => skipLine r'
termination_by r => r.inflow.size
decreasing_by
  have := Reader.inflow_size_fill _h
  simp only [Reader.discard] at this
  omega

/-- Takes the line end behind the data of a chunk. -/
def takeChunkEnd : Act Error Reader Unit := fun r =>
  match r.readExactly? 2 with
  | .ok (some bytes) r' =>
    if bytes = Bytes.crlf then .ok () r' else .error (.failed (.http .invalidChunkEnd)) r'
  | .ok none r' => .error (.failed .partialFile) r'
  | .error (.failed fault) r' =>
    .error (.failed (if fault.kind = .unexpectedEof then .partialFile else .io fault)) r'
  | .error .stalled r' => .error .stalled r'

/-! ## 3. Reading -/

namespace Body

/-- An action on the reader of a body. -/
def onReader {α : Type} (x : Act Error Reader α) : Act Error Body α :=
  Act.within Body.reader (fun reader b => { b with reader }) x

/-- Goes on with another framing. -/
def setFraming (framing : Framing) : Act Error Body Unit := fun b => .ok () { b with framing }

/-- Passes the line end behind a chunk, if the reading stands there. -/
def passEnd : Act Error Body Unit := fun b =>
  match b.framing with
  | .chunkEnd => (onReader takeChunkEnd >>= fun _ => setFraming .chunkSize) b
  | _ => .ok () b

/-- Passes the size of a chunk, if the reading stands there. -/
def passSize : Act Error Body Unit := fun b =>
  match b.framing with
  | .chunkSize => (onReader takeChunkSize >>= fun size => setFraming (.chunkExtension size)) b
  | _ => .ok () b

/-- Passes the rest of the line behind the size of a chunk, if the reading stands there.  A chunk
of no data is the last. -/
def passExtension : Act Error Body Unit := fun b =>
  match b.framing with
  | .chunkExtension size =>
    (onReader skipLine >>= fun _ =>
      setFraming (if size = 0 then .trailers else .chunkData size)) b
  | _ => .ok () b

/-- Reads data of which `left` bytes are due; the end of the stream is too early. -/
def readDue (left n : Nat) (next : Nat → Framing) : Act Error Body Bytes := do
  let got ← onReader (Act.mapError .io (Reader.read (min left n)))
  if got.isEmpty then Act.fail .partialFile
  else
    setFraming (next (left - got.length))
    return got

/-- Reads at most `n` bytes where the reading stands in front of data. -/
def readData (n : Nat) : Act Error Body Bytes := fun b =>
  match b.framing with
  | .untilEnd =>
    (onReader (Act.mapError .io (Reader.read n)) >>= fun got =>
      (if got.isEmpty then setFraming .finished else pure ()) >>= fun _ => pure got) b
  | .length left =>
    readDue left n (fun left => if left = 0 then .finished else .length left) b
  | .chunkData left =>
    readDue left n (fun left => if left = 0 then .chunkEnd else .chunkData left) b
  | _ => .ok [] b

/-- Reads at most `n` bytes of the body, **and none only at its end**, or where there is no
room. -/
def read (n : Nat) : Act Error Body Bytes := fun b =>
  if n = 0 then .ok [] b
  else (passEnd >>= fun _ => passSize >>= fun _ => passExtension >>= fun _ => readData n) b

/-! ## 4. A body does not grow -/

/-- How many bytes are ahead of a body. -/
def ahead (b : Body) : Nat := b.reader.size

theorem shrinks_onReader {α : Type} {x : Act Error Reader α} (hx : Act.Shrinks Reader.size x) :
    Act.Shrinks ahead (onReader x) :=
  hx.within fun _ _ hsize => hsize

theorem shrinks_setFraming (framing : Framing) : Act.Shrinks ahead (setFraming framing) := by
  intro b a b' h
  cases h
  exact Nat.le_refl _

theorem awaitChunkSize_view {r r' : Reader} {n : Nat} (h : awaitChunkSize r = .ok n r') :
    r'.ahead = r.ahead := by
  fun_induction awaitChunkSize r with
  | case1 => cases h
  | case2 => cases h; rfl
  | case3 => cases h
  | case4 => cases h
  | case5 => cases h
  | case6 r _ _ k r'' hfill ih => exact (ih h).trans (Reader.fill_ahead hfill).1

theorem shrinks_takeChunkSize : Act.Shrinks Reader.size takeChunkSize := by
  intro r a r' h
  unfold takeChunkSize at h
  split at h
  · cases h
  · next hawait =>
    cases h
    rw [Reader.size_consume]
    have := congrArg List.length (awaitChunkSize_view hawait)
    simp only [Reader.size] at this ⊢
    omega

theorem shrinks_skipLine : Act.Shrinks Reader.size skipLine := by
  intro r a r' h
  fun_induction skipLine r with
  | case1 r n hn => cases h; rw [Reader.size_consume]; omega
  | case2 => cases h
  | case3 => cases h
  | case4 r _ k r'' hfill ih =>
    have h1 := ih h
    have h2 := Reader.size_fill hfill
    have h3 : r.discard.size ≤ r.size := by simp [Reader.discard, Reader.size, Reader.ahead]
    omega

theorem shrinks_takeChunkEnd : Act.Shrinks Reader.size takeChunkEnd := by
  intro r a r' h
  unfold takeChunkEnd at h
  split at h
  · next hread =>
    split at h
    · cases h; exact Reader.shrinks_readExactly? 2 hread
    · cases h
  all_goals cases h

theorem shrinks_passEnd : Act.Shrinks ahead passEnd := by
  intro b a b' h
  unfold passEnd at h
  split at h
  · exact ((shrinks_onReader shrinks_takeChunkEnd).bind fun _ => shrinks_setFraming _) h
  · cases h; exact Nat.le_refl _

theorem shrinks_passSize : Act.Shrinks ahead passSize := by
  intro b a b' h
  unfold passSize at h
  split at h
  · exact ((shrinks_onReader shrinks_takeChunkSize).bind fun _ => shrinks_setFraming _) h
  · cases h; exact Nat.le_refl _

theorem shrinks_passExtension : Act.Shrinks ahead passExtension := by
  intro b a b' h
  unfold passExtension at h
  split at h
  · exact ((shrinks_onReader shrinks_skipLine).bind fun _ => shrinks_setFraming _) h
  · cases h; exact Nat.le_refl _

theorem ahead_readPlain {n : Nat} {b b' : Body} {got : Bytes}
    (h : onReader (Act.mapError .io (Reader.read n)) b = .ok got b') :
    got.length + b'.ahead = b.ahead := by
  obtain ⟨r, hread, rfl⟩ := Act.within_ok h
  exact Reader.size_read (Act.mapError_eq_ok.1 hread)

theorem ahead_readDue {left n : Nat} {next : Nat → Framing} {b b' : Body} {got : Bytes}
    (h : readDue left n next b = .ok got b') : got.length + b'.ahead = b.ahead := by
  obtain ⟨got', b1, hread, h⟩ := Act.bind_eq_ok.1 h
  split at h
  · cases h
  · cases h
    have := ahead_readPlain hread
    exact this

theorem ahead_readData {n : Nat} {b b' : Body} {got : Bytes} (h : readData n b = .ok got b') :
    got.length + b'.ahead = b.ahead := by
  unfold readData at h
  split at h
  · obtain ⟨got', b1, hread, h⟩ := Act.bind_eq_ok.1 h
    rw [← ahead_readPlain hread]
    split at h <;> (cases h; rfl)
  · exact ahead_readDue h
  · exact ahead_readDue h
  · cases h; simp

/-- **Every byte that is read was ahead before.** -/
theorem size_read {n : Nat} {b b' : Body} {got : Bytes} (h : read n b = .ok got b') :
    got.length + b'.ahead ≤ b.ahead := by
  unfold read at h
  split at h
  · cases h; simp
  · obtain ⟨_, b1, h1, h⟩ := Act.bind_eq_ok.1 h
    obtain ⟨_, b2, h2, h⟩ := Act.bind_eq_ok.1 h
    obtain ⟨_, b3, h3, h⟩ := Act.bind_eq_ok.1 h
    have := shrinks_passEnd h1
    have := shrinks_passSize h2
    have := shrinks_passExtension h3
    have := ahead_readData h
    omega

/-! ## 5. Reading to the end -/

/-- How much of a body is read at once. -/
def portion : Nat := 16384

/-- What a body brings up to its end: its data as they arrive, and why they end, if not with the
body itself. -/
structure Arrival where
  chunks : List Bytes
  halt : Option (Halt Error)
  body : Body

/-- Reads to the end; `got` is what came before, the last first. -/
def arriveFrom (got : List Bytes) (b : Body) : Arrival :=
  match _h : read portion b with
  | .error halt b' => ⟨got.reverse, some halt, b'⟩
  | .ok [] b' => ⟨got.reverse, none, b'⟩
  | .ok (x :: xs) b' => arriveFrom ((x :: xs) :: got) b'
termination_by b.ahead
decreasing_by
  have := size_read _h
  simp at this
  omega

/-- Reads to the end. -/
def arrive (b : Body) : Arrival := arriveFrom [] b

/-- Reads all data that are left. -/
def bytes : Act Error Body Bytes := fun b =>
  match b.arrive with
  | ⟨chunks, none, b'⟩ => .ok chunks.flatten b'
  | ⟨_, some halt, b'⟩ => .error halt b'

/-- Reads all data that are left as UTF-8. -/
def text : Act Error Body String := do
  match Utf8.decode? (← bytes) with
  | some text => return text
  | none => Act.fail .invalidUtf8

/-- Reads all data that are left as JSON. -/
def json : Act Error Body Json := do
  match Json.parse (← bytes) with
  | .ok value => return value
  | .error fault => Act.fail (.json fault)

/-! ## 6. Trailers -/

/-- Reads the next trailer, or none behind the last one.  **Data that are unread are a fault.** -/
def trailer : Act Error Body (Option Field) := fun b =>
  match b.framing with
  | .finished => .ok none b
  | .trailers =>
    (onReader takeField >>= fun field =>
      (if field.isNone then setFraming .finished else pure ()) >>= fun _ => pure field) b
  | _ => .error (.failed (.http .bodyRemaining)) b

/-- Reads all trailers that are left. -/
def trailers : Act Error Body Headers := fun b =>
  match b.framing with
  | .finished => .ok .empty b
  | .trailers =>
    match takeFields none (b.reader, .empty) with
    | .ok () (reader, headers) => .ok headers { b with reader, framing := .finished }
    | .error halt (reader, _) => .error halt { b with reader }
  | _ => .error (.failed (.http .bodyRemaining)) b

end Body

end Http

end UrlTransfer
