/-
# How a server answers whatever a client sends

A client may send anything.  `Upgrade.Heads` says which streams start with the head of a request:
a first line, and a block of header fields, within the limits of a line and of the whole.  These
are exactly the streams of which a head is taken, and the reader is right behind it then
(`heads_of_takeUpgrade`, `takeUpgrade_of_heads`).  `Upgrade.Asks` says which of these requests ask
for a session, and with which key; no others are agreed to (`refusal?_eq_none_iff`).

So a server does one of three things (`answers`).  It agrees, it refuses, or, where there is no
head, it sends nothing and fails, also if it would wait for ever.

A list of protocols to change to is looked at only as a whole: with a byte in it that is no visible
character, it counts as missing (`serve_accented`).
-/
import UrlTransfer.Proofs.WebSocket.Handshake
import UrlTransfer.Proofs.WebSocket.Words

namespace UrlTransfer

namespace WebSocket

open Http (IsLine HeaderLines Field lineText? addFields fieldsSize textLine fieldLine)

/-! ## 1. Heads -/

/-- The words of a line, with one or more spaces between them. -/
def words (line : String) : List String := (Text.pieces ' ' line).filter (· ≠ "")

/-- A stream starts with the head of a request, and these bytes are behind it: **every line fits
into the buffer, and all lines but the empty one are within the limit**. -/
inductive Upgrade.Heads : Bytes → Upgrade → Bytes → Prop where
  | head {line lines rest : Bytes} {text : String} {fields : List Field} (first : IsLine line)
      (fits : line.length ≤ Reader.defaultCapacity) (decodes : lineText? line = some text)
      (block : HeaderLines Reader.defaultCapacity lines fields)
      (limit : line.length + fieldsSize fields ≤ maxHeadSize) :
      Heads (line ++ (lines ++ rest))
        ⟨(words text).head?.getD "", (words text)[2]?.getD "", addFields .empty fields⟩ rest

/-- Taking a request is taking a line, and a block of header fields. -/
theorem takeUpgrade_eq : takeUpgrade = (do
    let (line, size) ← Http.takeLine
    let headers ← Http.takeHeaders (maxHeadSize - size)
    return ⟨(words line).head?.getD "", (words line)[2]?.getD "", headers⟩) := rfl

/-- **What is taken is the head of a request**, and the reader stands right behind it. -/
theorem heads_of_takeUpgrade {r r' : Reader} {u : Upgrade} (hfits : r.Fits)
    (hcapacity : r.capacity = Reader.defaultCapacity) (h : takeUpgrade r = .ok u r') :
    Upgrade.Heads r.ahead u r'.ahead ∧ r'.inflow.ending = r.inflow.ending := by
  rw [takeUpgrade_eq] at h
  obtain ⟨⟨text, size⟩, r1, hline, h⟩ := Act.bind_eq_ok.1 h
  obtain ⟨headers, r2, hheaders, h⟩ := Act.bind_eq_ok.1 h
  cases h
  obtain ⟨q, hpeek, rfl⟩ := Http.takeLine_ok.1 hline
  obtain ⟨line, hisLine, rfl, hle, htext, hbehind⟩ := Http.peekLine_behind hfits hpeek
  obtain ⟨lines, fields, hbehind', hblock, rfl, hsize⟩ :=
    Http.takeHeaders_behind hbehind.fits hheaders
  rw [hbehind.capacity, hcapacity] at hblock
  rw [hcapacity] at hle
  rw [hbehind.ahead, hbehind'.ahead]
  have hroom : Reader.defaultCapacity ≤ maxHeadSize := by decide
  exact ⟨.head hisLine hle htext hblock (by omega), hbehind'.ending.trans hbehind.ending⟩

/-- **The head of a request is taken**, if the stream starts with one. -/
theorem takeUpgrade_of_heads {r : Reader} {u : Upgrade} {rest : Bytes} (hfits : r.Fits)
    (hcapacity : r.capacity = Reader.defaultCapacity) (h : Upgrade.Heads r.ahead u rest) :
    ∃ r', takeUpgrade r = .ok u r' ∧ r'.ahead = rest := by
  generalize hahead : r.ahead = bytes at h
  obtain ⟨hisLine, hle, htext, hblock, hlimit⟩ := h
  obtain ⟨q, hpeek, hbehind, hrest⟩ :=
    Http.peekLine_of_line hfits hahead hisLine (by rw [hcapacity]; exact hle) htext
  rw [← hcapacity, ← hbehind.capacity] at hblock
  obtain ⟨r', hheaders, hrest'⟩ := Http.takeHeaders_of_block hblock
    (Nat.le_sub_of_add_le' hlimit) hbehind.fits hrest
  refine ⟨r', ?_, hrest'⟩
  rw [takeUpgrade_eq, Act.bind_ok (Http.takeLine_ok.2 ⟨q, hpeek, rfl⟩)]
  exact Act.bind_ok hheaders

/-! ## 2. Requests for a session -/

/-- The request asks for a session, with this key. -/
structure Upgrade.Asks (u : Upgrade) (key : Bytes) : Prop where
  method : u.method = "GET"
  version : u.version = "HTTP/1.1"
  connection : ∃ v ∈ u.headers.get? .connection, ListsWord "upgrade" v.bytes
  upgrade : ∃ v ∈ u.headers.get? .upgrade, Spells "websocket" v.bytes
  protocol : ∃ v ∈ u.headers.get? .webSocketVersion, Padded (Bytes.ofString "13") v.bytes
  length : key.length = 16
  asked : ∃ v ∈ u.headers.get? .webSocketKey, Padded (Bytes.ofString (keyText key)) v.bytes

/-- The answer to a key: it is put in front of a fixed text, hashed, and written in base 64. -/
def keyAnswer (key : Bytes) : String :=
  String.ofList (Base64.encode (Sha1.hash (Bytes.ofString (keyText key ++ answerSalt))))

/-- What agrees to a session, with the answer to a key. -/
def agreement (key : Bytes) : Bytes :=
  textLine "HTTP/1.1 101 Switching Protocols" ++ (fieldLine "Connection" "Upgrade" ++
    (fieldLine "Upgrade" "websocket" ++
      (fieldLine "Sec-WebSocket-Accept" (keyAnswer key) ++ Bytes.crlf)))

theorem answer_of_trimmed {text : String} {key : Bytes} (h : Text.trimmed text = keyText key) :
    answer text = keyAnswer key := by
  unfold answer keyAnswer
  rw [h]

/-- **What is sent to agree holds the answer to the key.** -/
theorem agreeing_of_trimmed {text : String} {key : Bytes} (h : Text.trimmed text = keyText key) :
    agreeing text = agreement key := by
  rw [agreeing_eq]
  simp [Upgrade.fields, agreement, answer_of_trimmed h]

theorem keyText_ne_empty {key : Bytes} (h : key.length = keyLength) : keyText key ≠ "" := by
  intro hempty
  have hlength := length_keyText h
  rw [hempty] at hlength
  cases hlength

/-- **A header is a key exactly if its first value is one, but for the blanks around it.** -/
theorem isKey_valueOf {headers : Http.Headers} :
    isKey (valueOf .webSocketKey headers) = true ↔ ∃ key, key.length = keyLength ∧
      ∃ v ∈ headers.get? .webSocketKey, Padded (Bytes.ofString (keyText key)) v.bytes := by
  have htrim (key : Bytes) :
      Base64.decode? (Text.trim (valueOf .webSocketKey headers).toList) = some key ↔
        Text.trimmed (valueOf .webSocketKey headers) = keyText key := by
    rw [Base64.decode?_eq_some_iff]
    unfold Text.trimmed keyText
    rw [String.ofList_inj]
  unfold isKey
  rw [Option.any_eq_true]
  constructor
  · rintro ⟨key, hkey, hlength⟩
    have hlength' : key.length = keyLength := by simpa using hlength
    rw [htrim, trimmed_valueOf (graphic_keyText key) (keyText_ne_empty hlength')] at hkey
    exact ⟨key, hlength', hkey⟩
  · rintro ⟨key, hlength, hkey⟩
    refine ⟨key, (htrim key).2 ?_, by simpa using hlength⟩
    exact (trimmed_valueOf (graphic_keyText key) (keyText_ne_empty hlength)).2 hkey

/-- What a request is looked at for. -/
theorem refusal?_none {u : Upgrade} : u.refusal? = none ↔ u.method = "GET" ∧
    u.version = "HTTP/1.1" ∧ u.asksToChange = true ∧
    isWord "websocket" (valueOf .upgrade u.headers) = true ∧
    Text.trimmed (valueOf .webSocketVersion u.headers) = protocolVersion ∧
    isKey (valueOf .webSocketKey u.headers) = true := by
  unfold Upgrade.refusal?
  split_ifs <;> simp_all

/-- **A server refuses exactly the requests that do not ask for a session.** -/
theorem refusal?_eq_none_iff {u : Upgrade} : u.refusal? = none ↔ ∃ key, u.Asks key := by
  have hupgrade : IsSmallWord "upgrade" := ⟨by decide, by decide, by decide⟩
  have hwebsocket : IsSmallWord "websocket" := ⟨by decide, by decide, by decide⟩
  have hversion : Text.Graphic protocolVersion := by decide
  rw [refusal?_none, Upgrade.asksToChange, lists_valueOf hupgrade, isWord_valueOf hwebsocket,
    trimmed_valueOf hversion (by decide), isKey_valueOf]
  constructor
  · rintro ⟨hmethod, hone, hlists, hspells, hpadded, key, hlength, hkey⟩
    exact ⟨key, hmethod, hone, hlists, hspells, hpadded, hlength, hkey⟩
  · rintro ⟨key, h⟩
    exact ⟨h.method, h.version, h.connection, h.upgrade, h.protocol, key, h.length, h.asked⟩

/-- The key that is answered is the one that was asked with. -/
theorem Upgrade.Asks.trimmed {u : Upgrade} {key : Bytes} (h : u.Asks key) :
    Text.trimmed (valueOf .webSocketKey u.headers) = keyText key :=
  (trimmed_valueOf (graphic_keyText key) (keyText_ne_empty h.length)).2 h.asked

/-! ## 3. Answers -/

section

variable {options : Options} {conn : Conn} {s : System}

/-- Where there is no request to be taken, nothing is sent. -/
theorem serve_unread {halt : Halt Error} {r : Reader}
    (htake : takeUpgrade (Reader.ofInflow conn.inflow) = .error halt r) :
    ∃ error, serve options conn s = .error (.failed error) s := by
  have hasked : (Act.aside takeUpgrade (Reader.ofInflow conn.inflow) : Act Error System _) s =
      .error halt s := by
    unfold Act.aside
    rw [htake]
  have hrespond : respond conn s = .error halt s := Act.bind_error hasked
  unfold serve
  cases halt with
  | stalled => exact ⟨_, Act.bind_ok (Act.timely_stalled hrespond)⟩
  | failed error => exact ⟨error, Act.bind_error (Act.timely_failed hrespond)⟩

variable {u : Upgrade} {r : Reader}

theorem respond_taken (htake : takeUpgrade (Reader.ofInflow conn.inflow) = .ok u r) :
    respond conn s = (match u.refusal? with
      | some reason => do
        Act.mapError .io (System.onLink conn.link
          (Outflow.write (Bytes.ofString Upgrade.refusalText)))
        Act.fail (.webSocket (.invalidClientRequest reason))
      | none => do
        Act.mapError .io (System.onLink conn.link
          (Outflow.write (agreeing (valueOf .webSocketKey u.headers))))
        return r : Act Error System Reader) s := by
  have hasked : (Act.aside takeUpgrade (Reader.ofInflow conn.inflow) : Act Error System _) s =
      .ok (u, r) s := by
    unfold Act.aside
    rw [htake]
  exact Act.bind_ok hasked

/-- A request that is refused is told so. -/
theorem serve_refused (htakes : s.Takes conn.link)
    (htake : takeUpgrade (Reader.ofInflow conn.inflow) = .ok u r) {reason : String}
    (hrefused : u.refusal? = some reason) :
    serve options conn s = .error (.failed (.webSocket (.invalidClientRequest reason)))
      (sending conn.link (Bytes.ofString Upgrade.refusalText) s) := by
  have hwrite := Act.mapError_ok (f := Error.io)
    (write_takes htakes (Bytes.ofString Upgrade.refusalText))
  have hrespond := respond_taken (s := s) htake
  rw [hrefused] at hrespond
  unfold serve
  refine Act.bind_error (Act.timely_failed (hrespond.trans ?_))
  exact Act.bind_ok hwrite

/-- **A request that asks for a session is agreed to.** -/
theorem serve_agreed (htakes : s.Takes conn.link)
    (htake : takeUpgrade (Reader.ofInflow conn.inflow) = .ok u r) {key : Bytes}
    (hasks : u.Asks key) :
    serve options conn s = .ok
      (Session.ofReader r conn.link options false (sending conn.link (agreement key) s))
      (sending conn.link (agreement key) s) := by
  have hwrite := Act.mapError_ok (f := Error.io) (write_takes htakes (agreement key))
  have hrespond := respond_taken (s := s) htake
  rw [refusal?_eq_none_iff.2 ⟨key, hasks⟩] at hrespond
  dsimp only at hrespond
  rw [agreeing_of_trimmed hasks.trimmed, Act.bind_ok hwrite] at hrespond
  unfold serve
  rw [Act.bind_ok (Act.timely_ok hrespond)]
  rfl

end

/-- **A session of a server comes from a request for one.** -/
theorem agreed_of_serve {options : Options} {conn : Conn} {s t : System} {session : Session}
    (htakes : s.Takes conn.link) (h : serve options conn s = .ok session t) :
    ∃ u rest key, Upgrade.Heads conn.inflow.rest u rest ∧ u.Asks key ∧
      t = sending conn.link (agreement key) s ∧
      session.Starts conn.link options false rest conn.inflow.ending t := by
  have hfits := Reader.fits_ofInflow conn.inflow
  cases htake : takeUpgrade (Reader.ofInflow conn.inflow) with
  | error halt r =>
    have hserve : ∃ error, serve options conn s = .error (.failed error) s := serve_unread htake
    obtain ⟨error, hserve⟩ := hserve
    rw [hserve] at h
    cases h
  | ok u r =>
    obtain ⟨hheads, hending⟩ := heads_of_takeUpgrade hfits rfl htake
    cases hrefusal : u.refusal? with
    | some reason =>
      rw [serve_refused htakes htake hrefusal] at h
      cases h
    | none =>
      obtain ⟨key, hasks⟩ := refusal?_eq_none_iff.1 hrefusal
      rw [serve_agreed htakes htake hasks] at h
      cases h
      exact ⟨u, _, key, hheads, hasks, rfl, ⟨r, rfl⟩, rfl, hending⟩

/-- What a server does with a connection, by what the client sends on it. -/
structure Upgrade.Answers (options : Options) (conn : Conn) (s : System) : Prop where
  /-- A request for a session is agreed to, and the frames are what is behind it. -/
  agrees : ∀ {u : Upgrade} {rest key : Bytes}, Heads conn.inflow.rest u rest → u.Asks key →
    ∃ session, serve options conn s = .ok session (sending conn.link (agreement key) s) ∧
      session.Starts conn.link options false rest conn.inflow.ending
        (sending conn.link (agreement key) s)
  /-- Any other request is refused. -/
  refuses : ∀ {u : Upgrade} {rest : Bytes}, Heads conn.inflow.rest u rest →
    (∀ key, ¬ u.Asks key) →
    ∃ reason, serve options conn s =
      .error (.failed (.webSocket (.invalidClientRequest reason)))
        (sending conn.link (Bytes.ofString refusalText) s)
  /-- Anything else is not answered. -/
  fails : (∀ u rest, ¬ Heads conn.inflow.rest u rest) →
    ∃ error, serve options conn s = .error (.failed error) s

/-- **Whatever a client sends, the server does what is due**, and sends nothing else. -/
theorem answers (options : Options) {conn : Conn} {s : System} (htakes : s.Takes conn.link) :
    Upgrade.Answers options conn s := by
  have hfits := Reader.fits_ofInflow conn.inflow
  refine ⟨?_, ?_, ?_⟩
  · intro u rest key hheads hasks
    obtain ⟨r, htake, rfl⟩ := takeUpgrade_of_heads hfits rfl hheads
    have hending := (heads_of_takeUpgrade hfits rfl htake).2
    exact ⟨_, serve_agreed htakes htake hasks, ⟨r, rfl⟩, rfl, hending⟩
  · intro u rest hheads hnot
    obtain ⟨r, htake, -⟩ := takeUpgrade_of_heads hfits rfl hheads
    cases hrefusal : u.refusal? with
    | some reason => exact ⟨reason, serve_refused htakes htake hrefusal⟩
    | none =>
      obtain ⟨key, hasks⟩ := refusal?_eq_none_iff.1 hrefusal
      exact absurd hasks (hnot key)
  · intro hnone
    cases htake : takeUpgrade (Reader.ofInflow conn.inflow) with
    | error halt r => exact serve_unread htake
    | ok u r => exact absurd (heads_of_takeUpgrade hfits rfl htake).1 (hnone _ _)

deriving instance DecidableEq for Upgrade

/-- A request for a session that names these protocols to change to. -/
def requesting (protocols : String) : Bytes :=
  Bytes.ofString ("GET /chat HTTP/1.1\r\nConnection: " ++ protocols ++
    "\r\nUpgrade: websocket\r\nSec-WebSocket-Version: 13\r\n" ++
    "Sec-WebSocket-Key: dGhlIHNhbXBsZSBub25jZQ==\r\n\r\n")

/-- A client that says so, and nothing else. -/
def calling (protocols : String) : Conn :=
  ⟨0, System.caller, ⟨[requesting protocols], .eof⟩, none, false⟩

/-- A system with a single connection. -/
def called : System := { links := [.opened System.caller false .matched {}] }

/-- What a server reads of that request. -/
def requested (protocols : String) : Upgrade :=
  ⟨"GET", "HTTP/1.1", ⟨[(.connection, [.ofText protocols]), (.upgrade, [.ofText "websocket"]),
    (.webSocketVersion, [.ofText "13"]),
    (.webSocketKey, [.ofText "dGhlIHNhbXBsZSBub25jZQ=="])]⟩⟩

/-- A request that is read has a head. -/
theorem heads_calling (protocols : String)
    (h : Act.value? takeUpgrade (Reader.ofInflow (calling protocols).inflow) =
      some (requested protocols)) :
    ∃ rest, Upgrade.Heads (calling protocols).inflow.rest (requested protocols) rest :=
  ⟨_, (heads_of_takeUpgrade (Reader.fits_ofInflow _) rfl (Act.eq_ok_of_value? h)).1⟩

theorem answers_calling : called.Takes (calling "keep-alive, Upgrade").link ∧
    ∃ key session, serve {} (calling "keep-alive, Upgrade") called =
      .ok session (sending 0 (agreement key) called) := by
  obtain ⟨rest, hheads⟩ := heads_calling "keep-alive, Upgrade" (by decide +kernel)
  obtain ⟨key, hasks⟩ := refusal?_eq_none_iff.1
    (show (requested "keep-alive, Upgrade").refusal? = none by decide +kernel)
  have htakes : called.Takes (calling "keep-alive, Upgrade").link := rfl
  obtain ⟨session, hserve, -⟩ := (answers {} htakes).agrees hheads hasks
  exact ⟨htakes, key, session, hserve⟩

/-- **A list of protocols with any other text in it is refused**, although it names the one that is
asked for: the value is looked at only if all of it is visible ASCII characters, spaces and tabs. -/
theorem serve_accented :
    (∃ rest, Upgrade.Heads (calling "Upgrade, é").inflow.rest (requested "Upgrade, é") rest) ∧
    (∃ v ∈ (requested "Upgrade, é").headers.get? .connection,
      ∃ item ∈ v.bytes.splitOn 44, Spells "upgrade" item) ∧
    (∃ v ∈ (requested "Upgrade, é").headers.get? .upgrade, Spells "websocket" v.bytes) ∧
    (∃ v ∈ (requested "Upgrade, é").headers.get? .webSocketVersion,
      Padded (Bytes.ofString "13") v.bytes) ∧
    (∃ v ∈ (requested "Upgrade, é").headers.get? .webSocketKey,
      Padded (Bytes.ofString (keyText (Bytes.ofString "the sample nonce"))) v.bytes) ∧
    serve {} (calling "Upgrade, é") called =
      .error (.failed (.webSocket (.invalidClientRequest "missing 'Connection: upgrade'")))
        (sending 0 (Bytes.ofString Upgrade.refusalText) called) := by
  have htaken : Act.value? takeUpgrade (Reader.ofInflow (calling "Upgrade, é").inflow) =
      some (requested "Upgrade, é") := by decide +kernel
  have htakes : called.Takes (calling "Upgrade, é").link := rfl
  have hbare (bytes : Bytes) : Padded bytes bytes := ⟨[], [], by simp, nofun⟩
  have hrefused : (requested "Upgrade, é").refusal? = some "missing 'Connection: upgrade'" := by
    decide +kernel
  refine ⟨heads_calling _ htaken, ?_, ?_, ?_, ?_, ?_⟩
  · exact ⟨_, rfl, Bytes.ofString "Upgrade", by decide, _, hbare _, by decide⟩
  · exact ⟨_, rfl, _, hbare _, by decide⟩
  · exact ⟨_, rfl, hbare _⟩
  · refine ⟨_, rfl, ?_⟩
    have hkey : keyText (Bytes.ofString "the sample nonce") = "dGhlIHNhbXBsZSBub25jZQ==" := by
      decide
    rw [hkey]
    exact hbare _
  · exact serve_refused htakes (Act.eq_ok_of_value? htaken) hrefused

end WebSocket

end UrlTransfer
