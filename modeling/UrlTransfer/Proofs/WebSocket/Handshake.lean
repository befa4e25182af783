/-
# The two sides of the opening handshake fit together

A client asks for a session with a head of its own making (`Request.asking`), and a server agrees
with another (`agreeing`).  Each side parses what the other wrote: the server finds in the request
the method, the version and the key that the client drew (`takeUpgrade_asking`), and nothing to
refuse (`refusal?_received`); the client finds in the agreement the status and the answer to its key
(`heads_agreeing`, `checkAgreement_agreed`).

So both have a session at the end, and neither loses a byte: whatever stands behind the head of the
other side, in the same read or in later ones, is what the frames of the session are read from
(`handshakes_fit`).
-/
import UrlTransfer.Proofs.Codec.Base64
import UrlTransfer.Proofs.Http.Redirections
import UrlTransfer.Proofs.Http.Writing
import UrlTransfer.Proofs.Url.Graphic
import UrlTransfer.WebSocket.Client
import UrlTransfer.WebSocket.Server

namespace UrlTransfer

namespace WebSocket

open Http (textLine fieldLine fieldOf addFields)
open Text (Graphic Printed)

/-! ## 1. Keys and answers -/

theorem graphic_keyText (key : Bytes) : Graphic (keyText key) := Base64.graphic_encode key

theorem length_keyText {key : Bytes} (h : key.length = keyLength) :
    (keyText key).toList.length = 24 := by
  unfold keyText
  rw [String.toList_ofList, Base64.length_encode, h]
  rfl

/-- **A key that was drawn is a key** to the other side. -/
theorem isKey_keyText {key : Bytes} (h : key.length = keyLength) : isKey (keyText key) = true := by
  unfold isKey
  rw [Text.trim_graphic (graphic_keyText key)]
  unfold keyText
  rw [String.toList_ofList, Base64.decode?_encode]
  simp [h]

theorem graphic_answer (key : String) : Graphic (answer key) := Base64.graphic_encode _

theorem length_hash (bytes : Bytes) : (Sha1.hash bytes).length = 20 := by
  unfold Sha1.hash
  simp

theorem length_answer (key : String) : (answer key).toList.length = 28 := by
  unfold answer
  rw [String.toList_ofList, Base64.length_encode, length_hash]

/-! ## 2. What the two sides say -/

/-- The headers of a request for a session. -/
def Request.fields (key : String) (url : Url) : List (String × String) :=
  [("connection", "Upgrade"), ("upgrade", "websocket"),
    ("sec-websocket-version", protocolVersion), ("sec-websocket-key", key),
    ("host", url.hostPortText)]

/-- The first line of a request for a session. -/
def Request.firstLine (url : Url) : String := " ".intercalate ["GET", url.target, "HTTP/1.1"]

/-- What a client says to open a session. -/
def Request.asking (key : String) (url : Url) : Bytes :=
  textLine (firstLine url) ++
    ((fields key url).flatMap (fun p => fieldLine p.1 p.2) ++ Bytes.crlf)

/-- The first line of a request, and the line of the host, fit into the buffer of the server. -/
structure Request.Fits (url : Url) : Prop where
  first : (textLine (firstLine url)).length ≤ Reader.defaultCapacity
  host : (fieldLine "host" url.hostPortText).length ≤ Reader.defaultCapacity

/-- The headers of an agreement. -/
def Upgrade.fields (key : String) : List (String × String) :=
  [("Connection", "Upgrade"), ("Upgrade", "websocket"), ("Sec-WebSocket-Accept", answer key)]

/-- What a server says to agree on a session. -/
def agreeing (key : String) : Bytes := Bytes.ofString (Upgrade.agreementText key)

/-- The table of headers that were read. -/
def received (fields : List (String × String)) : Http.Headers :=
  addFields .empty (fields.map fun p => fieldOf p.1 p.2)

theorem printed_firstLine {url : Url} (h : url.Written) : Printed (Request.firstLine url) := by
  have hget : Printed "GET" := by decide
  have hblank : Printed " " := by decide
  have hversion : Printed "HTTP/1.1" := by decide
  exact (((hget.append hblank).append h.graphic_target.printed).append hblank).append hversion

/-- The text of an agreement is lines. -/
theorem agreeing_eq (key : String) :
    agreeing key = textLine "HTTP/1.1 101 Switching Protocols" ++
      ((Upgrade.fields key).flatMap (fun p => fieldLine p.1 p.2) ++ Bytes.crlf) := by
  have hfront : Bytes.ofString
      "HTTP/1.1 101 Switching Protocols\r\nConnection: Upgrade\r\nUpgrade: websocket\r\n" =
      textLine "HTTP/1.1 101 Switching Protocols" ++
        (fieldLine "Connection" "Upgrade" ++ fieldLine "Upgrade" "websocket") := by decide
  have hend : Bytes.ofString "\r\n\r\n" = Bytes.crlf ++ Bytes.crlf := by decide
  have hlast : fieldLine "Sec-WebSocket-Accept" (answer key) =
      Bytes.ofString "Sec-WebSocket-Accept: " ++ Bytes.ofString (answer key) ++ Bytes.crlf := by
    unfold fieldLine textLine
    rw [Bytes.ofString_append]
    rfl
  unfold agreeing Upgrade.agreementText Upgrade.fields
  simp only [Bytes.ofString_append, hfront, hend, hlast, List.flatMap_cons, List.flatMap_nil,
    List.append_assoc, List.nil_append]

/-! ## 3. What the two sides read -/

/-- The first header with a name gives its value. -/
theorem valueOf_received {fields : List (String × String)} {name : Http.HeaderName}
    {p : String × String} (h : fields.find? (fun p => Http.nameOf p.1 = name) = some p)
    (hvalue : Graphic p.2) : valueOf name (received fields) = p.2 := by
  unfold valueOf received
  rw [Http.get?_addFields, h, Option.map_some, Option.bind_some, Http.text?_ofText hvalue]
  rfl

section

variable {key : Bytes} {url : Url}

/-- The headers of a request are lines that fit into the buffer. -/
theorem Request.fields_lines (hurl : url.Written) (hfits : Fits url)
    (hkey : key.length = keyLength) :
    ∀ p ∈ fields (keyText key) url, Http.IsWritten Reader.defaultCapacity p := by
  have hkeyName : Http.IsName "sec-websocket-key" := by decide
  have hhostName : Http.IsName "host" := by decide
  have hline : (fieldLine "sec-websocket-key" (keyText key)).length = 45 := by
    rw [Http.length_fieldLine hkeyName (graphic_keyText key), length_keyText hkey]
    rfl
  intro p hp
  simp only [fields, List.mem_cons, List.not_mem_nil, or_false] at hp
  rcases hp with rfl | rfl | rfl | rfl | rfl
  · exact ⟨by decide, .of_graphic (by decide), by decide⟩
  · exact ⟨by decide, .of_graphic (by decide), by decide⟩
  · exact ⟨by decide, .of_graphic (by decide), by decide⟩
  · exact ⟨hkeyName, .of_graphic (graphic_keyText key), by rw [hline]; decide⟩
  · exact ⟨hhostName, .of_graphic hurl.graphic_hostPortText, hfits.host⟩

theorem valueOf_key :
    valueOf .webSocketKey (received (Request.fields (keyText key) url)) = keyText key :=
  valueOf_received (p := ("sec-websocket-key", keyText key)) (by simp +decide [Request.fields])
    (graphic_keyText key)

/-- **A server finds nothing to refuse** in the headers of a request. -/
theorem refusal?_received (hkey : key.length = keyLength) :
    (Upgrade.mk "GET" "HTTP/1.1" (received (Request.fields (keyText key) url))).refusal? =
      none := by
  have hconnection :
      valueOf .connection (received (Request.fields (keyText key) url)) = "Upgrade" :=
    valueOf_received (p := ("connection", "Upgrade")) (by simp +decide [Request.fields]) (by decide)
  have hupgrade : valueOf .upgrade (received (Request.fields (keyText key) url)) = "websocket" :=
    valueOf_received (p := ("upgrade", "websocket")) (by simp +decide [Request.fields]) (by decide)
  have hversion : valueOf .webSocketVersion (received (Request.fields (keyText key) url)) =
      protocolVersion :=
    valueOf_received (p := ("sec-websocket-version", protocolVersion))
      (by simp +decide [Request.fields]) (by decide)
  have hasks : (Text.pieces ',' "Upgrade").any (isWord "upgrade") = true := by decide
  have hchanges : isWord "websocket" "websocket" = true := by decide
  have hsame : Text.trimmed protocolVersion = protocolVersion := by decide
  unfold Upgrade.refusal? Upgrade.asksToChange
  simp [hconnection, hupgrade, hversion, valueOf_key, isKey_keyText hkey, hasks, hchanges, hsame]

/-- The words of the first line are those that it was put together from. -/
theorem words_firstLine (hurl : url.Written) :
    (Text.pieces ' ' (Request.firstLine url)).filter (· ≠ "") =
      ["GET", url.target, "HTTP/1.1"] := by
  have hget : Graphic "GET" := by decide
  have hversion : Graphic "HTTP/1.1" := by decide
  have htarget := hurl.graphic_target
  have hsome := hurl.target_ne_empty
  unfold Request.firstLine
  rw [Text.pieces_intercalate (List.cons_ne_nil _ _) (by simp [hget, hversion, htarget])]
  simp [hsome]

/-- **A server takes what a client says to open a session**, and leaves everything behind it. -/
theorem takeUpgrade_asking (hurl : url.Written) (hfits : Request.Fits url)
    (hkey : key.length = keyLength) {r : Reader} (hr : r.Fits)
    (hcapacity : r.capacity = Reader.defaultCapacity) {frames : Bytes}
    (hahead : r.ahead = Request.asking (keyText key) url ++ frames) :
    ∃ r', takeUpgrade r =
        .ok ⟨"GET", "HTTP/1.1", received (Request.fields (keyText key) url)⟩ r' ∧
      r'.ahead = frames ∧ r'.inflow.ending = r.inflow.ending := by
  have hlines := Request.fields_lines hurl hfits hkey
  have hblock := Http.headerLines_fieldLines (by decide) hlines
  have hsize : Http.fieldsSize ((Request.fields (keyText key) url).map fun p => fieldOf p.1 p.2) ≤
      maxHeadSize - (textLine (Request.firstLine url)).length := by
    have hfields := Http.fieldsSize_le hlines
    have hcount : (Request.fields (keyText key) url).length = 5 := rfl
    have hroom : maxHeadSize = 8 * Reader.defaultCapacity := rfl
    have hfirst := hfits.first
    rw [hcount] at hfields
    omega
  unfold Request.asking at hahead
  rw [List.append_assoc] at hahead
  obtain ⟨q, hpeek, hbehind, hrest⟩ := Http.peekLine_of_line hr hahead
    (Http.isLine_textLine (printed_firstLine hurl)) (by rw [hcapacity]; exact hfits.first)
    (Http.lineText?_textLine _)
  rw [← hcapacity, ← hbehind.capacity] at hblock
  obtain ⟨r', htake, hrest'⟩ := Http.takeHeaders_of_block hblock hsize hbehind.fits hrest
  obtain ⟨_, _, hbehind', -⟩ := Http.takeHeaders_behind hbehind.fits htake
  refine ⟨r', ?_, hrest', hbehind'.ending.trans hbehind.ending⟩
  unfold takeUpgrade
  rw [Act.bind_ok (Http.takeLine_ok.2 ⟨q, hpeek, rfl⟩)]
  dsimp only
  rw [words_firstLine hurl]
  exact Act.bind_ok htake

end

/-- The head of an agreement, as a client reads it. -/
def agreed (key : String) : Http.Head :=
  ⟨.http11, .switchingProtocols, received (Upgrade.fields key)⟩

/-- The headers of an agreement are lines that fit into the buffer. -/
theorem Upgrade.fields_lines (key : String) :
    ∀ p ∈ fields key, Http.IsWritten Reader.defaultCapacity p := by
  have hname : Http.IsName "Sec-WebSocket-Accept" := by decide
  have hline : (fieldLine "Sec-WebSocket-Accept" (answer key)).length = 52 := by
    rw [Http.length_fieldLine hname (graphic_answer key), length_answer]
    rfl
  intro p hp
  simp only [fields, List.mem_cons, List.not_mem_nil, or_false] at hp
  rcases hp with rfl | rfl | rfl
  · exact ⟨by decide, .of_graphic (by decide), by decide⟩
  · exact ⟨by decide, .of_graphic (by decide), by decide⟩
  · exact ⟨hname, .of_graphic (graphic_answer key), by rw [hline]; decide⟩

/-- **A client takes what a server says to agree**, and leaves everything behind it. -/
theorem heads_agreeing (key : String) {request : Http.Request}
    (haccepts : request.Accepts .http11) (hlimit : request.maxHeaderSize = maxHeadSize)
    (frames : Bytes) :
    Http.Heads Reader.defaultCapacity request (agreeing key ++ frames) (agreed key) frames := by
  have hstatus : Http.IsStatusLine Reader.defaultCapacity
      (textLine "HTTP/1.1 101 Switching Protocols") .http11 .switchingProtocols :=
    ⟨Http.isLine_textLine (by decide), by decide, _, Http.lineText?_textLine _, by decide⟩
  have hlines := Upgrade.fields_lines key
  have hblock := Http.headerLines_fieldLines (by decide) hlines
  have hfirst : (textLine "HTTP/1.1 101 Switching Protocols").length = 34 := by decide
  have hfields := Http.fieldsSize_le hlines
  have hcount : (Upgrade.fields key).length = 3 := rfl
  have hroom : maxHeadSize = 8 * Reader.defaultCapacity := rfl
  have hcapacity : Reader.defaultCapacity = 16384 := rfl
  rw [hcount] at hfields
  rw [agreeing_eq, List.append_assoc]
  refine .fields ?_ (by decide) hstatus haccepts hblock (by omega)
  refine List.IsPrefix.trans ?_ (List.prefix_append _ _)
  decide

/-- **A client finds nothing wrong** with an agreement. -/
theorem checkAgreement_agreed (key : String) : checkAgreement key (agreed key) = .ok () := by
  have hconnection : valueOf .connection (received (Upgrade.fields key)) = "Upgrade" :=
    valueOf_received (p := ("Connection", "Upgrade")) (by simp +decide [Upgrade.fields]) (by decide)
  have hupgrade : valueOf .upgrade (received (Upgrade.fields key)) = "websocket" :=
    valueOf_received (p := ("Upgrade", "websocket")) (by simp +decide [Upgrade.fields]) (by decide)
  have haccept : (received (Upgrade.fields key)).get? .webSocketAccept =
      some (.ofText (answer key)) := by
    unfold received
    rw [Http.get?_addFields]
    simp +decide [Upgrade.fields]
  have hchanges : isWord "upgrade" "Upgrade" = true := by decide
  have hprotocol : isWord "websocket" "websocket" = true := by decide
  unfold checkAgreement agreed
  simp [hconnection, hupgrade, haccept, hchanges, hprotocol, Http.Status.switchingProtocols]

/-! ## 4. The server -/

/-- What a session is made from: the stream of its frames is what was left of the stream of the
connection. -/
structure Session.Starts (session : Session) (link : Nat) (options : Options) (isClient : Bool)
    (frames : Bytes) (ending : Ending) (s : System) : Prop where
  made : ∃ reader, session = Session.ofReader reader link options isClient s
  frames : session.reader.ahead = frames
  ending : session.reader.inflow.ending = ending

/-- The system once these bytes were sent on a link. -/
def sending (link : Nat) (bytes : Bytes) (s : System) : System :=
  s.changeLink link (Link.setOutflow ((s.outflow link).push bytes))

/-- Writing to a peer without a limit sends the bytes, and changes nothing else. -/
theorem write_takes {link : Nat} {s : System} (h : s.Takes link) (bytes : Bytes) :
    System.onLink link (Outflow.write bytes) s = .ok () (sending link bytes s) := by
  have hlimit : (s.outflow link).limit = none := h
  unfold System.onLink Act.within Outflow.write
  dsimp only
  rw [hlimit]
  rfl

/-- **A server agrees** with what a client says to open a session. -/
theorem serve_asking {key : Bytes} {url : Url} (hurl : url.Written) (hfits : Request.Fits url)
    (hkey : key.length = keyLength) (options : Options) {conn : Conn} {s : System} {frames : Bytes}
    (hheard : conn.inflow.rest = Request.asking (keyText key) url ++ frames)
    (htakes : s.Takes conn.link) :
    ∃ session, serve options conn s =
        .ok session (sending conn.link (agreeing (keyText key)) s) ∧
      session.Starts conn.link options false frames conn.inflow.ending
        (sending conn.link (agreeing (keyText key)) s) := by
  obtain ⟨reader, htake, hahead, hending⟩ := takeUpgrade_asking hurl hfits hkey
    (Reader.fits_ofInflow conn.inflow) rfl hheard
  have hasked : (Act.aside takeUpgrade (Reader.ofInflow conn.inflow) : Act Error System _) s =
      .ok (⟨"GET", "HTTP/1.1", received (Request.fields (keyText key) url)⟩, reader) s := by
    unfold Act.aside
    rw [htake]
  have hwrite := Act.mapError_ok (f := Error.io) (write_takes htakes (agreeing (keyText key)))
  have hrespond : respond conn s =
      .ok reader (sending conn.link (agreeing (keyText key)) s) := by
    unfold respond
    rw [Act.bind_ok hasked]
    dsimp only
    rw [refusal?_received hkey]
    dsimp only
    rw [valueOf_key]
    exact Act.bind_ok hwrite
  refine ⟨_, ?_, ⟨reader, rfl⟩, hahead, hending⟩
  unfold serve
  rw [Act.bind_ok (Act.timely_ok hrespond)]
  rfl

/-! ## 5. The client -/

/-- The key that a client draws next. -/
def drawnKey (c : Client) : Bytes := (c.system.entropy.draw keyLength).1

/-- The client once it has drawn a key. -/
def afterKey (c : Client) : Client :=
  { c with system := { c.system with entropy := (c.system.entropy.draw keyLength).2 } }

namespace Request

/-- A request for the URL of a text, on which anything may have been set but headers. -/
def Of (text : String) (r : Request) : Prop :=
  { r.http with port := 0, strategy := .default, timeout := none, resolver := none } =
    (Request.ofUrl text).http

/-- The headers of a request that asks for a session with a key. -/
def asked (key : String) (headers : Http.Headers) : Http.Headers :=
  headers.insert .connection (.ofText "Upgrade")
    |>.insert .upgrade (.ofText "websocket")
    |>.insert .webSocketVersion (.ofText protocolVersion)
    |>.insert .webSocketKey (.ofText key)

/-- What the transfer of a run starts with: a key is drawn, and asked with. -/
def start (r : Request) (c : Client) : Http.Running :=
  ({ r.http with headers := asked (keyText (drawnKey c)) r.http.headers }, afterKey c)

/-- The visit that a run makes to the URL of the request. -/
def visit (r : Request) (c : Client) (url : Url) : Http.Visit := Http.firstVisit (r.start c) url

/-- A header that is one is set, and nothing else is changed. -/
theorem setHeader_graphic {name value : String} (hname : Http.IsName name)
    (hvalue : Graphic value) (r : Http.Request) :
    r.setHeader name value =
      { r with headers := r.headers.insert (Http.nameOf name) (.ofText value) } := by
  unfold Http.Request.setHeader Http.parseHeader
  rw [hname.parse?, (Http.IsValue.of_graphic hvalue).ofBytes?]

/-- **Asking for a session sets four headers**, and none of them spoils the request. -/
theorem askWith_eq {key : String} (hkey : Graphic key) (r : Http.Request) :
    askWith key r = { r with headers := asked key r.headers } := by
  have hconnection (r : Http.Request) :
      r.setHeader Http.HeaderName.connection.text "Upgrade" =
        { r with headers := r.headers.insert .connection (.ofText "Upgrade") } :=
    setHeader_graphic (by decide) (by decide) r
  have hupgrade (r : Http.Request) :
      r.setHeader Http.HeaderName.upgrade.text "websocket" =
        { r with headers := r.headers.insert .upgrade (.ofText "websocket") } :=
    setHeader_graphic (by decide) (by decide) r
  have hversion (r : Http.Request) :
      r.setHeader Http.HeaderName.webSocketVersion.text protocolVersion =
        { r with headers := r.headers.insert .webSocketVersion (.ofText protocolVersion) } :=
    setHeader_graphic (by decide) (by decide) r
  have hkeyHeader (r : Http.Request) :
      r.setHeader Http.HeaderName.webSocketKey.text key =
        { r with headers := r.headers.insert .webSocketKey (.ofText key) } :=
    setHeader_graphic (by decide) hkey r
  unfold askWith
  rw [hconnection, hupgrade, hversion, hkeyHeader]
  rfl

section

variable {text : String} {url : Url} {r : Request} {c : Client}

/-- What a request for a URL of the usual scheme looks like before it runs. -/
structure Fresh (url : Url) (r : Http.Request) : Prop where
  target : r.target.state = .ok url
  method : r.method = .get
  headers : r.headers = .empty
  payload : r.payload = none
  secure : r.secure = false
  accepts : r.Accepts .http11
  maxHeaderSize : r.maxHeaderSize = maxHeadSize

theorem Of.fresh (h : r.Of text) (hurl : Url.parse text = .ok url) (hscheme : url.scheme = "ws") :
    Fresh url r.http := by
  have htarget : Target.parse (fun scheme => scheme == "ws" || scheme == "wss") text =
      ⟨.ok url⟩ := by
    unfold Target.parse
    rw [hurl]
    dsimp only
    rw [hscheme]
    rfl
  have hsecure : (ofUrl text).http.secure = false := by
    unfold ofUrl Http.Request.ofSchemes
    dsimp only
    rw [htarget]
    show (url.scheme == "wss") = false
    rw [hscheme]
    rfl
  unfold Of at h
  exact {
    target := (congrArg (fun r => r.target.state) h).trans (congrArg Target.state htarget)
    method := congrArg Http.Request.method h
    headers := congrArg Http.Request.headers h
    payload := congrArg Http.Request.payload h
    secure := (congrArg Http.Request.secure h).trans hsecure
    accepts := by
      have hleast : r.http.minVersion = .http10 := congrArg Http.Request.minVersion h
      have hgreatest : r.http.maxVersion = .http11 := congrArg Http.Request.maxVersion h
      unfold Http.Request.Accepts
      rw [hleast, hgreatest]
      rfl
    maxHeaderSize := congrArg Http.Request.maxHeaderSize h }

/-- The first visit of a request that does not name its host yet names the host of the URL. -/
theorem request_firstVisit {s : Http.Running} (h : s.1.headers.contains .host = false) :
    (Http.firstVisit s url).request =
      { s.1 with
        payload := none
        headers := s.1.headers.insert .host (Http.hostHeader url) } := by
  have hnamed : (Http.firstVisit s url).named = false := h
  unfold Http.Visit.request Http.Visit.headers
  rw [if_neg (by rw [hnamed]; exact Bool.false_ne_true)]
  rfl

/-- The request of a visit is that of the caller, with the headers of a session and the host. -/
theorem visit_request (h : Fresh url r.http) :
    (r.visit c url).request =
      { r.http with
        payload := none
        headers := (asked (keyText (drawnKey c)) .empty).insert .host (Http.hostHeader url) } := by
  have hunnamed (key : String) : (asked key .empty).contains .host = false := rfl
  unfold visit
  rw [request_firstVisit]
  · unfold start
    rw [h.headers]
  · unfold start
    rw [h.headers]
    exact hunnamed _

theorem visit_payload (h : Fresh url r.http) : (r.visit c url).payload = none := h.payload

/-- **A client says what a server takes.** -/
theorem visit_said (h : Fresh url r.http) :
    (r.visit c url).head ++ (r.visit c url).body = asking (keyText (drawnKey c)) url := by
  have hlist (key : String) :
      ((asked key .empty).insert .host (Http.hostHeader url)).toList =
        (fields key url).map fun p => (⟨p.1⟩, .ofText p.2) := rfl
  have hbody : (r.visit c url).body = [] := by
    unfold Http.Visit.body
    rw [visit_payload h]
    rfl
  rw [hbody, List.append_nil]
  unfold Http.Visit.head Http.headBytes Http.requestHead asking
  rw [visit_payload h, visit_request h, h.method]
  dsimp only
  rw [hlist]
  show _ ++ Http.Headers.lines (_ ++ []) ++ _ = _
  rw [List.append_nil, Http.lines_eq, List.append_assoc]
  rfl

/-- **A run comes to what its transfer comes to**: a response is looked at, and waiting for ever is
an error of its own. -/
theorem run_eq (r : Request) (c : Client) : Request.run (r, c) =
    match Http.transfer (r.start c) with
    | .ok e s =>
      match checkAgreement (keyText (drawnKey c)) e.head with
      | .ok () => .ok (Session.ofReader e.reader e.link r.options true s.2.system)
          ({ r with http := s.1 }, s.2)
      | .error fault => .error (.failed (.webSocket fault)) ({ r with http := s.1 }, s.2)
    | .error .stalled s =>
      .error (.failed (.webSocket .handshakeTimeout)) ({ r with http := s.1 }, s.2)
    | .error (.failed error) s => .error (.failed error) ({ r with http := s.1 }, s.2) := by
  have hdraw : (Act.second (Client.onSystem (System.random keyLength)) : Act Error Opening Bytes)
      (r, c) = .ok (drawnKey c) (r, afterKey c) := rfl
  have hset : (modify fun p => ({ p.1 with http := askWith (keyText (drawnKey c)) p.1.http }, p.2) :
      Act Error Opening Unit) (r, afterKey c) =
        .ok () ({ r with http := (r.start c).1 }, (r.start c).2) := by
    show EStateM.Result.ok ()
      ({ r with http := askWith (keyText (drawnKey c)) r.http }, afterKey c) = _
    rw [askWith_eq (graphic_keyText _)]
    rfl
  have hopen : onHttp Http.transfer ({ r with http := (r.start c).1 }, (r.start c).2) =
      match Http.transfer (r.start c) with
      | .ok e s => .ok e ({ r with http := s.1 }, s.2)
      | .error halt s => .error halt ({ r with http := s.1 }, s.2) := by
    have hsame : Http.transfer ((r.start c).1, (r.start c).2) = Http.transfer (r.start c) := rfl
    unfold onHttp Act.within
    dsimp only
    rw [hsame]
    cases Http.transfer (r.start c) <;> rfl
  unfold Request.run
  rw [Act.bind_ok hdraw]
  refine (Act.bind_ok hset).trans ?_
  cases htransfer : Http.transfer (r.start c) with
  | error halt s =>
    rw [htransfer] at hopen
    cases halt with
    | stalled => rw [Act.bind_ok (Act.timely_stalled hopen)]; rfl
    | failed error => rw [Act.bind_error (Act.timely_failed hopen)]
  | ok e s =>
    rw [htransfer] at hopen
    rw [Act.bind_ok (Act.timely_ok hopen)]
    dsimp only
    cases checkAgreement (keyText (drawnKey c)) e.head <;> rfl

/-- A run opens a session where the transfer brings an agreement. -/
theorem run_of_transfer {e : Http.Exchange} {s : Http.Running}
    (htransfer : Http.transfer (r.start c) = .ok e s)
    (hagrees : checkAgreement (keyText (drawnKey c)) e.head = .ok ()) :
    Request.run (r, c) =
      .ok (Session.ofReader e.reader e.link r.options true s.2.system)
        ({ r with http := s.1 }, s.2) := by
  rw [run_eq, htransfer]
  dsimp only
  rw [hagrees]

/-- The visit of a run is answered by an agreement, if the peer whom it reaches takes what it says,
and answers like this. -/
theorem visit_agreeing (hfresh : Fresh url r.http) {refused : List Link} {addr : SocketAddr}
    {peer : Peer} {frames : Bytes} (hopens : (r.visit c url).Opens refused addr peer)
    (htakes : peer.outflow.limit = none) (hplain : peer.identity = none)
    (hheard : peer.inflow.rest = agreeing (keyText (drawnKey c)) ++ frames) :
    ∃ e left l, (r.visit c url).answer? = some (e, left) ∧
      (r.visit c url).links = refused ++ [l] ∧
      l.Says addr peer (asking (keyText (drawnKey c)) url) ∧
      e.link = (c.system.links ++ refused).length ∧ e.head = agreed (keyText (drawnKey c)) ∧
      e.reader.ahead = frames ∧ e.reader.inflow.ending = peer.inflow.ending := by
  have hrequest := visit_request (c := c) hfresh
  have hsecure : (r.visit c url).request.secure = false := by rw [hrequest]; exact hfresh.secure
  have haccepts : (r.visit c url).request.Accepts .http11 := by
    rw [hrequest]
    exact hfresh.accepts
  have hlimit : (r.visit c url).request.maxHeaderSize = maxHeadSize := by
    rw [hrequest]
    exact hfresh.maxHeaderSize
  have hstream : (r.visit c url).stream peer = peer.inflow := by
    unfold Http.Visit.stream Peer.heard
    rw [hsecure, hplain]
    rfl
  have hheads : Http.Heads Reader.defaultCapacity (r.visit c url).request
      ((r.visit c url).stream peer).rest (agreed (keyText (drawnKey c))) frames := by
    rw [hstream, hheard]
    exact heads_agreeing _ haccepts hlimit frames
  obtain ⟨e, left, l, hanswer, hlinks, hsays, hlink, hhead, hahead, hending⟩ :=
    Http.Visit.answered_of_opens hopens hsecure htakes (by rw [visit_payload hfresh]; nofun) hheads
  have hbefore : (r.visit c url).before.2.system.links = c.system.links := rfl
  rw [hbefore] at hlink
  rw [visit_said hfresh] at hsays
  rw [hstream] at hending
  exact ⟨e, left, l, hanswer, hlinks, hsays, hlink, hhead, hahead, hending⟩

/-- **A client takes the session** that a server agrees on. -/
theorem run_agreeing (hfresh : Fresh url r.http) {refused : List Link} {addr : SocketAddr}
    {peer : Peer} {frames : Bytes} (hopens : (r.visit c url).Opens refused addr peer)
    (htakes : peer.outflow.limit = none) (hplain : peer.identity = none)
    (hheard : peer.inflow.rest = agreeing (keyText (drawnKey c)) ++ frames) :
    ∃ session o l, Request.run (r, c) = .ok session o ∧
      session.Starts (c.system.links ++ refused).length r.options true frames
        peer.inflow.ending o.2.system ∧
      o.2.system.links = c.system.links ++ (refused ++ [l]) ∧
      l.Says addr peer (asking (keyText (drawnKey c)) url) := by
  obtain ⟨e, left, l, hanswer, hlinks, hsays, hlink, hhead, hahead, hending⟩ :=
    visit_agreeing hfresh hopens htakes hplain hheard
  have htarget : (r.start c).1.target.state = .ok url := hfresh.target
  -- The answer is no redirection, so the transfer ends with it.
  have hlocation : e.head.location? = none := by rw [hhead]; rfl
  have hagrees : checkAgreement (keyText (drawnKey c)) e.head = .ok () := by
    rw [hhead]
    exact checkAgreement_agreed _
  have hrun := run_of_transfer (Http.transfer_of_answer htarget hanswer hlocation) hagrees
  have hrecord := (r.visit c url).links_after
  have hbefore : (r.visit c url).before.2.system.links = c.system.links := rfl
  rw [hbefore, hlinks] at hrecord
  rw [← hlink]
  exact ⟨_, _, l, hrun, ⟨⟨e.reader, rfl⟩, hahead, hending⟩, hrecord, hsays⟩

end

end Request

/-! ## 6. The whole -/

/-- **The two sides of the opening handshake fit together, and lose no byte**: for every URL whose
lines fit into the buffer, and every key.

A server that hears what a client says to open a session, and then any frames, agrees, and has a
session on which these frames are ahead; and a client that hears an agreement with its key, and then
any frames, has one as well, wherever the streams are cut, and however they end. -/
theorem handshakes_fit {text : String} {url : Url} (hurl : Url.parse text = .ok url)
    (hscheme : url.scheme = "ws") (hfits : Request.Fits url) {key : Bytes}
    (hkey : key.length = keyLength) :
    (∀ (options : Options) (conn : Conn) (s : System) (frames : Bytes),
      conn.inflow.rest = Request.asking (keyText key) url ++ frames → s.Takes conn.link →
      ∃ session, serve options conn s =
          .ok session (sending conn.link (agreeing (keyText key)) s) ∧
        session.Starts conn.link options false frames conn.inflow.ending
          (sending conn.link (agreeing (keyText key)) s)) ∧
    ∀ (r : Request) (c : Client) (refused : List Link) (addr : SocketAddr) (peer : Peer)
        (frames : Bytes),
      r.Of text → drawnKey c = key → (r.visit c url).Opens refused addr peer →
      peer.outflow.limit = none → peer.identity = none →
      peer.inflow.rest = agreeing (keyText key) ++ frames →
      ∃ session o l, Request.run (r, c) = .ok session o ∧
        session.Starts (c.system.links ++ refused).length r.options true frames
          peer.inflow.ending o.2.system ∧
        o.2.system.links = c.system.links ++ (refused ++ [l]) ∧
        l.Says addr peer (Request.asking (keyText key) url) := by
  have hspecial : Url.isSpecial url.scheme = true := by rw [hscheme]; decide
  have hwritten := Url.written_of_parse hurl hspecial (by rw [hscheme]; decide)
  constructor
  · intro options conn s frames hheard htakes
    exact serve_asking hwritten hfits hkey options hheard htakes
  · rintro r c refused addr peer frames hr rfl hopens htakes hplain hheard
    exact Request.run_agreeing (hr.fresh hurl hscheme) hopens htakes hplain hheard

/-- The URL of the text `ws://[::1]/chat`. -/
def chatUrl : Url where
  scheme := "ws"
  host := (Ipv6.ofGroups? [0, 0, 0, 0, 0, 0, 0, 1]).map .ipv6
  path := .segments ["chat"]

/-- A request for that URL, with a resolver of its own. -/
def chat : Request where
  http := { (Request.ofUrl "ws://[::1]/chat").http with resolver := some {} }

/-- A key of zeros. -/
def chatKey : Bytes := List.replicate keyLength 0

/-- A server that agrees on a session with that key, and sends a ping in the same read. -/
def chatPeer : Peer := { inflow := ⟨[agreeing (keyText chatKey) ++ [0x89, 0]], .eof⟩ }

/-- A world with that server in it, where a client draws that key. -/
def chatWorld : Client :=
  { system := { outgoing := [.made chatPeer], entropy := { feed := chatKey } } }

/-- A connection from a client that asks with that key, and sends a ping in a read of its own. -/
def chatConn : Conn :=
  ⟨0, System.caller, ⟨[Request.asking (keyText chatKey) chatUrl, [0x89, 0]], .eof⟩, none, false⟩

/-- With a key of zeros, the server and the client each have a session with the ping ahead. -/
theorem handshakes_fit_chat : Url.parse "ws://[::1]/chat" = .ok chatUrl ∧
    (∃ session s, serve {} chatConn {} = .ok session s ∧ session.reader.ahead = [0x89, 0]) ∧
    ∃ session o, Request.run (chat, chatWorld) = .ok session o ∧
      session.reader.ahead = [0x89, 0] := by
  have hurl : Url.parse "ws://[::1]/chat" = .ok chatUrl := by decide +kernel
  have hfits : Request.Fits chatUrl := ⟨by decide +kernel, by decide +kernel⟩
  have hdrawn : drawnKey chatWorld = chatKey := by decide
  have hopens : (chat.visit chatWorld chatUrl).Opens []
      { ip := .v6 ⟨[0, 0, 0, 0, 0, 0, 0, 1], rfl⟩, port := 80 } chatPeer :=
    ⟨[.v6 ⟨[0, 0, 0, 0, 0, 0, 0, 1], rfl⟩], ⟨_, _, _, _, rfl, rfl, rfl, rfl⟩, .taken⟩
  have hkey : chatKey.length = keyLength := rfl
  obtain ⟨hserver, hclient⟩ := handshakes_fit hurl rfl hfits hkey
  obtain ⟨session, hserve, hstarts⟩ := hserver {} chatConn {} [0x89, 0] rfl rfl
  obtain ⟨session', o, _, hrun, hstarts', -⟩ := hclient chat chatWorld [] _ _ [0x89, 0] rfl hdrawn
    hopens rfl rfl (List.append_nil _)
  exact ⟨hurl, ⟨session, _, hserve, hstarts.frames⟩, session', o, hrun, hstarts'.frames⟩

end WebSocket

end UrlTransfer
