/-
# The limit of a message

A session limits how long a message can be, across all of its frames.  The frames that a peer
sends are taken here as the protocol has them (`Proper`): a message in any number of fragments, and
control frames before, between and behind these.  A fragment *passes* the limit if its message is
longer than the limit with it (`Passes`), and that should be all that is refused
(`LimitsMessages`).

The limit is looked at twice: for each header by itself, and for a fragment with what is there of
its message.  The first look is at control frames too, so with a limit below 125 bytes a control
frame that no rule forbids may be refused (`Exceeds`).  Where a run stops is told by the first frame
that is refused (`IsFirst`): `nextPart_refused` and `nextPart_allowed` say what a session does at
one frame, and `recvAllFrom_comesTo` follows along all of them.  The limit is one of messages
exactly if that frame is a fragment (`limitsMessages_iff`).
-/
import UrlTransfer.Proofs.WebSocket.Aligning

namespace UrlTransfer

namespace WebSocket

/-! ## 1. How long a message is -/

/-- How many bytes there are in a message; a control frame is none. -/
def Frame.messageLength : Frame → Nat
  | .text content => (Bytes.ofString content).length
  | .binary content => content.length
  | _ => 0

namespace WireFrame

/-- Is it a control frame? -/
def isControl (frame : WireFrame) : Bool := frame.header.op.isControl

/-- The payload without its mask. -/
def content (frame : WireFrame) : Bytes := maskBy frame.header.key frame.payload

/-- How much there is of a message behind a frame, where so much was there in front of it.  **A
control frame leaves the message alone**, and nothing is there behind the last fragment. -/
def pendingAfter (n : Nat) (frame : WireFrame) : Nat :=
  if frame.isControl then n else if frame.header.fin then 0 else n + frame.payload.length

/-- With this fragment a message is longer than the limit: so much of it was there before. -/
def Passes (limit n : Nat) (frame : WireFrame) : Prop :=
  frame.isControl = false ∧ limit < n + frame.payload.length

/-- The control frame is longer than a message can be. -/
def Exceeds (limit : Nat) (frame : WireFrame) : Prop :=
  frame.isControl = true ∧ limit < frame.payload.length

/-- The frame is refused: a fragment passes the limit, or a control frame alone exceeds it. -/
def Refused (limit n : Nat) (frame : WireFrame) : Prop :=
  Passes limit n frame ∨ Exceeds limit frame

/-- A control frame is refused exactly if it exceeds the limit. -/
theorem refused_control {limit n : Nat} {frame : WireFrame} (hcontrol : frame.isControl = true) :
    Refused limit n frame ↔ limit < frame.payload.length := by
  simp [Refused, Passes, Exceeds, hcontrol]

/-- A fragment is refused exactly if it passes the limit. -/
theorem refused_fragment {limit n : Nat} {frame : WireFrame}
    (hdata : frame.isControl = false) :
    Refused limit n frame ↔ limit < n + frame.payload.length := by
  simp [Refused, Passes, Exceeds, hdata]

/-- Behind the header of a frame no later frame is left. -/
theorem payload_append_ne {frame frame' : WireFrame} {later later' : List WireFrame}
    (h : frame' :: later' <:+ later) :
    frame.payload ++ stream later ≠ frame'.payload ++ stream later' := by
  intro heq
  have hlength := congrArg List.length heq
  have hlead : 0 < frame'.lead.length := List.length_pos_iff.2 frame'.lead_ne_nil
  have hlater := length_stream_le h
  simp only [stream_cons, List.length_append] at hlength hlater
  omega

/-! ## 2. The first frame of a kind -/

/-- `frame` is the first of the frames that has the property, which may depend on how much there is
of a message in front of it; `early` are the frames before it and `later` those behind. -/
inductive IsFirst (p : Nat → WireFrame → Prop) :
    Nat → List WireFrame → List WireFrame → WireFrame → List WireFrame → Prop where
  | head {n : Nat} {frame : WireFrame} {later : List WireFrame} : p n frame →
      IsFirst p n (frame :: later) [] frame later
  | tail {n : Nat} {next frame : WireFrame} {frames early later : List WireFrame} : ¬ p n next →
      IsFirst p (pendingAfter n next) frames early frame later →
      IsFirst p n (next :: frames) (next :: early) frame later

namespace IsFirst

variable {p q : Nat → WireFrame → Prop} {n : Nat}
  {frames early early' later later' : List WireFrame}
  {frame frame' : WireFrame}

theorem split (h : IsFirst p n frames early frame later) : frames = early ++ frame :: later := by
  induction h with
  | head _ => rfl
  | tail _ _ ih => rw [ih]; rfl

theorem holds (h : IsFirst p n frames early frame later) : ∃ m, p m frame := by
  induction h with
  | head hframe => exact ⟨_, hframe⟩
  | tail _ _ ih => exact ih

theorem unique (h : IsFirst p n frames early frame later)
    (h' : IsFirst p n frames early' frame' later') :
    early = early' ∧ frame = frame' ∧ later = later' := by
  induction h generalizing early' with
  | head hframe =>
    cases h' with
    | head _ => exact ⟨rfl, rfl, rfl⟩
    | tail hnext _ => exact absurd hframe hnext
  | tail hnext _ ih =>
    cases h' with
    | head hframe => exact absurd hframe hnext
    | tail _ hfirst =>
      obtain ⟨rfl, rfl, rfl⟩ := ih hfirst
      exact ⟨rfl, rfl, rfl⟩

/-- If a frame has the property, there is a first. -/
theorem exists_of_imp (hpq : ∀ n frame, p n frame → q n frame)
    (h : IsFirst p n frames early frame later) :
    ∃ early' frame' later', IsFirst q n frames early' frame' later' := by
  induction h with
  | head hframe => exact ⟨_, _, _, .head (hpq _ _ hframe)⟩
  | @tail n next frame frames _ _ _ _ ih =>
    by_cases hnext : q n next
    · exact ⟨_, _, _, .head hnext⟩
    · obtain ⟨early', frame', later', hfirst⟩ := ih
      exact ⟨_, _, _, .tail hnext hfirst⟩

/-- The first with the weaker property, if it has the stronger, is the first with that. -/
theorem of_imp (hpq : ∀ n frame, p n frame → q n frame) (hframe : ∀ n, q n frame → p n frame)
    (h : IsFirst q n frames early frame later) : IsFirst p n frames early frame later := by
  induction h with
  | head hq => exact .head (hframe _ hq)
  | tail hq _ ih => exact .tail (mt (hpq _ _) hq) (ih hframe)

/-- The first with the weaker property is the first with the stronger, or stands before it. -/
theorem eq_or_before (hpq : ∀ n frame, p n frame → q n frame)
    (h : IsFirst q n frames early frame later) (h' : IsFirst p n frames early' frame' later') :
    (early = early' ∧ frame = frame' ∧ later = later') ∨ frame' :: later' <:+ later := by
  induction h generalizing early' with
  | head _ =>
    cases h' with
    | head _ => exact .inl ⟨rfl, rfl, rfl⟩
    | @tail _ _ _ _ early _ _ hfirst => exact .inr ⟨early, hfirst.split.symm⟩
  | tail hq _ ih =>
    cases h' with
    | head hp => exact absurd (hpq _ _ hp) hq
    | tail _ hfirst =>
      refine (ih hfirst).imp_left ?_
      rintro ⟨rfl, rfl, rfl⟩
      exact ⟨rfl, rfl, rfl⟩

end IsFirst

end WireFrame

open WireFrame (stream IsFirst Passes Exceeds Refused pendingAfter)

/-! ## 3. Frames that follow the protocol -/

namespace Receiver

/-- The protocol finds no fault in the frames, where this is there of a message: in none of the
headers, in the text of no message and in the payload of no close frame; a close frame is the
last. -/
def Proper (side : Receiver) : Option Fragments → List WireFrame → Prop
  | _, [] => True
  | message, frame :: later =>
    side.protocolFault? message frame.header = none ∧
      match frameWith message frame.header frame.content with
      | .fails _ => False
      | .takes message' => side.Proper message' later
      | .gives _ message' => side.Proper message' later
      | .closes _ => later = []

/-- The control frames and messages that are complete among the frames. -/
def complete : Option Fragments → List WireFrame → List Frame
  | _, [] => []
  | message, frame :: later =>
    match frameWith message frame.header frame.content with
    | .fails _ => []
    | .takes message' => complete message' later
    | .gives received message' => received :: complete message' later
    | .closes received => [received]

theorem complete_takes {message message' : Option Fragments} {frame : WireFrame}
    (h : frameWith message frame.header frame.content = .takes message')
    (later : List WireFrame) :
    complete message (frame :: later) = complete message' later := by
  rw [complete, h]

theorem complete_gives {message message' : Option Fragments} {frame : WireFrame}
    {received : Frame} (h : frameWith message frame.header frame.content = .gives received message')
    (later : List WireFrame) :
    complete message (frame :: later) = received :: complete message' later := by
  rw [complete, h]

theorem complete_closes {message : Option Fragments} {frame : WireFrame} {received : Frame}
    (h : frameWith message frame.header frame.content = .closes received)
    (later : List WireFrame) : complete message (frame :: later) = [received] := by
  rw [complete, h]

theorem Proper.tail {side : Receiver} {message : Option Fragments} {frame : WireFrame}
    {later : List WireFrame} (h : side.Proper message (frame :: later)) :
    ∃ message', side.Proper message' later := by
  have hlater := h.2
  split at hlater
  · exact hlater.elim
  · exact ⟨_, hlater⟩
  · exact ⟨_, hlater⟩
  · exact ⟨none, by rw [hlater]; trivial⟩

/-- The control frames among them are short. -/
theorem length_of_isFirst {side : Receiver} {message : Option Fragments}
    {p : Nat → WireFrame → Prop} {n : Nat} {frames early later : List WireFrame}
    {frame : WireFrame} (hproper : side.Proper message frames)
    (hfirst : IsFirst p n frames early frame later) (hcontrol : frame.isControl = true) :
    frame.payload.length ≤ maxControl := by
  induction hfirst generalizing message with
  | @head _ frame _ _ =>
    rw [frame.length_payload]
    exact length_of_protocolFault? hproper.1 hcontrol
  | tail _ _ ih =>
    obtain ⟨message', htail⟩ := hproper.tail
    exact ih htail hcontrol

end Receiver

/-- So much is there of a message behind what the automaton does. -/
def Outcome.Has (n : Nat) : Outcome → Prop
  | .takes message => lengthOf message = n
  | .gives _ message => lengthOf message = n
  | .fails _ => True
  | .closes _ => True

theorem has_closeWith (n : Nat) (payload : Bytes) : (Receiver.closeWith payload).Has n := by
  match payload with
  | [] => trivial
  | [_] => trivial
  | _ :: _ :: _ => trivial

/-- **The automaton counts as the frames do.** -/
theorem has_frameWith (message : Option Fragments) (frame : WireFrame) :
    (Receiver.frameWith message frame.header frame.content).Has
      (pendingAfter (lengthOf message) frame) := by
  unfold pendingAfter
  cases hcontrol : frame.isControl with
  | true =>
    rw [if_pos rfl]
    unfold Receiver.frameWith
    have hop : frame.header.op.isControl = true := hcontrol
    cases h : frame.header.op with
    | ping => rfl
    | pong => rfl
    | close => exact has_closeWith _ _
    | continuation => rw [h] at hop; cases hop
    | text => rw [h] at hop; cases hop
    | binary => rw [h] at hop; cases hop
  | false =>
    rw [if_neg (by simp), Receiver.frameWith_data hcontrol]
    unfold Receiver.dataWith
    cases hfin : frame.header.fin with
    | true =>
      cases hgives : ((message.getD ⟨frame.header.op, []⟩).add frame.content).frame? with
      | none =>
        dsimp only
        rw [hgives]
        trivial
      | some received =>
        dsimp only
        rw [hgives]
        exact rfl
    | false =>
      show (Fragments.content _).length = lengthOf message + frame.payload.length
      rw [Fragments.content_add, List.length_append, Session.lengthOf_eq message frame.header.op,
        WireFrame.content, Session.length_maskBy]

namespace Session

/-! ## 4. One frame -/

variable {s : Session} {message : Option Fragments} {frame : WireFrame} {rest : Bytes}

/-- The header of a frame that the protocol finds no fault in is accepted, and what follows it is
due. -/
theorem nextPart_proper (hholds : s.Holds message) (hahead : s.reader.ahead = frame.bytes ++ rest)
    (hproper : s.receiver.protocolFault? message frame.header = none) :
    ∃ r, r.ahead = frame.payload ++ rest ∧
      nextPart s = (if frame.header.length > s.maxMessageLength then
          Act.fail (.webSocket .messageTooLong)
        else if frame.header.op.isControl then
          readControl frame.header >>= fun received => pure (some received)
        else readPart frame.header : Act Error Session (Option Frame))
          (follow { s with reader := r } frame.header) := by
  rw [WireFrame.bytes, List.append_assoc] at hahead
  obtain ⟨r, hread, hr⟩ := FrameHeader.read_of_parsed frame.decodes hahead
  have haccept := acceptHeader_step (s := { s with reader := r }) hholds.continuing frame.header
  rw [show Receiver.protocolFault? (receiver { s with reader := r }) message frame.header = none
    from hproper] at haccept
  have hheader : readHeader s =
      .ok (some frame.header) (follow { s with reader := r } frame.header) := by
    unfold readHeader
    rw [if_neg (by simp [hholds.isOpen]), onReader_run hread]
    dsimp only at haccept ⊢
    rw [haccept]
  exact ⟨r, hr, nextPart_some hheader⟩

/-- **A frame that is refused stays where it is, behind its header.** -/
theorem nextPart_refused (hholds : s.Holds message) (hahead : s.reader.ahead = frame.bytes ++ rest)
    (hproper : s.receiver.protocolFault? message frame.header = none)
    (hrefused : Refused s.maxMessageLength (lengthOf message) frame) :
    ∃ t, nextPart s = .error (.failed (.webSocket .messageTooLong)) t ∧
      t.reader.ahead = frame.payload ++ rest := by
  obtain ⟨r, hr, hnext⟩ := nextPart_proper hholds hahead hproper
  rw [hnext]
  by_cases halone : frame.header.length > s.maxMessageLength
  · rw [if_pos halone]
    exact ⟨_, rfl, hr⟩
  · -- It is not too long alone, so it is a fragment, and its message is too long.
    have hdata : frame.header.op.isControl = false := by
      cases hcontrol : frame.header.op.isControl with
      | false => rfl
      | true =>
        rw [WireFrame.refused_control hcontrol, frame.length_payload] at hrefused
        exact absurd hrefused halone
    rw [WireFrame.refused_fragment hdata, frame.length_payload,
      lengthOf_eq message frame.header.op] at hrefused
    rw [if_neg halone, if_neg (by simp [hdata])]
    refine ⟨_, readPart_long ?_, hr⟩
    show (s.message.getD (frame.header.op, [])).2.length + _ > _
    rw [message_getD hholds]
    exact hrefused

/-- **A frame that is not refused is received as the protocol has it.** -/
theorem nextPart_allowed (hholds : s.Holds message) (hahead : s.reader.ahead = frame.bytes ++ rest)
    (hproper : s.receiver.protocolFault? message frame.header = none)
    (hallowed : ¬ Refused s.maxMessageLength (lengthOf message) frame) :
    ∃ r, r.ahead = rest ∧
      Does s.receiver r (Receiver.frameWith message frame.header frame.content) (nextPart s) := by
  obtain ⟨r, hr, hnext⟩ := nextPart_proper hholds hahead hproper
  have htake : Parser.take frame.header.length frame.payload = .ok (frame.payload, []) := by
    have happend := Parser.take_append frame.length_payload []
    rwa [List.append_nil] at happend
  obtain ⟨r', hpayload, hr'⟩ := readBy_readExact frame.header.length htake hr
  have hholds' : Holds { s with reader := r } message :=
    ⟨hholds.isOpen, hholds.continuing, hholds.message⟩
  refine ⟨r', hr', ?_⟩
  rw [hnext]
  cases hcontrol : frame.header.op.isControl with
  | true =>
    rw [WireFrame.refused_control hcontrol, frame.length_payload] at hallowed
    rw [if_neg hallowed, if_pos rfl]
    refine readControl_does hholds' hcontrol ?_ hpayload
    rw [frame.length_payload]
    exact Receiver.length_of_protocolFault? hproper hcontrol
  | false =>
    rw [WireFrame.refused_fragment hcontrol, frame.length_payload] at hallowed
    rw [if_neg (by omega), if_neg (by simp), Receiver.frameWith_data hcontrol]
    exact readPart_does hholds' hcontrol (Nat.not_lt.1 hallowed) hpayload

/-! ## 5. A run -/

/-- The run has received these frames, and fails for the length of a frame, in front of whose
payload it stands. -/
structure Received.StopsAt (received : Received) (frames : List Frame) (frame : WireFrame)
    (later : List WireFrame) : Prop where
  frames : received.frames = frames
  halt : received.halt = some (.failed (.webSocket .messageTooLong))
  ahead : received.session.reader.ahead = frame.payload ++ stream later

/-- The run has received these frames first, and does not fail for a length. -/
structure Received.Gets (received : Received) (frames : List Frame) : Prop where
  frames : frames <+: received.frames
  halt : received.halt ≠ some (.failed (.webSocket .messageTooLong))

/-- What a run comes to on these frames, where this is there of a message and `got` has been
received before: **it stops at the first frame that is refused**, and where there is none it
receives everything. -/
def Received.ComesTo (received : Received) (limit : Nat) (message : Option Fragments)
    (got : List Frame) (frames : List WireFrame) : Prop :=
  (∃ early frame later, IsFirst (Refused limit) (lengthOf message) frames early frame later ∧
    received.StopsAt (got ++ Receiver.complete message early) frame later) ∨
  (¬ ∃ early frame later, IsFirst (Refused limit) (lengthOf message) frames early frame later) ∧
    received.Gets (got ++ Receiver.complete message frames)

/-- In front of a frame that is not refused, the run comes to what it comes to behind it. -/
theorem Received.ComesTo.cons {received : Received} {limit : Nat} {message' : Option Fragments}
    {got : List Frame} (given : List Frame) {later : List WireFrame}
    (hallowed : ¬ Refused limit (lengthOf message) frame)
    (hlength : lengthOf message' = pendingAfter (lengthOf message) frame)
    (hgiven : ∀ frames,
      Receiver.complete message (frame :: frames) = given ++ Receiver.complete message' frames)
    (h : received.ComesTo limit message' (got ++ given) later) :
    received.ComesTo limit message got (frame :: later) := by
  unfold ComesTo at *
  rw [hlength] at h
  rcases h with ⟨early, last, rest, hfirst, hstops⟩ | ⟨hnone, hgets⟩
  · refine .inl ⟨frame :: early, last, rest, .tail hallowed hfirst, ?_⟩
    rwa [hgiven, ← List.append_assoc]
  · refine .inr ⟨?_, by rwa [hgiven, ← List.append_assoc]⟩
    rintro ⟨_, _, _, hfirst⟩
    cases hfirst with
    | head hrefused => exact hallowed hrefused
    | tail _ hfirst => exact hnone ⟨_, _, _, hfirst⟩

/-- Behind the last of the frames nothing is refused. -/
theorem recvAllFrom_exhausted (hopen : s.readClosed = false) (hahead : s.reader.ahead = [])
    (got : List Frame) : (recvAllFrom got s).Gets got.reverse := by
  obtain ⟨r, -, hnext | ⟨halt, hnext⟩⟩ := nextPart_exhausted hopen hahead
  · rw [recvAllFrom_frame hopen (recv_frame hnext), recvAllFrom_closed rfl, List.reverse_cons]
    exact ⟨List.prefix_append _ _, nofun⟩
  · rw [recvAllFrom_error hopen (recv_error hnext)]
    refine ⟨List.prefix_refl _, ?_⟩
    cases halt <;> nofun

/-- **A run of the session on frames that follow the protocol.** -/
theorem recvAllFrom_comesTo {frames : List WireFrame} (hholds : s.Holds message)
    (hahead : s.reader.ahead = stream frames) (hproper : s.receiver.Proper message frames)
    (got : List Frame) :
    (recvAllFrom got s).ComesTo s.maxMessageLength message got.reverse frames := by
  -- On the frames; the session holds what the automaton has of a message.
  induction frames generalizing s message got with
  | nil =>
    refine .inr ⟨?_, ?_⟩
    · rintro ⟨_, _, _, ⟨⟩⟩
    · rw [Receiver.complete, List.append_nil]
      exact recvAllFrom_exhausted hholds.isOpen hahead got
  | cons frame later ih =>
    obtain ⟨hfault, hlater⟩ := hproper
    have hbytes : s.reader.ahead = frame.bytes ++ stream later := hahead
    by_cases hrefused : Refused s.maxMessageLength (lengthOf message) frame
    · obtain ⟨t, hnext, ht⟩ := nextPart_refused hholds hbytes hfault hrefused
      refine .inl ⟨[], frame, later, .head hrefused, ?_⟩
      rw [recvAllFrom_error hholds.isOpen (recv_error hnext), Receiver.complete, List.append_nil]
      exact ⟨rfl, rfl, ht⟩
    · obtain ⟨r, hr, hdoes⟩ := nextPart_allowed hholds hbytes hfault hrefused
      have hhas := has_frameWith message frame
      -- What the automaton does at the frame says how the run goes on.
      cases hwith : Receiver.frameWith message frame.header frame.content with
      | fails e => rw [hwith] at hlater; exact hlater.elim
      | closes received =>
        rw [hwith] at hlater hdoes
        obtain ⟨s', hnext, hclosed⟩ := hdoes
        obtain rfl : later = [] := hlater
        rw [recvAllFrom_frame hholds.isOpen (recv_frame hnext), recvAllFrom_closed hclosed]
        refine .inr ⟨?_, ?_⟩
        · rintro ⟨_, _, _, hfirst⟩
          cases hfirst with
          | head hrefused' => exact hrefused hrefused'
          | tail _ hfirst => cases hfirst
        · rw [Receiver.complete_closes hwith, List.reverse_cons]
          exact ⟨List.prefix_refl _, nofun⟩
      | takes message' =>
        rw [hwith] at hlater hdoes hhas
        obtain ⟨s', hnext, hholds', hside, hreader⟩ := hdoes
        have hrun := ih hholds' (by rw [hreader, hr]) (by rw [hside]; exact hlater) got
        rw [show s'.maxMessageLength = s.maxMessageLength from
          congrArg Receiver.maxMessageLength hside] at hrun
        rw [recvAllFrom_part hholds.isOpen hholds'.isOpen hnext]
        exact .cons [] hrefused hhas (Receiver.complete_takes hwith)
          (by rwa [List.append_nil])
      | gives received message' =>
        rw [hwith] at hlater hdoes hhas
        obtain ⟨s', hnext, hholds', hside, hreader⟩ := hdoes
        have hrun := ih hholds' (by rw [hreader, hr]) (by rw [hside]; exact hlater)
          (received :: got)
        rw [show s'.maxMessageLength = s.maxMessageLength from
          congrArg Receiver.maxMessageLength hside, List.reverse_cons] at hrun
        rw [recvAllFrom_frame hholds.isOpen (recv_frame hnext)]
        exact .cons [received] hrefused hhas (Receiver.complete_gives hwith) hrun

/-! ## 6. Messages within the limit -/

/-- The frame of a message has its content. -/
theorem messageLength_messageFrame {op : Opcode} {content : Bytes} {received : Frame}
    (h : messageFrame op content = .ok received) : received.messageLength = content.length := by
  unfold messageFrame at h
  split at h
  · split at h
    · next text hdecode =>
      cases h
      rw [Utf8.decode?_eq_some_iff.1 hdecode]
      rfl
    · cases h
  · cases h
    rfl

/-- A control frame is no message. -/
theorem messageLength_readControl {h : FrameHeader} {t : Session} {received : Frame}
    (hread : readControl h s = .ok received t) : received.messageLength = 0 := by
  rcases readControl_ok hread with ⟨payload, rfl | rfl⟩ | ⟨payload, hclose⟩
  · rfl
  · rfl
  · unfold closeFrame at hclose
    split at hclose <;> cases hclose <;> rfl

theorem maxMessageLength_of_side {t : Session} (h : t.sendingSide = s.sendingSide) :
    t.maxMessageLength = s.maxMessageLength := by
  have hsame := congrArg maxMessageLength h
  exact hsame

/-- The last part of a message is read only where the message is within the limit. -/
theorem readPart_within_limit {h : FrameHeader} {t : Session} {received : Frame}
    (hread : readPart h s = .ok (some received) t) :
    received.messageLength ≤ s.maxMessageLength := by
  unfold readPart at hread
  rw [Act.bind_ok (show (get : Act Error Session Session) s = .ok s s from rfl)] at hread
  dsimp only at hread
  rw [Act.bind_ok (show keep _ s = .ok () _ from rfl)] at hread
  split at hread
  · cases hread
  · next hfits =>
    obtain ⟨got, u, hgot, hread⟩ := Act.bind_eq_ok.1 hread
    split at hread
    · cases hread
    · obtain ⟨_, _, -, hread⟩ := Act.bind_eq_ok.1 hread
      obtain ⟨made, _, hmade, hread⟩ := Act.bind_eq_ok.1 hread
      cases hread
      obtain ⟨r, hexact, -⟩ := onReader_ok hgot
      have hlength := (readExact_ok hexact).1
      rw [messageLength_messageFrame (Act.ofExcept_eq_ok hmade), List.length_append,
        length_maskBy, hlength, List.length_take]
      omega

/-- **No message longer than the limit is received**, in whatever state the session is. -/
theorem nextPart_within_limit {t : Session} {received : Frame}
    (hnext : nextPart s = .ok (some received) t) : received.messageLength ≤ s.maxMessageLength := by
  obtain ⟨o, u, hheader, hrest⟩ := Act.bind_eq_ok.1 hnext
  have hmax : u.maxMessageLength = s.maxMessageLength :=
    maxMessageLength_of_side (keeps_readHeader.ok hheader)
  cases o with
  | none =>
    cases hrest
    exact Nat.zero_le _
  | some h =>
    rw [nextPart_some hheader] at hnext
    split at hnext
    · cases hnext
    · split at hnext
      · obtain ⟨_, _, hcontrol, hnext⟩ := Act.bind_eq_ok.1 hnext
        cases hnext
        rw [messageLength_readControl hcontrol]
        exact Nat.zero_le _
      · rw [← hmax]
        exact readPart_within_limit hnext

theorem recv_within_limit {t : Session} {received : Frame} (hrecv : recv s = .ok received t) :
    received.messageLength ≤ s.maxMessageLength := by
  fun_induction recv s with
  | case1 => cases hrecv
  | case2 s received' t' hnext => cases hrecv; exact nextPart_within_limit hnext
  | case3 s t' hnext ih =>
    rw [← maxMessageLength_of_side (keeps_nextPart.ok hnext)]
    exact ih hrecv

theorem recvAllFrom_within_limit {got : List Frame}
    (hgot : ∀ received ∈ got, received.messageLength ≤ s.maxMessageLength) :
    ∀ received ∈ (recvAllFrom got s).frames, received.messageLength ≤ s.maxMessageLength := by
  fun_induction recvAllFrom got s with
  | case1 got s _ => simpa using hgot
  | case2 got s _ halt s' _ => simpa using hgot
  | case3 got s _ frame s' hrecv ih =>
    have hmax : s'.maxMessageLength = s.maxMessageLength :=
      maxMessageLength_of_side (keeps_recv.ok hrecv)
    rw [hmax] at ih
    exact ih (List.forall_mem_cons.2 ⟨recv_within_limit hrecv, hgot⟩)

/-! ## 7. What the limit is a limit of -/

/-- **The limit is one of messages**: a run on these frames fails for a length exactly if a
fragment passes the limit, and at the first that does, with everything received that is complete
before; otherwise everything is received; and no message longer than the limit ever is. -/
structure LimitsMessages (s : Session) (frames : List WireFrame) : Prop where
  fails_iff : s.recvAll.halt = some (.failed (.webSocket .messageTooLong)) ↔
    ∃ early frame later, IsFirst (Passes s.maxMessageLength) 0 frames early frame later
  at_first : ∀ early frame later, IsFirst (Passes s.maxMessageLength) 0 frames early frame later →
    s.recvAll.StopsAt (Receiver.complete none early) frame later
  otherwise : (¬ ∃ early frame later,
    IsFirst (Passes s.maxMessageLength) 0 frames early frame later) →
    s.recvAll.Gets (Receiver.complete none frames)
  within_limit : ∀ received ∈ s.recvAll.frames, received.messageLength ≤ s.maxMessageLength

/-- What passes the limit is refused. -/
theorem refused_of_passes {limit : Nat} (n : Nat) (frame : WireFrame) (h : Passes limit n frame) :
    Refused limit n frame := .inl h

/-- A fragment is refused only because it passes the limit. -/
theorem passes_of_refused {limit : Nat} (hdata : frame.isControl = false) (n : Nat)
    (h : Refused limit n frame) : Passes limit n frame :=
  ⟨hdata, (WireFrame.refused_fragment hdata).1 h⟩

theorem recvAll_comesTo {frames : List WireFrame} (hfresh : s.Fresh)
    (hahead : s.reader.ahead = stream frames) (hproper : s.receiver.Proper none frames) :
    s.recvAll.ComesTo s.maxMessageLength none [] frames :=
  recvAllFrom_comesTo hfresh.holds hahead hproper []

/-- **A run stops at the first frame that is refused.** -/
theorem stopsAt_of_isFirst {frames early later : List WireFrame}
    (h : s.recvAll.ComesTo s.maxMessageLength none [] frames)
    (hfirst : IsFirst (Refused s.maxMessageLength) 0 frames early frame later) :
    s.recvAll.StopsAt (Receiver.complete none early) frame later := by
  rcases h with ⟨early', frame', later', hfirst', hstops⟩ | ⟨hnone, -⟩
  · obtain ⟨rfl, rfl, rfl⟩ := hfirst.unique hfirst'
    exact hstops
  · exact absurd ⟨_, _, _, hfirst⟩ hnone

/-- Where the limit is one of messages, the first frame that is refused is a fragment. -/
theorem LimitsMessages.isFirst_fragment {frames early later : List WireFrame}
    (h : s.LimitsMessages frames) (hrun : s.recvAll.ComesTo s.maxMessageLength none [] frames)
    (hfirst : IsFirst (Refused s.maxMessageLength) 0 frames early frame later) :
    frame.isControl = false := by
  have hstops := stopsAt_of_isFirst hrun hfirst
  obtain ⟨early', frame', later', hpasses⟩ := h.fails_iff.1 hstops.halt
  rcases hfirst.eq_or_before refused_of_passes hpasses with ⟨-, rfl, -⟩ | hbefore
  · obtain ⟨_, hdata, -⟩ := hpasses.holds
    exact hdata
  · -- The run would stand in front of two payloads at once.
    have hahead := (h.at_first _ _ _ hpasses).ahead
    rw [hstops.ahead] at hahead
    exact absurd hahead (WireFrame.payload_append_ne hbefore)

/-- Where the first frame that is refused is a fragment, the limit is one of messages. -/
theorem limitsMessages_of_fragment {frames : List WireFrame}
    (hrun : s.recvAll.ComesTo s.maxMessageLength none [] frames)
    (hdata : ∀ early frame later,
      IsFirst (Refused s.maxMessageLength) 0 frames early frame later → frame.isControl = false) :
    s.LimitsMessages frames := by
  have hpasses : ∀ {early frame later},
      IsFirst (Refused s.maxMessageLength) 0 frames early frame later →
        IsFirst (Passes s.maxMessageLength) 0 frames early frame later := fun hfirst =>
    hfirst.of_imp refused_of_passes (passes_of_refused (hdata _ _ _ hfirst))
  have hfirst : ∀ {early frame later},
      IsFirst (Passes s.maxMessageLength) 0 frames early frame later →
        IsFirst (Refused s.maxMessageLength) 0 frames early frame later := by
    intro early frame later h
    obtain ⟨_, _, _, hrefused⟩ := h.exists_of_imp refused_of_passes
    obtain ⟨rfl, rfl, rfl⟩ := h.unique (hpasses hrefused)
    exact hrefused
  refine ⟨⟨fun hhalt => ?_, ?_⟩, ?_, fun hnone => ?_, recvAllFrom_within_limit (by simp)⟩
  · rcases hrun with ⟨early, frame, later, hrefused, -⟩ | ⟨-, hgets⟩
    · exact ⟨_, _, _, hpasses hrefused⟩
    · exact absurd hhalt hgets.halt
  · rintro ⟨early, frame, later, h⟩
    exact (stopsAt_of_isFirst hrun (hfirst h)).halt
  · intro early frame later h
    exact stopsAt_of_isFirst hrun (hfirst h)
  · rcases hrun with ⟨early, frame, later, hrefused, -⟩ | ⟨-, hgets⟩
    · exact absurd ⟨_, _, _, hpasses hrefused⟩ hnone
    · exact hgets

/-- **On frames that follow the protocol the limit is one of messages exactly if the first frame
that is refused, if there is one, is a fragment**, so always where control frames of any length are
within it.  The run stops at that frame, whatever it is. -/
theorem limitsMessages_iff {frames : List WireFrame} (hfresh : s.Fresh)
    (hahead : s.reader.ahead = stream frames) (hproper : s.receiver.Proper none frames) :
    (s.LimitsMessages frames ↔
      ∀ early frame later, IsFirst (Refused s.maxMessageLength) 0 frames early frame later →
        frame.isControl = false) ∧
    (∀ early frame later, IsFirst (Refused s.maxMessageLength) 0 frames early frame later →
      s.recvAll.StopsAt (Receiver.complete none early) frame later) ∧
    ((¬ ∃ early frame later, IsFirst (Refused s.maxMessageLength) 0 frames early frame later) →
      s.recvAll.Gets (Receiver.complete none frames)) ∧
    (∀ received ∈ s.recvAll.frames, received.messageLength ≤ s.maxMessageLength) ∧
    (maxControl ≤ s.maxMessageLength → s.LimitsMessages frames) := by
  have hrun := recvAll_comesTo hfresh hahead hproper
  refine ⟨⟨fun h _ _ _ => h.isFirst_fragment hrun, limitsMessages_of_fragment hrun⟩, ?_, ?_,
    recvAllFrom_within_limit (by simp), ?_⟩
  · intro early frame later hfirst
    exact stopsAt_of_isFirst hrun hfirst
  · intro hnone
    rcases hrun with ⟨early, frame, later, hfirst, -⟩ | ⟨-, hgets⟩
    · exact absurd ⟨_, _, _, hfirst⟩ hnone
    · exact hgets
  · intro hmax
    refine limitsMessages_of_fragment hrun fun early frame later hfirst => ?_
    cases hcontrol : frame.isControl with
    | false => rfl
    | true =>
      obtain ⟨_, hrefused⟩ := hfirst.holds
      have hlong := (WireFrame.refused_control hcontrol).1 hrefused
      have hshort := Receiver.length_of_isFirst hproper hfirst hcontrol
      omega

/-- The first part of a binary message. -/
def firstPart : WireFrame where
  lead := [2, 5]
  header := ⟨false, .binary, none, 5⟩
  payload := [49, 50, 51, 52, 53]
  decodes := rfl
  length_payload := rfl

/-- A ping of five bytes. -/
def greeting : WireFrame where
  lead := [137, 5]
  header := ⟨true, .ping, none, 5⟩
  payload := [104, 101, 108, 108, 111]
  decodes := rfl
  length_payload := rfl

/-- The last part of a message. -/
def lastPart : WireFrame where
  lead := [128, 4]
  header := ⟨true, .continuation, none, 4⟩
  payload := [54, 55, 56, 57]
  decodes := rfl
  length_payload := rfl

/-- A client with this limit that is sent these bytes in two pieces. -/
def limited (limit : Nat) (first second : Bytes) : Session :=
  { reader := .ofInflow ⟨[first, second], .eof⟩
    outflow := {}
    link := 0
    entropy := {}
    isClient := true
    maxMessageLength := limit
    closeTimeout := .ofSeconds 30 }

/-- A message of nine bytes around a ping. -/
def ninth : Session :=
  limited 8 [2, 5, 49, 50, 51, 52, 53, 137, 5] [104, 101, 108, 108, 111, 128, 4, 54, 55, 56, 57]

/-- The message passes its limit with the last part, behind the ping. -/
theorem limitsMessages_iff_ninth :
    ninth.LimitsMessages [firstPart, greeting, lastPart] ∧
      ninth.recvAll.StopsAt [.ping (.ofPrefix [104, 101, 108, 108, 111])] lastPart [] := by
  have hproper : ninth.receiver.Proper none [firstPart, greeting, lastPart] :=
    ⟨rfl, rfl, rfl, trivial⟩
  obtain ⟨hiff, hstops, -⟩ := limitsMessages_iff (s := ninth) ⟨rfl, rfl, rfl⟩
    (show ninth.reader.ahead = stream [firstPart, greeting, lastPart] from rfl) hproper
  have hfirst : IsFirst (Refused 8) 0 [firstPart, greeting, lastPart] [firstPart, greeting]
      lastPart [] := by
    refine .tail ?_ (.tail ?_ (.head (.inl ⟨rfl, by decide⟩)))
    · rw [WireFrame.refused_fragment rfl]; decide
    · rw [WireFrame.refused_control rfl]; decide
  refine ⟨hiff.2 fun early frame later h => ?_, hstops _ _ _ hfirst⟩
  obtain ⟨-, rfl, -⟩ := h.unique hfirst
  rfl

/-- A client that is sent nothing but a ping longer than its limit. -/
def greeted : Session := limited 4 [137, 5, 104] [101, 108, 108, 111]

/-- **A ping that follows the protocol is refused as too long a message**, though no message is
there. -/
theorem not_limitsMessages_greeting :
    greeted.Fresh ∧ greeted.reader.ahead = stream [greeting] ∧
      greeted.receiver.Proper none [greeting] ∧
      greeted.recvAll.halt = some (.failed (.webSocket .messageTooLong)) ∧
      ¬ greeted.LimitsMessages [greeting] := by
  have hrun : greeted.recvAll.ComesTo greeted.maxMessageLength none [] [greeting] :=
    recvAll_comesTo ⟨rfl, rfl, rfl⟩ rfl ⟨rfl, trivial⟩
  have hfirst : IsFirst (Refused 4) 0 [greeting] [] greeting [] := .head (.inr ⟨rfl, by decide⟩)
  refine ⟨⟨rfl, rfl, rfl⟩, rfl, ⟨rfl, trivial⟩, (stopsAt_of_isFirst hrun hfirst).halt, ?_⟩
  intro hlimits
  have hdata := hlimits.isFirst_fragment hrun hfirst
  cases hdata

end Session

end WebSocket

end UrlTransfer
