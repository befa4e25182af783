/-
# One direction of a connection

A session has sent some frames, with keys of its own (`Posted`), and what is left of their bytes
stands in front of another session: in its buffer, in its stream, or still on the way.  The frames
are divided into those that the other session has taken and those that are left; the division is
what receiving moves.

`Receives` says how things stand while the receiving side is open.  Receiving the next part takes
one frame from the left to the right (`nextPart_receives`), or waits; it cannot fail.  A close frame
is the last frame that was sent, so that behind it nothing is left, neither ahead nor on the way
(`close_spent`).  `Standing` adds the two ways in which the receiving side is closed, and is kept by
receiving (`recv_standing`).
-/
import UrlTransfer.Proofs.WebSocket.Arriving
import UrlTransfer.Proofs.WebSocket.Closing
import UrlTransfer.Proofs.WebSocket.RoundTrip

namespace UrlTransfer

namespace WebSocket

/-! ## 1. Frames in two lists -/

/-- What is there of the message that is open behind these frames. -/
def openPart (before : Bytes) : List Outgoing → Bytes
  | [] => before
  | frame :: rest =>
    if frame.op.isControl then openPart before rest
    else if frame.fin then openPart [] rest
    else openPart (before ++ frame.payload) rest

section

variable (before : Bytes) (frames more : List Outgoing)

theorem collect_append :
    collect before (frames ++ more) =
      collect before frames ++ collect (openPart before frames) more := by
  induction frames generalizing before with
  | nil => rfl
  | cons frame rest ih =>
    simp only [List.cons_append, collect, openPart]
    split
    · rw [ih, List.cons_append]
    · split
      · rw [ih, List.cons_append]
      · exact ih _

theorem openPart_append :
    openPart before (frames ++ more) = openPart (openPart before frames) more := by
  induction frames generalizing before with
  | nil => rfl
  | cons frame rest ih =>
    simp only [List.cons_append, openPart]
    split
    · exact ih _
    · split
      · exact ih _
      · exact ih _

end

section

variable {before : Bytes} {frames more : List Outgoing} {n : Nat}

/-- What is said of all contents holds of those behind the first frames. -/
theorem contents_behind (h : ∀ content ∈ contents before (frames ++ more), content.length ≤ n) :
    ∀ content ∈ contents (openPart before frames) more, content.length ≤ n := by
  induction frames generalizing before with
  | nil => exact h
  | cons frame rest ih =>
    rw [List.cons_append, contents] at h
    rw [openPart]
    split at h
    · next hcontrol =>
      rw [if_pos hcontrol]
      exact ih h
    · next hdata =>
      rw [if_neg hdata]
      split at h
      · next hfin =>
        rw [if_pos hfin]
        exact ih fun content hmem => h content (List.mem_cons_of_mem _ hmem)
      · next hfin =>
        rw [if_neg hfin]
        exact ih h

/-- The part of a message that comes next. -/
theorem contents_part {frame : Outgoing} (hdata : frame.op.isControl = false)
    (h : ∀ content ∈ contents before (frame :: more), content.length ≤ n) :
    (before ++ frame.payload).length ≤ n := by
  rw [contents, if_neg (by simp [hdata])] at h
  split at h
  · exact h _ List.mem_cons_self
  · exact length_le_of_contents h

/-- What is said of all contents holds of those of the first frames. -/
theorem contents_front (h : ∀ content ∈ contents before (frames ++ more), content.length ≤ n) :
    ∀ content ∈ contents before frames, content.length ≤ n := by
  induction frames generalizing before with
  | nil =>
    intro content hmem
    rw [List.mem_singleton.1 hmem]
    exact length_le_of_contents h
  | cons frame rest ih =>
    rw [List.cons_append, contents] at h
    rw [contents]
    split at h
    · next hcontrol =>
      rw [if_pos hcontrol]
      exact ih h
    · next hdata =>
      rw [if_neg hdata]
      split at h
      · next hfin =>
        rw [if_pos hfin]
        intro content hmem
        rcases List.mem_cons.1 hmem with rfl | hmem
        · exact h _ List.mem_cons_self
        · exact ih (fun content hmem => h content (List.mem_cons_of_mem _ hmem)) content hmem
      · next hfin =>
        rw [if_neg hfin]
        exact ih h

end

namespace Session

/-! ## 2. Frames as they were sent -/

/-- A frame that was sent, with its masking key. -/
structure Posted where
  key : Option UInt32
  frame : Outgoing

/-- The frame closes. -/
def Posted.closes (p : Posted) : Prop := p.frame.op = .close

/-- The message that is open behind frames that were sent. -/
def sendingAfter (sending : Option Opcode) (all : List Posted) : Option Opcode :=
  all.foldl (fun sending p => sendingBehind sending p.frame) sending

theorem sendingAfter_append (sending : Option Opcode) (all more : List Posted) :
    sendingAfter sending (all ++ more) = sendingAfter (sendingAfter sending all) more :=
  List.foldl_append

/-- The bytes of frames that were sent. -/
def wire : Option Opcode → List Posted → Bytes
  | _, [] => []
  | sending, p :: rest =>
    frameBytes p.key (wireKind sending p.frame) p.frame ++ wire (sendingBehind sending p.frame) rest

theorem wire_append (sending : Option Opcode) (all more : List Posted) :
    wire sending (all ++ more) = wire sending all ++ wire (sendingAfter sending all) more := by
  induction all generalizing sending with
  | nil => rfl
  | cons p rest ih =>
    rw [List.cons_append, wire, wire, ih, List.append_assoc]
    rfl

/-- A session of this role can have sent the frame, with this message open. -/
structure Postable (isClient : Bool) (sending : Option Opcode) (p : Posted) : Prop where
  built : p.frame.Built
  length : p.frame.payload.length < 2 ^ 63
  fault : fault? sending p.frame = none
  masked : p.key.isSome = isClient

/-- It can have sent all of them one behind the other, **and a close frame only as the last**. -/
inductive Posts (isClient : Bool) : Option Opcode → List Posted → Prop where
  | nil (sending : Option Opcode) : Posts isClient sending []
  | cons {sending : Option Opcode} {p : Posted} {rest : List Posted} :
      Postable isClient sending p → (p.closes → rest = []) →
      Posts isClient (sendingBehind sending p.frame) rest → Posts isClient sending (p :: rest)

namespace Posts

variable {isClient : Bool} {sending : Option Opcode} {all more : List Posted}

/-- One more frame, where none of the others closes. -/
theorem concat {p : Posted} (h : Posts isClient sending all) (hopen : ∀ q ∈ all, ¬ q.closes)
    (hp : Postable isClient (sendingAfter sending all) p) :
    Posts isClient sending (all ++ [p]) := by
  induction h with
  | nil sending => exact .cons hp (fun _ => rfl) (.nil _)
  | cons hq _ _ ih =>
    refine .cons hq ?_ (ih (fun q hmem => hopen q (List.mem_cons_of_mem _ hmem)) hp)
    intro hcloses
    exact absurd hcloses (hopen _ List.mem_cons_self)

end Posts

/-! ## 3. Receiving one frame -/

/-- The frames that were sent. -/
def frames (all : List Posted) : List Outgoing := all.map Posted.frame

/-- The receiving side is open.  It has taken the frames `done` and returned what they come to; the
bytes of those that are left are ahead, or are `more`, which has not arrived. -/
structure Receives (isClient : Bool) (done left : List Posted) (more : Bytes)
    (message : Option Fragments) (s : Session) (returned : List Frame) : Prop where
  sync : (s.arrived more).InSync message
  awaits : Reader.Awaits s.reader.inflow.ending more
  role : s.isClient = !isClient
  mirrors : Mirrors (sendingAfter none done) message (openPart [] (frames done))
  taken : ∀ p ∈ done, ¬ p.closes
  posts : Posts isClient (sendingAfter none done) left
  ahead : s.reader.ahead ++ more = wire (sendingAfter none done) left
  returned : returned.map Outgoing.ofFrame = collect [] (frames done)

/-- How things stand between frames that were sent and a session that receives them; the sender is
gone only if `gone`. -/
inductive Standing (isClient : Bool) (all : List Posted) (more : Bytes) (gone : Prop)
    (s : Session) (returned : List Frame) : Prop where
  /-- The receiving side is open. -/
  | receiving {done left : List Posted} {message : Option Fragments} : done ++ left = all →
      Receives isClient done left more message s returned →
      Standing isClient all more gone s returned
  /-- The close frame was returned, **and everything before it**. -/
  | closed : s.readClosed = true → s.reader.ahead = [] → more = [] → (∃ p ∈ all, p.closes) →
      returned.map Outgoing.ofFrame = collect [] (frames all) →
      Standing isClient all more gone s returned
  /-- The end of the stream was returned, and everything before it. -/
  | ended {heard : List Frame} : s.readClosed = true → s.reader.ahead = [] → more = [] →
      s.reader.inflow.ending = .eof → gone →
      returned = heard ++ [.close CloseCode.noClose.number .empty] →
      heard.map Outgoing.ofFrame = collect [] (frames all) →
      Standing isClient all more gone s returned

/-- The session can receive these frames: no message is too long for it, and the stream does not end
before the sender is gone or has closed. -/
structure Suits (all : List Posted) (gone : Prop) (s : Session) : Prop where
  control : maxControl ≤ s.maxMessageLength
  messages : ∀ content ∈ contents [] (frames all), content.length ≤ s.maxMessageLength
  ended : s.reader.inflow.ending = .eof → gone ∨ ∃ p ∈ all, p.closes

/-- Receiving leaves it so. -/
theorem Suits.nextPart {all : List Posted} {more : Bytes} {gone : Prop} {s s' : Session}
    {o : Option Frame} (h : Suits all gone s) (hawaits : Reader.Awaits s.reader.inflow.ending more)
    (hnext : nextPart s = .ok o s') : Suits all gone s' := by
  have hlimit := congrArg maxMessageLength (keeps_nextPart.ok hnext)
  dsimp only [sendingSide] at hlimit
  refine ⟨?_, ?_, ?_⟩
  · rw [hlimit]
    exact h.control
  · rw [hlimit]
    exact h.messages
  · rw [ending_nextPart hawaits hnext]
    exact h.ended

section

variable {isClient : Bool} {done left : List Posted} {more : Bytes}
  {message : Option Fragments} {s : Session} {returned : List Frame}

theorem Receives.isOpen (h : Receives isClient done left more message s returned) :
    s.readClosed = false := h.sync.isOpen

/-- The next frame that is left can cross over. -/
theorem Receives.crosses {p : Posted} {rest : List Posted}
    (h : Receives isClient done (p :: rest) more message s returned) :
    Crosses s.receiver message (openPart [] (frames done)) (sendingAfter none done) p.key p.frame ∧
      (p.closes → rest = []) ∧
      Posts isClient (sendingBehind (sendingAfter none done) p.frame) rest := by
  have hposts := h.posts
  cases hposts with
  | cons hp hlast hrest =>
    refine ⟨⟨hp.built, hp.length, h.mirrors, hp.fault, ?_⟩, hlast, hrest⟩
    rw [hp.masked, show s.receiver.isClient = s.isClient from rfl, h.role]
    exact Bool.and_not_self _

/-- A header that is read is that of the next frame. -/
theorem Receives.readHeader {p : Posted} {rest : List Posted} {o : Option FrameHeader} {w : Session}
    (h : Receives isClient done (p :: rest) more message s returned)
    (hread : readHeader s = .ok o w) :
    o = some (wireHeader (sendingAfter none done) p.key p.frame) ∧
      w.reader.ahead ++ more = maskBy p.key (wirePayload p.frame) ++
        wire (sendingBehind (sendingAfter none done) p.frame) rest ∧
      w.reader.inflow.ending = s.reader.inflow.ending := by
  obtain ⟨hcrosses, -, -⟩ := h.crosses
  obtain ⟨w', hread', hbefore⟩ := prompt_readHeader.ok (before_arrived h.awaits) hread
  have hlength := length_wirePayload_lt hcrosses.fault hcrosses.length
  have hparse : FrameHeader.parser (s.arrived more).reader.ahead =
      .ok (some (wireHeader (sendingAfter none done) p.key p.frame),
        maskBy p.key (wirePayload p.frame) ++
          wire (sendingBehind (sendingAfter none done) p.frame) rest) := by
    have hahead : (s.arrived more).reader.ahead = _ := (s.reader.ahead_arrived more).trans h.ahead
    rw [hahead, wire, frameBytes_eq, List.append_assoc]
    exact FrameHeader.parser_encode hlength _
  have hstep := readHeader_step h.sync
  rw [hparse] at hstep
  dsimp only at hstep
  rw [show (s.arrived more).receiver = s.receiver from rfl,
    protocolFault?_wireHeader hcrosses.built hcrosses.mirrors hcrosses.fault hcrosses.mask] at hstep
  obtain ⟨r, hread'', hahead, -⟩ := hstep
  rw [hread'] at hread''
  obtain ⟨rfl, rfl⟩ := EStateM.Result.ok.inj hread''
  exact ⟨rfl, hbefore.reader.ahead.symm.trans hahead, hbefore.reader.ending⟩

/-- **Behind the payload of a close frame there is nothing**, and nothing is on the way. -/
theorem Receives.close_spent {p : Posted} {rest : List Posted} {hd : FrameHeader} {w u : Session}
    {got : Bytes} (h : Receives isClient done (p :: rest) more message s returned)
    (hread : Session.readHeader s = .ok (some hd) w) (hop : hd.op = .close)
    (hgot : onReader (readExact hd.length) w = .ok got u) :
    p.closes ∧ rest = [] ∧ u.reader.ahead = [] ∧ more = [] := by
  obtain ⟨-, hlast, -⟩ := h.crosses
  obtain ⟨hheader, hahead, hending⟩ := h.readHeader hread
  cases hheader
  have hcloses : p.closes := wireKind_eq_close.1 hop
  have hrest := hlast hcloses
  subst hrest
  rw [wire, List.append_nil] at hahead
  obtain ⟨r, hpayload, hu⟩ := onReader_ok hgot
  have hlength := congrArg List.length hahead
  rw [List.length_append, length_maskBy] at hlength
  obtain ⟨-, hthere, hdrop⟩ := readExact_ok hpayload
  have hall : (wirePayload p.frame).length ≤ w.reader.ahead.length := hthere
  have hmore : more = [] := List.eq_nil_of_length_eq_zero (by omega)
  refine ⟨hcloses, rfl, ?_, hmore⟩
  rw [hu]
  show r.ahead = []
  rw [hdrop]
  exact List.drop_eq_nil_of_le (by rw [hmore] at hlength; exact Nat.le_of_eq hlength)

/-- What receiving the next part comes to: it waits, takes a part of a message, or returns a frame.
**It does not fail.** -/
def Advances (isClient : Bool) (all : List Posted) (more : Bytes) (gone : Prop)
    (returned : List Frame) : EStateM.Result (Halt Error) Session (Option Frame) → Prop
  | .error .stalled _ => True
  | .error (.failed _) _ => False
  | .ok none s' => ∃ done left message, done ++ left = all ∧
      Receives isClient done left more message s' returned
  | .ok (some frame) s' => Standing isClient all more gone s' (returned ++ [frame])

variable {gone : Prop}

/-- One frame that does not close has been taken, and this is how things stand then. -/
theorem Receives.next {p : Posted} {rest : List Posted} {message' : Option Fragments}
    {s' : Session} {returned' : List Frame}
    (h : Receives isClient done (p :: rest) more message s returned) (hopen : ¬ p.closes)
    (hsync : (s'.arrived more).InSync message')
    (hending : s'.reader.inflow.ending = s.reader.inflow.ending)
    (hside : s'.receiver = s.receiver)
    (hahead : s'.reader.ahead ++ more = wire (sendingBehind (sendingAfter none done) p.frame) rest)
    (hmirrors : Mirrors (sendingBehind (sendingAfter none done) p.frame) message'
      (openPart (openPart [] (frames done)) [p.frame]))
    (hreturned : returned'.map Outgoing.ofFrame =
      collect [] (frames done) ++ collect (openPart [] (frames done)) [p.frame]) :
    Receives isClient (done ++ [p]) rest more message' s' returned' := by
  have hframes : frames (done ++ [p]) = frames done ++ [p.frame] := by simp [frames]
  have hsending : sendingAfter none (done ++ [p]) =
      sendingBehind (sendingAfter none done) p.frame := sendingAfter_append none done [p]
  obtain ⟨-, -, hposts⟩ := h.crosses
  refine ⟨hsync, by rw [hending]; exact h.awaits, ?_, ?_, ?_, ?_, ?_, ?_⟩
  · exact (congrArg Receiver.isClient hside).trans h.role
  · rw [hsending, hframes, openPart_append]
    exact hmirrors
  · intro q hmem
    rcases List.mem_append.1 hmem with hmem | hmem
    · exact h.taken q hmem
    · rw [List.mem_singleton.1 hmem]
      exact hopen
  · rw [hsending]
    exact hposts
  · rw [hsending]
    exact hahead
  · rw [hframes, collect_append]
    exact hreturned

/-- **In front of the last byte** receiving waits, or returns the end of the stream. -/
theorem advances_nil (h : Receives isClient done [] more message s returned)
    (hover : s.reader.inflow.ending = .eof → gone ∨ ∃ p ∈ done, p.closes) :
    Advances isClient done more gone returned (nextPart s) := by
  obtain ⟨hahead, hmore⟩ : s.reader.ahead = [] ∧ more = [] :=
    List.append_eq_nil_iff.1 h.ahead
  rcases h.awaits with hhang | ⟨hend, -⟩
  · obtain ⟨t, hwaits⟩ := nextPart_waits h.isOpen hahead hhang
    rw [hwaits]
    trivial
  · have hgone : gone := by
      rcases hover hend with hgone | ⟨p, hmem, hcloses⟩
      · exact hgone
      · exact absurd hcloses (h.taken p hmem)
    obtain ⟨r, hr, hrend, hnext⟩ := nextPart_end h.isOpen hahead hend
    rw [hnext]
    exact .ended rfl hr hmore hrend hgone rfl h.returned

/-- **A close frame** is returned behind everything before it. -/
theorem Receives.advances_close {p : Posted} {rest : List Posted} {given : Frame} {t : Session}
    (h : Receives isClient done (p :: rest) more message s returned) (hcloses : p.closes)
    (hgiven : Outgoing.ofFrame given = p.frame)
    (hnext : nextPart (s.arrived more) = .ok (some given) t) (hclosed : t.readClosed = true) :
    Advances isClient (done ++ p :: rest) more gone returned (nextPart s) := by
  have hcontrol : p.frame.op.isControl = true := by
    rw [show p.frame.op = .close from hcloses]
    rfl
  rcases prompt_nextPart.waits_or_ok (before_arrived h.awaits) hnext with
    ⟨u, hstall⟩ | ⟨s', hnext', hbehind⟩
  · rw [hstall]
    trivial
  · have hclosed' : s'.readClosed = true := by
      rw [hbehind.same] at hclosed
      exact hclosed
    obtain ⟨o, w, hread, -⟩ := Act.bind_eq_ok.1 hnext'
    obtain ⟨hheader, -, -⟩ := h.readHeader hread
    cases hheader
    obtain ⟨got, u, hgot, hdrain⟩ := nextPart_close hread (wireKind_eq_close.2 hcloses) hnext'
    obtain ⟨-, hrest, hspent, hmore⟩ :=
      h.close_spent hread (wireKind_eq_close.2 hcloses) hgot
    subst hrest
    have hahead : s'.reader.ahead = [] := by
      unfold drainIfClosed at hdrain
      split at hdrain
      · cases hdrain
        rfl
      · cases hdrain
        exact hspent
    rw [hnext']
    refine .closed hclosed' hahead hmore ⟨p, by simp, hcloses⟩ ?_
    rw [List.map_append, h.returned, show frames (done ++ [p]) = frames done ++ [p.frame] by
      simp [frames], collect_append]
    simp [collect, hcontrol, hgiven]

/-- **Any other frame** is taken in its place, with what it gives. -/
theorem Receives.advances_on {p : Posted} {rest : List Posted} {o : Option Frame} {t : Session}
    {message' : Option Fragments}
    (h : Receives isClient done (p :: rest) more message s returned) (hopen : ¬ p.closes)
    (hnext : nextPart (s.arrived more) = .ok o t) (hsync : t.InSync message')
    (hside : t.receiver = s.receiver)
    (hahead : t.reader.ahead = wire (sendingBehind (sendingAfter none done) p.frame) rest)
    (hmirrors : Mirrors (sendingBehind (sendingAfter none done) p.frame) message'
      (openPart (openPart [] (frames done)) [p.frame]))
    (hgiven : o.toList.map Outgoing.ofFrame = collect (openPart [] (frames done)) [p.frame]) :
    Advances isClient (done ++ p :: rest) more gone returned (nextPart s) := by
  have hreturned : (returned ++ o.toList).map Outgoing.ofFrame =
      collect [] (frames done) ++ collect (openPart [] (frames done)) [p.frame] := by
    rw [List.map_append, h.returned, hgiven]
  rcases nextPart_onward h.awaits hnext hsync with
    ⟨u, hstall⟩ | ⟨s', hnext', hsync', hside', hahead', hending⟩
  · rw [hstall]
    trivial
  · have hreceives := h.next hopen hsync' hending (hside'.trans hside) (hahead'.trans hahead)
      hmirrors hreturned
    rw [hnext']
    cases o with
    | none =>
      rw [Option.toList_none, List.append_nil] at hreceives
      exact ⟨done ++ [p], rest, message', by simp, hreceives⟩
    | some given => exact .receiving (by simp) hreceives

/-- **Receiving takes the next frame that is left**, or waits for it. -/
theorem nextPart_receives (h : Receives isClient done left more message s returned)
    (hsuits : Suits (done ++ left) gone s) :
    Advances isClient (done ++ left) more gone returned (nextPart s) := by
  cases left with
  | nil =>
    rw [List.append_nil] at hsuits ⊢
    exact advances_nil h hsuits.ended
  | cons p rest =>
    obtain ⟨hcrosses, hlast, hposts⟩ := h.crosses
    have hparts : p.frame.op.isControl = false →
        (openPart [] (frames done) ++ p.frame.payload).length ≤ s.receiver.maxMessageLength := by
      intro hdata
      have hall : frames (done ++ p :: rest) = frames done ++ p.frame :: frames rest := by
        simp [frames]
      have hmessages := hsuits.messages
      rw [hall] at hmessages
      exact contents_part hdata (contents_behind hmessages)
    -- What the session does where everything has arrived and the stream has ended.
    have hahead : (s.arrived more).reader.ahead = wire (sendingAfter none done) (p :: rest) :=
      (s.reader.ahead_arrived more).trans h.ahead
    have htoken := nextToken?_frameBytes
      (length_wirePayload_lt hcrosses.fault hcrosses.length) (sendingAfter none done) p.key
      (wire (sendingBehind (sendingAfter none done) p.frame) rest)
    have hstep := nextPart_step h.sync hsuits.control
    rw [hahead, wire, htoken] at hstep
    dsimp only at hstep
    rw [Receiver.step, show (s.arrived more).receiver = s.receiver from rfl,
      fault?_wireHeader hcrosses.built hcrosses.mirrors hcrosses.fault hcrosses.mask hparts]
      at hstep
    cases hcontrol : p.frame.op.isControl with
    | true =>
      obtain ⟨given, hgiven, hwith⟩ :=
        frameWith_control hcrosses.built hcontrol hcrosses.fault message p.key
      rw [hwith] at hstep
      by_cases hcloses : p.closes
      · rw [if_pos (show p.frame.op = .close from hcloses)] at hstep
        obtain ⟨t, hnext, hclosed⟩ := hstep
        exact h.advances_close hcloses hgiven hnext hclosed
      · rw [if_neg (show ¬ p.frame.op = .close from hcloses)] at hstep
        obtain ⟨t, hnext, hsync, hside, hrest⟩ := hstep
        refine h.advances_on hcloses hnext hsync hside hrest ?_ ?_
        · simpa [sendingBehind, openPart, hcontrol] using hcrosses.mirrors
        · simp [collect, hcontrol, hgiven]
    | false =>
      have hcloses : ¬ p.closes := ne_close_of_data hcontrol
      have hwith := frameWith_part hcrosses.built hcontrol hcrosses.mirrors hcrosses.fault p.key
      cases hfin : p.frame.fin with
      | true =>
        rw [if_pos hfin] at hwith
        obtain ⟨given, hgiven, hwith⟩ := hwith
        rw [hwith] at hstep
        obtain ⟨t, hnext, hsync, hside, hrest⟩ := hstep
        refine h.advances_on hcloses hnext hsync hside hrest ?_ ?_
        · simpa [sendingBehind, openPart, hcontrol, hfin] using Mirrors.fresh
        · simp [collect, hcontrol, hfin, hgiven]
      | false =>
        rw [if_neg (by simp [hfin])] at hwith
        obtain ⟨message', hmirrors, hwith⟩ := hwith
        rw [hwith] at hstep
        obtain ⟨t, hnext, hsync, hside, hrest⟩ := hstep
        refine h.advances_on hcloses hnext hsync hside hrest ?_ ?_
        · simpa [openPart, hcontrol, hfin] using hmirrors
        · simp [collect, hcontrol, hfin]

/-! ## 4. Receiving -/

/-- What receiving comes to: it waits, it fails because the receiving side is closed, or it returns
a frame. -/
def Conveys (isClient : Bool) (all : List Posted) (more : Bytes) (gone : Prop) (s : Session)
    (returned : List Frame) : EStateM.Result (Halt Error) Session Frame → Prop
  | .error .stalled _ => True
  | .error (.failed e) s' => e = .shutdown ∧ s.readClosed = true ∧ s' = s
  | .ok frame s' => Standing isClient all more gone s' (returned ++ [frame]) ∧
      s'.reader.inflow.ending = s.reader.inflow.ending

theorem recv_receives {all : List Posted}
    (h : Receives isClient done left more message s returned) (hall : done ++ left = all)
    (hsuits : Suits all gone s) :
    Conveys isClient all more gone s returned (recv s) := by
  -- On what is ahead of the session: a part of a message that goes on shortens it.
  induction hsize : s.ahead using Nat.strongRecOn generalizing s done left message with
  | ind size ih =>
    have hadvances := nextPart_receives h (by rw [hall]; exact hsuits)
    rw [hall] at hadvances
    cases hnext : nextPart s with
    | error halt s' =>
      rw [hnext] at hadvances
      rw [recv_error hnext]
      cases halt with
      | stalled => trivial
      | failed e => exact hadvances.elim
    | ok o s' =>
      rw [hnext] at hadvances
      have hending := ending_nextPart h.awaits hnext
      cases o with
      | some frame =>
        rw [recv_frame hnext]
        exact ⟨hadvances, hending⟩
      | none =>
        obtain ⟨done', left', message', hall', hreceives⟩ := hadvances
        have hrest := ih s'.ahead (hsize ▸ progress_nextPart hnext) hreceives hall'
          (hsuits.nextPart h.awaits hnext) rfl
        have hopen := hreceives.isOpen
        rw [recv_part hnext]
        cases hrecv : recv s' with
        | error halt t =>
          rw [hrecv] at hrest
          cases halt with
          | stalled => trivial
          | failed e =>
            obtain ⟨-, hclosed, -⟩ := hrest
            rw [hopen] at hclosed
            cases hclosed
        | ok frame t =>
          rw [hrecv] at hrest
          exact ⟨hrest.1, hrest.2.trans hending⟩

/-- **Receiving conveys**: nothing is lost, changed or returned out of its place, and nothing fails
but what comes behind the end. -/
theorem recv_standing {all : List Posted} (h : Standing isClient all more gone s returned)
    (hsuits : Suits all gone s) :
    Conveys isClient all more gone s returned (recv s) := by
  cases h with
  | receiving hall hreceives => exact recv_receives hreceives hall hsuits
  | closed hclosed _ _ _ _ =>
    rw [recv_shut hclosed]
    exact ⟨rfl, hclosed, rfl⟩
  | ended hclosed _ _ _ _ _ _ =>
    rw [recv_shut hclosed]
    exact ⟨rfl, hclosed, rfl⟩

/-! ## 5. Draining -/

/-- A call in the session `s` drains, and the session is `u` then. -/
inductive DrainsAt (s u : Session) : Prop where
  | sending {frame : Outgoing} : write frame s = .ok () u → frame.op = .close →
      u.isClosed = true → DrainsAt s u
  | receiving {v w : Session} {h : FrameHeader} {got : Bytes} : ReadsAt s v →
      Session.readHeader v = .ok (some h) w → h.op = .close →
      onReader (readExact h.length) w = .ok got u → u.isClosed = true → DrainsAt s u

/-- A closed receiving side reads no header. -/
theorem ReadsAt.shut {v w : Session} {o : Option FrameHeader} (hat : ReadsAt s v)
    (hclosed : s.readClosed = true) : Session.readHeader v ≠ .ok o w := by
  intro hread
  cases hat with
  | first =>
    rw [readHeader_shut hclosed] at hread
    cases hread
  | next hnext _ =>
    rw [show Session.nextPart s = _ from Act.bind_error (readHeader_shut hclosed)] at hnext
    cases hnext

/-- The receiving side is closed only where nothing is left. -/
theorem Standing.spent {all : List Posted} (h : Standing isClient all more gone s returned)
    (hclosed : s.readClosed = true) : s.reader.ahead = [] ∧ more = [] := by
  cases h with
  | receiving _ hreceives =>
    rw [hreceives.isOpen] at hclosed
    cases hclosed
  | closed _ hahead hmore _ _ => exact ⟨hahead, hmore⟩
  | ended _ hahead hmore _ _ _ _ => exact ⟨hahead, hmore⟩

/-- In front of nothing there is no header. -/
theorem Receives.no_header {h : FrameHeader} {w : Session}
    (hreceives : Receives isClient done [] more message s returned) :
    Session.readHeader s ≠ .ok (some h) w := by
  intro hread
  obtain ⟨w', hread', -⟩ := prompt_readHeader.ok (before_arrived hreceives.awaits) hread
  have hahead : (s.arrived more).reader.ahead = [] :=
    (s.reader.ahead_arrived more).trans hreceives.ahead
  have hstep := readHeader_step hreceives.sync
  rw [hahead] at hstep
  obtain ⟨t, hnone, -⟩ := hstep
  rw [hread'] at hnone
  cases hnone

theorem Receives.drains {all : List Posted} {v w u : Session} {h : FrameHeader} {got : Bytes}
    (hreceives : Receives isClient done left more message s returned) (hall : done ++ left = all)
    (hsuits : Suits all gone s)
    (hat : ReadsAt s v) (hread : Session.readHeader v = .ok (some h) w) (hop : h.op = .close)
    (hgot : onReader (readExact h.length) w = .ok got u) : u.reader.ahead = [] ∧ more = [] := by
  induction hat generalizing done left message with
  | first s =>
    cases left with
    | nil => exact absurd hread hreceives.no_header
    | cons p rest =>
      obtain ⟨-, -, hspent, hmore⟩ := hreceives.close_spent hread hop hgot
      exact ⟨hspent, hmore⟩
  | next hnext _ ih =>
    have hadvances := nextPart_receives hreceives (by rw [hall]; exact hsuits)
    rw [hall, hnext] at hadvances
    obtain ⟨done', left', message', hall', hreceives'⟩ := hadvances
    exact ih hreceives' hall' (hsuits.nextPart hreceives.awaits hnext) hread

/-- **Draining throws nothing away**: all that was sent has been returned, or is being returned by
the call that drains. -/
theorem drains_nothing {all : List Posted} {u : Session}
    (h : Standing isClient all more gone s returned) (hsuits : Suits all gone s)
    (hat : DrainsAt s u) :
    u.reader.ahead = [] ∧ more = [] := by
  cases hat with
  | @sending frame hwrite hop hclosed =>
    have hside := (keeps_write frame).ok hwrite
    have hreader := congrArg reader hside
    have hread := congrArg readClosed hside
    dsimp only [receivingSide] at hreader hread
    rw [hreader]
    refine h.spent ?_
    rw [← hread]
    unfold isClosed at hclosed
    rw [Bool.and_eq_true] at hclosed
    exact hclosed.1
  | receiving hreads hread hop hgot _ =>
    cases h with
    | receiving hall hreceives => exact hreceives.drains hall hsuits hreads hread hop hgot
    | closed hclosed hahead hmore hcloses hheard => exact absurd hread (hreads.shut hclosed)
    | ended hclosed hahead hmore hend hgone hreturned hheard =>
      exact absurd hread (hreads.shut hclosed)

/-! ## 6. What happens apart from receiving -/

/-- One more piece of the stream has arrived. -/
def bring (piece : Bytes) (s : Session) : Session :=
  { s with reader := { s.reader with
      inflow := ⟨s.reader.inflow.pieces ++ [piece], s.reader.inflow.ending⟩ } }

/-- The end of the stream has arrived. -/
def finish (s : Session) : Session :=
  { s with reader := { s.reader with inflow := ⟨s.reader.inflow.pieces, .eof⟩ } }

@[simp] theorem ahead_bring (piece : Bytes) (s : Session) :
    (s.bring piece).reader.ahead = s.reader.ahead ++ piece := by
  simp [bring, Reader.ahead, Inflow.rest]

section

variable {all : List Posted} {s' : Session}

/-- What sending changes does not count. -/
theorem Receives.congr (h : Receives isClient done left more message s returned)
    (hside : s'.receivingSide = s.receivingSide) :
    Receives isClient done left more message s' returned := by
  have hopen := congrArg readClosed hside
  have hcontinuing := congrArg continuing hside
  have hmessage := congrArg Session.message hside
  have hreader := congrArg reader hside
  have hrole := congrArg Session.isClient hside
  dsimp only [receivingSide] at hopen hcontinuing hmessage hreader hrole
  refine ⟨⟨hopen.trans h.isOpen, hcontinuing.trans h.sync.continuing,
    hmessage.trans h.sync.message, rfl⟩, ?_, hrole.trans h.role, h.mirrors, h.taken, h.posts, ?_,
    h.returned⟩
  · rw [hreader]
    exact h.awaits
  · rw [hreader]
    exact h.ahead

theorem Standing.congr (h : Standing isClient all more gone s returned)
    (hside : s'.receivingSide = s.receivingSide) : Standing isClient all more gone s' returned := by
  have hopen := congrArg readClosed hside
  have hreader := congrArg reader hside
  dsimp only [receivingSide] at hopen hreader
  cases h with
  | receiving hall hreceives => exact .receiving hall (hreceives.congr hside)
  | closed hclosed hahead hmore hcloses hheard =>
    exact .closed (hopen.trans hclosed) (by rw [hreader]; exact hahead) hmore hcloses hheard
  | ended hclosed hahead hmore hend hgone hreturned hheard =>
    exact .ended (hopen.trans hclosed) (by rw [hreader]; exact hahead) hmore
      (by rw [hreader]; exact hend) hgone hreturned hheard

/-- Draining finds nothing. -/
theorem Standing.drain (h : Standing isClient all more gone s returned)
    (hdrain : drainIfClosed s = .ok () s') : Standing isClient all more gone s' returned := by
  unfold drainIfClosed at hdrain
  split at hdrain
  · next hboth =>
    cases hdrain
    cases h with
    | receiving _ hreceives =>
      rw [isClosed, hreceives.isOpen] at hboth
      cases hboth
    | closed hclosed _ hmore hcloses hheard => exact .closed hclosed rfl hmore hcloses hheard
    | ended hclosed _ hmore hend hgone hreturned hheard =>
      exact .ended hclosed rfl hmore hend hgone hreturned hheard
  · cases hdrain
    exact h

theorem drainIfClosed_keeps {s s' : Session} (hdrain : drainIfClosed s = .ok () s') :
    s'.reader.inflow.ending = s.reader.inflow.ending ∧
      s'.maxMessageLength = s.maxMessageLength := by
  unfold drainIfClosed at hdrain
  split at hdrain <;> (cases hdrain; exact ⟨rfl, rfl⟩)

/-- Sending may drain behind a close frame, and does nothing else to what is received. -/
theorem after_send (s : Session) (frame : Outgoing) :
    ∃ t : Session, t.receivingSide = s.receivingSide ∧
      (Act.after (send frame) s = t ∨ drainIfClosed t = .ok () (Act.after (send frame) s)) := by
  refine ⟨Act.after (write frame) s, keeps_write frame s, ?_⟩
  unfold send
  cases hwrite : write frame s with
  | error halt t =>
    rw [Act.after_bind_error hwrite, Act.after_error hwrite]
    exact .inl rfl
  | ok u t =>
    rw [Act.after_bind_ok hwrite, Act.after_ok hwrite]
    split
    · obtain ⟨t', hdrain, -⟩ := drainIfClosed_run t
      rw [Act.after_ok hdrain]
      exact .inr hdrain
    · exact .inl rfl

/-- The sender gives up. -/
theorem Standing.mono {gone' : Prop} (h : Standing isClient all more gone s returned)
    (hgone : gone → gone') : Standing isClient all more gone' s returned := by
  cases h with
  | receiving hall hreceives => exact .receiving hall hreceives
  | closed hclosed hahead hmore hcloses hheard => exact .closed hclosed hahead hmore hcloses hheard
  | ended hclosed hahead hmore hend hg hreturned hheard =>
    exact .ended hclosed hahead hmore hend (hgone hg) hreturned hheard

/-- **A piece arrives** of what was on the way. -/
theorem Standing.bring (h : Standing isClient all more gone s returned) (n : Nat) :
    Standing isClient all (more.drop n) gone (s.bring (more.take n)) returned := by
  cases h with
  | receiving hall hreceives =>
    refine .receiving hall ⟨⟨hreceives.isOpen, hreceives.sync.continuing, hreceives.sync.message,
      rfl⟩, ?_, hreceives.role, hreceives.mirrors, hreceives.taken, hreceives.posts, ?_,
      hreceives.returned⟩
    · rcases hreceives.awaits with hhang | ⟨hend, rfl⟩
      · exact .inl hhang
      · exact .inr ⟨hend, List.drop_nil⟩
    · rw [ahead_bring, List.append_assoc, List.take_append_drop]
      exact hreceives.ahead
  | closed hclosed hahead hmore hcloses hheard =>
    subst hmore
    refine .closed hclosed ?_ List.drop_nil hcloses hheard
    rw [ahead_bring, hahead, List.take_nil]
    rfl
  | ended hclosed hahead hmore hend hgone hreturned hheard =>
    subst hmore
    refine .ended hclosed ?_ List.drop_nil hend hgone hreturned hheard
    rw [ahead_bring, hahead, List.take_nil]
    rfl

/-- **The stream ends**, where nothing is on the way any more. -/
theorem Standing.finish (h : Standing isClient all [] gone s returned) :
    Standing isClient all [] gone s.finish returned := by
  cases h with
  | receiving hall hreceives =>
    exact .receiving hall ⟨⟨hreceives.isOpen, hreceives.sync.continuing, hreceives.sync.message,
      rfl⟩, .inr ⟨rfl, rfl⟩, hreceives.role, hreceives.mirrors, hreceives.taken, hreceives.posts,
      hreceives.ahead, hreceives.returned⟩
  | closed hclosed hahead hmore hcloses hheard => exact .closed hclosed hahead hmore hcloses hheard
  | ended hclosed hahead hmore hend hgone hreturned hheard =>
    exact .ended hclosed hahead hmore rfl hgone hreturned hheard

/-- **One more frame is sent**, by a sender that is there and has not closed. -/
theorem Standing.post {p : Posted} (h : Standing isClient all more gone s returned)
    (hgone : ¬ gone) (hopen : ∀ q ∈ all, ¬ q.closes)
    (hhang : s.reader.inflow.ending = .eof → gone ∨ ∃ q ∈ all, q.closes)
    (hp : Postable isClient (sendingAfter none all) p) :
    Standing isClient (all ++ [p])
      (more ++ frameBytes p.key (wireKind (sendingAfter none all) p.frame) p.frame) gone s
      returned := by
  cases h with
  | @receiving done left message hall hreceives =>
    subst hall
    rw [sendingAfter_append] at hp ⊢
    have hawaits : s.reader.inflow.ending = .hang := by
      rcases hreceives.awaits with hawaits | ⟨hend, -⟩
      · exact hawaits
      · rcases hhang hend with hg | ⟨q, hmem, hcloses⟩
        · exact absurd hg hgone
        · exact absurd hcloses (hopen q hmem)
    refine .receiving (List.append_assoc _ _ _).symm ⟨⟨hreceives.isOpen, hreceives.sync.continuing,
      hreceives.sync.message, rfl⟩, .inl hawaits, hreceives.role, hreceives.mirrors,
      hreceives.taken, ?_, ?_, hreceives.returned⟩
    · exact hreceives.posts.concat
        (fun q hmem => hopen q (List.mem_append_right done hmem)) hp
    · rw [← List.append_assoc, hreceives.ahead, wire_append]
      simp [wire]
  | closed _ _ _ hcloses _ =>
    obtain ⟨q, hmem, hq⟩ := hcloses
    exact absurd hq (hopen q hmem)
  | ended _ _ _ _ hg _ _ => exact absurd hg hgone

end

end

end Session

end WebSocket

end UrlTransfer
