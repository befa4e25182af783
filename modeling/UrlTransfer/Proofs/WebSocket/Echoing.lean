/-
# What an echo service writes

`echoed` says what is due for each frame that is received: the message itself, a pong for a ping,
nothing for a pong, and a close frame for a close frame, unless its code is the one that stands for
the end of the stream.  An echo service writes exactly this, for all that is received on the bytes
of the client, and nothing behind it (`echo_writes`).

What carries it is that a session that echoes is always ready to answer (`Ready`).  It has no
message of its own begun, and it closes its sending side only behind the close frame of the client,
which is the last that it receives.  So no answer is refused (`refusal?_reply`), and every answer
leaves the session level with what it was before it, for what is received (`answer_run`).
-/
import UrlTransfer.Cli.Run
import UrlTransfer.Proofs.WebSocket.Halves
import UrlTransfer.Proofs.WebSocket.Upgrading

namespace UrlTransfer

open Act (after Keeps)

namespace WebSocket

/-! ## 1. What is due -/

/-- A frame that is neither masked nor a part of a message. -/
def plainFrame (op : Opcode) (payload : Bytes) : Bytes :=
  FrameHeader.encode ⟨true, op, none, payload.length⟩ ++ payload

/-- What is written for a frame that was received. -/
def echoed : Frame → Bytes
  | .text content => plainFrame .text (Bytes.ofString content)
  | .binary content => plainFrame .binary content
  | .ping payload => plainFrame .pong payload.content
  | .pong _ => []
  | .close code reason =>
    if code = 1006 then []
    else plainFrame .close (Bytes.ofNat 2 (if code = 1005 then 1000 else code) ++ reason.content)

theorem echoed_of_none {frame : Frame} (h : reply? frame = none) : echoed frame = [] := by
  cases frame with
  | pong payload => rfl
  | close code reason =>
    simp only [reply?] at h
    split at h
    · next hcode => exact if_pos hcode
    · cases h
  | _ => cases h

/-- Where no message is begun, a frame is sent as what it is. -/
theorem frameBytes_plain {reply : Outgoing} (hfin : reply.fin = true) :
    Session.frameBytes none (Session.wireKind none reply) reply =
      plainFrame reply.op
        ((if reply.op = .close then Bytes.ofNat 2 reply.closeCode else []) ++ reply.payload) := by
  simp [Session.frameBytes, Session.wireKind, plainFrame, maskBy, hfin]

/-- **The answer to a frame is what is due for it.** -/
theorem echoed_of_some {frame : Frame} {reply : Outgoing} (h : reply? frame = some reply) :
    Session.frameBytes none (Session.wireKind none reply) reply = echoed frame := by
  cases frame with
  | ping payload => cases h; exact frameBytes_plain rfl
  | pong payload => cases h
  | text content => cases h; exact frameBytes_plain rfl
  | binary content => cases h; exact frameBytes_plain rfl
  | close code reason =>
    simp only [reply?] at h
    split at h
    · cases h
    · next hcode =>
      cases h
      rw [frameBytes_plain rfl]
      exact (if_neg hcode).symm

namespace Session

/-! ## 2. Answers -/

/-- The session is ready to answer. -/
structure Ready (s : Session) : Prop where
  server : s.isClient = false
  canWrite : s.writeClosed = false
  sending : s.sending = none
  takes : s.outflow.Takes

theorem Ready.congr {s t : Session} (h : s.Ready) (hside : t.sendingSide = s.sendingSide) :
    t.Ready where
  server := (congrArg Session.isClient hside).trans h.server
  canWrite := (congrArg Session.writeClosed hside).trans h.canWrite
  sending := (congrArg Session.sending hside).trans h.sending
  takes := by rw [outflow_of_side hside]; exact h.takes

/-- A close frame is answered by a close frame, and nothing else is. -/
theorem op_reply {frame : Frame} {closed : Bool} (harrives : Arrives frame closed)
    {reply : Outgoing} (h : reply? frame = some reply) :
    (reply.op = .close ↔ closed = true) ∧ reply.fin = true := by
  cases harrives with
  | pong payload => cases h
  | close code room =>
    simp only [reply?] at h
    split at h
    · cases h
    · cases h; simp [Outgoing.close]
  | _ => cases h; simp [Outgoing.pong, Outgoing.ofFrame, Outgoing.ofText, Outgoing.ofBytes]

/-- **What was received can be answered.** -/
theorem refusal?_reply {s : Session} (hready : s.Ready) {frame : Frame} {closed : Bool}
    (harrives : Arrives frame closed) {reply : Outgoing} (h : reply? frame = some reply) :
    s.refusal? reply = none := by
  have hfault : fault? none reply = none := by
    refine fault?_fresh fun hcontrol => ?_
    cases harrives with
    | ping payload => cases h; exact payload.length_le
    | pong payload => cases h
    | text content => cases h; exact absurd hcontrol (show ¬ Opcode.text.isControl from by decide)
    | binary content =>
      cases h; exact absurd hcontrol (show ¬ Opcode.binary.isControl from by decide)
    | close code room =>
      simp only [reply?] at h
      split at h
      · cases h
      · cases h
        exact Nat.le_sub_of_add_le room
  unfold refusal?
  rw [hready.canWrite, hready.sending, hfault]
  rfl

/-- A session that may send answers a frame by sending the reply, if there is one. -/
theorem answer_open {s : Session} (hopen : s.writeClosed = false) (frame : Frame) :
    answer frame s = match reply? frame with
      | none => .ok () s
      | some reply => send reply s := by
  have hget : (get : Act Error Session Session) s = .ok s s := rfl
  unfold answer
  rw [Act.bind_ok hget, hopen]
  cases reply? frame <;> rfl

/-- The frame has been answered: what is due was written, and receiving goes on as before. -/
structure Answered (s : Session) (frame : Frame) (s' : Session) : Prop where
  sent : s'.outflow.sent = s.outflow.sent ++ echoed frame
  level : Level s' s
  ready : s.readClosed = false → s'.Ready

theorem EndsIn.after {x : Act Error Session Unit} {s s' : Session} (h : EndsIn (x s) s') :
    Act.after x s = s' := by
  rcases h with h | ⟨e, h⟩
  · exact Act.after_ok h
  · exact Act.after_error h

/-- What a server writes for a reply. -/
theorem Writes.echoed {s s' : Session} {frame : Frame} {reply : Outgoing} {key : Option UInt32}
    (hwrites : Writes s reply key s') (hready : s.Ready) (h : reply? frame = some reply) :
    s'.outflow.sent = s.outflow.sent ++ echoed frame := by
  have hkey : key = none := by
    have hmasked := hwrites.masked
    rw [hready.server] at hmasked
    exact Option.isSome_eq_false_iff.1 hmasked |> Option.isNone_iff_eq_none.1
  rw [hwrites.sent, hkey, hready.sending, echoed_of_some h]

/-- **Every frame is answered**, and only behind the last one may the connection fail. -/
theorem answer_run {s : Session} (hready : s.Ready) {frame : Frame}
    (harrives : Arrives frame s.readClosed) :
    ∃ s', Answered s frame s' ∧ EndsIn (answer frame s) s' ∧
      (s.readClosed = false → answer frame s = .ok () s') := by
  rw [answer_open hready.canWrite]
  cases hreply : reply? frame with
  | none =>
    refine ⟨s, ⟨?_, .refl s, fun _ => hready⟩, .inl rfl, fun _ => rfl⟩
    rw [echoed_of_none hreply, List.append_nil]
  | some reply =>
    have haccepted := refusal?_reply hready harrives hreply
    obtain ⟨hop, hfin⟩ := op_reply harrives hreply
    have hlevel := send_level reply s
    cases hclosed : s.readClosed with
    | true =>
      obtain ⟨key, s', hwrites, hends⟩ := send_accepted hready.takes haccepted
      rw [hends.after] at hlevel
      refine ⟨s', ⟨hwrites.echoed hready hreply, hlevel, ?_⟩, hends, nofun⟩
      rw [hclosed]
      nofun
    | false =>
      have hdata : reply.op ≠ .close := by
        rw [Ne, hop, hclosed]
        exact Bool.false_ne_true
      obtain ⟨key, s', hwrites, hsend⟩ := send_data hready.takes hdata haccepted
      rw [Act.after_ok hsend] at hlevel
      refine ⟨s', ⟨hwrites.echoed hready hreply, hlevel, fun _ => ⟨?_, ?_, ?_, hwrites.takes⟩⟩,
        .inl hsend, fun _ => hsend⟩
      · rw [hwrites.isClient, hready.server]
      · rw [hwrites.writeClosed]
        exact beq_eq_false_iff_ne.2 hdata
      · rw [hwrites.sending, sendingBehind, hready.sending, hfin]
        split <;> rfl

/-! ## 3. A run -/

theorem echo_closed {s : Session} (hclosed : s.readClosed = true) : echo s = .ok () s := by
  rw [echo, if_pos hclosed]

theorem echo_error {s s' : Session} {halt : Halt Error} (hopen : s.readClosed = false)
    (h : recv s = .error halt s') : echo s = .error halt s' := by
  rw [echo, if_neg (by simp [hopen])]
  split
  · next h' => rw [h] at h'; cases h'; rfl
  · next h' => rw [h] at h'; cases h'

theorem echo_failed {s s' s'' : Session} {frame : Frame} {halt : Halt Error}
    (hopen : s.readClosed = false) (h : recv s = .ok frame s')
    (hanswer : answer frame s' = .error halt s'') : echo s = .error halt s'' := by
  rw [echo, if_neg (by simp [hopen])]
  split
  · next h' => rw [h] at h'; cases h'
  · next h' =>
    rw [h] at h'
    cases h'
    split
    · next h' => rw [hanswer] at h'; cases h'; rfl
    · next h' => rw [hanswer] at h'; cases h'

theorem echo_answered {s s' s'' : Session} {frame : Frame} (hopen : s.readClosed = false)
    (h : recv s = .ok frame s') (hanswer : answer frame s' = .ok () s'') : echo s = echo s'' := by
  rw [echo, if_neg (by simp [hopen])]
  split
  · next h' => rw [h] at h'; cases h'
  · next h' =>
    rw [h] at h'
    cases h'
    split
    · next h' => rw [hanswer] at h'; cases h'
    · next h' => rw [hanswer] at h'; cases h'; rfl

/-- What becomes of a session that is echoed. -/
structure Echoes (s : Session) : Prop where
  /-- What is written is what is due for each frame that is received. -/
  sent : (after echo s).outflow.sent = s.outflow.sent ++ s.recvAll.frames.flatMap echoed
  /-- The service ends with what keeps it from receiving, -/
  halts : ∀ {halt : Halt Error}, s.recvAll.halt = some halt → ∃ t, echo s = .error halt t
  /-- or behind a close frame, where the connection may not let itself be ended. -/
  ends : s.recvAll.halt = none → EndsIn (echo s) (after echo s)

theorem Echoes.of_closed {s : Session} (hclosed : s.readClosed = true) : s.Echoes := by
  have hrun := echo_closed hclosed
  have hall := recvAll_closed hclosed
  refine ⟨?_, fun h => ?_, fun _ => ?_⟩
  · rw [Act.after_ok hrun, hall]
    exact (List.append_nil _).symm
  · rw [hall] at h
    cases h
  · rw [Act.after_ok hrun]
    exact .inl hrun

/-- **An echo service writes what is due**, whatever the client sends. -/
theorem echo_writes {s : Session} (hready : s.readClosed = false → s.Ready) : s.Echoes := by
  -- On what is ahead: each frame is received, answered, and then the rest is echoed.
  induction hsize : s.ahead using Nat.strongRecOn generalizing s with
  | ind size ih =>
    cases hopen : s.readClosed with
    | true => exact .of_closed hopen
    | false =>
      cases hrecv : recv s with
      | error halt s' =>
        have hrun := echo_error hopen hrecv
        have hall := recvAll_error hopen hrecv
        have hside := keeps_recv.error hrecv
        refine ⟨?_, fun h => ?_, fun h => ?_⟩
        · rw [Act.after_error hrun, hall, outflow_of_side hside]
          exact (List.append_nil _).symm
        · rw [hall] at h
          cases h
          exact ⟨s', hrun⟩
        · rw [hall] at h
          cases h
      | ok frame u =>
        have hside := keeps_recv.ok hrecv
        have hall := recvAll_frame hopen hrecv
        obtain ⟨s', hanswered, hends, hgoes⟩ :=
          answer_run ((hready hopen).congr hside) (recv_arrives hrecv)
        have hlevel := recvAll_level hanswered.level
        have hsent : s'.outflow.sent = s.outflow.sent ++ echoed frame := by
          rw [hanswered.sent, outflow_of_side hside]
        rcases hends with hanswer | ⟨e, hanswer⟩
        · have hrun := echo_answered hopen hrecv hanswer
          have hless : s'.ahead < s.ahead :=
            Nat.lt_of_le_of_lt (shrinks_answer frame hanswer) (progress_recv hrecv)
          have hrest := ih s'.ahead (hsize ▸ hless) (s := s')
            (fun h => hanswered.ready (hanswered.level.isOpen.symm.trans h)) rfl
          refine ⟨?_, fun h => ?_, fun h => ?_⟩
          · rw [Act.after_congr hrun, hrest.sent, hall, hlevel.1, hsent]
            simp
          · rw [hall, ← hlevel.2] at h
            rw [hrun]
            exact hrest.halts h
          · rw [hall, ← hlevel.2] at h
            rw [hrun, Act.after_congr hrun]
            exact hrest.ends h
        · -- Only behind the last frame the connection fails.
          have hclosed : u.readClosed = true := by
            cases hu : u.readClosed with
            | true => rfl
            | false => rw [hgoes hu] at hanswer; cases hanswer
          have hrun := echo_failed hopen hrecv hanswer
          rw [recvAll_closed hclosed] at hall
          refine ⟨?_, fun h => ?_, fun _ => ?_⟩
          · rw [Act.after_error hrun, hall, hsent]
            simp
          · rw [hall] at h
            cases h
          · rw [Act.after_error hrun]
            exact .inr ⟨e, hrun⟩

/-- An echo service that starts with `s` receives this frame, and is to answer it in `u`. -/
inductive AnswersAt : Session → Session → Frame → Prop where
  | first {s u : Session} {frame : Frame} : s.readClosed = false → recv s = .ok frame u →
      AnswersAt s u frame
  | next {s u v w : Session} {frame frame' : Frame} : s.readClosed = false →
      recv s = .ok frame u → answer frame u = .ok () v → AnswersAt v w frame' →
      AnswersAt s w frame'

/-- **Wherever there is something to answer, the session is ready.** -/
theorem AnswersAt.ready {s u : Session} {frame : Frame} (h : AnswersAt s u frame)
    (hready : s.readClosed = false → s.Ready) : u.Ready ∧ Arrives frame u.readClosed := by
  induction h with
  | first hopen hrecv =>
    exact ⟨(hready hopen).congr (keeps_recv.ok hrecv), recv_arrives hrecv⟩
  | next hopen hrecv hanswer _ ih =>
    obtain ⟨v, hanswered, hends, -⟩ :=
      answer_run ((hready hopen).congr (keeps_recv.ok hrecv)) (recv_arrives hrecv)
    have hsame := hends.after
    rw [Act.after_ok hanswer] at hsame
    subst hsame
    exact ih fun h => hanswered.ready (hanswered.level.isOpen.symm.trans h)

theorem keeps_link_send (frame : Outgoing) : Keeps Session.link (send frame) := by
  have hwrite : Keeps Session.link (write frame) := by
    intro s
    have hsame := congrArg Session.link (keeps_write frame s)
    exact hsame
  unfold send
  refine hwrite.bind fun _ => ?_
  split
  · exact keeps_drainIfClosed fun _ _ => rfl
  · exact .pure _

theorem keeps_link_answer (frame : Frame) : Keeps Session.link (answer frame) := by
  unfold answer
  refine Keeps.getState.bind fun s => ?_
  dsimp only
  split
  · exact .pure _
  · split
    · exact .pure _
    · exact keeps_link_send _

theorem keeps_link_recv : Keeps Session.link recv := by
  intro s
  have hsame := congrArg Session.link (keeps_recv s)
  exact hsame

/-- The service stays on its connection. -/
theorem keeps_link_echo : Keeps Session.link echo := by
  intro s
  induction hsize : s.ahead using Nat.strongRecOn generalizing s with
  | ind size ih =>
    cases hopen : s.readClosed with
    | true => rw [Act.after_ok (echo_closed hopen)]
    | false =>
      cases hrecv : recv s with
      | error halt s' =>
        rw [Act.after_error (echo_error hopen hrecv)]
        exact keeps_link_recv.error hrecv
      | ok frame u =>
        have hlink := keeps_link_recv.ok hrecv
        cases hanswer : answer frame u with
        | error halt v =>
          rw [Act.after_error (echo_failed hopen hrecv hanswer), ← hlink]
          exact (keeps_link_answer frame).error hanswer
        | ok _ v =>
          have hless : v.ahead < s.ahead :=
            Nat.lt_of_le_of_lt (shrinks_answer frame hanswer) (progress_recv hrecv)
          rw [Act.after_congr (echo_answered hopen hrecv hanswer), ih v.ahead (hsize ▸ hless) v rfl,
            ← hlink]
          exact (keeps_link_answer frame).ok hanswer

end Session

end WebSocket

/-! ## 4. Connections -/

/-- The peer of the link takes everything, and records it. -/
def System.Hears (link : Nat) (s : System) : Prop :=
  ∃ addr secure manner o, s.links[link]? = some (.opened addr secure manner o) ∧ o.Takes

namespace System.Hears

variable {link : Nat} {s : System}

theorem takes (h : s.Hears link) : (s.outflow link).Takes := by
  obtain ⟨addr, secure, manner, o, hlink, htakes⟩ := h
  unfold outflow
  rw [hlink]
  exact htakes

/-- What is recorded on the link is what it shows from then on. -/
theorem outflow_changeLink (h : s.Hears link) (o : Outflow) :
    (s.changeLink link (Link.setOutflow o)).outflow link = o := by
  obtain ⟨addr, secure, manner, o', hlink, -⟩ := h
  unfold outflow changeLink
  simp [hlink, Link.setOutflow, Link.outflow]

/-- The link goes on to be recorded. -/
theorem changeLink (h : s.Hears link) {o : Outflow} (ho : o.Takes) :
    (s.changeLink link (Link.setOutflow o)).Hears link := by
  obtain ⟨addr, secure, manner, o', hlink, -⟩ := h
  refine ⟨addr, secure, manner, o, ?_, ho⟩
  unfold System.changeLink
  simp [hlink, Link.setOutflow]

end System.Hears

namespace WebSocket

/-- What is on the record of a connection to an echo service, from the handshake that made the
session to the end. -/
structure Transcript (conn : Conn) (s t : System) (session : Session) : Prop where
  /-- The handshake wrote its agreement. -/
  agreed : ∃ key, (t.outflow conn.link).sent = (s.outflow conn.link).sent ++ agreement key
  /-- Behind it is what is due for each of the frames that can be received, in order. -/
  echoed : ((Cli.echoOne conn ((), s)).2.outflow conn.link).sent =
    (t.outflow conn.link).sent ++ session.recvAll.frames.flatMap echoed
  /-- A close frame is the last of them. -/
  last : ∀ {front back : List Frame} {code : Nat} {reason : ControlPayload},
    session.recvAll.frames = front ++ .close code reason :: back → back = []
  /-- No answer is refused. -/
  accepted : ∀ {u : Session} {frame : Frame} {reply : Outgoing},
    session.AnswersAt u frame → reply? frame = some reply → u.refusal? reply = none

/-- What the service sent is recorded when it is done. -/
theorem echoOne_run {conn : Conn} {s t : System} {session : Session}
    (hserve : serve {} conn s = .ok session t) :
    (Cli.echoOne conn ((), s)).2 = (after Session.echo session).settle t := by
  unfold Cli.echoOne
  rw [hserve]
  dsimp only
  cases hecho : session.echo with
  | ok _ s' => rw [Act.after_ok hecho]
  | error halt s' => rw [Act.after_error hecho]

theorem push_takes {o : Outflow} (h : o.Takes) (bytes : Bytes) :
    (o.push bytes).sent = o.sent ++ bytes ∧ (o.push bytes).Takes := by
  unfold Outflow.push
  rw [if_pos h.heard]
  exact ⟨rfl, h.limit, h.heard⟩

/-- **The record of an echo service is one answer for each frame, in order, and nothing else.** -/
theorem transcript_of_serve {conn : Conn} {s t : System} {session : Session}
    (hhears : s.Hears conn.link) (hserve : serve {} conn s = .ok session t) :
    Transcript conn s t session := by
  obtain ⟨_, _, key, -, -, rfl, ⟨reader, rfl⟩, -, -⟩ := agreed_of_serve hhears.takes.limit hserve
  obtain ⟨hsent, htakes⟩ := push_takes hhears.takes (agreement key)
  have hagreed : (sending conn.link (agreement key) s).outflow conn.link =
      (s.outflow conn.link).push (agreement key) := hhears.outflow_changeLink _
  have hhears' : (sending conn.link (agreement key) s).Hears conn.link :=
    hhears.changeLink htakes
  rw [← hagreed] at hsent htakes
  generalize hsession : Session.ofReader reader conn.link {} false
    (sending conn.link (agreement key) s) = session at hserve
  have hready : session.readClosed = false → session.Ready := by
    intro _
    rw [← hsession]
    exact ⟨rfl, rfl, rfl, htakes⟩
  have hopen : session.readClosed = false := by rw [← hsession]; rfl
  have hlink : (after Session.echo session).link = conn.link := by
    rw [Session.keeps_link_echo, ← hsession]
    rfl
  refine ⟨⟨key, hsent⟩, ?_, Session.recvAll_close_last hopen, ?_⟩
  · have hsettled : ((after Session.echo session).settle
        (sending conn.link (agreement key) s)).outflow conn.link =
          (after Session.echo session).outflow := by
      unfold Session.settle
      rw [hlink]
      exact hhears'.outflow_changeLink _
    rw [echoOne_run hserve, hsettled, (Session.echo_writes hready).sent, ← hsession]
    rfl
  · intro u frame reply hat hreply
    obtain ⟨hu, harrives⟩ := hat.ready hready
    exact Session.refusal?_reply hu harrives hreply

/-- A client that asks for a session, and then says `hi`, with a mask of zeros, and ends it with the
code 1000. -/
def greeting : Conn :=
  { calling "keep-alive, Upgrade" with
    inflow := ⟨[requesting "keep-alive, Upgrade", [0x81, 0x82, 0, 0, 0, 0, 104, 105],
      [0x88, 0x82, 0, 0, 0, 0, 3, 232]], .eof⟩ }

theorem transcript_of_serve_greeting : called.Hears greeting.link ∧
    ∃ session t, serve {} greeting called = .ok session t ∧
      Transcript greeting called t session := by
  have hhears : called.Hears greeting.link := ⟨_, _, _, {}, rfl, rfl, rfl⟩
  have htaken : Act.value? takeUpgrade (Reader.ofInflow greeting.inflow) =
      some (requested "keep-alive, Upgrade") := by decide +kernel
  obtain ⟨key, hasks⟩ := refusal?_eq_none_iff.1
    (show (requested "keep-alive, Upgrade").refusal? = none by decide +kernel)
  obtain ⟨session, t, hserve⟩ : ∃ session t, serve {} greeting called = .ok session t :=
    ⟨_, _, serve_agreed hhears.takes.limit (Act.eq_ok_of_value? htaken) hasks⟩
  exact ⟨hhears, session, t, hserve, transcript_of_serve hhears hserve⟩

end WebSocket

end UrlTransfer
