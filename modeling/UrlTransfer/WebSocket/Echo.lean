/-
# Echoing

An echo service sends every message back as it came, answers a ping, and closes when the peer
does.  It is done when nothing more can be received; as receiving is progress and sending takes
none of it back, that is always so in the end.
-/
import UrlTransfer.WebSocket.Session

namespace UrlTransfer

namespace WebSocket

/-- The code of the answer to a close frame: **a frame without one is answered by a normal
close**. -/
def replyCode (code : Nat) : Nat :=
  if code = CloseCode.noStatusCode.number then CloseCode.normal.number else code

/-- What is sent back for a frame, if anything. -/
def reply? : Frame → Option Outgoing
  | .ping payload => some (.pong payload.content)
  | .pong _ => none
  | .close code reason =>
    if code = CloseCode.noClose.number then none
    else some (.close (replyCode code) reason.content)
  | message => some (.ofFrame message)

namespace Session

/-- Sends back what a frame asks for.  A close frame is not answered where one was sent
before. -/
def answer (frame : Frame) : Act Error Session Unit := do
  let closed := (← get).writeClosed
  match reply? frame with
  | none => return ()
  | some reply => if closed && reply.op == .close then return () else send reply

theorem shrinks_answer (frame : Frame) : Act.Shrinks ahead (answer frame) := by
  unfold answer
  refine Act.Shrinks.getState.bind fun s => ?_
  dsimp only
  split
  · exact Act.Shrinks.pure _
  · split
    · exact Act.Shrinks.pure _
    · exact shrinks_send _

/-- Receives frames, and sends each back, as long as the receiving side is open. -/
def echo : Act Error Session Unit := fun s =>
  if s.readClosed then .ok () s
  else
    match _h : recv s with
    | .error halt s' => .error halt s'
    | .ok frame s' =>
      match _h' : answer frame s' with
      | .error halt s'' => .error halt s''
      | .ok () s'' => echo s''
termination_by s => s.ahead
decreasing_by
  have := progress_recv _h
  have := shrinks_answer frame _h'
  omega

end Session

end WebSocket

end UrlTransfer
