/-
# Talking over a session

The lines of the standard input are sent as text messages, and what is received is listed.  Sending
goes first, as far as it gets: at the end of the input it closes the session, and receiving goes on
up to the answer.  Where sending waits for ever, receiving goes on alone; when the peer has closed,
the session is closed from this side too (`relay`).
-/
import UrlTransfer.Cli.Failure
import UrlTransfer.WebSocket.Session

namespace UrlTransfer

namespace Cli

open WebSocket (Session Frame Outgoing CloseCode)

/-- The lines of an input, and what stands behind them. -/
structure Lines where
  list : List Bytes
  ending : Ending
deriving Repr, DecidableEq

namespace Lines

/-- A line without one carriage return at its end. -/
def dropReturn (line : Bytes) : Bytes := if line.getLast? = some 13 then line.dropLast else line

/-- The lines of an input.  **What stands behind the last line feed is a line only if the input
ends there**, and if it is not empty. -/
def ofInflow (input : Inflow) : Lines :=
  let parts := input.rest.splitOn Bytes.lf
  let last := (parts.getLast?.getD [])
  let ended := parts.dropLast.map dropReturn
  ⟨if input.ending = .eof && !last.isEmpty then ended ++ [last] else ended, input.ending⟩

end Lines

/-- The frame that closes a session in the normal way. -/
def closing : Outgoing := .close CloseCode.normal.number []

/-- A line that is no text. -/
def notText : IoError :=
  { kind := .invalidData, detail := some "stream did not contain valid UTF-8" }

/-- Sends a frame. -/
def sendFrame (frame : Outgoing) : Act Failure Session Unit :=
  Act.mapError .library (Session.write frame)

/-- Sends lines, and closes the session behind the last one. -/
def sendLines (ending : Ending) : List Bytes → Act Failure Session Unit
  | [] =>
    match ending with
    | .eof => sendFrame closing
    | .hang => Act.stall
    | .fault fault => Act.fail (.io fault)
  | line :: rest =>
    match Utf8.decode? line with
    | none => Act.fail (.io notText)
    | some text => do
      sendFrame (.ofText text true)
      sendLines ending rest

/-- How talking ended: what was received, why it ended if not by closing, and the session. -/
structure Relayed where
  frames : List Frame
  halt : Option (Halt Failure)
  session : Session

/-- Receives up to the end. -/
def receive (s : Session) : Relayed :=
  let received := s.recvAll
  ⟨received.frames, received.halt.map (Halt.map .library), received.session⟩

/-- Closes the session where that was not done. -/
def answerClose (r : Relayed) : Relayed :=
  if r.halt.isSome || r.session.writeClosed then r
  else
    match sendFrame closing r.session with
    | .ok () session => { r with session }
    | .error halt session => { r with session, halt := some halt }

/-- Sends lines and receives frames. -/
def relay (lines : Lines) (s : Session) : Relayed :=
  match sendLines lines.ending lines.list s with
  | .ok () s' => receive s'
  | .error .stalled s' => answerClose (receive s')
  | .error (.failed failure) s' => ⟨[], some (.failed failure), s'⟩

end Cli

end UrlTransfer
