/-
# Talking, in any order of events

Two parts work on one session at the same time: lines are sent, and frames are received.  Which of
them gets on first is nobody's choice, and whichever is done first, the other one is waited for or
dropped.  `Race` is the state of both; `Race.Step` says what either of them can do, and `Race.Ends`
how the talk can end, or stand still.  A call that receives is a step when it has ended, and a frame
is sent in one step, since the connection takes everything.

The two parts have next to nothing to do with each other.  What was sent is the wire form of the
lines that are gone, and perhaps of the frame that closes (`Sent`, `Race.Account`), and what was
received with what can still be received is all that the peer has sent; sending does not touch this,
because the session stays level (`write_level`).  Each step keeps the account (`Account.step`), so
it holds in all that is reached (`account_of_reaches`), and from it comes what can be told of a
talk that has ended (`Account.upholds`).

The program is one of these races: sending goes first, as far as it gets (`runs_relay`).  The
command prints what was received in it (`talk_run`).
-/
import Mathlib.Logic.Relation
import UrlTransfer.Cli.Run
import UrlTransfer.Proofs.Text.Utf8
import UrlTransfer.Proofs.WebSocket.Halves
import UrlTransfer.Proofs.WebSocket.Handshake

namespace UrlTransfer

open Act (after)

namespace Cli

open Relation (ReflTransGen)
open WebSocket (Session Frame Opcode Outgoing Options)
open WebSocket.Session (Posted Level Writes wire frames sendingAfter recv)

/-! ## 1. Two parts -/

/-- A talk that goes on. -/
structure Race where
  /-- The lines that are left. -/
  lines : List Bytes
  /-- The session was closed behind the last line. -/
  finished : Bool := false
  /-- What was received. -/
  received : List Frame := []
  session : Session

namespace Race

/-- The frame that is to be sent next, and what is left then. -/
inductive Next (ending : Ending) (t : Race) : Outgoing → Race → Prop where
  | line {line : Bytes} {rest : List Bytes} {text : String} : t.lines = line :: rest →
      Utf8.decode? line = some text → Next ending t (.ofText text true) { t with lines := rest }
  | close : t.lines = [] → t.finished = false → ending = .eof →
      Next ending t closing { t with finished := true }

/-- What either part can do.  A frame is sent in one step, all of it or, where that fails, as the
end of the talk: no step leaves a frame half sent, with the rest of it waiting. -/
inductive Step (ending : Ending) (t : Race) : Race → Prop where
  | send {frame : Outgoing} {u : Race} {s : Session} : Next ending t frame u →
      sendFrame frame t.session = .ok () s → Step ending t { u with session := s }
  | frame {frame : Frame} {s : Session} : t.session.readClosed = false →
      recv t.session = .ok frame s →
      Step ending t { t with received := t.received ++ [frame], session := s }

/-- What can come of a talk. -/
inductive Ends (ending : Ending) (t : Race) : Relayed → Prop where
  | sendFails {frame : Outgoing} {u : Race} {failure : Failure} {s : Session} :
      Next ending t frame u → sendFrame frame t.session = .error (.failed failure) s →
      Ends ending t ⟨t.received, some (.failed failure), s⟩
  | notText {line : Bytes} {rest : List Bytes} : t.lines = line :: rest →
      Utf8.decode? line = none →
      Ends ending t ⟨t.received, some (.failed (.io notText)), t.session⟩
  | inputFails {fault : IoError} : t.lines = [] → ending = .fault fault →
      Ends ending t ⟨t.received, some (.failed (.io fault)), t.session⟩
  | recvFails {halt : Halt Error} {s : Session} : t.session.readClosed = false →
      recv t.session = .error halt s →
      Ends ending t ⟨t.received, some (halt.map .library), s⟩
  /-- All was received, and the session is closed from this side already. -/
  | done : t.session.readClosed = true → t.finished = true ∨ t.session.writeClosed = true →
      Ends ending t ⟨t.received, none, t.session⟩
  /-- All was received while lines were left: what is left to do is to close. -/
  | answered {s : Session} : t.session.readClosed = true → t.finished = false →
      t.session.writeClosed = false → sendFrame closing t.session = .ok () s →
      Ends ending t ⟨t.received, none, s⟩
  | answerFails {halt : Halt Failure} {s : Session} : t.session.readClosed = true →
      t.finished = false → t.session.writeClosed = false →
      sendFrame closing t.session = .error halt s → Ends ending t ⟨t.received, some halt, s⟩
  /-- Nothing more may come, neither from the input nor from the peer. -/
  | waits : Ends ending t ⟨t.received, some .stalled, t.session⟩

/-- The start of a talk. -/
def start (lines : Lines) (s : Session) : Race := { lines := lines.list, session := s }

end Race

/-- The outcome of a talk is this, in some order of events. -/
def Runs (lines : Lines) (s : Session) (r : Relayed) : Prop :=
  ∃ t, ReflTransGen (Race.Step lines.ending) (.start lines s) t ∧ Race.Ends lines.ending t r

/-- What can be told of a talk, however it ended. -/
structure Upholds (lines : Lines) (s : Session) (r : Relayed) : Prop where
  /-- What was sent are the first lines as texts, each in a frame, and at most a frame that closes
  behind them; and there is one, if the talk came to its end. -/
  sent : ∃ (all : List Posted) (texts : List String) (ends : List Outgoing),
    r.session.outflow.sent = s.outflow.sent ++ wire none all ∧
    (∀ p ∈ all, p.key.isSome = true) ∧
    frames all = texts.map (Outgoing.ofText · true) ++ ends ∧
    texts.map Bytes.ofString <+: lines.list ∧ (ends = [] ∨ ends = [closing]) ∧
    (r.halt = none → ends = [closing])
  /-- What was received are the first frames of the peer, -/
  received : r.frames <+: s.recvAll.frames
  /-- and all of them up to the end, if the talk came to its end. -/
  all : r.halt = none → r.frames = s.recvAll.frames ∧
    ∃ front code reason, r.frames = front ++ [.close code reason]

/-! ## 2. Sending -/

/-- What was sent since `s`. -/
structure Sent (s : Session) (all : List Posted) (u : Session) : Prop where
  wrote : u.outflow.sent = s.outflow.sent ++ wire none all
  masked : ∀ p ∈ all, p.key.isSome = true
  whole : sendingAfter none all = none
  takes : u.outflow.Takes
  isClient : u.isClient = true
  sending : u.sending = none

theorem Sent.nil {s : Session} (htakes : s.outflow.Takes) (hclient : s.isClient = true)
    (hsending : s.sending = none) : Sent s [] s where
  wrote := (List.append_nil _).symm
  masked := by simp
  whole := rfl
  takes := htakes
  isClient := hclient
  sending := hsending

section

variable {s u v : Session} {all : List Posted} {frame : Outgoing}

/-- Receiving sends nothing. -/
theorem Sent.congr (h : Sent s all u) (hside : v.sendingSide = u.sendingSide) : Sent s all v where
  wrote := by rw [WebSocket.Session.outflow_of_side hside]; exact h.wrote
  masked := h.masked
  whole := h.whole
  takes := by rw [WebSocket.Session.outflow_of_side hside]; exact h.takes
  isClient := (congrArg Session.isClient hside).trans h.isClient
  sending := (congrArg Session.sending hside).trans h.sending

/-- A whole frame leaves no message begun. -/
theorem sendingBehind_whole (hfin : frame.fin = true) :
    WebSocket.Session.sendingBehind none frame = none := by
  simp [WebSocket.Session.sendingBehind, hfin]

/-- One more frame was sent. -/
theorem Sent.snoc (h : Sent s all u) {key : Option UInt32} (hwrites : Writes u frame key v)
    (hfin : frame.fin = true) : Sent s (all ++ [⟨key, frame⟩]) v where
  wrote := by
    rw [hwrites.sent, h.wrote, h.sending, WebSocket.Session.wire_append, h.whole]
    simp [wire]
  masked := by
    intro p hp
    rcases List.mem_append.1 hp with hp | hp
    · exact h.masked p hp
    · rw [List.mem_singleton.1 hp, hwrites.masked, h.isClient]
  whole := by
    rw [WebSocket.Session.sendingAfter_append, h.whole]
    exact sendingBehind_whole hfin
  takes := hwrites.takes
  isClient := hwrites.isClient.trans h.isClient
  sending := by rw [hwrites.sending, h.sending, sendingBehind_whole hfin]

/-- What is sent in a talk is not refused, as long as the session is not closed. -/
theorem Sent.accepts (h : Sent s all u) (hopen : u.writeClosed = false)
    (hframe : frame.op.isControl = true →
      frame.payload.length ≤ WebSocket.Session.controlLimit frame.op) :
    u.refusal? frame = none := by
  unfold WebSocket.Session.refusal?
  rw [hopen, h.sending, WebSocket.Session.fault?_fresh hframe]
  rfl

/-- **A text is sent**, as long as the session is not closed. -/
theorem Sent.text (h : Sent s all u) (hopen : u.writeClosed = false) (text : String) :
    ∃ key v, Sent s (all ++ [⟨key, .ofText text true⟩]) v ∧ v.writeClosed = false ∧ Level v u ∧
      sendFrame (.ofText text true) u = .ok () v := by
  have hdata : (Outgoing.ofText text true).op ≠ .close := by simp [Outgoing.ofText]
  have haccepts : u.refusal? (.ofText text true) = none := by
    refine h.accepts hopen fun hcontrol => ?_
    simp [Outgoing.ofText, Opcode.isControl, Opcode.code] at hcontrol
  obtain ⟨key, v, hwrites, hwrite⟩ := WebSocket.Session.write_data h.takes hdata haccepts
  have hlevel := WebSocket.Session.write_level (.ofText text true) u
  rw [Act.after_ok hwrite] at hlevel
  refine ⟨key, v, h.snoc hwrites rfl, ?_, hlevel, Act.mapError_ok hwrite⟩
  rw [hwrites.writeClosed]
  exact beq_eq_false_iff_ne.2 hdata

/-- **The session is closed**, if it was not, also where the connection fails behind that. -/
theorem Sent.close (h : Sent s all u) (hopen : u.writeClosed = false) :
    ∃ key v, Sent s (all ++ [⟨key, closing⟩]) v ∧ v.writeClosed = true ∧ Level v u ∧
      (sendFrame closing u = .ok () v ∨
        ∃ failure, sendFrame closing u = .error (.failed failure) v) := by
  have haccepts : u.refusal? closing = none := h.accepts hopen fun _ => Nat.zero_le _
  obtain ⟨key, v, hwrites, hends⟩ := WebSocket.Session.write_accepted h.takes haccepts
  have hlevel := WebSocket.Session.write_level closing u
  refine ⟨key, v, h.snoc hwrites rfl, hwrites.writeClosed, ?_, ?_⟩
  · rcases hends with hwrite | ⟨e, hwrite⟩
    · rwa [Act.after_ok hwrite] at hlevel
    · rwa [Act.after_error hwrite] at hlevel
  · exact hends.imp Act.mapError_ok fun ⟨e, hwrite⟩ => ⟨_, Act.mapError_error hwrite⟩

end

/-! ## 3. The account -/

/-- What was sent and received since `s`, and what is left. -/
structure Race.Account (lines : Lines) (s : Session) (all : List Posted) (texts : List String)
    (t : Race) : Prop where
  sent : Sent s all t.session
  posted : frames all =
    texts.map (Outgoing.ofText · true) ++ if t.finished then [closing] else []
  split : texts.map Bytes.ofString ++ t.lines = lines.list
  finished : t.finished = true → t.lines = []
  writeClosed : t.session.writeClosed = t.finished
  left : t.received ++ t.session.recvAll.frames = s.recvAll.frames
  halt : t.session.recvAll.halt = s.recvAll.halt

namespace Race

variable {lines : Lines} {s : Session} {t : Race} {all : List Posted} {texts : List String}

theorem account_start (htakes : s.outflow.Takes) (hclient : s.isClient = true)
    (hsending : s.sending = none) (hopen : s.writeClosed = false) :
    Account lines s [] [] (start lines s) where
  sent := .nil htakes hclient hsending
  posted := rfl
  split := rfl
  finished := nofun
  writeClosed := hopen
  left := rfl
  halt := rfl

/-- What is to be sent next is sent, unless the connection fails behind the last frame. -/
theorem Account.send (h : Account lines s all texts t) {frame : Outgoing} {u : Race}
    (hnext : Next lines.ending t frame u) :
    ∃ all' texts' v, Account lines s all' texts' { u with session := v } ∧
      (sendFrame frame t.session = .ok () v ∨
        ∃ failure, sendFrame frame t.session = .error (.failed failure) v) := by
  cases hnext with
  | @line line rest text hlines htext =>
    have hgoes : t.finished = false := by
      cases hfinished : t.finished with
      | false => rfl
      | true => rw [h.finished hfinished] at hlines; cases hlines
    obtain ⟨key, v, hsent, hopen, hlevel, hsend⟩ :=
      h.sent.text (h.writeClosed.trans hgoes) text
    obtain ⟨hframes, hhalt⟩ := WebSocket.Session.recvAll_level hlevel
    refine ⟨_, texts ++ [text], v, ⟨hsent, ?_, ?_, ?_, ?_, ?_, ?_⟩, .inl hsend⟩
    · have hbefore := h.posted
      rw [hgoes] at hbefore ⊢
      simpa [WebSocket.Session.frames] using hbefore
    · rw [← h.split, hlines, Utf8.decode?_eq_some_iff.1 htext]
      simp
    · exact fun hfinished => absurd hfinished (by simp [hgoes])
    · exact hopen.trans hgoes.symm
    · rw [hframes]; exact h.left
    · rw [hhalt]; exact h.halt
  | close hlines hgoes hend =>
    obtain ⟨key, v, hsent, hclosed, hlevel, hsend⟩ := h.sent.close (h.writeClosed.trans hgoes)
    obtain ⟨hframes, hhalt⟩ := WebSocket.Session.recvAll_level hlevel
    refine ⟨_, texts, v, ⟨hsent, ?_, h.split, fun _ => hlines, hclosed, ?_, ?_⟩, hsend⟩
    · have hbefore := h.posted
      rw [hgoes] at hbefore
      simpa [WebSocket.Session.frames] using hbefore
    · rw [hframes]; exact h.left
    · rw [hhalt]; exact h.halt

/-- A frame that is received is the first of those that were left. -/
theorem Account.frame (h : Account lines s all texts t) {frame : Frame} {v : Session}
    (hopen : t.session.readClosed = false) (hrecv : recv t.session = .ok frame v) :
    Account lines s all texts { t with received := t.received ++ [frame], session := v } := by
  have hside := WebSocket.Session.keeps_recv.ok hrecv
  have hall := WebSocket.Session.recvAll_frame hopen hrecv
  have hleft := h.left
  have hhalt := h.halt
  rw [hall] at hleft hhalt
  refine ⟨h.sent.congr hside, h.posted, h.split, h.finished, ?_, ?_, hhalt⟩
  · exact (WebSocket.Session.writeClosed_of_side hside).trans h.writeClosed
  · simpa using hleft

/-- **Each step keeps the account.** -/
theorem Account.step (h : Account lines s all texts t) {u : Race}
    (hstep : Step lines.ending t u) : ∃ all' texts', Account lines s all' texts' u := by
  cases hstep with
  | send hnext hsend =>
    obtain ⟨all', texts', v, haccount, hsends⟩ := h.send hnext
    rcases hsends with hsends | ⟨failure, hsends⟩
    · rw [hsends] at hsend
      cases hsend
      exact ⟨all', texts', haccount⟩
    · rw [hsends] at hsend
      cases hsend
  | frame hopen hrecv => exact ⟨all, texts, h.frame hopen hrecv⟩

theorem account_of_reaches (h : Account lines s all texts t) {u : Race}
    (hreaches : ReflTransGen (Step lines.ending) t u) :
    ∃ all' texts', Account lines s all' texts' u := by
  induction hreaches with
  | refl => exact ⟨all, texts, h⟩
  | tail _ hstep ih =>
    obtain ⟨all', texts', hu⟩ := ih
    exact hu.step hstep

/-! ## 4. What can be told -/

/-- What was received is the front of what can be received. -/
theorem Account.received (h : Account lines s all texts t) : t.received <+: s.recvAll.frames :=
  ⟨_, h.left⟩

/-- Where nothing is left to be received, all of it was, up to a frame that closes. -/
theorem Account.whole (h : Account lines s all texts t) (hopen : s.readClosed = false)
    (hclosed : t.session.readClosed = true) : t.received = s.recvAll.frames ∧
      ∃ front code reason, t.received = front ++ [.close code reason] := by
  have hleft := h.left
  have hhalt := h.halt
  rw [WebSocket.Session.recvAll_closed hclosed] at hleft hhalt
  have hframes : t.received = s.recvAll.frames := by simpa using hleft
  rw [hframes]
  exact ⟨rfl, WebSocket.Session.recvAll_ends hopen hhalt.symm⟩

/-- The lines that were sent are the first ones. -/
theorem Account.front (h : Account lines s all texts t) :
    texts.map Bytes.ofString <+: lines.list := ⟨_, h.split⟩

/-- As long as a talk has not come to its end, what was sent is as the account says. -/
theorem Account.upholds_halted (h : Account lines s all texts t) (halt : Halt Failure) {u : Session}
    (hsent : Sent s all u) : Upholds lines s ⟨t.received, some halt, u⟩ where
  sent := by
    refine ⟨all, texts, _, hsent.wrote, hsent.masked, h.posted, h.front, ?_, nofun⟩
    cases t.finished with
    | false => exact .inl rfl
    | true => exact .inr rfl
  received := h.received
  all := nofun

/-- **What the account says can be told when a talk ends.** -/
theorem Account.upholds (h : Account lines s all texts t) (hopen : s.readClosed = false)
    {r : Relayed} (hends : Ends lines.ending t r) : Upholds lines s r := by
  cases hends with
  | sendFails hnext hsend =>
    obtain ⟨all', texts', v, haccount, hsends⟩ := h.send hnext
    rcases hsends with hsends | ⟨failure, hsends⟩
    · rw [hsends] at hsend
      cases hsend
    · rw [hsends] at hsend
      cases hsend
      cases hnext <;> exact haccount.upholds_halted _ haccount.sent
  | notText => exact h.upholds_halted _ h.sent
  | inputFails => exact h.upholds_halted _ h.sent
  | recvFails _ hrecv =>
    exact h.upholds_halted _ (h.sent.congr (WebSocket.Session.keeps_recv.error hrecv))
  | waits => exact h.upholds_halted _ h.sent
  | done hclosed hfinished =>
    have hfinished : t.finished = true := hfinished.elim id (h.writeClosed ▸ ·)
    have hframes := h.posted
    rw [hfinished] at hframes
    exact ⟨⟨all, texts, _, h.sent.wrote, h.sent.masked, hframes, h.front, .inr rfl, fun _ => rfl⟩,
      h.received, fun _ => h.whole hopen hclosed⟩
  | answered hclosed hgoes hwriteOpen hsend =>
    obtain ⟨key, v, hsent, -, -, hsends⟩ := h.sent.close hwriteOpen
    rcases hsends with hsends | ⟨failure, hsends⟩
    · rw [hsends] at hsend
      cases hsend
      have hframes := h.posted
      rw [hgoes] at hframes
      refine ⟨⟨_, texts, [closing], hsent.wrote, hsent.masked, ?_, h.front, .inr rfl, fun _ => rfl⟩,
        h.received, fun _ => h.whole hopen hclosed⟩
      simpa [WebSocket.Session.frames] using hframes
    · rw [hsends] at hsend
      cases hsend
  | answerFails hclosed hgoes hwriteOpen hsend =>
    obtain ⟨key, v, hsent, -, -, hsends⟩ := h.sent.close hwriteOpen
    rcases hsends with hsends | ⟨failure, hsends⟩
    · rw [hsends] at hsend
      cases hsend
    · rw [hsends] at hsend
      cases hsend
      have hhalts : (some (.failed failure) : Option (Halt Failure)) ≠ none := Option.some_ne_none _
      have hframes := h.posted
      rw [hgoes] at hframes
      refine ⟨⟨_, texts, [closing], hsent.wrote, hsent.masked, ?_, h.front, .inr rfl,
        (absurd · hhalts)⟩, h.received, (absurd · hhalts)⟩
      simpa [WebSocket.Session.frames] using hframes

/-! ## 5. The program -/

/-- What comes of sending lines while the other part stands still. -/
inductive SendsLines (ending : Ending) (t : Race) :
    EStateM.Result (Halt Failure) Session Unit → Prop where
  | all {v : Session} : ReflTransGen (Step ending) t
      { t with lines := [], finished := true, session := v } → SendsLines ending t (.ok () v)
  | waits {rest : List Bytes} {v : Session} : ReflTransGen (Step ending) t
      { t with lines := rest, session := v } → SendsLines ending t (.error .stalled v)
  | fails {u : Race} {failure : Failure} {v : Session} : ReflTransGen (Step ending) t u →
      Ends ending u ⟨t.received, some (.failed failure), v⟩ →
      SendsLines ending t (.error (.failed failure) v)

theorem SendsLines.step {ending : Ending} {rest : List Bytes} {v : Session}
    {result : EStateM.Result (Halt Failure) Session Unit}
    (hstep : Step ending t { t with lines := rest, session := v })
    (h : SendsLines ending { t with lines := rest, session := v } result) :
    SendsLines ending t result := by
  cases h with
  | all hrest => exact .all (hrest.head hstep)
  | waits hrest => exact .waits (hrest.head hstep)
  | fails hrest hends => exact .fails (hrest.head hstep) hends

/-- **Sending as far as it gets is a race** in which the other part has not got on yet. -/
theorem sendsLines (h : Account lines s all texts t) (hgoes : t.finished = false) :
    SendsLines lines.ending t (sendLines lines.ending t.lines t.session) := by
  -- On the lines that are left.
  induction hlines : t.lines generalizing t all texts with
  | nil =>
    cases hend : lines.ending with
    | hang =>
      have hrefl : ReflTransGen (Step .hang) t { t with lines := t.lines, session := t.session } :=
        .refl
      exact .waits hrefl
    | fault fault => exact .fails .refl (.inputFails hlines rfl)
    | eof =>
      have hnext : Next lines.ending t closing { t with finished := true } :=
        .close hlines hgoes hend
      obtain ⟨_, _, v, -, hsend⟩ := h.send hnext
      rw [hend] at hnext
      unfold sendLines
      dsimp only
      rcases hsend with hsend | ⟨failure, hsend⟩
      · rw [hsend]
        have hstep := ReflTransGen.single (Step.send hnext hsend)
        rw [hlines] at hstep
        exact .all hstep
      · rw [hsend]
        exact .fails .refl (.sendFails hnext hsend)
  | cons line rest ih =>
    unfold sendLines
    cases htext : Utf8.decode? line with
    | none => exact .fails .refl (.notText hlines htext)
    | some text =>
      have hnext : Next lines.ending t (.ofText text true) { t with lines := rest } :=
        .line hlines htext
      obtain ⟨_, _, v, haccount, hsend⟩ := h.send hnext
      dsimp only
      rcases hsend with hsend | ⟨failure, hsend⟩
      · rw [Act.bind_ok hsend]
        have hstep : Step lines.ending t { t with lines := rest, session := v } :=
          .send hnext hsend
        exact SendsLines.step hstep (ih haccount hgoes rfl)
      · rw [Act.bind_error hsend]
        exact .fails .refl (.sendFails hnext hsend)

/-- What comes of receiving while the other part stands still. -/
inductive Receives (ending : Ending) (t : Race) : Relayed → Prop where
  | all {more : List Frame} {v : Session} : v.readClosed = true →
      ReflTransGen (Step ending) t { t with received := t.received ++ more, session := v } →
      Receives ending t ⟨more, none, v⟩
  | halts {u : Race} {more : List Frame} {halt : Halt Failure} {v : Session} :
      ReflTransGen (Step ending) t u → Ends ending u ⟨t.received ++ more, some halt, v⟩ →
      Receives ending t ⟨more, some halt, v⟩

theorem Receives.step {ending : Ending} {frame : Frame} {v : Session} {r : Relayed}
    (hstep : Step ending t { t with received := t.received ++ [frame], session := v })
    (h : Receives ending { t with received := t.received ++ [frame], session := v } r) :
    Receives ending t ⟨frame :: r.frames, r.halt, r.session⟩ := by
  cases h with
  | all hclosed hrest => exact .all hclosed (by simpa using hrest.head hstep)
  | halts hrest hends => exact .halts (hrest.head hstep) (by simpa using hends)

/-- **Receiving up to the end is a race** in which the other part does not get on any more. -/
theorem receives (ending : Ending) (t : Race) : Receives ending t (receive t.session) := by
  -- On what is ahead.
  induction hsize : t.session.ahead using Nat.strongRecOn generalizing t with
  | ind size ih =>
    unfold receive
    cases hopen : t.session.readClosed with
    | true =>
      rw [WebSocket.Session.recvAll_closed hopen]
      exact .all hopen (by rw [List.append_nil])
    | false =>
      cases hrecv : recv t.session with
      | error halt v =>
        rw [WebSocket.Session.recvAll_error hopen hrecv]
        exact .halts .refl (by rw [List.append_nil]; exact .recvFails hopen hrecv)
      | ok frame v =>
        have hless := WebSocket.Session.progress_recv hrecv
        have hrest := ih v.ahead (hsize ▸ hless)
          { t with received := t.received ++ [frame], session := v } rfl
        rw [WebSocket.Session.recvAll_frame hopen hrecv]
        exact hrest.step (.frame hopen hrecv)

/-- **Where sending waits, receiving goes on alone**, and the session is closed at its end. -/
theorem runs_answerClose {rest : List Bytes} {v : Session}
    (hsends : ReflTransGen (Step lines.ending) (start lines s)
      { start lines s with lines := rest, session := v }) :
    Runs lines s (answerClose (receive v)) := by
  have hreceives := receives lines.ending { start lines s with lines := rest, session := v }
  generalize hr : receive v = r
  rw [hr] at hreceives
  unfold answerClose
  cases hreceives with
  | halts hrest hends => exact ⟨_, hsends.trans hrest, hends⟩
  | @all more w hclosed hrest =>
    cases hwrite : w.writeClosed with
    | true => exact ⟨_, hsends.trans hrest, .done hclosed (.inr hwrite)⟩
    | false =>
      simp only [Option.isSome_none, Bool.false_or, Bool.false_eq_true, if_false]
      cases hsend : sendFrame closing w with
      | ok _ w' => exact ⟨_, hsends.trans hrest, .answered hclosed rfl hwrite hsend⟩
      | error halt w' => exact ⟨_, hsends.trans hrest, .answerFails hclosed rfl hwrite hsend⟩

/-- **Talking is one of its races**: sending goes first. -/
theorem runs_relay (h : Account lines s [] [] (start lines s)) :
    Runs lines s (relay lines s) := by
  have hsends := sendsLines h rfl
  unfold relay
  generalize hresult : sendLines lines.ending lines.list s = result
  rw [show sendLines lines.ending (start lines s).lines (start lines s).session = result
    from hresult] at hsends
  cases hsends with
  | waits hsends => exact runs_answerClose hsends
  | fails hsends hends => exact ⟨_, hsends, hends⟩
  | @all v hsends =>
    change Runs lines s (receive v)
    have hreceives := receives lines.ending
      { start lines s with lines := [], finished := true, session := v }
    generalize hr : receive v = r
    rw [hr] at hreceives
    cases hreceives with
    | all hclosed hrest => exact ⟨_, hsends.trans hrest, .done hclosed (.inl rfl)⟩
    | halts hrest hends => exact ⟨_, hsends.trans hrest, hends⟩

end Race

/-! ## 6. Printing -/

/-- What is printed of a talk: a line for each frame that was received. -/
def Relayed.printed (r : Relayed) : Bytes :=
  Bytes.ofString (String.join (r.frames.map (Frame.describe · ++ "\n")))

/-- The client that a talk leaves: what was sent is on the record of the connection, and what was
received is printed. -/
def Relayed.leaves (r : Relayed) (c : Client) : Client :=
  let settled := r.session.settle c.system
  { c with system := { settled with output := c.system.output ++ r.printed } }

/-- **The command prints what was received**, and ends as the talk did. -/
theorem talk_run {url : String} {c : Client} {session : Session} {o : WebSocket.Opening}
    (hrun : WebSocket.Request.run (.ofUrl url, c) = .ok session o) {r : Relayed}
    (hr : relay (.ofInflow o.2.system.input) session = r) :
    talk url c = match r.halt with
      | none => .ok () (r.leaves o.2)
      | some halt => .error halt (r.leaves o.2) := by
  have hopened : onLibrary WebSocket.Request.run (.ofUrl url, c) = .ok session o :=
    Act.mapError_ok hrun
  have hprinted : (printLines (r.frames.map Frame.describe) : Act Failure Client Unit)
      { o.2 with system := r.session.settle o.2.system } = .ok () (r.leaves o.2) := by
    unfold printLines
    rw [List.map_map]
    rfl
  have hget : (get : Act Failure Client Client) o.2 = .ok o.2 o.2 := rfl
  have hsettled : (modify fun c => { c with system := r.session.settle c.system } :
      Act Failure Client Unit) o.2 =
        .ok () { o.2 with system := r.session.settle o.2.system } := rfl
  unfold talk
  rw [Act.bind_ok (Act.within_run hopened), Act.bind_ok hget, hr, Act.bind_ok hsettled,
    Act.bind_ok hprinted]
  cases r.halt <;> rfl

/-! ## 7. The whole -/

/-- **A talk sends its lines and receives the frames of the peer, in any order of events**: each
once and in order, and with one frame that closes if it came to its end.  What the program does is
one of these orders, and the command prints what was received.

This is about working writes: by `htakes` the connection takes every write at once, and all of it.
Where it would not, sending could wait in the middle of a frame and be dropped there when receiving
ends, with a part of the frame on the connection and perhaps a close frame behind it.  Such talks
are outside the statement. -/
theorem relay_upholds {session : Session} {link : Nat} {options : Options} {bytes : Bytes}
    {ending : Ending} {s : System} (hstarts : session.Starts link options true bytes ending s)
    (htakes : (s.outflow link).Takes) :
    (∀ lines, Runs lines session (relay lines session)) ∧
    (∀ lines r, Runs lines session r → Upholds lines session r) ∧
    ∀ (url : String) (c : Client) (o : WebSocket.Opening) (r : Relayed),
      WebSocket.Request.run (.ofUrl url, c) = .ok session o →
      relay (.ofInflow o.2.system.input) session = r →
      talk url c = match r.halt with
        | none => .ok () (r.leaves o.2)
        | some halt => .error halt (r.leaves o.2) := by
  obtain ⟨reader, rfl⟩ := hstarts.made
  have haccount (lines : Lines) : Race.Account lines (Session.ofReader reader link options true s)
      [] [] (.start lines _) := Race.account_start htakes rfl rfl rfl
  refine ⟨fun lines => Race.runs_relay (haccount lines), ?_, ?_⟩
  · rintro lines r ⟨t, hreaches, hends⟩
    obtain ⟨all, texts, ht⟩ := Race.account_of_reaches (haccount lines) hreaches
    exact ht.upholds rfl hends
  · intro url c o r hrun hr
    exact talk_run hrun hr

/-- A system with a connection to a server on it, and two lines to be typed. -/
def typing : System where
  links := [.opened System.caller false .matched {}]
  input := ⟨[Bytes.ofString "hi\nyo\n"], .eof⟩

/-- A session on it with a server that says `ok`, and closes. -/
def talking : Session :=
  Session.ofReader (.ofInflow ⟨[[0x81, 2, 111, 107], [0x88, 2, 3, 232]], .eof⟩) 0 {} true typing

theorem relay_upholds_talking : (typing.outflow 0).Takes ∧
    Runs (.ofInflow typing.input) talking (relay (.ofInflow typing.input) talking) ∧
    Upholds (.ofInflow typing.input) talking (relay (.ofInflow typing.input) talking) := by
  have hstarts : talking.Starts 0 {} true [0x81, 2, 111, 107, 0x88, 2, 3, 232] .eof typing :=
    ⟨⟨_, rfl⟩, rfl, rfl⟩
  have htakes : (typing.outflow 0).Takes := ⟨rfl, rfl⟩
  obtain ⟨hruns, hupholds, -⟩ := relay_upholds hstarts htakes
  exact ⟨htakes, hruns _, hupholds _ _ (hruns _)⟩

end Cli

end UrlTransfer
