/-
# What a session sends

`refusal?` says which frames a session refuses: all of them once it has sent a close frame, a
control frame that is too long, and a part of a message of another kind than the message.  A
refused frame sends nothing and changes nothing but the source of masking keys (`send_refused`).
Every other frame is written as a whole (`send_accepted`), as a header and a payload that is masked
exactly if the session is a client, and `Writes` says what the session is then: which message is
open, and whether the sending side is.

All this is for a connection that takes everything (`Outflow.Takes`).  Ending the sending direction
may still fail behind a close frame; the frame itself is written then.
-/
import UrlTransfer.WebSocket.Session

namespace UrlTransfer

/-! ## 1. Connections that take everything -/

/-- The connection takes everything, and records it. -/
structure Outflow.Takes (o : Outflow) : Prop where
  limit : o.limit = none
  heard : o.heard = true

namespace Outflow

/-- Only the way in which the connection was ended has changed. -/
structure Ended (o o' : Outflow) : Prop where
  sent : o'.sent = o.sent
  takes : o.Takes → o'.Takes

theorem write_takes {o : Outflow} (h : o.Takes) (bytes : Bytes) :
    write bytes o = .ok () { o with sent := o.sent ++ bytes } := by
  unfold write push
  rw [h.limit, h.heard]
  rfl

/-- Ending the sending direction sends nothing, even where it fails. -/
theorem close_ended (o : Outflow) :
    ∃ o', o.Ended o' ∧ (close o = .ok () o' ∨ ∃ e, close o = .error (.failed e) o') := by
  refine ⟨{ o with shutdowns := o.shutdowns ++ [.write] }, ⟨rfl, fun h => ⟨h.limit, h.heard⟩⟩, ?_⟩
  unfold close shutdown
  cases o.shutdownFault with
  | none => exact .inl rfl
  | some e =>
    dsimp only
    split
    · next hgone => cases hgone; exact .inl rfl
    · exact .inr ⟨e, rfl⟩

end Outflow

namespace WebSocket

namespace Session

/-! ## 2. Refusals -/

/-- What is wrong with a frame for the message that is open. -/
def fault? (sending : Option Opcode) (frame : Outgoing) : Option WebSocketError :=
  if frame.op.isControl then
    if controlLimit frame.op < frame.payload.length then some .userInvalidControlFrame else none
  else
    match sending with
    | none => none
    | some op => if op = frame.op then none else some .dataTypeMismatch

/-- Where no message is begun, only a control frame can be wrong: it can be too long. -/
theorem fault?_fresh {frame : Outgoing}
    (h : frame.op.isControl = true → frame.payload.length ≤ controlLimit frame.op) :
    fault? none frame = none := by
  unfold fault?
  split
  · next hcontrol => rw [if_neg (Nat.not_lt.2 (h hcontrol))]
  · rfl

/-- Why a frame is refused, if it is.  **A closed sending side counts first.** -/
def refusal? (s : Session) (frame : Outgoing) : Option Error :=
  if s.writeClosed then some .shutdown else (fault? s.sending frame).map .webSocket

/-- The kind that a frame is sent as. -/
def wireKind (sending : Option Opcode) (frame : Outgoing) : Opcode :=
  if !frame.op.isControl && sending.isSome then .continuation else frame.op

/-- The message that is open behind a frame. -/
def sendingBehind (sending : Option Opcode) (frame : Outgoing) : Option Opcode :=
  if frame.op.isControl then sending else if frame.fin then none else some frame.op

/-- What is sent as a close frame is one. -/
theorem wireKind_eq_close {sending : Option Opcode} {frame : Outgoing} :
    wireKind sending frame = .close ↔ frame.op = .close := by
  unfold wireKind
  cases hop : frame.op <;> cases sending <;> simp [Opcode.isControl, Opcode.code]

/-- Only clients mask. -/
theorem drawKey_run (s : Session) :
    ∃ key entropy, drawKey s = .ok key { s with entropy } ∧ key.isSome = s.isClient := by
  unfold drawKey
  by_cases hclient : s.isClient
  · rw [if_pos hclient, hclient]
    exact ⟨_, _, rfl, rfl⟩
  · rw [if_neg hclient]
    exact ⟨none, s.entropy, rfl, by simpa using hclient⟩

/-- **The kind of a frame follows from the message that is open.** -/
theorem kind_run (frame : Outgoing) (s : Session) :
    kind frame s =
      match fault? s.sending frame with
      | some fault => .error (.failed (.webSocket fault)) s
      | none => .ok (wireKind s.sending frame)
          { s with sending := sendingBehind s.sending frame } := by
  unfold kind fault? wireKind sendingBehind
  cases hcontrol : frame.op.isControl with
  | true =>
    by_cases hlength : controlLimit frame.op < frame.payload.length
    · simp [hlength]
    · simp [hlength]
  | false =>
    unfold dataKind
    obtain ⟨reader, outflow, link, entropy, isClient, maxMessageLength, closeTimeout, readClosed,
      writeClosed, continuing, message, sending⟩ := s
    cases sending with
    | none => cases hfin : frame.fin <;> simp
    | some op => by_cases hop : op = frame.op <;> cases hfin : frame.fin <;> simp [hop]

/-- A closed sending side refuses every frame. -/
theorem write_shut {s : Session} (hclosed : s.writeClosed = true) (frame : Outgoing) :
    write frame s = .error (.failed .shutdown) s := by
  unfold write
  rw [Act.bind_ok (show (get : Act Error Session Session) s = .ok s s from rfl), if_pos hclosed]
  rfl

theorem write_refused {s : Session} {frame : Outgoing} {e : Error}
    (h : s.refusal? frame = some e) :
    ∃ entropy, write frame s = .error (.failed e) { s with entropy } := by
  have hget : (get : Act Error Session Session) s = .ok s s := rfl
  unfold refusal? at h
  by_cases hclosed : s.writeClosed
  · rw [if_pos hclosed] at h
    cases h
    exact ⟨s.entropy, write_shut hclosed frame⟩
  · rw [if_neg hclosed] at h
    obtain ⟨fault, hfault, rfl⟩ := Option.map_eq_some_iff.1 h
    obtain ⟨key, entropy, hdraw, -⟩ := drawKey_run s
    have hkind := kind_run frame { s with entropy }
    rw [show ({ s with entropy } : Session).sending = s.sending from rfl, hfault] at hkind
    refine ⟨entropy, ?_⟩
    unfold write
    rw [Act.bind_ok hget, if_neg hclosed, Act.bind_ok hdraw, Act.bind_error hkind]

/-- **A refused frame sends nothing.** -/
theorem send_refused {s : Session} {frame : Outgoing} {e : Error}
    (h : s.refusal? frame = some e) :
    ∃ entropy, send frame s = .error (.failed e) { s with entropy } := by
  obtain ⟨entropy, hwrite⟩ := write_refused h
  exact ⟨entropy, Act.bind_error hwrite⟩

/-! ## 3. Frames that are sent -/

/-- A frame has been sent, with this masking key. -/
structure Writes (s : Session) (frame : Outgoing) (key : Option UInt32) (s' : Session) :
    Prop where
  masked : key.isSome = s.isClient
  sent : s'.outflow.sent =
    s.outflow.sent ++ frameBytes key (wireKind s.sending frame) frame
  takes : s'.outflow.Takes
  isClient : s'.isClient = s.isClient
  sending : s'.sending = sendingBehind s.sending frame
  writeClosed : s'.writeClosed = (frame.op == .close)

/-- The action succeeds, or fails because of the connection; it ends in this session. -/
def EndsIn (result : EStateM.Result (Halt Error) Session Unit) (s : Session) : Prop :=
  result = .ok () s ∨ ∃ e, result = .error (.failed (.io e)) s

theorem onOutflow_write {s : Session} (htakes : s.outflow.Takes) (bytes : Bytes) :
    onOutflow (Outflow.write bytes) s =
      .ok () { s with outflow := { s.outflow with sent := s.outflow.sent ++ bytes } } :=
  Act.mapError_ok (Act.within_run (Outflow.write_takes htakes bytes))

/-- The last bytes are written, whether or not the sending direction could be ended. -/
theorem writeLast_endsIn {s : Session} (htakes : s.outflow.Takes) (bytes : Bytes) :
    ∃ o, o.sent = s.outflow.sent ++ bytes ∧ o.Takes ∧
      EndsIn (writeLast bytes s) { s with outflow := o } := by
  obtain ⟨o, hended, hclose⟩ :=
    Outflow.close_ended { s.outflow with sent := s.outflow.sent ++ bytes }
  refine ⟨o, hended.sent, hended.takes ⟨htakes.limit, htakes.heard⟩, ?_⟩
  have hboth : (do Outflow.write bytes; Outflow.close : Act IoError Outflow Unit) s.outflow =
      Outflow.close { s.outflow with sent := s.outflow.sent ++ bytes } :=
    Act.bind_ok (Outflow.write_takes htakes bytes)
  unfold EndsIn writeLast
  rcases hclose with hclose | ⟨e, hclose⟩
  · left
    refine Act.bind_ok (a := some ()) ?_
    unfold Act.timely onOutflow Act.mapError Act.within
    rw [hboth, hclose]
  · right
    refine ⟨e, Act.bind_error ?_⟩
    unfold Act.timely onOutflow Act.mapError Act.within
    rw [hboth, hclose]
    rfl

theorem drainIfClosed_reader (s : Session) :
    ∃ r, drainIfClosed s = .ok () { s with reader := r } := by
  unfold drainIfClosed
  split
  · exact ⟨_, rfl⟩
  · exact ⟨s.reader, rfl⟩

/-- A frame that is not refused is written. -/
theorem write_accepted {s : Session} {frame : Outgoing} (htakes : s.outflow.Takes)
    (h : s.refusal? frame = none) :
    ∃ key s', Writes s frame key s' ∧ EndsIn (write frame s) s' := by
  have hget : (get : Act Error Session Session) s = .ok s s := rfl
  unfold refusal? at h
  by_cases hclosed : s.writeClosed
  · rw [if_pos hclosed] at h; cases h
  rw [if_neg hclosed] at h
  obtain ⟨key, entropy, hdraw, hmasked⟩ := drawKey_run s
  have hkind := kind_run frame { s with entropy }
  rw [show ({ s with entropy } : Session).sending = s.sending from rfl,
    Option.map_eq_none_iff.1 h] at hkind
  dsimp only at hkind
  unfold write
  rw [Act.bind_ok hget, if_neg hclosed, Act.bind_ok hdraw, Act.bind_ok hkind]
  by_cases hop : wireKind s.sending frame = .close
  · rw [if_pos hop]
    obtain ⟨o, hsent, hends⟩ := writeLast_endsIn (s := { s with
      entropy, sending := sendingBehind s.sending frame, writeClosed := true }) htakes
      (frameBytes key (wireKind s.sending frame) frame)
    refine ⟨key, { s with
      outflow := o, entropy, sending := sendingBehind s.sending frame, writeClosed := true },
      ⟨hmasked, hsent, hends.1, rfl, rfl, ?_⟩, hends.2⟩
    simp [wireKind_eq_close.1 hop]
  · rw [if_neg hop]
    have hop' : frame.op ≠ .close := fun h => hop (wireKind_eq_close.2 h)
    refine ⟨key, { s with
      outflow := { s.outflow with
        sent := s.outflow.sent ++ frameBytes key (wireKind s.sending frame) frame }
      entropy, sending := sendingBehind s.sending frame },
      ⟨hmasked, rfl, ⟨htakes.limit, htakes.heard⟩, rfl, rfl, ?_⟩, .inl ?_⟩
    · simp [hclosed, hop']
    · exact onOutflow_write
        (s := { s with entropy, sending := sendingBehind s.sending frame }) htakes _

/-- **A frame that is not refused is sent**, and only the connection may fail behind it. -/
theorem send_accepted {s : Session} {frame : Outgoing} (htakes : s.outflow.Takes)
    (h : s.refusal? frame = none) :
    ∃ key s', Writes s frame key s' ∧ EndsIn (send frame s) s' := by
  rcases write_accepted htakes h with ⟨key, s', hwrites, hwrite | ⟨e, hwrite⟩⟩
  · by_cases hop : frame.op = .close
    · obtain ⟨r, hdrain⟩ := drainIfClosed_reader s'
      refine ⟨key, { s' with reader := r }, ⟨hwrites.masked, hwrites.sent, hwrites.takes,
        hwrites.isClient, hwrites.sending, hwrites.writeClosed⟩, .inl ?_⟩
      unfold send
      rw [Act.bind_ok hwrite, if_pos hop, hdrain]
    · refine ⟨key, s', hwrites, .inl ?_⟩
      unfold send
      rw [Act.bind_ok hwrite, if_neg hop]
      rfl
  · exact ⟨key, s', hwrites, .inr ⟨e, Act.bind_error hwrite⟩⟩

end Session

end WebSocket

end UrlTransfer
