/-
# Frames that are refused

A frame can be refused for three reasons, and what a session remembers of its past decides between
them: whether the sending side is open, and which message is left unfinished (`Refuses`).  Of the
message only its type is kept; along a run it is that of the last data frame that was not refused,
unless this was the last of its message (`sending_behind`).  A frame that was accepted counts also
where the connection did not take it, because the books are brought up to date before anything is
written.

For the same reason a refusal could leave traces: the masking key is drawn before the frame is
looked at.  The key is the only one.  A refused frame leaves a twin of the session (`refused_next`),
and twins cannot be told apart (`twins_sights`).
-/
import Mathlib.Data.List.Induction
import UrlTransfer.Proofs.WebSocket.Twins

namespace UrlTransfer

open Act (FailsWith after outcome)

namespace WebSocket

/-- Why a frame is refused, by a session whose sending side is open or not, and that has left a
message of some type unfinished or none. -/
inductive Refuses (canWrite : Bool) (unfinished : Option Opcode) (frame : Outgoing) :
    Error → Prop where
  | shut (hshut : canWrite = false) : Refuses canWrite unfinished frame .shutdown
  | longPayload (hopen : canWrite = true) (hop : frame.op = .ping ∨ frame.op = .pong)
      (hlong : 125 < frame.payload.length) :
      Refuses canWrite unfinished frame (.webSocket .userInvalidControlFrame)
  | longReason (hopen : canWrite = true) (hop : frame.op = .close)
      (hlong : 123 < frame.payload.length) :
      Refuses canWrite unfinished frame (.webSocket .userInvalidControlFrame)
  | otherType (hopen : canWrite = true) (op : Opcode) (hunfinished : unfinished = some op)
      (hdata : frame.op.isControl = false) (hother : op ≠ frame.op) :
      Refuses canWrite unfinished frame (.webSocket .dataTypeMismatch)

namespace Session

/-! ## 1. What is wrong with a frame -/

section

variable {sending : Option Opcode} {frame : Outgoing}

theorem fault?_long (hcontrol : frame.op.isControl = true)
    (hlong : controlLimit frame.op < frame.payload.length) :
    fault? sending frame = some .userInvalidControlFrame := by
  unfold fault?
  rw [if_pos hcontrol, if_pos hlong]

theorem fault?_otherType {op : Opcode} (hdata : frame.op.isControl = false)
    (hother : op ≠ frame.op) : fault? (some op) frame = some .dataTypeMismatch := by
  unfold fault?
  rw [if_neg (by simp [hdata])]
  exact if_neg hother

/-- A control frame is too long, or a data frame goes on with another kind of message. -/
theorem fault?_cases {fault : WebSocketError} (h : fault? sending frame = some fault) :
    (frame.op.isControl = true ∧ controlLimit frame.op < frame.payload.length ∧
      fault = .userInvalidControlFrame) ∨
    (frame.op.isControl = false ∧ fault = .dataTypeMismatch ∧
      ∃ op, sending = some op ∧ op ≠ frame.op) := by
  unfold fault? at h
  split at h
  · next hcontrol =>
    split at h
    · next hlong => cases h; exact .inl ⟨hcontrol, hlong, rfl⟩
    · cases h
  · next hdata =>
    split at h
    · cases h
    · next op =>
      split at h
      · cases h
      · next hother => cases h; exact .inr ⟨by simpa using hdata, rfl, op, rfl, hother⟩

theorem refusal?_open {s : Session} (hopen : s.canWrite = true) (frame : Outgoing) :
    s.refusal? frame = (fault? s.sending frame).map .webSocket := by
  unfold canWrite at hopen
  unfold refusal?
  exact if_neg (by simpa using hopen)

/-- **A frame is refused for one of the reasons, and whenever there is one.** -/
theorem refusal?_iff {s : Session} {e : Error} :
    s.refusal? frame = some e ↔ Refuses s.canWrite s.sending frame e := by
  constructor
  · intro h
    cases hopen : s.canWrite with
    | false =>
      unfold refusal? at h
      rw [if_pos (by simpa [canWrite] using hopen)] at h
      cases h
      exact .shut rfl
    | true =>
      rw [refusal?_open hopen] at h
      obtain ⟨fault, hfault, rfl⟩ := Option.map_eq_some_iff.1 h
      rcases fault?_cases hfault with ⟨hcontrol, hlong, rfl⟩ | ⟨hdata, rfl, op, hsending, hother⟩
      · cases hop : frame.op with
        | close => exact .longReason rfl hop (by rwa [hop] at hlong)
        | ping => exact .longPayload rfl (.inl hop) (by rwa [hop] at hlong)
        | pong => exact .longPayload rfl (.inr hop) (by rwa [hop] at hlong)
        | _ => rw [hop] at hcontrol; cases hcontrol
      · exact .otherType rfl op hsending hdata hother
  · intro h
    cases h with
    | shut hshut => exact if_pos (by simpa [canWrite] using hshut)
    | longPayload hopen hop hlong =>
      have hfault : fault? s.sending frame = some .userInvalidControlFrame := by
        rcases hop with hop | hop
        all_goals exact fault?_long (by rw [hop]; rfl) (by rw [hop]; exact hlong)
      rw [refusal?_open hopen, hfault]
      rfl
    | longReason hopen hop hlong =>
      rw [refusal?_open hopen, fault?_long (by rw [hop]; rfl) (by rw [hop]; exact hlong)]
      rfl
    | otherType hopen op hsending hdata hother =>
      rw [refusal?_open hopen, hsending, fault?_otherType hdata hother]
      rfl

end

/-! ## 2. What a call answers -/

variable {s : Session} {frame : Outgoing} {o : Operation} {e : Error}

theorem failsWith_onOutflow {α : Type} (x : Act IoError Outflow α) :
    FailsWith (fun e => ∃ fault, e = .io fault) (onOutflow x) := .mapError _ _

/-- A frame that is not refused can only fail because of the connection. -/
theorem write_fails (h : s.refusal? frame = none)
    (hfails : outcome (write frame) s = .error (.failed e)) : ∃ fault, e = .io fault := by
  obtain ⟨key, entropy, -, hwrite⟩ := write_eq h
  rw [Act.outcome_congr hwrite] at hfails
  have hs := Act.eq_error_of_outcome hfails
  -- Behind the key and the kind only the connection is used.
  revert hs
  split
  · exact fun hs => FailsWith.bind (.modifyState _)
      (fun _ => (failsWith_onOutflow _).timely.bind fun _ => .pure _) hs
  · exact fun hs => failsWith_onOutflow _ hs

/-- Behind the frame nothing fails. -/
theorem outcome_send (s : Session) (frame : Outgoing) :
    outcome (send frame) s = outcome (write frame) s := by
  unfold send
  cases hwrite : write frame s with
  | error halt s' => rw [Act.outcome_error (Act.bind_error hwrite), Act.outcome_error hwrite]
  | ok u s' =>
    rw [Act.outcome_congr (Act.bind_ok hwrite), Act.outcome_ok hwrite]
    split
    · obtain ⟨r, hdrain⟩ := drainIfClosed_reader s'
      exact Act.outcome_ok hdrain
    · rfl

/-- What a call answers that passes a frame. -/
theorem answer_of_passed (ho : o.passed = [frame]) (s : Session) :
    o.answer s = .sent (outcome (write frame) s) := by
  cases o with
  | event event =>
    cases event with
    | send => cases ho; exact congrArg Answer.sent (outcome_send s frame)
    | write => cases ho; rfl
    | _ => cases ho
  | _ => cases ho

/-- **A call is answered with a refusal exactly if the frame is refused.** -/
theorem answer_refused_iff (ho : o.passed = [frame]) :
    o.answer s = .sent (.error (.failed e)) ∧ isRefusal (.failed e) = true ↔
      s.refusal? frame = some e := by
  rw [answer_of_passed ho, Answer.sent.injEq]
  constructor
  · rintro ⟨hfails, hrefusal⟩
    cases h : s.refusal? frame with
    | none =>
      obtain ⟨fault, rfl⟩ := write_fails h hfails
      cases hrefusal
    | some e' =>
      obtain ⟨entropy, hwrite⟩ := write_refused h
      rw [Act.outcome_error hwrite] at hfails
      cases hfails
      rfl
  · intro h
    obtain ⟨entropy, hwrite⟩ := write_refused h
    exact ⟨Act.outcome_error hwrite, isRefusal_refusal? h⟩

/-- **A refused frame changes where masking keys come from, and nothing else.** -/
theorem refused_next (ho : o.passed = [frame]) (h : s.refusal? frame = some e) :
    ∃ entropy, o.next s = { s with entropy } := by
  cases o with
  | event event =>
    cases event with
    | send =>
      cases ho
      obtain ⟨entropy, hsend⟩ := send_refused h
      exact ⟨entropy, Act.after_error hsend⟩
    | write =>
      cases ho
      obtain ⟨entropy, hwrite⟩ := write_refused h
      exact ⟨entropy, Act.after_error hwrite⟩
    | _ => cases ho
  | _ => cases ho

/-! ## 3. The message left unfinished -/

/-- Is this the refusal of a frame? -/
def Answer.isRefused : Answer → Bool
  | sent (.error halt) => isRefusal halt
  | _ => false

/-- The frames of an operation that were not refused. -/
def Operation.accepted (s : Session) (o : Operation) : List Outgoing :=
  if (o.answer s).isRefused then [] else o.passed

/-- The frames of a run that were not refused, **also those that the connection did not take**. -/
def accepted (s : Session) : List Operation → List Outgoing
  | [] => []
  | o :: rest => o.accepted s ++ accepted (o.next s) rest

/-- The type of the message that some frames leave unfinished: that of the last data frame, unless
it is the last of its message. -/
def unfinished (frames : List Outgoing) : Option Opcode :=
  match (frames.filter fun frame => !frame.op.isControl).getLast? with
  | some frame => if frame.fin then none else some frame.op
  | none => none

/-- The message that is unfinished is followed frame by frame. -/
theorem unfinished_eq (frames : List Outgoing) :
    unfinished frames = frames.foldl sendingBehind none := by
  -- The last frame decides, so the induction is from behind.
  induction frames using List.reverseRecOn with
  | nil => rfl
  | append_singleton frames frame ih =>
    rw [List.foldl_append, ← ih]
    unfold unfinished
    rw [List.filter_append]
    show _ = sendingBehind _ frame
    unfold sendingBehind
    cases hcontrol : frame.op.isControl with
    | true => simp [hcontrol]
    | false => simp [hcontrol]

/-- A call counts as refused exactly if the frame is. -/
theorem isRefused_iff (ho : o.passed = [frame]) :
    (o.answer s).isRefused = true ↔ ∃ e, s.refusal? frame = some e := by
  constructor
  · intro h
    have hanswer := answer_of_passed ho s
    cases houtcome : outcome (write frame) s with
    | ok u => rw [hanswer, houtcome] at h; cases h
    | error halt =>
      rw [houtcome] at hanswer
      rw [hanswer] at h
      cases halt with
      | stalled => cases h
      | failed e => exact ⟨e, (answer_refused_iff ho).1 ⟨hanswer, h⟩⟩
  · rintro ⟨e, h⟩
    obtain ⟨hanswer, hrefusal⟩ := (answer_refused_iff ho).2 h
    rw [hanswer]
    exact hrefusal

/-- What a frame that is passed does to the message. -/
theorem sending_write (ho : o.passed = [frame]) :
    (after (write frame) s).sending = (o.accepted s).foldl sendingBehind s.sending := by
  unfold Operation.accepted
  cases h : s.refusal? frame with
  | some e =>
    obtain ⟨entropy, hwrite⟩ := write_refused h
    rw [Act.after_error hwrite, if_pos ((isRefused_iff ho).2 ⟨e, h⟩)]
    rfl
  | none =>
    have hnot : ¬ (o.answer s).isRefused = true := by
      rw [isRefused_iff ho, h]
      rintro ⟨e, he⟩
      cases he
    rw [if_neg hnot, ho]
    -- Whatever the connection takes of the frame, the message is the same behind it.
    by_cases hop : frame.op = .close
    · obtain ⟨key, entropy, part, -, -, hafter⟩ := after_write_close hop h
      rw [hafter]
      rfl
    · obtain ⟨key, entropy, part, -, -, hafter⟩ := after_write_data hop h
      rw [hafter]
      rfl

/-- **What a session remembers of its message is brought up to date by the frames that are not
refused.** -/
theorem sending_next (s : Session) (o : Operation) :
    (o.next s).sending = (o.accepted s).foldl sendingBehind s.sending := by
  have hquiet (ho : o.passed = []) (h : (o.next s).sending = s.sending) :
      (o.next s).sending = (o.accepted s).foldl sendingBehind s.sending := by
    rw [h, Operation.accepted, ho, ite_self]
    rfl
  cases o with
  | event event =>
    cases event with
    | send frame => exact (sending_of_side (sendingSide_send s frame)).trans (sending_write rfl)
    | write frame => exact sending_write rfl
    | recv => exact hquiet rfl (sending_of_side (keeps_recv s))
    | recvAll => exact hquiet rfl (sending_of_side (sendingSide_recvAll s))
    | readHeader => exact hquiet rfl (sending_of_side (keeps_readHeader s))
    | readData header n =>
      exact hquiet rfl (sending_of_side (keeps_readData blind_sendingSide header n s))
    | discardData header =>
      exact hquiet rfl (sending_of_side (after_discardData blind_sendingSide header s))
    | network inflow limit shutdownFault => exact hquiet rfl rfl
  | setMaxMessageLength n => exact hquiet rfl rfl
  | setCloseTimeout timeout => exact hquiet rfl rfl

/-- **What is remembered of the message follows from the frames that were not refused.** -/
theorem sending_behind (s : Session) (operations : List Operation) :
    (s.behind operations).sending = (s.accepted operations).foldl sendingBehind s.sending := by
  induction operations generalizing s with
  | nil => rfl
  | cons o rest ih =>
    rw [accepted, List.foldl_append, ← sending_next]
    exact ih (o.next s)

/-- Behind its opening a session remembers the type of the message that it left unfinished. -/
theorem sending_unfinished (reader : Reader) (link : Nat) (options : Options) (isClient : Bool)
    (system : System) (operations : List Operation) :
    ((ofReader reader link options isClient system).behind operations).sending =
      unfinished ((ofReader reader link options isClient system).accepted operations) := by
  rw [sending_behind, unfinished_eq]
  rfl

/-! ## 4. Refused frames -/

/-- **A refused frame changes nothing.**  On a session in any state that can be reached, a frame is
refused exactly where the sending side is closed, a control frame is too long, or a data frame is of
another type than the message that is left unfinished.  The call writes nothing then, and all that
is seen along any run behind it is seen without it too, up to the masking keys. -/
theorem refused_changes_nothing (reader : Reader) (link : Nat) (options : Options)
    (isClient : Bool) (system : System) (before : List Operation) (call : Operation)
    (frame : Outgoing) (hcall : call.passed = [frame]) (e : Error) :
    let start := ofReader reader link options isClient system
    let s := start.behind before
    (call.answer s = .sent (.error (.failed e)) ∧ isRefusal (.failed e) = true ↔
      Refuses s.canWrite (unfinished (start.accepted before)) frame e) ∧
    (call.answer s = .sent (.error (.failed e)) → isRefusal (.failed e) = true →
      (call.sight s).wrote = [] ∧ (∃ entropy, call.next s = { s with entropy }) ∧
      ∀ more, List.Forall₂ SameButKeys ((call.next s).sights more) (s.sights more)) := by
  intro start s
  have hsending : s.sending = unfinished (start.accepted before) :=
    sending_unfinished reader link options isClient system before
  refine ⟨?_, fun hanswer hrefusal => ?_⟩
  · rw [← hsending, ← refusal?_iff]
    exact answer_refused_iff hcall
  · obtain ⟨entropy, hnext⟩ := refused_next hcall ((answer_refused_iff hcall).1 ⟨hanswer, hrefusal⟩)
    refine ⟨Operation.wrote_nothing (by rw [hnext]), ⟨entropy, hnext⟩, fun more => ?_⟩
    rw [hnext]
    exact twins_sights (.drawn s entropy) more

/-- A client in the middle of a text refuses binary data, and goes on as if it had not been
asked. -/
theorem refused_changes_nothing_midText :
    let s := (ofReader (.ofInflow .empty) 0 {} true {}).behind [.event (.send (.ofText "a" false))]
    let call : Operation := .event (.send (.ofBytes [7] true))
    call.answer s = .sent (.error (.failed (.webSocket .dataTypeMismatch))) ∧
      (call.sight s).wrote = [] ∧
      ∀ more, List.Forall₂ SameButKeys ((call.next s).sights more) (s.sights more) := by
  intro s call
  obtain ⟨hrefused, hsame⟩ := refused_changes_nothing (.ofInflow .empty) 0 {} true {}
    [.event (.send (.ofText "a" false))] call (.ofBytes [7] true) rfl (.webSocket .dataTypeMismatch)
  obtain ⟨hanswer, hrefusal⟩ := hrefused.2 (.otherType rfl .text rfl rfl (by decide))
  obtain ⟨hwrote, -, hmore⟩ := hsame hanswer hrefusal
  exact ⟨hanswer, hwrote, hmore⟩

end Session

end WebSocket

end UrlTransfer
