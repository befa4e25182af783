/-
# The codes that stand for none

Two status codes are never to be sent: what is received for a close frame without a code, and what
is received where the stream ends without a close frame.  Whether they are is looked at on the wire:
`closeCode?` is the status code that a reader finds in the bytes of a frame, and `Event.wrote` are
the bytes that an event puts on the connection.

A close frame is written as it is passed.  A front of its bytes carries its code exactly if it
reaches as far (`closeCode?_front`), so an event carries the code of a close frame that it passes,
if the sending side is open and the frame is not too long (`closeCode?_wrote`).  That is the first
such frame of a run, and the reserved codes stay off the wire exactly if it has neither of them
(`keepsReserved_iff`).  The frame may well be one that was received, since a received close frame
can always be sent back (`isValidClose_ofFrame`).
-/
import UrlTransfer.Proofs.WebSocket.Aligning
import UrlTransfer.Proofs.WebSocket.Halves

namespace UrlTransfer

open Act (after)

namespace WebSocket

/-! ## 1. Headers at the front of a byte string -/

namespace FrameHeader

/-- **A header is taken off the front whatever stands behind it.** -/
theorem parser_append {bytes rest : Bytes} {h : FrameHeader}
    (hparse : parser bytes = .ok (some h, rest)) (more : Bytes) :
    parser (bytes ++ more) = .ok (some h, rest ++ more) := by
  have hahead : (Reader.ofInflow ⟨[bytes ++ more], .eof⟩).ahead = bytes ++ more := by
    simp [Reader.ahead, Inflow.rest, Reader.ofInflow, Reader.withCapacity]
  obtain ⟨r, hread, hr⟩ := read_of_parsed hparse hahead
  have hend : Readers.ending.mem (Reader.ofInflow ⟨[bytes ++ more], .eof⟩) :=
    show Ending.eof = .eof from rfl
  have hparse' := (computes_read.of_ok hend hread).1
  rw [hahead, hr] at hparse'
  exact hparse'

/-- The kind stands in the first byte. -/
theorem op_of_parsed {first : UInt8} {bytes rest : Bytes} {h : FrameHeader}
    (hparse : parser (first :: bytes) = .ok (some h, rest)) :
    Opcode.ofCode? (first.toNat % 16) = some h.op := by
  match bytes with
  | [] => cases hparse
  | second :: more =>
    rw [parser] at hparse
    cases hrest : restParser first.toNat second.toNat more with
    | error e => rw [hrest] at hparse; cases hparse
    | ok p =>
      obtain ⟨h', left⟩ := p
      rw [hrest] at hparse
      cases hparse
      unfold restParser at hrest
      split at hrest
      · cases hrest
      · cases hop : Opcode.ofCode? (first.toNat % 16) with
        | none => rw [hop] at hrest; cases hrest
        | some op =>
          rw [hop] at hrest
          obtain ⟨length, _, -, hrest⟩ := Parser.bind_eq_ok.1 hrest
          obtain ⟨key, _, -, hrest⟩ := Parser.bind_eq_ok.1 hrest
          cases hrest
          rfl

/-- A header that stands at the front of what is written is of the kind that was written. -/
theorem op_of_front {h h' : FrameHeader} {content bytes left : Bytes}
    (hfront : bytes <+: h.encode ++ content) (hparse : parser bytes = .ok (some h', left)) :
    h'.op = h.op := by
  obtain ⟨more, hmore⟩ := hfront
  have hwhole := parser_append hparse more
  rw [hmore, encode_eq, List.cons_append] at hwhole
  have hop := op_of_parsed hwhole
  have hcode : (UInt8.ofNat ((if h.fin then finBit else 0) + h.op.code)).toNat % 16 =
      h.op.code := by
    have := Opcode.code_lt h.op
    rw [UInt8.toNat_ofNat']
    unfold finBit
    split <;> omega
  rw [hcode, Opcode.ofCode?_code] at hop
  exact (Option.some.inj hop).symm

/-- The length of a short frame stands in the second byte. -/
theorem length_encode {h : FrameHeader} (hshort : h.length < length16) :
    h.encode.length = if h.key.isSome then 6 else 2 := by
  rw [encode_eq, extendedLength, if_pos hshort]
  cases hkey : h.key with
  | none => rfl
  | some key => simp [keyBytes]

end FrameHeader

/-! ## 2. Status codes on the wire -/

/-- The status code that a reader finds at the front of a byte string, if a close frame stands
there and its code does. -/
def closeCode? (bytes : Bytes) : Option Nat :=
  match FrameHeader.parser bytes with
  | .ok (some h, rest) =>
    if h.op = .close then
      match maskBy h.key (rest.take h.length) with
      | high :: low :: _ => some (high.toNat * 256 + low.toNat)
      | _ => none
    else none
  | _ => none

/-- Where nothing is written there is no code. -/
@[simp] theorem closeCode?_nil : closeCode? [] = none := rfl

theorem closeCode?_parsed {bytes rest : Bytes} {h : FrameHeader}
    (hparse : FrameHeader.parser bytes = .ok (some h, rest)) :
    closeCode? bytes =
      if h.op = .close then
        match maskBy h.key (rest.take h.length) with
        | high :: low :: _ => some (high.toNat * 256 + low.toNat)
        | _ => none
      else none := by
  unfold closeCode?
  rw [hparse]

/-- A code is found only behind a header. -/
theorem parsed_of_closeCode? {bytes : Bytes} {code : Nat} (h : closeCode? bytes = some code) :
    ∃ header rest, FrameHeader.parser bytes = .ok (some header, rest) ∧ header.op = .close := by
  unfold closeCode? at h
  split at h
  · next header rest hparse =>
    split at h
    · next hop => exact ⟨header, rest, hparse, hop⟩
    · cases h
  · cases h

/-- Where the code of a close frame ends. -/
def codeEnd (masked : Bool) : Nat := if masked then 8 else 4

theorem maskBy_front {front content : Bytes} (key : Option UInt32) (h : front <+: content) :
    maskBy key front <+: maskBy key content := by
  cases key with
  | none => exact h
  | some key =>
    obtain ⟨more, rfl⟩ := h
    simp only [maskBy, mask, List.mapIdx_append]
    exact List.prefix_append _ _

namespace Session

variable {key : Option UInt32} {sending : Option Opcode} {frame : Outgoing} {bytes : Bytes}

/-- **What is written of another frame carries no status code.** -/
theorem closeCode?_of_ne (hop : frame.op ≠ .close)
    (hfront : bytes <+: frameBytes key (wireKind sending frame) frame) :
    closeCode? bytes = none := by
  cases hcode : closeCode? bytes with
  | none => rfl
  | some code =>
    obtain ⟨header, rest, hparse, hclose⟩ := parsed_of_closeCode? hcode
    rw [frameBytes_eq] at hfront
    have hkind := FrameHeader.op_of_front hfront hparse
    rw [hclose] at hkind
    exact absurd (wireKind_eq_close.1 hkind.symm) hop

/-- A number of two bytes is what its remainder is. -/
theorem two_bytes (n : Nat) :
    (UInt8.ofNat (n / 256)).toNat * 256 + (UInt8.ofNat n).toNat = n % 65536 := by
  rw [UInt8.toNat_ofNat', UInt8.toNat_ofNat']
  omega

/-- The status code of a close frame stands at the front of its payload. -/
theorem wirePayload_close (hop : frame.op = .close) : wirePayload frame =
    UInt8.ofNat (frame.closeCode / 256) :: UInt8.ofNat frame.closeCode :: frame.payload := by
  unfold wirePayload
  rw [if_pos hop]
  simp [Bytes.ofNat]

/-- The header of a close frame that is not too long is a short one, in front of the code. -/
theorem codeEnd_eq (key : Option UInt32) (sending : Option Opcode) (hvalid : IsValidClose frame) :
    (wireHeader sending key frame).length < FrameHeader.length16 ∧
      codeEnd key.isSome = (wireHeader sending key frame).encode.length + 2 := by
  have hlimit := hvalid.2
  have hshort : (wireHeader sending key frame).length < FrameHeader.length16 := by
    show (wirePayload frame).length < FrameHeader.length16
    rw [wirePayload_close hvalid.1]
    simp only [controlLimit, maxControl, if_true, FrameHeader.length16, List.length_cons]
      at hlimit ⊢
    omega
  refine ⟨hshort, ?_⟩
  rw [FrameHeader.length_encode hshort]
  show codeEnd key.isSome = (if key.isSome then 6 else 2) + 2
  unfold codeEnd
  split <;> rfl

/-- **What is written of a close frame carries its code, exactly if it reaches as far.** -/
theorem closeCode?_front (hvalid : IsValidClose frame)
    (hfront : bytes <+: frameBytes key (wireKind sending frame) frame) (code : Nat) :
    closeCode? bytes = some code ↔
      codeEnd key.isSome ≤ bytes.length ∧ frame.closeCode % 65536 = code := by
  have hkind : wireKind sending frame = .close := wireKind_eq_close.2 hvalid.1
  have hpayload := wirePayload_close hvalid.1
  obtain ⟨hshort, hend⟩ := codeEnd_eq key sending hvalid
  have hlength : (wireHeader sending key frame).length < 2 ^ 63 :=
    Nat.lt_trans hshort (by decide)
  rw [frameBytes_eq] at hfront
  rw [hend]
  by_cases hheader : (wireHeader sending key frame).encode.length ≤ bytes.length
  · obtain ⟨front, rfl⟩ : (wireHeader sending key frame).encode <+: bytes :=
      List.prefix_of_prefix_length_le (List.prefix_append _ _) hfront hheader
    rw [List.prefix_append_right_inj] at hfront
    have hcontent := maskBy_front key hfront
    rw [maskBy_maskBy, hpayload] at hcontent
    have hwhole : front.length ≤ (wireHeader sending key frame).length := by
      have hle := hfront.length_le
      rwa [length_maskBy] at hle
    have hmasked := length_maskBy key front
    rw [closeCode?_parsed (FrameHeader.parser_encode hlength front),
      if_pos (show (wireHeader sending key frame).op = .close from hkind),
      List.take_of_length_le hwhole, List.length_append, ← hmasked]
    show (match maskBy key front with
      | high :: low :: _ => some (high.toNat * 256 + low.toNat)
      | _ => none) = some code ↔ _
    match maskBy key front, hcontent with
    | [], _ => exact ⟨nofun, fun h => absurd h.1 (by simp)⟩
    | [_], _ => exact ⟨nofun, fun h => absurd h.1 (by simp)⟩
    | high :: low :: rest, hcontent =>
      rw [List.cons_prefix_cons, List.cons_prefix_cons] at hcontent
      obtain ⟨rfl, rfl, -⟩ := hcontent
      simp only [two_bytes, Option.some.injEq, List.length_cons]
      exact ⟨fun h => ⟨by omega, h⟩, fun h => h.2⟩
  · -- Not even the header is there, so there is nothing to be parsed.
    constructor
    · intro hcode
      obtain ⟨header, rest, hparse, -⟩ := parsed_of_closeCode? hcode
      obtain ⟨more, hmore⟩ : bytes <+: (wireHeader sending key frame).encode :=
        List.prefix_of_prefix_length_le hfront (List.prefix_append _ _) (by omega)
      have happend := FrameHeader.parser_append hparse more
      have hencoded := FrameHeader.parser_encode hlength []
      rw [List.append_nil, ← hmore, happend] at hencoded
      have hrest : rest ++ more = [] := by
        injection hencoded with hencoded
        exact (Prod.mk.inj hencoded).2
      rw [(List.append_eq_nil_iff.1 hrest).2, List.append_nil] at hmore
      rw [hmore] at hheader
      exact absurd (Nat.le_refl _) hheader
    · rintro ⟨hreaches, -⟩
      omega

/-! ## 3. What an event writes -/

/-- The bytes that an event puts on the connection. -/
def Event.wrote (s : Session) (e : Event) : Bytes :=
  (e.next s).outflow.sent.drop s.outflow.sent.length

theorem Event.wrote_eq {s : Session} {e : Event} {part : Bytes}
    (h : (e.next s).outflow.sent = s.outflow.sent ++ part) : e.wrote s = part := by
  rw [Event.wrote, h, List.drop_left]

/-- Writing a frame puts a front of its bytes on the connection, and none where it is refused. -/
theorem sent_write (s : Session) (frame : Outgoing) :
    ∃ part, (after (write frame) s).outflow.sent = s.outflow.sent ++ part ∧
      match s.refusal? frame with
      | some _ => part = []
      | none => ∃ key, key.isSome = s.isClient ∧
          part <+: frameBytes key (wireKind s.sending frame) frame := by
  cases hrefusal : s.refusal? frame with
  | some e =>
    obtain ⟨entropy, hwrite⟩ := write_refused hrefusal
    refine ⟨[], ?_, rfl⟩
    rw [Act.after_error hwrite, List.append_nil]
  | none =>
    by_cases hop : frame.op = .close
    · obtain ⟨key, entropy, part, hmasked, hputs, hafter⟩ := after_write_close hop hrefusal
      refine ⟨s.outflow.noted part, ?_, key, hmasked, Outflow.noted_prefix hputs.front⟩
      rw [hafter, Outflow.sent_pushLast]
    · obtain ⟨key, entropy, part, hmasked, hputs, hafter⟩ := after_write_data hop hrefusal
      refine ⟨s.outflow.noted part, ?_, key, hmasked, Outflow.noted_prefix hputs.front⟩
      rw [hafter, Outflow.sent_push]

/-- **Writing a frame carries a status code exactly if a close frame is accepted**, and it is the
code of that frame. -/
theorem closeCode?_write {s : Session} {part : Bytes}
    (hsent : (after (write frame) s).outflow.sent = s.outflow.sent ++ part) (code : Nat) :
    closeCode? part = some code ↔ s.writeClosed = false ∧ IsValidClose frame ∧
      codeEnd s.isClient ≤ part.length ∧ frame.closeCode % 65536 = code := by
  obtain ⟨part', hsent', hpart⟩ := s.sent_write frame
  obtain rfl : part' = part := List.append_cancel_left (hsent'.symm.trans hsent)
  cases hrefusal : s.refusal? frame with
  | some e =>
    rw [hrefusal] at hpart
    obtain rfl : part' = [] := hpart
    refine ⟨nofun, ?_⟩
    rintro ⟨hopen, hvalid, -⟩
    rw [(refusal?_close hopen hvalid.1).2 hvalid] at hrefusal
    cases hrefusal
  | none =>
    rw [hrefusal] at hpart
    obtain ⟨key, hmasked, hfront⟩ := hpart
    have hopen : s.writeClosed = false := by
      cases hclosed : s.writeClosed with
      | false => rfl
      | true => rw [refusal?, if_pos hclosed] at hrefusal; cases hrefusal
    by_cases hop : frame.op = .close
    · have hvalid := (refusal?_close hopen hop).1 hrefusal
      rw [closeCode?_front hvalid hfront, hmasked]
      simp [hopen, hvalid]
    · rw [closeCode?_of_ne hop hfront]
      refine ⟨nofun, ?_⟩
      rintro ⟨-, hvalid, -⟩
      exact absurd hvalid.1 hop

/-- **What an event writes carries a status code exactly if it passes a close frame that is
accepted.** -/
theorem closeCode?_wrote (s : Session) (e : Event) (code : Nat) :
    closeCode? (e.wrote s) = some code ↔ s.writeClosed = false ∧ ∃ frame ∈ e.passed,
      IsValidClose frame ∧ codeEnd s.isClient ≤ (e.wrote s).length ∧
        frame.closeCode % 65536 = code := by
  have hquiet (h : (e.next s).outflow.sent = s.outflow.sent) (hpassed : e.passed = []) :
      closeCode? (e.wrote s) = some code ↔ s.writeClosed = false ∧ ∃ frame ∈ e.passed,
        IsValidClose frame ∧ codeEnd s.isClient ≤ (e.wrote s).length ∧
          frame.closeCode % 65536 = code := by
    have hwrote : e.wrote s = [] := Event.wrote_eq (by rw [h, List.append_nil])
    rw [hwrote, hpassed]
    simp
  have hside {t : Session} (h : t.sendingSide = s.sendingSide) :
      t.outflow.sent = s.outflow.sent := by rw [outflow_of_side h]
  cases e with
  | write frame =>
    obtain ⟨part, hsent, -⟩ := s.sent_write frame
    rw [Event.wrote_eq (e := .write frame) hsent, closeCode?_write hsent]
    simp [Event.passed]
  | send frame =>
    obtain ⟨part, hsent, -⟩ := s.sent_write frame
    have hsend : (Event.next s (.send frame)).outflow.sent = s.outflow.sent ++ part := by
      rw [← hsent, Event.next, outflow_of_side (sendingSide_send s frame)]
    rw [Event.wrote_eq hsend, closeCode?_write hsent]
    simp [Event.passed]
  | recv => exact hquiet (hside (keeps_recv s)) rfl
  | recvAll => exact hquiet (hside (sendingSide_recvAll s)) rfl
  | readHeader => exact hquiet (hside (keeps_readHeader s)) rfl
  | readData h n => exact hquiet (hside (keeps_readData blind_sendingSide h n s)) rfl
  | discardData h => exact hquiet (hside (after_discardData blind_sendingSide h s)) rfl
  | network inflow limit shutdownFault => exact hquiet rfl rfl

/-! ## 4. Runs -/

/-- What the event writes reaches the status code of a close frame. -/
def Event.Reaches (s : Session) (e : Event) : Prop := codeEnd s.isClient ≤ (e.wrote s).length

/-- The run carries the status code: a close frame that one of its events writes does. -/
def Carries (s : Session) (events : List Event) (code : Nat) : Prop :=
  ∃ before e after, events = before ++ e :: after ∧
    closeCode? (e.wrote (s.run before)) = some code

/-- **The codes that stand for none stay off the wire.** -/
def KeepsReserved (s : Session) (events : List Event) : Prop :=
  ∀ code, s.Carries events code →
    code ≠ CloseCode.noStatusCode.number ∧ code ≠ CloseCode.noClose.number

/-- The run sends this close frame, as far as its status code: it is the first that is passed on
the open sending side and is not too long. -/
def SendsClose (s : Session) (events : List Event) (frame : Outgoing) : Prop :=
  s.writeClosed = false ∧ ∃ before e after, events = before ++ e :: after ∧
    (∀ earlier ∈ before.flatMap Event.passed, ¬ IsValidClose earlier) ∧
    frame ∈ e.passed ∧ IsValidClose frame ∧ e.Reaches (s.run before)

/-- An event leaves the sending side open exactly if it passes no close frame that is accepted. -/
theorem writeClosed_next_iff (s : Session) (e : Event) :
    (e.next s).writeClosed = false ↔
      s.writeClosed = false ∧ ∀ frame ∈ e.passed, ¬ IsValidClose frame := by
  have hcloses := (next_sending s e).1
  have hstays := (next_closed (s := s) e).2
  cases hclosed : s.writeClosed with
  | true => simp [hstays hclosed]
  | false =>
    rw [hclosed] at hcloses
    simp only [true_and] at hcloses ⊢
    rw [← Bool.not_eq_true, hcloses]
    simp

/-- **The sending side is open behind a run exactly if no close frame was accepted.** -/
theorem writeClosed_run_iff (s : Session) (events : List Event) :
    (s.run events).writeClosed = false ↔
      s.writeClosed = false ∧ ∀ frame ∈ events.flatMap Event.passed, ¬ IsValidClose frame := by
  induction events generalizing s with
  | nil => simp [run]
  | cons e events ih =>
    show ((e.next s).run events).writeClosed = false ↔ _
    rw [ih, writeClosed_next_iff, List.flatMap_cons, List.forall_mem_append, and_assoc]

/-- **The status codes of a run are those of the close frame that it sends.** -/
theorem carries_iff (s : Session) (events : List Event) (code : Nat) :
    s.Carries events code ↔
      ∃ frame, s.SendsClose events frame ∧ frame.closeCode % 65536 = code := by
  constructor
  · rintro ⟨before, e, after, hsplit, hcode⟩
    obtain ⟨hopen, frame, hframe, hvalid, hreaches, hcode⟩ := (closeCode?_wrote _ e code).1 hcode
    obtain ⟨hstart, hnone⟩ := (writeClosed_run_iff s before).1 hopen
    exact ⟨frame, ⟨hstart, before, e, after, hsplit, hnone, hframe, hvalid, hreaches⟩, hcode⟩
  · rintro ⟨frame, ⟨hstart, before, e, after, hsplit, hnone, hframe, hvalid, hreaches⟩, hcode⟩
    refine ⟨before, e, after, hsplit, (closeCode?_wrote _ e code).2 ?_⟩
    exact ⟨(writeClosed_run_iff s before).2 ⟨hstart, hnone⟩, frame, hframe, hvalid, hreaches,
      hcode⟩

/-! ## 5. Close frames that were received -/

theorem code_lt_closeFrame {payload reason : ControlPayload} {code : Nat}
    (h : closeFrame payload = .ok (.close code reason)) : code < 65536 := by
  unfold closeFrame at h
  split at h
  · cases h
    decide
  · cases h
  · next high low _ _ =>
    cases h
    have := high.toNat_lt
    have := low.toNat_lt
    omega

theorem code_lt_nextPart {s t : Session} {code : Nat} {reason : ControlPayload}
    (h : nextPart s = .ok (some (.close code reason)) t) : code < 65536 := by
  obtain ⟨o, u, hheader, hrest⟩ := Act.bind_eq_ok.1 h
  cases o with
  | none =>
    cases hrest
    decide
  | some header =>
    rw [nextPart_some hheader] at h
    split at h
    · cases h
    · split at h
      · obtain ⟨_, _, hcontrol, h⟩ := Act.bind_eq_ok.1 h
        cases h
        rcases readControl_ok hcontrol with ⟨payload, h | h⟩ | ⟨payload, h⟩
        · cases h
        · cases h
        · exact code_lt_closeFrame h
      · cases readPart_arrives h

/-- The status code of a close frame that is received has two bytes. -/
theorem code_lt_recv {s t : Session} {code : Nat} {reason : ControlPayload}
    (h : recv s = .ok (.close code reason) t) : code < 65536 := by
  fun_induction recv s with
  | case1 => cases h
  | case2 s received t' hnext => cases h; exact code_lt_nextPart hnext
  | case3 s t' hnext ih => exact ih h

/-- **A close frame that was received can be sent back**, also where its code stands for none. -/
theorem isValidClose_ofFrame {s t : Session} {code : Nat} {reason : ControlPayload}
    (h : recv s = .ok (.close code reason) t) :
    IsValidClose (.ofFrame (.close code reason)) := by
  generalize hclosed : t.readClosed = closed
  have harrives := recv_arrives h
  rw [hclosed] at harrives
  cases harrives with
  | close code room =>
    refine ⟨rfl, ?_⟩
    show reason.content.length ≤ controlLimit .close
    simp only [controlLimit, if_true]
    omega

/-- **Sent back, it carries the code that it was received with**, on a connection that takes it. -/
theorem closeCode?_sentBack {s t : Session} {code : Nat} {reason : ControlPayload}
    (h : recv s = .ok (.close code reason) t) (hopen : t.writeClosed = false)
    (htakes : t.outflow.Takes) :
    closeCode? ((Event.send (.ofFrame (.close code reason))).wrote t) = some code := by
  have hvalid := isValidClose_ofFrame h
  have hrefusal := (refusal?_close hopen hvalid.1).2 hvalid
  obtain ⟨key, t', hwrites, hsends⟩ := send_accepted htakes hrefusal
  have hafter : Event.next t (.send (.ofFrame (.close code reason))) = t' := by
    rcases hsends with hsend | ⟨e, hsend⟩
    · exact Act.after_ok hsend
    · exact Act.after_error hsend
  rw [Event.wrote_eq (by rw [hafter]; exact hwrites.sent),
    closeCode?_front hvalid (List.prefix_refl _)]
  refine ⟨?_, Nat.mod_eq_of_lt (code_lt_recv h)⟩
  rw [(codeEnd_eq key t.sending hvalid).2, frameBytes_eq, List.length_append,
    length_maskBy, wirePayload_close hvalid.1, List.length_cons, List.length_cons]
  omega

/-! ## 6. What keeps the reserved codes off the wire -/

/-- **The codes that stand for none stay off the wire exactly if the close frame that is sent has
neither of them.**  Nothing else decides that: the codes of a run are those of the close frame that
it sends, and a close frame that was received carries, sent back, the code it was received with. -/
theorem keepsReserved_iff (s : Session) (events : List Event) :
    (s.KeepsReserved events ↔ ∀ frame, s.SendsClose events frame →
      frame.closeCode % 65536 ≠ CloseCode.noStatusCode.number ∧
        frame.closeCode % 65536 ≠ CloseCode.noClose.number) ∧
    (∀ code, s.Carries events code ↔
      ∃ frame, s.SendsClose events frame ∧ frame.closeCode % 65536 = code) ∧
    (∀ t u code reason, recv t = .ok (.close code reason) u → u.writeClosed = false →
      u.outflow.Takes →
      closeCode? ((Event.send (.ofFrame (.close code reason))).wrote u) = some code) := by
  refine ⟨⟨fun hkeeps frame hsends => ?_, fun hframes code hcarries => ?_⟩, s.carries_iff events,
    fun t u code reason => closeCode?_sentBack⟩
  · exact hkeeps _ ((s.carries_iff events _).2 ⟨frame, hsends, rfl⟩)
  · obtain ⟨frame, hsends, rfl⟩ := (s.carries_iff events code).1 hcarries
    exact hframes frame hsends

/-- A server to whom a close frame without a status code is sent. -/
def unmarked : Session :=
  { reader := .ofInflow ⟨[[136, 0]], .eof⟩
    outflow := {}
    link := 0
    entropy := {}
    isClient := false
    maxMessageLength := 125
    closeTimeout := .ofSeconds 30 }

/-- Answered by a normal close frame, it keeps them off the wire; sent back, it would carry one. -/
theorem keepsReserved_iff_unmarked :
    unmarked.KeepsReserved [.recv, .send (.close 1000 [])] ∧
      closeCode? ((Event.send (.ofFrame (.close 1005 .empty))).wrote (after recv unmarked)) =
        some 1005 := by
  obtain ⟨hiff, -, hback⟩ := keepsReserved_iff unmarked [.recv, .send (.close 1000 [])]
  have hrecv : recv unmarked = .ok (.close 1005 .empty) (after recv unmarked) :=
    Act.eq_ok_of_value? (by decide +kernel)
  refine ⟨hiff.2 ?_, hback _ _ _ _ hrecv (by decide +kernel) ⟨by decide +kernel, by decide +kernel⟩⟩
  rintro frame ⟨-, before, e, rest, hsplit, -, hframe, -⟩
  have hpassed : frame ∈ [Event.recv, .send (.close 1000 [])].flatMap Event.passed :=
    List.mem_flatMap.2 ⟨e, by rw [hsplit]; simp, hframe⟩
  obtain rfl : frame = .close 1000 [] := by simpa [Event.passed] using hpassed
  decide

/-- **The frame that is received for a close frame without a status code is sent back with the code
that stands for none.** -/
theorem not_keepsReserved_sentBack :
    Act.value? recv unmarked = some (.close CloseCode.noStatusCode.number .empty) ∧
      (unmarked.run [.recv, .send (.ofFrame (.close 1005 .empty))]).outflow.sent =
        [136, 2, 3, 237] ∧
      ¬ unmarked.KeepsReserved [.recv, .send (.ofFrame (.close 1005 .empty))] := by
  refine ⟨by decide +kernel, by decide +kernel, fun hkeeps => ?_⟩
  have hcarries : unmarked.Carries [.recv, .send (.ofFrame (.close 1005 .empty))] 1005 :=
    ⟨[.recv], _, [], rfl, by decide +kernel⟩
  exact (hkeeps 1005 hcarries).1 rfl

end Session

end WebSocket

end UrlTransfer
