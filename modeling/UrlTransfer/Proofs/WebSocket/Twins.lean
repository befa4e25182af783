/-
# Sessions that differ in their masking keys

Two sessions are twins if they agree on everything but the source of masking keys and the bytes that
were sent, of which there are equally many (`Twin`).  What the peer's bytes come to depends on
neither, and how much of a frame the connection takes depends on how many bytes were sent and not on
which; so an operation is answered alike in twins, and leaves twins (`Operation.step_twin`).

Receiving is followed through the half of the session that it sees: what `SameInput` and
`sendingSide` say of an action separately is what twins need (`alike_of_input`).  Only where both
directions are looked at, at the drain behind the last frame, the two come together.  Sending draws
a key, so from there on the bytes differ; their number does not (`length_frameBytes`).

What is seen of an operation (`Sight`) is then the same in twins, up to the keys (`SameButKeys`),
and so is all that is seen along a run (`twins_sights`).
-/
import Mathlib.Data.List.Forall2
import UrlTransfer.Proofs.WebSocket.Halves
import UrlTransfer.Proofs.WebSocket.Reserved
import UrlTransfer.Proofs.WebSocket.Spelling

namespace UrlTransfer

open Act (Agree Alike Keeps after outcome)

/-! ## 1. Connections that were sent equally many bytes -/

namespace Outflow

/-- The connections differ in the bytes that were sent, and not in their number. -/
def SameSize (o o' : Outflow) : Prop :=
  ∃ sent : Bytes, sent.length = o.sent.length ∧ o' = { o with sent }

namespace SameSize

theorem refl (o : Outflow) : SameSize o o := ⟨o.sent, rfl, rfl⟩

variable {o o' : Outflow} {bytes bytes' : Bytes}

theorem push (h : SameSize o o') (hbytes : bytes.length = bytes'.length) :
    SameSize (o.push bytes) (o'.push bytes') := by
  obtain ⟨sent, hsent, rfl⟩ := h
  unfold Outflow.push
  dsimp only
  split
  · exact ⟨sent ++ bytes', by rw [List.length_append, List.length_append, hsent, hbytes], rfl⟩
  · exact ⟨sent, hsent, rfl⟩

end SameSize

/-- How much is written depends on how many bytes there are. -/
theorem alike_write {bytes bytes' : Bytes} (h : bytes.length = bytes'.length) :
    Alike SameSize Eq (write bytes) (write bytes') := by
  intro o o' hsame
  have hpush := hsame.push h
  have hlimit : o'.limit = o.limit ∧ o'.sent.length = o.sent.length := by
    obtain ⟨sent, hsent, rfl⟩ := hsame
    exact ⟨rfl, hsent⟩
  unfold write
  rw [hlimit.1, hlimit.2, ← h]
  cases o.limit with
  | none => exact .ok rfl hpush
  | some limit =>
    dsimp only
    split
    · exact .ok rfl hpush
    · refine .error (hsame.push ?_)
      rw [List.length_take, List.length_take, h]

theorem alike_close : Alike SameSize Eq close close := by
  rintro ⟨_, limit, heard, noDelay, timeToLive, shutdowns, fault⟩ _ ⟨sent, hsent, rfl⟩
  cases fault with
  | none => exact .ok rfl ⟨sent, hsent, rfl⟩
  | some e =>
    obtain ⟨kind, detail, causes⟩ := e
    cases kind with
    | notConnected => exact .ok rfl ⟨sent, hsent, rfl⟩
    | _ => exact .error ⟨sent, hsent, rfl⟩

end Outflow

namespace WebSocket

namespace Session

/-! ## 2. Twins -/

/-- The sessions agree on everything but where keys come from and which bytes were sent. -/
structure Twin (s t : Session) : Prop where
  input : SameInput s t
  outflow : s.outflow.SameSize t.outflow
  writeClosed : s.writeClosed = t.writeClosed
  sending : s.sending = t.sending

namespace Twin

variable {s s' t t' : Session}

/-- A session is a twin of itself, wherever its keys come from. -/
theorem drawn (s : Session) (entropy : Entropy) : Twin { s with entropy } s :=
  ⟨rfl, .refl _, rfl, rfl⟩

theorem isClient (h : Twin s t) : s.isClient = t.isClient := h.input.field Session.isClient

theorem readClosed (h : Twin s t) : s.readClosed = t.readClosed := h.input.readClosed

theorem isClosed (h : Twin s t) : s.isClosed = t.isClosed := by
  unfold Session.isClosed
  rw [h.readClosed, h.writeClosed]

/-- Twins that receive the same, and send nothing, stay twins. -/
theorem receive (h : Twin s t) (hinput : SameInput s' t') (hs : s'.sendingSide = s.sendingSide)
    (ht : t'.sendingSide = t.sendingSide) : Twin s' t' := by
  refine ⟨hinput, ?_, ?_, ?_⟩
  · rw [outflow_of_side hs, outflow_of_side ht]
    exact h.outflow
  · rw [writeClosed_of_side hs, writeClosed_of_side ht, h.writeClosed]
  · rw [sending_of_side hs, sending_of_side ht, h.sending]

end Twin

/-! ## 3. Receiving -/

/-- **An action that receives does not tell twins apart.** -/
theorem alike_of_input {α : Type} {x : Act Error Session α} (hx : Alike SameInput Eq x x)
    (hkeeps : Keeps sendingSide x) : Alike Twin Eq x x := by
  intro s t h
  obtain ⟨houtcome, hinput⟩ := Act.agree_iff.1 (hx h.input)
  exact Act.agree_iff.2 ⟨houtcome, h.receive hinput (hkeeps s) (hkeeps t)⟩

theorem twins_onReader {α : Type} (x : Act Error Reader α) :
    Alike Twin Eq (onReader x) (onReader x) :=
  alike_of_input (alike_onReader x) (keeps_onReader x blind_sendingSide)

theorem twins_readHeader : Alike Twin Eq readHeader readHeader :=
  alike_of_input alike_readHeader keeps_readHeader

/-- Whether what is ahead is drained depends on both directions. -/
theorem twins_drainIfClosed : Alike Twin Eq drainIfClosed drainIfClosed := by
  intro s t h
  unfold drainIfClosed
  rw [h.isClosed]
  split
  · refine .ok rfl (h.receive (h.input.change (f := fun s => { s with
      reader := { s.reader.discard with inflow := ⟨[], s.reader.inflow.ending⟩ } }) ?_) rfl rfl)
    exact fun _ => rfl
  · exact .ok rfl h

theorem twins_readControl (header : FrameHeader) :
    Alike Twin Eq (readControl header) (readControl header) := by
  unfold readControl
  refine (twins_onReader _).bind_eq fun got => ?_
  cases header.op with
  | ping => exact .pure rfl
  | pong => exact .pure rfl
  | _ =>
    dsimp only
    cases closeFrame (.ofPrefix (maskBy header.key got)) with
    | error fault => exact .fail _
    | ok frame => exact twins_drainIfClosed.bind_eq fun _ => .pure rfl

theorem twins_nextPart : Alike Twin Eq nextPart nextPart := by
  unfold nextPart
  refine twins_readHeader.bind_eq fun o => ?_
  cases o with
  | none => exact .pure rfl
  | some header =>
    refine Alike.getState.bind fun u v huv => ?_
    rw [show u.maxMessageLength = v.maxMessageLength from huv.input.field Session.maxMessageLength]
    split
    · exact .fail _
    · split
      · exact (twins_readControl header).bind_eq fun _ => .pure rfl
      · exact alike_of_input (alike_readPart header)
          (keeps_readPart blind_sendingSide (fun _ _ => rfl) header)

theorem twins_readData (header : FrameHeader) (n : Nat) :
    Alike Twin Eq (readData header n) (readData header n) := by
  unfold readData
  exact (twins_onReader _).bind_eq fun _ => .pure rfl

/-- What is left of a payload is skipped alike. -/
theorem twins_discardData (header : FrameHeader) {s t : Session} (h : Twin s t) :
    Agree (fun p q => p.1 = q.1 ∧ Twin p.2 q.2) Eq (discardData (header, s))
      (discardData (header, t)) := by
  refine (Alike.same skip).within ?_ ?_ ⟨rfl, h⟩
  · rintro ⟨header, s⟩ ⟨_, t⟩ ⟨rfl, h⟩
    exact congrArg (Prod.mk header.length) h.input.reader
  · rintro ⟨length, reader⟩ _ ⟨header, s⟩ ⟨_, t⟩ rfl ⟨rfl, h⟩
    refine ⟨rfl, h.receive ?_ rfl rfl⟩
    exact h.input.change (f := fun u => { u with reader }) fun _ => rfl

/-- **Twins receive the same frame.** -/
theorem twins_recv : Alike Twin Eq recv recv := alike_recv twins_nextPart

/-- **Twins receive the same frames.** -/
theorem twins_recvAll {s t : Session} (h : Twin s t) :
    s.recvAll.frames = t.recvAll.frames ∧ s.recvAll.halt = t.recvAll.halt ∧
      Twin s.recvAll.session t.recvAll.session :=
  alike_recvAll (fun _ _ h => h.readClosed) twins_recv h

/-! ## 4. Sending -/

/-- How long a frame is depends on whether there is a key, and not on the key. -/
theorem length_frameBytes {key key' : Option UInt32} (h : key.isSome = key'.isSome) (op : Opcode)
    (frame : Outgoing) : (frameBytes key op frame).length = (frameBytes key' op frame).length := by
  simp only [frameBytes, List.length_append, length_maskBy, FrameHeader.length_encode_eq, h]

theorem twins_drawKey :
    Alike Twin (fun key key' => key.isSome = key'.isSome) drawKey drawKey := by
  intro s t h
  obtain ⟨key, entropy, hs, hkey⟩ := drawKey_run s
  obtain ⟨key', entropy', ht, hkey'⟩ := drawKey_run t
  rw [hs, ht]
  refine .ok (by rw [hkey, hkey', h.isClient]) ⟨h.input, h.outflow, h.writeClosed, h.sending⟩

theorem twins_kind (frame : Outgoing) : Alike Twin Eq (kind frame) (kind frame) := by
  intro s t h
  rw [kind_run, kind_run, h.sending]
  cases fault? t.sending frame with
  | some fault => exact .error h
  | none => exact .ok rfl ⟨h.input, h.outflow, h.writeClosed, rfl⟩

theorem twins_onOutflow {α : Type} {x x' : Act IoError Outflow α}
    (hx : Alike Outflow.SameSize Eq x x') : Alike Twin Eq (onOutflow x) (onOutflow x') :=
  (hx.within (fun _ _ h => h.outflow) fun _ _ _ _ ho h =>
    ⟨h.input, ho, h.writeClosed, h.sending⟩).mapError _

theorem twins_writeLast {bytes bytes' : Bytes} (h : bytes.length = bytes'.length) :
    Alike Twin Eq (writeLast bytes) (writeLast bytes') := by
  refine (twins_onOutflow ?_).timely.bind fun _ _ _ => .pure rfl
  exact (Outflow.alike_write h).bind_eq fun _ => Outflow.alike_close

/-- **Twins send a frame alike.** -/
theorem twins_write (frame : Outgoing) : Alike Twin Eq (write frame) (write frame) := by
  unfold write
  refine Alike.getState.bind fun u v huv => ?_
  rw [huv.writeClosed]
  split
  · exact .fail _
  · refine twins_drawKey.bind fun key key' hkey => (twins_kind frame).bind_eq fun op => ?_
    -- From here on the bytes differ, and only their number is used.
    have hlength := length_frameBytes hkey op frame
    dsimp only
    split
    · refine (Alike.modifyState fun s t h => ?_).bind_eq fun _ => twins_writeLast hlength
      exact ⟨h.input, h.outflow, rfl, h.sending⟩
    · exact twins_onOutflow (Outflow.alike_write hlength)

theorem twins_send (frame : Outgoing) : Alike Twin Eq (send frame) (send frame) := by
  refine (twins_write frame).bind_eq fun _ => ?_
  split
  · exact twins_drainIfClosed
  · exact .pure rfl

/-! ## 5. Operations and what is seen of them -/

/-- What can be done with a session, by its owner, by its halves, or by the network. -/
inductive Operation where
  | event (e : Event)
  | setMaxMessageLength (n : Nat)
  | setCloseTimeout (timeout : Duration)

/-- What an operation comes to. -/
inductive Answer where
  | sent (result : Except (Halt Error) Unit)
  | received (result : Except (Halt Error) Frame)
  | allReceived (frames : List Frame) (halt : Option (Halt Error))
  | header (result : Except (Halt Error) (Option FrameHeader))
  | data (result : Except (Halt Error) (Bytes × FrameHeader))
  | discarded (result : Except (Halt Error) Unit) (left : FrameHeader)
  | done

/-- What is seen of an operation: its answer, the bytes that it wrote, what it left to be received,
whether it ended the connection, and which directions are open behind it. -/
structure Sight where
  answer : Answer
  wrote : Bytes
  reader : Reader
  shutdowns : List ShutdownMode
  canRead : Bool
  canWrite : Bool

/-- What an event comes to. -/
def Event.answer (s : Session) : Event → Answer
  | send frame => .sent (outcome (Session.send frame) s)
  | write frame => .sent (outcome (Session.write frame) s)
  | recv => .received (outcome Session.recv s)
  | recvAll => .allReceived s.recvAll.frames s.recvAll.halt
  | readHeader => .header (outcome Session.readHeader s)
  | readData h n => .data (outcome (Session.readData h n) s)
  | discardData h =>
    .discarded (outcome Session.discardData (h, s)) (after Session.discardData (h, s)).1
  | network _ _ _ => .done

namespace Operation

/-- The session behind an operation. -/
def next (s : Session) : Operation → Session
  | event e => e.next s
  | setMaxMessageLength n => { s with maxMessageLength := n }
  | setCloseTimeout timeout => { s with closeTimeout := timeout }

/-- What the operation comes to. -/
def answer (s : Session) : Operation → Answer
  | event e => e.answer s
  | _ => .done

/-- The frames that it passes to be sent. -/
def passed : Operation → List Outgoing
  | event e => e.passed
  | _ => []

/-- What is seen of it. -/
def sight (s : Session) (o : Operation) : Sight where
  answer := o.answer s
  wrote := (o.next s).outflow.sent.drop s.outflow.sent.length
  reader := (o.next s).reader
  shutdowns := (o.next s).outflow.shutdowns
  canRead := (o.next s).canRead
  canWrite := (o.next s).canWrite

end Operation

/-- The session behind some operations. -/
def behind (s : Session) (operations : List Operation) : Session :=
  operations.foldl Operation.next s

/-- What is seen along some operations. -/
def sights (s : Session) : List Operation → List Sight
  | [] => []
  | o :: rest => o.sight s :: sights (o.next s) rest

/-- The bytes are the same, or fronts of the same frame under different keys. -/
inductive Rekeyed : Bytes → Bytes → Prop where
  | same (bytes : Bytes) : Rekeyed bytes bytes
  | masked (key key' : UInt32) (kind : Opcode) (frame : Outgoing) (n : Nat) :
      Rekeyed ((frameBytes (some key) kind frame).take n)
        ((frameBytes (some key') kind frame).take n)

/-- The same is seen, **up to the masking keys**. -/
structure SameButKeys (a b : Sight) : Prop where
  answer : a.answer = b.answer
  wrote : Rekeyed a.wrote b.wrote
  reader : a.reader = b.reader
  shutdowns : a.shutdowns = b.shutdowns
  canRead : a.canRead = b.canRead
  canWrite : a.canWrite = b.canWrite

/-! ## 6. Runs -/

/-- What two sessions write of a frame, of the same length. -/
theorem rekeyed_of_fronts {key key' : Option UInt32} {kind : Opcode} {frame : Outgoing}
    {part part' : Bytes} (hkeys : key.isSome = key'.isSome)
    (hfront : part <+: frameBytes key kind frame) (hfront' : part' <+: frameBytes key' kind frame)
    (hlength : part.length = part'.length) : Rekeyed part part' := by
  rw [List.prefix_iff_eq_take.1 hfront, List.prefix_iff_eq_take.1 hfront', ← hlength]
  cases key with
  | none =>
    cases key' with
    | none => exact .same _
    | some key' => cases hkeys
  | some key =>
    cases key' with
    | none => cases hkeys
    | some key' => exact .masked key key' kind frame part.length

/-- What twins write of a frame. -/
theorem twins_wrote {s t : Session} (h : Twin s t) (frame : Outgoing) :
    Rekeyed ((after (write frame) s).outflow.sent.drop s.outflow.sent.length)
      ((after (write frame) t).outflow.sent.drop t.outflow.sent.length) := by
  obtain ⟨part, hsent, hpart⟩ := s.sent_write frame
  obtain ⟨part', hsent', hpart'⟩ := t.sent_write frame
  obtain ⟨sent, hlength, houtflow⟩ := h.outflow
  obtain ⟨sent', hlength', houtflow'⟩ := (Act.agree_iff.1 (twins_write frame h)).2.outflow
  have hparts : part.length = part'.length := by
    have hall := hlength'
    rw [show sent' = (after (write frame) t).outflow.sent by rw [houtflow'], hsent, hsent',
      List.length_append, List.length_append,
      show t.outflow.sent.length = s.outflow.sent.length by rw [houtflow]; exact hlength] at hall
    omega
  rw [hsent, hsent', List.drop_left, List.drop_left]
  have hrefusal : s.refusal? frame = t.refusal? frame := by
    unfold refusal?
    rw [h.writeClosed, h.sending]
  rw [hrefusal] at hpart
  cases hreason : t.refusal? frame with
  | some e =>
    rw [hreason] at hpart hpart'
    rw [hpart, hpart']
    exact .same []
  | none =>
    rw [hreason] at hpart hpart'
    obtain ⟨key, hkey, hfront⟩ := hpart
    obtain ⟨key', hkey', hfront'⟩ := hpart'
    rw [h.sending] at hfront
    exact rekeyed_of_fronts (by rw [hkey, hkey', h.isClient]) hfront hfront' hparts

namespace Operation

variable {s t : Session} {o : Operation}

/-- What an operation shows in twins, once it is known to answer alike and to leave twins. -/
theorem sight_twin (hnext : Twin (o.next s) (o.next t)) (hanswer : o.answer s = o.answer t)
    (hwrote : Rekeyed (o.sight s).wrote (o.sight t).wrote) :
    SameButKeys (o.sight s) (o.sight t) ∧ Twin (o.next s) (o.next t) := by
  refine ⟨⟨hanswer, hwrote, hnext.input.reader, ?_, ?_, ?_⟩, hnext⟩
  · obtain ⟨sent, -, houtflow⟩ := hnext.outflow
    show (o.next s).outflow.shutdowns = (o.next t).outflow.shutdowns
    rw [houtflow]
  · show (!(o.next s).readClosed) = !(o.next t).readClosed
    rw [hnext.readClosed]
  · show (!(o.next s).writeClosed) = !(o.next t).writeClosed
    rw [hnext.writeClosed]

theorem wrote_nothing (h : (o.next s).outflow.sent = s.outflow.sent) :
    (o.sight s).wrote = [] := by
  show (o.next s).outflow.sent.drop s.outflow.sent.length = []
  rw [h, List.drop_length]

/-- The same of an operation that sends nothing. -/
theorem quiet_twin (hnext : Twin (o.next s) (o.next t)) (hanswer : o.answer s = o.answer t)
    (hquiet : ∀ u : Session, (o.next u).outflow.sent = u.outflow.sent) :
    SameButKeys (o.sight s) (o.sight t) ∧ Twin (o.next s) (o.next t) := by
  refine sight_twin hnext hanswer ?_
  rw [wrote_nothing (hquiet s), wrote_nothing (hquiet t)]
  exact .same []

/-- The same of a call that only receives. -/
theorem call_twin {α : Type} {x : Act Error Session α} {answer : Except (Halt Error) α → Answer}
    (hx : Alike Twin Eq x x) (hkeeps : Keeps sendingSide x) (h : Twin s t)
    (hnext : ∀ u, o.next u = after x u) (hanswer : ∀ u, o.answer u = answer (outcome x u)) :
    SameButKeys (o.sight s) (o.sight t) ∧ Twin (o.next s) (o.next t) := by
  obtain ⟨houtcome, hafter⟩ := Act.agree_iff.1 (hx h)
  refine quiet_twin ?_ ?_ fun u => ?_
  · rw [hnext, hnext]
    exact hafter
  · rw [hanswer, hanswer, houtcome]
  · rw [hnext, outflow_of_side (hkeeps u)]

/-- **An operation shows the same in twins, up to the keys, and leaves twins.** -/
theorem step_twin (h : Twin s t) (o : Operation) :
    SameButKeys (o.sight s) (o.sight t) ∧ Twin (o.next s) (o.next t) := by
  cases o with
  | setMaxMessageLength n =>
    refine quiet_twin ⟨?_, h.outflow, h.writeClosed, h.sending⟩ rfl fun _ => rfl
    exact h.input.change (f := fun u => { u with maxMessageLength := n }) fun _ => rfl
  | setCloseTimeout timeout =>
    refine quiet_twin ⟨?_, h.outflow, h.writeClosed, h.sending⟩ rfl fun _ => rfl
    exact h.input.change (f := fun u => { u with closeTimeout := timeout }) fun _ => rfl
  | event e =>
    cases e with
    | write frame =>
      obtain ⟨houtcome, hafter⟩ := Act.agree_iff.1 (twins_write frame h)
      exact sight_twin hafter (congrArg Answer.sent houtcome) (twins_wrote h frame)
    | send frame =>
      obtain ⟨houtcome, hafter⟩ := Act.agree_iff.1 (twins_send frame h)
      refine sight_twin hafter (congrArg Answer.sent houtcome) ?_
      show Rekeyed ((after (send frame) s).outflow.sent.drop s.outflow.sent.length)
        ((after (send frame) t).outflow.sent.drop t.outflow.sent.length)
      rw [outflow_of_side (sendingSide_send s frame), outflow_of_side (sendingSide_send t frame)]
      exact twins_wrote h frame
    | recv => exact call_twin twins_recv keeps_recv h (fun _ => rfl) fun _ => rfl
    | recvAll =>
      obtain ⟨hframes, hhalt, hsession⟩ := twins_recvAll h
      refine quiet_twin hsession ?_ fun u => congrArg Outflow.sent (outflow_of_side
        (sendingSide_recvAll u))
      show Answer.allReceived _ _ = .allReceived _ _
      rw [hframes, hhalt]
    | readHeader =>
      exact call_twin twins_readHeader keeps_readHeader h (fun _ => rfl) fun _ => rfl
    | readData header n =>
      exact call_twin (twins_readData header n) (keeps_readData blind_sendingSide header n) h
        (fun _ => rfl) fun _ => rfl
    | discardData header =>
      obtain ⟨houtcome, hheader, hafter⟩ := Act.agree_iff.1 (twins_discardData header h)
      refine quiet_twin hafter ?_ fun u => congrArg Outflow.sent (outflow_of_side
        (after_discardData blind_sendingSide header u))
      show Answer.discarded _ _ = .discarded _ _
      rw [houtcome, hheader]
    | network inflow limit shutdownFault =>
      obtain ⟨sent, hlength, houtflow⟩ := h.outflow
      refine quiet_twin ⟨?_, ⟨sent, hlength, ?_⟩, h.writeClosed, h.sending⟩ rfl fun _ => rfl
      · exact h.input.change (f := fun u => { u with
          reader := { u.reader with inflow } }) fun _ => rfl
      · show { t.outflow with limit, shutdownFault } =
          { s.outflow with limit, shutdownFault, sent }
        rw [houtflow]

end Operation

/-- **All that is seen along a run is the same in twins, up to the keys.** -/
theorem twins_sights {s t : Session} (h : Twin s t) (operations : List Operation) :
    List.Forall₂ SameButKeys (s.sights operations) (t.sights operations) := by
  induction operations generalizing s t with
  | nil => exact .nil
  | cons o rest ih =>
    obtain ⟨hsight, hnext⟩ := o.step_twin h
    exact .cons hsight (ih hnext)

end Session

end WebSocket

end UrlTransfer
