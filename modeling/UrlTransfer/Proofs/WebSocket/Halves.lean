/-
# The receiving half of a session

The two halves of a session share one record, and a call that receives could depend on what was
sent in between.  It does not: two sessions that agree on all that receiving changes (`SameInput`)
receive the same frames.  There is one exception, and it is harmless.  With the close frame of the
peer a session drains what is ahead, if it has sent one of its own; so behind the last frame two
sessions may have different bytes ahead.  `Level` leaves these out: they count only as long as the
receiving side is open (`nextPart_level`, `recv_level`).

Sending keeps a session level with itself (`write_level`, `send_level`).  So whatever is sent in
between, calls that receive one after the other return what `recvAll` returns on the bytes of the
peer alone: its first frame is the next one to be received (`recvAll_frame`), and sessions that are
level have the same left to receive (`recvAll_level`).

What is received is a message or a control frame (`Arrives`), and the receiving side closes behind
close frames only (`recv_arrives`).  So a close frame is the last, and where receiving ends without
an error there is one (`recvAll_close_last`, `recvAll_ends`).
-/
import UrlTransfer.Proofs.Agreement
import UrlTransfer.Proofs.WebSocket.Conveying

namespace UrlTransfer

open Act (Agree Alike after)

namespace WebSocket

/-- What can be received, and whether the receiving side is closed behind it: **only a close frame
closes**, or the end of the stream in its place. -/
inductive Arrives : Frame → Bool → Prop where
  | ping (payload : ControlPayload) : Arrives (.ping payload) false
  | pong (payload : ControlPayload) : Arrives (.pong payload) false
  | close (code : Nat) {reason : ControlPayload} (room : reason.content.length + 2 ≤ maxControl) :
      Arrives (.close code reason) true
  | text (content : String) : Arrives (.text content) false
  | binary (content : Bytes) : Arrives (.binary content) false

namespace Session

/-! ## 1. Sessions that receive the same -/

/-- The sessions agree on all that receiving changes. -/
def SameInput (s t : Session) : Prop := s.receivingSide = t.receivingSide

/-- The sessions receive the same from now on: **what is ahead counts only as long as the receiving
side is open**. -/
structure Level (s t : Session) : Prop where
  isOpen : s.readClosed = t.readClosed
  input : s.readClosed = false → SameInput s t

theorem SameInput.field {α : Type} {s t : Session} (h : SameInput s t) (field : Session → α) :
    field s.receivingSide = field t.receivingSide := congrArg field h

theorem SameInput.readClosed {s t : Session} (h : SameInput s t) :
    s.readClosed = t.readClosed := h.field Session.readClosed

theorem SameInput.reader {s t : Session} (h : SameInput s t) : s.reader = t.reader :=
  h.field Session.reader

theorem SameInput.level {s t : Session} (h : SameInput s t) : Level s t :=
  ⟨h.readClosed, fun _ => h⟩

theorem Level.refl (s : Session) : Level s s := SameInput.level rfl

theorem Level.trans {s t u : Session} (h : Level s t) (h' : Level t u) : Level s u :=
  ⟨h.isOpen.trans h'.isOpen,
    fun hopen => (h.input hopen).trans (h'.input (h.isOpen.symm.trans hopen))⟩

/-! ## 2. One frame -/

/-- A change of what was received. -/
theorem SameInput.change {s t : Session} (h : SameInput s t) {f : Session → Session}
    (hf : ∀ s, (f s).receivingSide = f s.receivingSide) : SameInput (f s) (f t) := by
  unfold SameInput
  rw [hf, hf, show s.receivingSide = t.receivingSide from h]

theorem alike_onReader {α : Type} (x : Act Error Reader α) :
    Alike SameInput Eq (onReader x) (onReader x) := by
  refine (Alike.same x).within (fun s t h => h.reader) fun r r' s t hr h => ?_
  rw [← hr]
  exact h.change (f := fun s => { s with reader := r }) fun _ => rfl

theorem alike_keep (message : Option (Opcode × Bytes)) :
    Alike SameInput Eq (keep message) (keep message) :=
  fun _ _ h => .ok rfl (h.change (f := fun s => { s with message }) fun _ => rfl)

/-- A header is judged by the role of the session and the message that was begun. -/
theorem alike_acceptHeader (h : FrameHeader) :
    Alike SameInput Eq (acceptHeader h) (acceptHeader h) := by
  intro s t hsame
  have hcontinuing : s.continuing = t.continuing := hsame.field Session.continuing
  have hclient : s.isClient = t.isClient := hsame.field Session.isClient
  have hfollow : SameInput (s.follow h) (t.follow h) :=
    hsame.change (f := fun s => s.follow h) fun _ => rfl
  unfold acceptHeader
  rw [hcontinuing, hclient]
  split
  · exact .error hsame
  · split
    · rw [hsame.readClosed]
      exact .error (hfollow.change (f := fun u => { u with readClosed := t.readClosed })
        fun _ => rfl)
    · exact .ok rfl hfollow

/-- **A header is read and judged by what was received.** -/
theorem alike_readHeader : Alike SameInput Eq readHeader readHeader := by
  rw [readHeader_eq]
  refine Alike.getState.bind fun s t h => ?_
  rw [h.readClosed]
  split
  · exact .fail _
  · refine (alike_onReader _).bind_eq fun o => ?_
    cases o with
    | none =>
      refine (Alike.modifyState fun s t h => ?_).bind_eq fun _ => .pure rfl
      exact h.change (f := fun s => { s with readClosed := true }) fun _ => rfl
    | some header => exact (alike_acceptHeader header).bind_eq fun _ => .pure rfl

/-- **A part of a message is read by what was received.** -/
theorem alike_readPart (h : FrameHeader) : Alike SameInput Eq (readPart h) (readPart h) := by
  unfold readPart
  refine Alike.getState.bind fun s t hsame => ?_
  have hmessage : s.message = t.message := hsame.field Session.message
  have hmax : s.maxMessageLength = t.maxMessageLength := hsame.field Session.maxMessageLength
  rw [hmessage, hmax]
  dsimp only
  refine (alike_keep _).bind_eq fun _ => ?_
  split
  · exact .fail _
  · refine (alike_onReader _).bind_eq fun got => ?_
    split
    · exact (alike_keep _).bind_eq fun _ => .pure rfl
    · exact (alike_keep _).bind_eq fun _ =>
        (Alike.ofExcept (.refl _)).bind_eq fun _ => .pure rfl

/-- What is ahead may be drained behind the last frame, and not before. -/
theorem drainIfClosed_level {s t : Session} (h : SameInput s t) :
    Agree Level Eq (drainIfClosed s) (drainIfClosed t) := by
  cases hopen : s.readClosed with
  | false =>
    have hopen' := h.readClosed ▸ hopen
    unfold drainIfClosed
    rw [if_neg (by simp [isClosed, hopen]), if_neg (by simp [isClosed, hopen'])]
    exact .ok rfl h.level
  | true =>
    have hclosed := h.readClosed ▸ hopen
    obtain ⟨r, hs⟩ := drainIfClosed_reader s
    obtain ⟨r', ht⟩ := drainIfClosed_reader t
    rw [hs, ht]
    refine .ok rfl ⟨hopen.trans hclosed.symm, fun hnot => ?_⟩
    rw [show s.readClosed = false from hnot] at hopen
    cases hopen

/-- A control frame is read by what was received. -/
theorem readControl_level {s t : Session} (h : SameInput s t) (header : FrameHeader) :
    Agree Level Eq (readControl header s) (readControl header t) := by
  unfold readControl
  refine (alike_onReader _ h).bind (fun _ _ h => h.level) ?_
  rintro got _ s t rfl h
  -- Only what is read as a close frame drains.
  cases header.op with
  | ping => exact .ok rfl h.level
  | pong => exact .ok rfl h.level
  | _ =>
    dsimp only
    cases closeFrame (.ofPrefix (maskBy header.key got)) with
    | error fault => exact .error h.level
    | ok frame =>
      exact (drainIfClosed_level h).bind (fun _ _ h => h) fun _ _ _ _ _ h => .ok rfl h

/-- **Sessions with the same input receive the same part**, and are level then. -/
theorem nextPart_level {s t : Session} (h : SameInput s t) :
    Agree Level Eq (nextPart s) (nextPart t) := by
  unfold nextPart
  refine (alike_readHeader h).bind (fun _ _ h => h.level) ?_
  rintro o _ s t rfl h
  cases o with
  | none => exact .ok rfl h.level
  | some header =>
    refine (Alike.getState h).bind (fun _ _ h => h.level) ?_
    intro u v s t huv h
    have hmax : u.maxMessageLength = v.maxMessageLength := huv.field Session.maxMessageLength
    rw [hmax]
    split
    · exact .error h.level
    · split
      · exact (readControl_level h header).bind (fun _ _ h => h) fun a _ _ _ ha h =>
          .ok (by rw [ha]) h
      · exact (alike_readPart header h).imp fun _ _ h => h.level

/-! ## 3. A run -/

/-- Where single frames are received alike, so is the first that is not a part. -/
theorem alike_recv {R : Session → Session → Prop} (hnext : Alike R Eq nextPart nextPart) :
    Alike R Eq recv recv := by
  intro s t h
  induction hsize : s.ahead using Nat.strongRecOn generalizing s t with
  | ind size ih =>
    have hagree := hnext h
    cases hs : nextPart s with
    | error halt s' =>
      cases ht : nextPart t with
      | ok o t' => rw [hs, ht] at hagree; cases hagree
      | error halt' t' =>
        rw [hs, ht] at hagree
        cases hagree with
        | error hleft => rw [recv_error hs, recv_error ht]; exact .error hleft
    | ok o s' =>
      cases ht : nextPart t with
      | error halt' t' => rw [hs, ht] at hagree; cases hagree
      | ok o' t' =>
        rw [hs, ht] at hagree
        cases hagree with
        | ok hsame hleft =>
          subst hsame
          cases o with
          | some frame => rw [recv_frame hs, recv_frame ht]; exact .ok rfl hleft
          | none =>
            rw [recv_part hs, recv_part ht]
            exact ih s'.ahead (hsize ▸ progress_nextPart hs) hleft rfl

/-- **Sessions that are level receive the same frame.** -/
theorem recv_level {s t : Session} (h : Level s t) : Agree Level Eq (recv s) (recv t) := by
  refine alike_recv (fun s t h => ?_) h
  cases hopen : s.readClosed with
  | true =>
    have hshut {u : Session} (hclosed : u.readClosed = true) :
        nextPart u = .error (.failed .shutdown) u := Act.bind_error (readHeader_shut hclosed)
    rw [hshut hopen, hshut (h.isOpen ▸ hopen)]
    exact .error h
  | false => exact nextPart_level (h.input hopen)

/-- The frames that came before stand in front. -/
theorem recvAllFrom_got (got : List Frame) (s : Session) :
    recvAllFrom got s = ⟨got.reverse ++ s.recvAll.frames, s.recvAll.halt, s.recvAll.session⟩ := by
  suffices h : ∀ more, recvAllFrom (more ++ got) s =
      ⟨got.reverse ++ (recvAllFrom more s).frames, (recvAllFrom more s).halt,
        (recvAllFrom more s).session⟩ from h []
  induction hsize : s.ahead using Nat.strongRecOn generalizing s with
  | ind size ih =>
    intro more
    cases hopen : s.readClosed with
    | true => simp [recvAllFrom_closed hopen]
    | false =>
      cases hrecv : recv s with
      | error halt s' => simp [recvAllFrom_error hopen hrecv]
      | ok frame s' =>
        rw [recvAllFrom_frame hopen hrecv, recvAllFrom_frame hopen hrecv]
        exact ih s'.ahead (hsize ▸ progress_recv hrecv) s' rfl (frame :: more)

/-- A closed receiving side has nothing left to receive. -/
theorem recvAll_closed {s : Session} (hclosed : s.readClosed = true) : s.recvAll = ⟨[], none, s⟩ :=
  recvAllFrom_closed hclosed []

/-- What fails to be received is all that is left. -/
theorem recvAll_error {s s' : Session} {halt : Halt Error} (hopen : s.readClosed = false)
    (h : recv s = .error halt s') : s.recvAll = ⟨[], some halt, s'⟩ :=
  recvAllFrom_error hopen h []

/-- **The first frame that is left is the next to be received.** -/
theorem recvAll_frame {s s' : Session} {frame : Frame} (hopen : s.readClosed = false)
    (h : recv s = .ok frame s') :
    s.recvAll = ⟨frame :: s'.recvAll.frames, s'.recvAll.halt, s'.recvAll.session⟩ :=
  (recvAllFrom_frame hopen h []).trans (recvAllFrom_got [frame] s')

/-- Where frames are received alike, so are all that are left. -/
theorem alike_recvAll {R : Session → Session → Prop}
    (hopen : ∀ s t, R s t → s.readClosed = t.readClosed) (hrecv : Alike R Eq recv recv)
    {s t : Session} (h : R s t) :
    s.recvAll.frames = t.recvAll.frames ∧ s.recvAll.halt = t.recvAll.halt ∧
      R s.recvAll.session t.recvAll.session := by
  induction hsize : s.ahead using Nat.strongRecOn generalizing s t with
  | ind size ih =>
    have hsame := hopen s t h
    cases hs : s.readClosed with
    | true =>
      rw [recvAll_closed hs, recvAll_closed (hsame ▸ hs)]
      exact ⟨rfl, rfl, h⟩
    | false =>
      have ht := hsame ▸ hs
      have hagree := hrecv h
      cases hrecv' : recv s with
      | error halt s' =>
        cases hrecv'' : recv t with
        | ok frame t' => rw [hrecv', hrecv''] at hagree; cases hagree
        | error halt' t' =>
          rw [hrecv', hrecv''] at hagree
          cases hagree with
          | error hleft =>
            rw [recvAll_error hs hrecv', recvAll_error ht hrecv'']
            exact ⟨rfl, rfl, hleft⟩
      | ok frame s' =>
        cases hrecv'' : recv t with
        | error halt' t' => rw [hrecv', hrecv''] at hagree; cases hagree
        | ok frame' t' =>
          rw [hrecv', hrecv''] at hagree
          cases hagree with
          | ok hframe hleft =>
            obtain ⟨hframes, hhalt, hsession⟩ :=
              ih s'.ahead (hsize ▸ progress_recv hrecv') hleft rfl
            rw [recvAll_frame hs hrecv', recvAll_frame ht hrecv'', hframe, hframes, hhalt]
            exact ⟨rfl, rfl, hsession⟩

/-- **Sessions that are level have the same left to receive.** -/
theorem recvAll_level {s t : Session} (h : Level s t) :
    s.recvAll.frames = t.recvAll.frames ∧ s.recvAll.halt = t.recvAll.halt := by
  obtain ⟨hframes, hhalt, -⟩ := alike_recvAll (fun _ _ h => h.isOpen) (fun _ _ h => recv_level h) h
  exact ⟨hframes, hhalt⟩

/-! ## 4. Sending -/

/-- Writing a frame leaves alone what is received. -/
theorem write_level (frame : Outgoing) (s : Session) : Level (after (write frame) s) s :=
  SameInput.level (keeps_write frame s)

/-- **Sending a frame leaves alone what is received**, also where it drains what is ahead. -/
theorem send_level (frame : Outgoing) (s : Session) : Level (after (send frame) s) s := by
  obtain ⟨t, hside, hafter⟩ := after_send s frame
  have ht : Level t s := SameInput.level hside
  rcases hafter with hsame | hdrain
  · rw [hsame]
    exact ht
  · refine Level.trans ?_ ht
    cases hopen : t.readClosed with
    | false =>
      unfold drainIfClosed at hdrain
      rw [if_neg (by simp [isClosed, hopen])] at hdrain
      injection hdrain with _ hdrain
      rw [← hdrain]
      exact .refl t
    | true =>
      obtain ⟨r, hr⟩ := drainIfClosed_reader t
      rw [hr] at hdrain
      injection hdrain with _ hdrain
      rw [← hdrain]
      exact ⟨rfl, fun h => by simp [hopen] at h⟩

/-- **Only a close frame can fail to be sent**, where the connection takes everything. -/
theorem write_data {s : Session} {frame : Outgoing} (htakes : s.outflow.Takes)
    (hop : frame.op ≠ .close) (h : s.refusal? frame = none) :
    ∃ key s', Writes s frame key s' ∧ write frame s = .ok () s' := by
  obtain ⟨key, s', hwrites, hwrite | ⟨e, hwrite⟩⟩ := write_accepted htakes h
  · exact ⟨key, s', hwrites, hwrite⟩
  · obtain ⟨_, entropy, -, heq⟩ := write_eq h
    rw [if_neg fun hkind => hop (wireKind_eq_close.1 hkind), hwrite] at heq
    have hok := onOutflow_write (s := { s with
      entropy, sending := sendingBehind s.sending frame }) htakes
    rw [hok] at heq
    cases heq

theorem send_data {s : Session} {frame : Outgoing} (htakes : s.outflow.Takes)
    (hop : frame.op ≠ .close) (h : s.refusal? frame = none) :
    ∃ key s', Writes s frame key s' ∧ send frame s = .ok () s' := by
  obtain ⟨key, s', hwrites, hwrite⟩ := write_data htakes hop h
  refine ⟨key, s', hwrites, ?_⟩
  unfold send
  rw [Act.bind_ok hwrite, if_neg hop]
  rfl

/-! ## 5. What is received -/

/-- The code of a close frame takes two bytes of its payload. -/
theorem closeFrame_arrives {payload : ControlPayload} {frame : Frame}
    (h : closeFrame payload = .ok frame) : Arrives frame true := by
  unfold closeFrame at h
  have hlength := payload.length_le
  split at h
  · next hcontent =>
    cases h
    exact .close _ (by simp [hcontent, maxControl])
  · cases h
  · next high low reason hcontent =>
    cases h
    refine .close _ ?_
    rw [hcontent, List.length_cons, List.length_cons] at hlength
    simp only [ControlPayload.advance, hcontent, List.drop_succ_cons, List.drop_zero]
    omega

theorem messageFrame_arrives {op : Opcode} {content : Bytes} {frame : Frame}
    (h : messageFrame op content = .ok frame) : Arrives frame false := by
  unfold messageFrame at h
  split at h
  · split at h
    · cases h
      exact .text _
    · cases h
  · cases h
    exact .binary _

theorem readControl_arrives {s s' : Session} {header : FrameHeader} {frame : Frame}
    (hcontrol : header.op.isControl = true) (h : readControl header s = .ok frame s') :
    Arrives frame (header.op == .close) := by
  obtain ⟨got, s1, -, h⟩ := Act.bind_eq_ok.1 h
  cases hop : header.op with
  | continuation => rw [hop] at hcontrol; cases hcontrol
  | text => rw [hop] at hcontrol; cases hcontrol
  | binary => rw [hop] at hcontrol; cases hcontrol
  | ping =>
    rw [hop] at h
    cases h
    exact .ping _
  | pong =>
    rw [hop] at h
    cases h
    exact .pong _
  | close =>
    rw [hop] at h
    dsimp only at h
    cases hframe : closeFrame (.ofPrefix (maskBy header.key got)) with
    | error fault => rw [hframe] at h; cases h
    | ok given =>
      rw [hframe] at h
      obtain ⟨_, s2, -, h⟩ := Act.bind_eq_ok.1 h
      cases h
      exact closeFrame_arrives hframe

theorem readPart_arrives {s s' : Session} {header : FrameHeader} {frame : Frame}
    (h : readPart header s = .ok (some frame) s') : Arrives frame false := by
  obtain ⟨_, s1, -, h⟩ := Act.bind_eq_ok.1 h
  dsimp only at h
  obtain ⟨_, s2, -, h⟩ := Act.bind_eq_ok.1 h
  split at h
  · cases h
  · obtain ⟨got, s3, -, h⟩ := Act.bind_eq_ok.1 h
    split at h
    · obtain ⟨_, s4, -, h⟩ := Act.bind_eq_ok.1 h
      cases h
    · obtain ⟨_, s4, -, h⟩ := Act.bind_eq_ok.1 h
      obtain ⟨given, s5, hgiven, h⟩ := Act.bind_eq_ok.1 h
      cases h
      cases hframe : messageFrame _ _ with
      | error e => rw [hframe] at hgiven; cases hgiven
      | ok given => rw [hframe] at hgiven; cases hgiven; exact messageFrame_arrives hframe

/-- **What a header announces is what arrives.** -/
theorem nextPart_arrives {s s' : Session} {frame : Frame} (h : nextPart s = .ok (some frame) s') :
    Arrives frame s'.readClosed := by
  have hcloses := nextPart_closes s
  rw [Act.after_ok h] at hcloses
  rw [hcloses]
  obtain ⟨o, s1, hheader, hrest⟩ := Act.bind_eq_ok.1 h
  rw [Act.after_ok hheader]
  cases headerRead s with
  | shut _ h' => rw [h'] at hheader; cases hheader
  | halted halt r _ _ h' => rw [h'] at hheader; cases hheader
  | refused fault r header continuing _ _ h' => rw [h'] at hheader; cases hheader
  | ended r _ _ h' =>
    rw [h'] at hheader
    cases hheader
    cases hrest
    exact .close _ (by decide)
  | accepted r header hopen _ h' =>
    rw [h'] at hheader
    cases hheader
    have hclosed : (follow { s with reader := r } header).readClosed = (header.op == .close) := by
      simp [follow, hopen]
    rw [hclosed]
    obtain ⟨_, s2, -, hrest⟩ := Act.bind_eq_ok.1 hrest
    split at hrest
    · cases hrest
    · split at hrest
      · next hcontrol =>
        obtain ⟨given, s3, hgiven, hrest⟩ := Act.bind_eq_ok.1 hrest
        cases hrest
        exact readControl_arrives hcontrol hgiven
      · next hdata =>
        have hop : header.op ≠ .close := fun hop => hdata (by rw [hop]; rfl)
        rw [beq_eq_false_iff_ne.2 hop]
        exact readPart_arrives hrest

/-- **Only a close frame closes the receiving side.** -/
theorem recv_arrives {s s' : Session} {frame : Frame} (h : recv s = .ok frame s') :
    Arrives frame s'.readClosed := by
  induction hsize : s.ahead using Nat.strongRecOn generalizing s with
  | ind size ih =>
    cases hnext : nextPart s with
    | error halt t => rw [recv_error hnext] at h; cases h
    | ok o t =>
      cases o with
      | some given =>
        rw [recv_frame hnext] at h
        cases h
        exact nextPart_arrives hnext
      | none =>
        rw [recv_part hnext] at h
        exact ih t.ahead (hsize ▸ progress_nextPart hnext) h rfl

/-- **A close frame is the last that is received.** -/
theorem recvAll_close_last {s : Session} (hopen : s.readClosed = false) {front back : List Frame}
    {code : Nat} {reason : ControlPayload}
    (h : s.recvAll.frames = front ++ .close code reason :: back) : back = [] := by
  induction hsize : s.ahead using Nat.strongRecOn generalizing s front with
  | ind size ih =>
    cases hrecv : recv s with
    | error halt s' =>
      rw [recvAll_error hopen hrecv] at h
      cases front <;> cases h
    | ok frame s' =>
      have harrives := recv_arrives hrecv
      rw [recvAll_frame hopen hrecv] at h
      cases hclosed : s'.readClosed with
      | true =>
        rw [recvAll_closed hclosed] at h
        cases front with
        | nil => exact (List.cons.inj h).2.symm
        | cons _ _ => exact absurd (List.cons.inj h).2 (by simp)
      | false =>
        rw [hclosed] at harrives
        cases front with
        | nil => obtain ⟨rfl, -⟩ := List.cons.inj h; cases harrives
        | cons first front =>
          exact ih s'.ahead (hsize ▸ progress_recv hrecv) hclosed (List.cons.inj h).2 rfl

/-- **Where receiving ends without an error, it ends with a close frame.** -/
theorem recvAll_ends {s : Session} (hopen : s.readClosed = false) (h : s.recvAll.halt = none) :
    ∃ front code reason, s.recvAll.frames = front ++ [.close code reason] := by
  induction hsize : s.ahead using Nat.strongRecOn generalizing s with
  | ind size ih =>
    cases hrecv : recv s with
    | error halt s' => rw [recvAll_error hopen hrecv] at h; cases h
    | ok frame s' =>
      have harrives := recv_arrives hrecv
      rw [recvAll_frame hopen hrecv] at h ⊢
      cases hclosed : s'.readClosed with
      | true =>
        rw [hclosed] at harrives
        rw [recvAll_closed hclosed]
        cases harrives with
        | @close code reason _ => exact ⟨[], code, reason, rfl⟩
      | false =>
        obtain ⟨front, code, reason, hframes⟩ :=
          ih s'.ahead (hsize ▸ progress_recv hrecv) hclosed h rfl
        exact ⟨frame :: front, code, reason, by rw [hframes]; rfl⟩

end Session

end WebSocket

end UrlTransfer
