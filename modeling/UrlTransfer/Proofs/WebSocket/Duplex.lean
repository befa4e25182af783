/-
# Two sessions joined

Two ends stand against each other, each with a session and with a record of the frames that its
sending accepted and its receiving returned.  Either may call at any time, and in between bytes
travel: whatever one end sends is delivered at the other in order, in pieces of any size (`Acts`).
A call that receives is a step when it has ended; while it waits, the other end and the network go
on.

The two directions have nothing to do with each other but for the closing of an end, which drains
what is ahead once both are closed.  `Way` is the invariant of one direction: what the far end has
sent is the wire form of some frames, and they stand to the near end as `Standing` says.  The acts
of the far end add to the frames (`Way.sends`), those of the near end take from them
(`Way.receives`), so it holds in every state that is reached (`way_of_reaches`).
-/
import UrlTransfer.Proofs.WebSocket.Conveying

namespace UrlTransfer

namespace WebSocket

open Session (Posted Standing Suits Receives frames wire sendingAfter DrainsAt)

/-! ## 1. Two ends -/

/-- One end of a connection, and what has happened at it. -/
structure End where
  session : Session
  /-- The frames that sending accepted. -/
  accepted : List Outgoing := []
  /-- The frames that receiving returned. -/
  returned : List Frame := []
  /-- How many of the bytes that the other end sent have been delivered. -/
  delivered : Nat
  /-- The end was given up, and nothing is called any more. -/
  gone : Bool := false

/-- Two ends that are joined. -/
structure Joined where
  near : End
  far : End

/-- The same, seen from the other side. -/
def Joined.swap (j : Joined) : Joined := ⟨j.far, j.near⟩

/-- What is on the way to the near end. -/
def Joined.flight (j : Joined) : Bytes := j.far.session.outflow.sent.drop j.near.delivered

/-- Passes a frame to be sent.  **It counts as accepted unless it is refused**, also where the
connection fails behind it. -/
def End.pass (x : Act Error Session Unit) (frame : Outgoing) (e : End) : End :=
  match x e.session with
  | .ok () s => { e with session := s, accepted := e.accepted ++ [frame] }
  | .error halt s => { e with
      session := s
      accepted := if Session.isRefusal halt then e.accepted else e.accepted ++ [frame] }

/-- The near end with the next bytes that were on the way to it. -/
def Joined.deliver (j : Joined) (n : Nat) : End :=
  { j.near with
    session := j.near.session.bring (j.flight.take n)
    delivered := j.near.delivered + (j.flight.take n).length }

/-- What the near end, or the network at it, can do. -/
inductive Acts (j : Joined) : End → Prop where
  | send (frame : Outgoing) : j.near.gone = false → frame.Built → frame.payload.length < 2 ^ 63 →
      Acts j (j.near.pass (Session.send frame) frame)
  /-- Sending by the half that sends, which does not drain. -/
  | write (frame : Outgoing) : j.near.gone = false → frame.Built → frame.payload.length < 2 ^ 63 →
      Acts j (j.near.pass (Session.write frame) frame)
  | recv {frame : Frame} {s : Session} : j.near.gone = false →
      Session.recv j.near.session = .ok frame s →
      Acts j { j.near with session := s, returned := j.near.returned ++ [frame] }
  | recvFails {e : Error} {s : Session} : j.near.gone = false →
      Session.recv j.near.session = .error (.failed e) s → Acts j { j.near with session := s }
  | deliver (n : Nat) : Acts j (j.deliver n)
  /-- The stream ends behind all bytes, if the far end has closed it or is gone. -/
  | finish : j.flight = [] → j.far.gone = true ∨ j.far.session.writeClosed = true →
      Acts j { j.near with session := j.near.session.finish }
  | leave : Acts j { j.near with gone := true }

/-- A step of either end. -/
inductive Step (j : Joined) : Joined → Prop where
  | near {e : End} : Acts j e → Step j { j with near := e }
  | far {e : End} : Acts j.swap e → Step j { j with far := e }

/-- The states that are reached. -/
inductive Reaches (start : Joined) : Joined → Prop where
  | start : Reaches start start
  | step {j j' : Joined} : Reaches start j → Step j j' → Reaches start j'

/-- Nothing has happened yet in this direction, and nothing is on the way. -/
structure Ready (far near : End) : Prop where
  takes : far.session.outflow.Takes
  writeOpen : far.session.writeClosed = false
  sending : far.session.sending = none
  accepted : far.accepted = []
  fresh : near.session.Fresh
  ahead : near.session.reader.ahead = []
  ending : near.session.reader.inflow.ending = .hang
  returned : near.returned = []
  delivered : near.delivered = far.session.outflow.sent.length
  role : near.session.isClient = !far.session.isClient
  limit : maxControl ≤ near.session.maxMessageLength

/-! ## 2. One direction -/

/-- What the far end has sent behind `base`, and how it stands to the near end. -/
structure Way (base : Bytes) (limit : Nat) (all : List Posted) (far near : End) : Prop where
  sent : far.session.outflow.sent = base ++ wire none all
  takes : far.session.outflow.Takes
  accepted : far.accepted = frames all
  posts : Session.Posts far.session.isClient none all
  sending : far.session.sending = sendingAfter none all
  closes : far.session.writeClosed = true ↔ ∃ p ∈ all, p.closes
  delivered : near.delivered ≤ far.session.outflow.sent.length
  ended : near.session.reader.inflow.ending = .eof → far.gone = true ∨ ∃ p ∈ all, p.closes
  limit : near.session.maxMessageLength = limit
  standing : Standing far.session.isClient all (far.session.outflow.sent.drop near.delivered)
    (far.gone = true) near.session near.returned

theorem way_of_ready {far near : End} (h : Ready far near) :
    Way far.session.outflow.sent near.session.maxMessageLength [] far near := by
  refine ⟨?_, h.takes, h.accepted, .nil _, h.sending, ?_, ?_, ?_, rfl, ?_⟩
  · simp [wire]
  · simp [h.writeOpen]
  · exact Nat.le_of_eq h.delivered
  · intro hend
    rw [h.ending] at hend
    cases hend
  · have hflight : far.session.outflow.sent.drop near.delivered = [] := by
      rw [h.delivered]
      exact List.drop_length
    rw [hflight]
    have hreceives :
        Receives far.session.isClient [] [] [] none near.session near.returned := by
      refine ⟨⟨h.fresh.isOpen, h.fresh.continuing, h.fresh.message, rfl⟩, .inl h.ending, h.role,
        .fresh, fun p hp => absurd hp List.not_mem_nil, .nil _, ?_, ?_⟩
      · rw [h.ahead]
        rfl
      · rw [h.returned]
        rfl
    exact .receiving rfl hreceives

/-! ## 3. What the far end does -/

/-- An action that sends a frame, as `Session.send` and `Session.write` do. -/
structure Sends (x : Act Error Session Unit) (frame : Outgoing) : Prop where
  refused : ∀ {s : Session} {e : Error}, s.refusal? frame = some e →
    ∃ entropy, x s = .error (.failed e) { s with entropy }
  accepted : ∀ {s : Session}, s.outflow.Takes → s.refusal? frame = none →
    ∃ key s', Session.Writes s frame key s' ∧ Session.EndsIn (x s) s'

theorem sends_send (frame : Outgoing) : Sends (Session.send frame) frame :=
  ⟨Session.send_refused, Session.send_accepted⟩

theorem sends_write (frame : Outgoing) : Sends (Session.write frame) frame :=
  ⟨Session.write_refused, Session.write_accepted⟩

section

variable {x : Act Error Session Unit} {frame : Outgoing} {e : End}

/-- A frame that is refused changes nothing that counts. -/
theorem Sends.pass_refused (h : Sends x frame) {error : Error}
    (hrefusal : e.session.refusal? frame = some error) :
    ∃ entropy, e.pass x frame = { e with session := { e.session with entropy } } := by
  obtain ⟨entropy, hx⟩ := h.refused hrefusal
  refine ⟨entropy, ?_⟩
  unfold End.pass
  rw [hx]
  dsimp only
  rw [if_pos (Session.isRefusal_refusal? hrefusal)]

/-- Any other frame is accepted. -/
theorem Sends.pass_accepted (h : Sends x frame) (htakes : e.session.outflow.Takes)
    (hrefusal : e.session.refusal? frame = none) :
    ∃ key s', Session.Writes e.session frame key s' ∧
      e.pass x frame = { e with session := s', accepted := e.accepted ++ [frame] } := by
  obtain ⟨key, s', hwrites, hx | ⟨error, hx⟩⟩ := h.accepted htakes hrefusal
  · refine ⟨key, s', hwrites, ?_⟩
    unfold End.pass
    rw [hx]
  · refine ⟨key, s', hwrites, ?_⟩
    unfold End.pass
    rw [hx]
    rfl

end

namespace Way

variable {base : Bytes} {limit : Nat} {all : List Posted} {far near : End}

/-- What sending does not change does not count. -/
theorem congr_far (h : Way base limit all far near) {s : Session}
    (hside : s.sendingSide = far.session.sendingSide) (returned : List Frame) (delivered : Nat) :
    Way base limit all { far with session := s, returned, delivered } near := by
  have houtflow := congrArg Session.outflow hside
  have hclosed := congrArg Session.writeClosed hside
  have hsending := congrArg Session.sending hside
  have hrole := congrArg Session.isClient hside
  dsimp only [Session.sendingSide] at houtflow hclosed hsending hrole
  refine ⟨?_, ?_, h.accepted, ?_, hsending.trans h.sending, ?_, ?_, h.ended, h.limit, ?_⟩
  · rw [houtflow]
    exact h.sent
  · rw [houtflow]
    exact h.takes
  · rw [hrole]
    exact h.posts
  · rw [hclosed]
    exact h.closes
  · rw [houtflow]
    exact h.delivered
  · rw [hrole, houtflow]
    exact h.standing

/-- **A frame is passed**: it is refused, or stands behind the others from then on. -/
theorem pass (h : Way base limit all far near) {x : Act Error Session Unit} {frame : Outgoing}
    (hx : Sends x frame) (hgone : far.gone = false) (hbuilt : frame.Built)
    (hlength : frame.payload.length < 2 ^ 63) :
    ∃ all', Way base limit all' (far.pass x frame) near := by
  cases hrefusal : far.session.refusal? frame with
  | some error =>
    obtain ⟨entropy, hpass⟩ := hx.pass_refused hrefusal
    rw [hpass]
    exact ⟨all, h.sent, h.takes, h.accepted, h.posts, h.sending, h.closes, h.delivered, h.ended,
      h.limit, h.standing⟩
  | none =>
    obtain ⟨key, s', hwrites, hpass⟩ := hx.pass_accepted h.takes hrefusal
    have hopen : far.session.writeClosed = false := by
      cases hclosed : far.session.writeClosed with
      | false => rfl
      | true =>
        rw [Session.refusal?, if_pos hclosed] at hrefusal
        cases hrefusal
    have hnone : ∀ p ∈ all, ¬ p.closes := by
      intro p hmem hcloses
      rw [h.closes.2 ⟨p, hmem, hcloses⟩] at hopen
      cases hopen
    have hpost : Session.Postable far.session.isClient (sendingAfter none all) ⟨key, frame⟩ := by
      refine ⟨hbuilt, hlength, ?_, hwrites.masked⟩
      rw [Session.refusal?, if_neg (by simp [hopen])] at hrefusal
      rw [← h.sending]
      exact Option.map_eq_none_iff.1 hrefusal
    have hsent := hwrites.sent
    rw [h.sending] at hsent
    rw [hpass]
    refine ⟨all ++ [⟨key, frame⟩], ?_, hwrites.takes, ?_, ?_, ?_, ?_, ?_, ?_, h.limit, ?_⟩
    · dsimp only
      rw [hsent, h.sent, Session.wire_append]
      simp [wire]
    · simp [h.accepted, frames]
    · rw [hwrites.isClient]
      exact h.posts.concat hnone hpost
    · rw [Session.sendingAfter_append, ← h.sending]
      exact hwrites.sending
    · rw [hwrites.writeClosed]
      constructor
      · intro hclosed
        exact ⟨⟨key, frame⟩, by simp, by simpa [Posted.closes] using hclosed⟩
      · rintro ⟨p, hmem, hcloses⟩
        rcases List.mem_append.1 hmem with hmem | hmem
        · exact absurd hcloses (hnone p hmem)
        · rw [List.mem_singleton.1 hmem] at hcloses
          simpa [Posted.closes] using hcloses
    · dsimp only
      rw [hsent, List.length_append]
      exact Nat.le_trans h.delivered (Nat.le_add_right _ _)
    · intro hend
      rcases h.ended hend with hgone' | ⟨p, hmem, hcloses⟩
      · exact .inl hgone'
      · exact .inr ⟨p, List.mem_append_left _ hmem, hcloses⟩
    · dsimp only
      rw [hsent, List.drop_append_of_le_length h.delivered, hwrites.isClient]
      exact h.standing.post (by simp [hgone]) hnone h.ended hpost

/-- **Whatever the far end does, the frames it has sent come in order.** -/
theorem sends {j : Joined} {e : End} (h : Way base limit all j.near j.far) (hacts : Acts j e) :
    ∃ all', Way base limit all' e j.far := by
  cases hacts with
  | send frame hgone hbuilt hlength => exact h.pass (sends_send frame) hgone hbuilt hlength
  | write frame hgone hbuilt hlength => exact h.pass (sends_write frame) hgone hbuilt hlength
  | recv _ hrecv => exact ⟨all, h.congr_far (Session.keeps_recv.ok hrecv) _ _⟩
  | recvFails _ hrecv => exact ⟨all, h.congr_far (Session.keeps_recv.error hrecv) _ _⟩
  | deliver n =>
    exact ⟨all, h.congr_far (s := j.near.session.bring (j.flight.take n)) rfl _ _⟩
  | finish _ _ => exact ⟨all, h.congr_far (s := j.near.session.finish) rfl _ _⟩
  | leave =>
    refine ⟨all, h.sent, h.takes, h.accepted, h.posts, h.sending, h.closes, h.delivered, ?_,
      h.limit, h.standing.mono fun _ => rfl⟩
    intro _
    exact .inl rfl

/-! ## 4. What the near end does -/

/-- What the near end can receive. -/
theorem suits (h : Way base limit all far near) (hmax : maxControl ≤ limit)
    (hfits : ∀ content ∈ contents [] far.accepted, content.length ≤ limit) :
    Suits all (far.gone = true) near.session := by
  refine ⟨?_, ?_, h.ended⟩
  · rw [h.limit]
    exact hmax
  · rw [h.limit, ← h.accepted]
    exact hfits

/-- Where the receiving side is as it was, or has drained, nothing has changed. -/
theorem congr_near (h : Way base limit all far near) {s : Session} (accepted : List Outgoing)
    (gone : Bool) (hending : s.reader.inflow.ending = near.session.reader.inflow.ending)
    (hmax : s.maxMessageLength = near.session.maxMessageLength)
    (hstanding : Standing far.session.isClient all
      (far.session.outflow.sent.drop near.delivered) (far.gone = true) s near.returned) :
    Way base limit all far { near with session := s, accepted, gone } := by
  refine ⟨h.sent, h.takes, h.accepted, h.posts, h.sending, h.closes, h.delivered, ?_,
    hmax.trans h.limit, hstanding⟩
  dsimp only
  rw [hending]
  exact h.ended

/-- The near end sends: this leaves alone what it receives, but it may drain. -/
theorem pass_near (h : Way base limit all far near) {x : Act Error Session Unit}
    (frame : Outgoing)
    (hx : ∃ s, s.receivingSide = near.session.receivingSide ∧
      (Act.after x near.session = s ∨
        Session.drainIfClosed s = .ok () (Act.after x near.session))) :
    Way base limit all far (near.pass x frame) := by
  have hpass : ∃ accepted, near.pass x frame =
      { near with session := Act.after x near.session, accepted } := by
    unfold End.pass
    cases hresult : x near.session with
    | ok u s => exact ⟨_, by rw [Act.after_ok hresult]⟩
    | error halt s => exact ⟨_, by rw [Act.after_error hresult]⟩
  obtain ⟨accepted, hpass⟩ := hpass
  obtain ⟨s, hside, hafter⟩ := hx
  have hreader := congrArg Session.reader hside
  have hmax := congrArg Session.maxMessageLength hside
  dsimp only [Session.receivingSide] at hreader hmax
  have hstanding := h.standing.congr hside
  rw [hpass]
  rcases hafter with hsame | hdrain
  · rw [hsame]
    exact h.congr_near accepted near.gone (by rw [hreader]) hmax hstanding
  · obtain ⟨hending, hlimit⟩ := Session.drainIfClosed_keeps hdrain
    refine h.congr_near accepted near.gone ?_ (hlimit.trans hmax) (hstanding.drain hdrain)
    rw [hending, hreader]

/-- **Whatever the near end does, it takes the frames as they come.** -/
theorem receives {j : Joined} {e : End} (h : Way base limit all j.far j.near)
    (hmax : maxControl ≤ limit)
    (hfits : ∀ content ∈ contents [] j.far.accepted, content.length ≤ limit)
    (hacts : Acts j e) : Way base limit all j.far e := by
  have hconveys := Session.recv_standing h.standing (h.suits hmax hfits)
  cases hacts with
  | send frame _ _ _ => exact h.pass_near frame (Session.after_send _ frame)
  | write frame _ _ _ => exact h.pass_near frame ⟨_, Session.keeps_write frame _, .inl rfl⟩
  | @recv frame s _ hrecv =>
    rw [hrecv] at hconveys
    obtain ⟨hstanding, hending⟩ := hconveys
    have hside := congrArg Session.maxMessageLength (Session.keeps_recv.ok hrecv)
    refine ⟨h.sent, h.takes, h.accepted, h.posts, h.sending, h.closes, h.delivered, ?_,
      ?_, hstanding⟩
    · dsimp only
      rw [hending]
      exact h.ended
    · dsimp only [Session.sendingSide] at hside ⊢
      exact hside.trans h.limit
  | @recvFails error s _ hrecv =>
    rw [hrecv] at hconveys
    obtain ⟨-, -, hsame⟩ := hconveys
    rw [hsame]
    exact h
  | deliver n =>
    refine ⟨h.sent, h.takes, h.accepted, h.posts, h.sending, h.closes, ?_, h.ended, h.limit, ?_⟩
    · have hdelivered := h.delivered
      simp only [Joined.deliver, Joined.flight, List.length_take, List.length_drop]
      omega
    · have hflight : j.far.session.outflow.sent.drop
          (j.near.delivered + (j.flight.take n).length) = j.flight.drop n := by
        rw [← List.drop_drop]
        show j.flight.drop (j.flight.take n).length = j.flight.drop n
        rw [List.length_take]
        by_cases hn : n ≤ j.flight.length
        · rw [Nat.min_eq_left hn]
        · rw [Nat.min_eq_right (by omega), List.drop_length, List.drop_eq_nil_of_le (by omega)]
      dsimp only [Joined.deliver]
      rw [hflight]
      exact h.standing.bring n
  | finish hflight hover =>
    have hstanding := h.standing
    rw [show j.far.session.outflow.sent.drop j.near.delivered = [] from hflight] at hstanding
    refine ⟨h.sent, h.takes, h.accepted, h.posts, h.sending, h.closes, h.delivered, ?_, h.limit, ?_⟩
    · intro _
      rcases hover with hgone | hclosed
      · exact .inl hgone
      · exact .inr (h.closes.1 hclosed)
    · dsimp only
      rw [show j.far.session.outflow.sent.drop j.near.delivered = [] from hflight]
      exact hstanding.finish
  | leave => exact h.congr_near j.near.accepted true rfl rfl h.standing

end Way

/-! ## 5. What is reached -/

/-- What one end accepts comes behind what it has accepted. -/
theorem accepted_of_acts {j : Joined} {e : End} (hacts : Acts j e) :
    ∃ more, e.accepted = j.near.accepted ++ more := by
  have hpass (x : Act Error Session Unit) (frame : Outgoing) :
      ∃ more, (j.near.pass x frame).accepted = j.near.accepted ++ more := by
    unfold End.pass
    cases x j.near.session with
    | ok u s => exact ⟨[frame], rfl⟩
    | error halt s =>
      dsimp only
      split
      · exact ⟨[], (List.append_nil _).symm⟩
      · exact ⟨[frame], rfl⟩
  cases hacts with
  | send frame _ _ _ => exact hpass _ frame
  | write frame _ _ _ => exact hpass _ frame
  | recv _ _ => exact ⟨[], (List.append_nil _).symm⟩
  | recvFails _ _ => exact ⟨[], (List.append_nil _).symm⟩
  | deliver _ => exact ⟨[], (List.append_nil _).symm⟩
  | finish _ _ => exact ⟨[], (List.append_nil _).symm⟩
  | leave => exact ⟨[], (List.append_nil _).symm⟩

/-- **In every state that is reached the frames of the far end stand in order.** -/
theorem way_of_reaches {start j : Joined} (hstart : Ready start.far start.near)
    (hreach : Reaches start j)
    (hfits : ∀ content ∈ contents [] j.far.accepted,
      content.length ≤ start.near.session.maxMessageLength) :
    ∃ all, Way start.far.session.outflow.sent start.near.session.maxMessageLength all
      j.far j.near := by
  induction hreach with
  | start => exact ⟨[], way_of_ready hstart⟩
  | step _ hstep ih =>
    cases hstep with
    | near hacts =>
      obtain ⟨all, hway⟩ := ih hfits
      exact ⟨all, hway.receives hstart.limit hfits hacts⟩
    | far hacts =>
      obtain ⟨more, hmore⟩ := accepted_of_acts hacts
      dsimp only at hfits
      rw [hmore] at hfits
      obtain ⟨all, hway⟩ := ih (contents_front hfits)
      exact hway.sends hacts

/-- What has crossed over to the near end, which has heard these frames. -/
structure Faithful (j : Joined) (heard : List Frame) : Prop where
  /-- All that was returned was heard, but for the end of the stream. -/
  returned : j.near.returned = heard ∨
    j.near.returned = heard ++ [.close CloseCode.noClose.number .empty] ∧
      j.far.gone = true ∧ j.near.session.reader.inflow.ending = .eof
  /-- It is what the far end accepted, in order: control frames and messages that are complete. -/
  front : heard.map Outgoing.ofFrame <+: collect [] j.far.accepted
  /-- With the close frame everything has been heard. -/
  closes : (∃ frame ∈ heard, (Outgoing.ofFrame frame).op = .close) →
    heard.map Outgoing.ofFrame = collect [] j.far.accepted
  /-- With the end of the receiving side everything has been heard. -/
  whole : j.near.session.canRead = false →
    heard.map Outgoing.ofFrame = collect [] j.far.accepted
  /-- Receiving fails only behind that. -/
  fails : ∀ {e : Error} {s : Session}, Session.recv j.near.session = .error (.failed e) s →
    e = .shutdown ∧ j.near.session.canRead = false
  /-- Where a call drains, nothing is ahead, and nothing is on the way. -/
  drains : ∀ {u : Session}, DrainsAt j.near.session u → u.reader.ahead = [] ∧ j.flight = []

/-- Messages are put together from data frames. -/
theorem close_of_mem_collect {before : Bytes} {sent : List Outgoing} {frame : Outgoing}
    (hmem : frame ∈ collect before sent) (hop : frame.op = .close) : frame ∈ sent := by
  induction sent generalizing before with
  | nil => cases hmem
  | cons first rest ih =>
    rw [collect] at hmem
    split at hmem
    · rcases List.mem_cons.1 hmem with rfl | hmem
      · exact List.mem_cons_self
      · exact List.mem_cons_of_mem _ (ih hmem)
    · next hdata =>
      split at hmem
      · rcases List.mem_cons.1 hmem with rfl | hmem
        · rw [show first.op = .close from hop] at hdata
          exact absurd rfl hdata
        · exact List.mem_cons_of_mem _ (ih hmem)
      · exact List.mem_cons_of_mem _ (ih hmem)

/-- What stands in order has been heard in order. -/
theorem Way.faithful {base : Bytes} {limit : Nat} {all : List Posted} {j : Joined}
    (h : Way base limit all j.far j.near) (hmax : maxControl ≤ limit)
    (hfits : ∀ content ∈ contents [] j.far.accepted, content.length ≤ limit) :
    ∃ heard, Faithful j heard := by
  have hsuits := h.suits hmax hfits
  have hconveys := Session.recv_standing h.standing hsuits
  have hfails : ∀ {e : Error} {s : Session},
      Session.recv j.near.session = .error (.failed e) s →
        e = .shutdown ∧ j.near.session.canRead = false := by
    intro e s hrecv
    rw [hrecv] at hconveys
    obtain ⟨he, hclosed, -⟩ := hconveys
    exact ⟨he, by rw [Session.canRead, hclosed]; rfl⟩
  have hdrains : ∀ {u : Session}, DrainsAt j.near.session u →
      u.reader.ahead = [] ∧ j.flight = [] :=
    fun hat => Session.drains_nothing h.standing hsuits hat
  cases hstanding : h.standing with
  | @receiving done left message hall hreceives =>
    have hsplit : collect [] j.far.accepted =
        collect [] (frames done) ++ collect (openPart [] (frames done)) (frames left) := by
      rw [h.accepted, ← hall, ← collect_append]
      simp [frames]
    refine ⟨j.near.returned, .inl rfl, ?_, ?_, ?_, hfails, hdrains⟩
    · rw [hsplit, hreceives.returned]
      exact List.prefix_append _ _
    · rintro ⟨frame, hmem, hop⟩
      -- A close frame among them would have been taken.
      have hmem' : Outgoing.ofFrame frame ∈ collect [] (frames done) := by
        rw [← hreceives.returned]
        exact List.mem_map_of_mem hmem
      obtain ⟨p, hp, hframe⟩ := List.mem_map.1 (close_of_mem_collect hmem' hop)
      exact absurd (show p.frame.op = .close by rw [hframe]; exact hop) (hreceives.taken p hp)
    · simp [Session.canRead, hreceives.isOpen]
  | closed _ _ _ _ hheard =>
    rw [← h.accepted] at hheard
    refine ⟨j.near.returned, .inl rfl, ?_, fun _ => hheard, fun _ => hheard, hfails, hdrains⟩
    exact hheard ▸ List.prefix_refl _
  | @ended heard _ _ _ hend hgone hreturned hheard =>
    rw [← h.accepted] at hheard
    refine ⟨heard, .inr ⟨hreturned, hgone, hend⟩, ?_, fun _ => hheard, fun _ => hheard, hfails,
      hdrains⟩
    exact hheard ▸ List.prefix_refl _

theorem Reaches.swap {start j : Joined} (h : Reaches start j) : Reaches start.swap j.swap := by
  induction h with
  | start => exact .start
  | step _ hstep ih =>
    cases hstep with
    | near hacts => exact ih.step (.far hacts)
    | far hacts => exact ih.step (.near hacts)

/-- **Two sessions that are joined understand each other**, however their calls and the pieces of
their streams fall: what each returns is in order what the other has accepted.  No message is longer
than the limit of the session that receives it. -/
theorem faithful_of_reaches {start j : Joined} (hnear : Ready start.far start.near)
    (hfar : Ready start.near start.far) (hreach : Reaches start j)
    (hfits : ∀ content ∈ contents [] j.far.accepted,
      content.length ≤ start.near.session.maxMessageLength)
    (hfits' : ∀ content ∈ contents [] j.near.accepted,
      content.length ≤ start.far.session.maxMessageLength) :
    (∃ heard, Faithful j heard) ∧ ∃ heard, Faithful j.swap heard := by
  obtain ⟨all, hway⟩ := way_of_reaches hnear hreach hfits
  have hready : Ready start.swap.far start.swap.near := hfar
  obtain ⟨all', hway'⟩ := way_of_reaches hready hreach.swap hfits'
  exact ⟨hway.faithful hnear.limit hfits, Way.faithful (j := j.swap) hway' hfar.limit hfits'⟩

/-- A session at which nothing has happened. -/
def Session.quiet (isClient : Bool) : Session :=
  { reader := .ofInflow ⟨[], .hang⟩
    outflow := {}
    link := 0
    entropy := ⟨[1, 2, 3, 4], 0⟩
    isClient
    maxMessageLength := 125
    closeTimeout := .ofSeconds 30 }

/-- A server and a client. -/
def Joined.quiet : Joined where
  near := { session := .quiet false, delivered := 0 }
  far := { session := .quiet true, delivered := 0 }

/-- The client sends a ping. -/
def Joined.pinging : Joined :=
  { quiet with far := quiet.far.pass (Session.send (.ping [7])) (.ping [7]) }

/-- Its first bytes arrive, -/
def Joined.halfway : Joined := { pinging with near := pinging.deliver 3 }

/-- and the others. -/
def Joined.there : Joined := { halfway with near := halfway.deliver 9 }

/-- The server receives it. -/
def Joined.pinged : Joined :=
  { there with
    near := { there.near with
      session := Act.after Session.recv there.near.session
      returned := [.ping ⟨[7], by decide⟩] } }

theorem faithful_of_reaches_pinged :
    (∃ heard, Faithful .pinged heard) ∧ ∃ heard, Faithful Joined.pinged.swap heard := by
  have hready (near far : Bool) (hrole : near = !far) : Ready
      { session := .quiet far, delivered := 0 } { session := .quiet near, delivered := 0 } :=
    ⟨⟨rfl, rfl⟩, rfl, rfl, rfl, ⟨rfl, rfl, rfl⟩, rfl, rfl, rfl, rfl, hrole, Nat.le_refl _⟩
  have hpinging : Reaches .quiet .pinging :=
    Reaches.start.step (.far (.send (.ping [7]) rfl (.ping [7]) (by decide)))
  have hthere : Reaches .quiet .there :=
    (hpinging.step (.near (.deliver 3))).step (.near (.deliver 9))
  have hrecv : Session.recv Joined.there.near.session =
      .ok (.ping ⟨[7], by decide⟩) (Act.after Session.recv Joined.there.near.session) :=
    Act.eq_ok_of_value? (by decide +kernel)
  have hpinged : Reaches .quiet .pinged := hthere.step (.near (.recv rfl hrecv))
  refine faithful_of_reaches (hready false true rfl) (hready true false rfl) hpinged ?_ ?_
  · decide
  · decide

end WebSocket

end UrlTransfer
