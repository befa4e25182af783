/-
# What a request says on its connection

A request is one head and the bytes of its payload behind it.  `headBytes` and `bodyBytes` are these
two, for a request to a URL: the payload as it is, or for a stream the parts that it brings, each in
its form (`streamed`).

Sending a request says these bytes and no others, in this order, and where it does not fail it has
said all of them (`utters_send`).  It does not fail as long as the payload ends and the peer takes
what it is sent (`succeeds_send`).  What is left of a payload that can be sent again is the payload
(`send_payload`).
-/
import UrlTransfer.Http.Transfer
import UrlTransfer.Proofs.Net.Links
import UrlTransfer.Proofs.Stream.Reading

namespace UrlTransfer

/-- What the reads of a stream return, up to its end. -/
def Inflow.parts (room : Nat) (s : Inflow) : List Bytes :=
  match _h : s.read room with
  | .ok (b :: part) rest => (b :: part) :: parts room rest
  | .ok [] _ | .error _ _ => []
termination_by s.size
decreasing_by
  have := Inflow.size_read _h
  simp at this
  omega

theorem Inflow.parts_some {room : Nat} {s rest : Inflow} {part : Bytes}
    (h : s.read room = .ok part rest) (hpart : part ≠ []) :
    s.parts room = part :: rest.parts room := by
  rw [parts]
  split <;> rename_i h' <;> rw [h] at h' <;> cases h'
  · rfl
  · exact absurd rfl hpart

theorem Inflow.parts_none {room : Nat} {s : Inflow}
    (h : ∀ part rest, s.read room = .ok part rest → part = []) : s.parts room = [] := by
  rw [parts]
  split
  · next b part rest hread => cases h _ _ hread
  · rfl
  · rfl

/-- A stream that ends is read without a fault. -/
theorem Inflow.read_of_eof {s : Inflow} (room : Nat) (h : s.ending = .eof) :
    ∃ part rest, s.read room = .ok part rest ∧ rest.ending = .eof := by
  by_cases hrest : s.rest = []
  · obtain ⟨s', hread, -, hending⟩ := Inflow.read_eof hrest h room
    exact ⟨[], s', hread, hending⟩
  · cases room with
    | zero => exact ⟨[], s, rfl, h⟩
    | succ n =>
      obtain ⟨part, rest, hread, -⟩ := Inflow.read_some n.succ_pos hrest
      exact ⟨part, rest, hread, (Inflow.read_rest hread).2.1.trans h⟩

namespace Http

/-! ## 1. Heads and bodies -/

/-- The head of a request to a URL, with this payload. -/
def headBytes (request : Request) (url : Url) (payload : Option Payload) : Bytes :=
  requestHead request.method url
    (request.headers.toList ++ framingHeaders request.headers payload)

/-- A stream in the form in which it is sent: its parts, and the empty part behind them. -/
def streamed (room : Nat) (form : Bytes → Bytes) (source : Inflow) : Bytes :=
  (source.parts room).flatMap form ++ form []

/-- The bytes behind the head. -/
def bodyBytes (headers : Headers) : Option Payload → Bytes
  | none => []
  | some (.bytes content) => content
  | some (.stream source) =>
    if isChunked headers (some (.stream source)) then streamed chunkRoom chunk source
    else streamed copyRoom id source

/-! ## 2. Streams -/

/-- Sends a stream, and returns what is left of it. -/
def sendSource (link room : Nat) (form : Bytes → Bytes) (source : Inflow) :
    Act Error System (Unit × Inflow) := fun s =>
  match sendStream link room form (source, s) with
  | .ok () (source, s) => .ok ((), source) s
  | .error halt (_, s) => .error halt s

/-- **One part, and what comes behind it.** -/
theorem sendSource_eq (link room : Nat) (form : Bytes → Bytes) (source : Inflow) :
    sendSource link room form source =
      match source.read room with
      | .error halt _ => fun s => .error (halt.map .io) s
      | .ok part rest =>
        Act.mapError .io (System.onLink link (Outflow.write (form part))) >>= fun _ =>
          if part = [] then pure ((), rest) else sendSource link room form rest := by
  funext s
  unfold sendSource
  rw [sendStream]
  cases source.read room with
  | error halt rest => rfl
  | ok part rest =>
    cases part with
    | nil =>
      dsimp only
      cases h : System.onLink link (Outflow.write (form [])) s with
      | ok _ s' =>
        rw [Act.bind_ok (Act.mapError_ok h)]
        rfl
      | error halt s' =>
        rw [Act.bind_error (Act.mapError_error h)]
    | cons b part =>
      dsimp only
      cases h : System.onLink link (Outflow.write (form (b :: part))) s with
      | ok _ s' =>
        rw [Act.bind_ok (Act.mapError_ok h)]
        rfl
      | error halt s' =>
        rw [Act.bind_error (Act.mapError_error h)]

theorem streamed_end {room : Nat} {form : Bytes → Bytes} {source : Inflow}
    (h : ∀ part rest, source.read room = .ok part rest → part = []) :
    streamed room form source = form [] := by
  unfold streamed
  rw [Inflow.parts_none h]
  rfl

theorem streamed_part {room : Nat} {form : Bytes → Bytes} {source rest : Inflow} {part : Bytes}
    (h : source.read room = .ok part rest) (hpart : part ≠ []) :
    streamed room form source = form part ++ streamed room form rest := by
  unfold streamed
  rw [Inflow.parts_some h hpart, List.flatMap_cons, List.append_assoc]

theorem utters_sendSource (link room : Nat) (form : Bytes → Bytes) (source : Inflow) :
    Utters id link (streamed room form source) (sendSource link room form source) := by
  induction hsize : source.size using Nat.strongRecOn generalizing source with
  | ind size ih =>
    rw [sendSource_eq]
    cases hread : source.read room with
    | error halt rest => exact .never fun s => ⟨_, rfl⟩
    | ok part rest =>
      have hwrite := (utters_write link (form part)).mapError Error.io
      dsimp only
      by_cases hpart : part = []
      · subst hpart
        have hend : streamed room form source = form [] := by
          refine streamed_end fun part' rest' hread' => ?_
          rw [hread] at hread'
          cases hread'
          rfl
        rw [hend]
        refine hwrite.bind_nothing fun _ => ?_
        rw [if_pos rfl]
        exact .nothing fun _ => rfl
      · have hless := Inflow.size_read hread
        have hpos := List.length_pos_iff.2 hpart
        rw [streamed_part hread hpart]
        refine hwrite.bind fun _ => ?_
        rw [if_neg hpart]
        exact ih rest.size (by omega) rest rfl

/-- **A stream that ends is sent to its end**, to a peer who takes it. -/
theorem succeeds_sendSource (link room : Nat) (form : Bytes → Bytes) {source : Inflow}
    (h : source.ending = .eof) :
    Act.Succeeds (System.Takes link) (sendSource link room form source) := by
  induction hsize : source.size using Nat.strongRecOn generalizing source with
  | ind size ih =>
    obtain ⟨part, rest, hread, hending⟩ := Inflow.read_of_eof room h
    have hwrite := (succeeds_write link (form part)).mapError Error.io
    rw [sendSource_eq, hread]
    refine hwrite.bind fun _ => ?_
    by_cases hpart : part = []
    · rw [if_pos hpart]
      exact .pure _
    · have hless := Inflow.size_read hread
      have hpos := List.length_pos_iff.2 hpart
      rw [if_neg hpart]
      exact ih rest.size (by omega) hending rfl

/-! ## 3. Requests -/

/-- What is sent comes to an end. -/
def Payload.Ends : Payload → Prop
  | bytes _ => True
  | stream source => source.ending = .eof

/-- **Sending a request says its head and its body**, as far as it comes. -/
theorem utters_send (link : Nat) (request : Request) (url : Url) (payload : Option Payload) :
    Utters id link (headBytes request url payload ++ bodyBytes request.headers payload)
      (send link request url payload) := by
  have hhead := (utters_write link (headBytes request url payload)).mapError Error.io
  unfold send
  refine hhead.bind fun _ => ?_
  split
  · exact .nothing fun _ => rfl
  · next content =>
    exact ((utters_write link content).mapError Error.io).bind_nothing fun _ =>
      .nothing fun _ => rfl
  · next source =>
    have hbody : bodyBytes request.headers (some (.stream source)) =
        streamed (if isChunked request.headers (some (.stream source)) then chunkRoom else copyRoom)
          (if isChunked request.headers (some (.stream source)) then chunk else id) source := by
      unfold bodyBytes
      dsimp only
      cases isChunked request.headers (some (.stream source)) <;> rfl
    rw [hbody]
    exact (utters_sendSource link _ _ source).bind_nothing fun _ => .nothing fun _ => rfl

/-- **A request whose payload ends is sent**, to a peer who takes it. -/
theorem succeeds_send (link : Nat) (request : Request) (url : Url) {payload : Option Payload}
    (h : ∀ p ∈ payload, p.Ends) :
    Act.Succeeds (System.Takes link) (send link request url payload) := by
  unfold send
  refine ((succeeds_write link _).mapError Error.io).bind fun _ => ?_
  split
  · exact .pure _
  · next content => exact ((succeeds_write link content).mapError Error.io).bind fun _ => .pure _
  · next source =>
    exact (succeeds_sendSource link _ _ (h (.stream source) rfl)).bind fun _ => .pure _

/-- **What can be sent again is left as it is.** -/
theorem send_payload {link : Nat} {request : Request} {url : Url} {payload left : Option Payload}
    {s s' : System} (h : send link request url payload s = .ok left s') :
    left.filter Payload.isRepeatable = payload.filter Payload.isRepeatable ∧
      (payload.all Payload.isRepeatable → left = payload) := by
  unfold send at h
  obtain ⟨_, s1, -, h⟩ := Act.bind_eq_ok.1 h
  split at h
  · cases h
    exact ⟨rfl, fun _ => rfl⟩
  · obtain ⟨_, s2, -, h⟩ := Act.bind_eq_ok.1 h
    cases h
    exact ⟨rfl, fun _ => rfl⟩
  · obtain ⟨_, s2, -, h⟩ := Act.bind_eq_ok.1 h
    cases h
    exact ⟨rfl, nofun⟩

end Http

end UrlTransfer
