/-
# What is said on a link

A connection is opened once, and from then on it is the last link of the record.  `Link.Says` is
what the peer of an open link has been told; whoever does not listen has noted a front of it.  An
action `Utters` bytes if it tells the peer no others, in this order, and all of them where it has a
value.

Writing utters what is written (`utters_write`), and does not fail unless the peer has a limit
(`succeeds_write`).  Setting options and agreeing on the secure protocol utter nothing, and leave the
same connection (`Conn.Settles`).
-/
import UrlTransfer.Net.Connect
import UrlTransfer.Proofs.Keeping

namespace UrlTransfer

/-! ## 1. The last link -/

/-- An open link to a peer, to whom these bytes were said.  All of them are noted, unless the peer
does not listen. -/
def Link.Says (addr : SocketAddr) (peer : Peer) (said : Bytes) (l : Link) : Prop :=
  ∃ secure manner outflow noted, l = .opened addr secure manner outflow ∧
    outflow.limit = peer.outflow.limit ∧ outflow.sent = peer.outflow.sent ++ noted ∧
    noted <+: said ∧ (outflow.heard = true → noted = said)

/-- A peer to whom nothing was said. -/
theorem Link.says_nothing (addr : SocketAddr) (peer : Peer) (secure : Bool) (manner : Manner) :
    (Link.opened addr secure manner peer.outflow).Says addr peer [] := by
  exact ⟨secure, manner, peer.outflow, [], rfl, rfl, (List.append_nil _).symm,
    List.prefix_refl _, fun _ => rfl⟩

section

variable {s : System}

theorem System.outflow_last {links : List Link} {l : Link} (h : s.links = links ++ [l]) :
    s.outflow links.length = l.outflow := by
  unfold outflow
  rw [h, List.getElem?_concat_length]
  rfl

theorem System.changeLink_last {links : List Link} {l : Link} (h : s.links = links ++ [l])
    (f : Link → Link) : (s.changeLink links.length f).links = links ++ [f l] := by
  unfold changeLink
  rw [h, List.modify_eq_take_cons_drop (by simp)]
  simp

end

/-! ## 2. Saying something -/

/-- An action says at most these bytes on a link that is the last of the record, and changes no
other; if it has a value, it has said all of them. -/
def Utters {σ ε α : Type} (system : σ → System) (link : Nat) (bytes : Bytes) (x : Act ε σ α) :
    Prop :=
  ∀ ⦃s links l addr peer said⦄, (system s).links = links ++ [l] → links.length = link →
    l.Says addr peer said →
    ∃ front l', front <+: bytes ∧ (system (Act.after x s)).links = links ++ [l'] ∧
      l'.Says addr peer (said ++ front) ∧ ((Act.value? x s).isSome → front = bytes)

namespace Utters

variable {σ τ ε ε' α β : Type} {system : σ → System} {link : Nat} {bytes more : Bytes}
  {x : Act ε σ α}

/-- What leaves the links alone says nothing. -/
theorem nothing (hx : Act.Keeps (fun s => (system s).links) x) : Utters system link [] x := by
  intro s links l addr peer said hlinks _ hsays
  refine ⟨[], l, List.prefix_refl _, (hx s).trans hlinks, ?_, fun _ => rfl⟩
  rw [List.append_nil]
  exact hsays

/-- What always halts, and leaves everything as it is, says nothing of what is due. -/
theorem never (hx : ∀ s, ∃ halt, x s = .error halt s) : Utters system link bytes x := by
  intro s links l addr peer said hlinks _ hsays
  obtain ⟨halt, hs⟩ := hx s
  rw [Act.after_error hs, Act.value?_error hs]
  refine ⟨[], l, List.nil_prefix, hlinks, ?_, nofun⟩
  rw [List.append_nil]
  exact hsays

/-- **One after the other.** -/
theorem bind {f : α → Act ε σ β} (hx : Utters system link bytes x)
    (hf : ∀ a, Utters system link more (f a)) : Utters system link (bytes ++ more) (x >>= f) := by
  intro s links l addr peer said hlinks hlink hsays
  obtain ⟨front, l', hfront, hlinks', hsays', hall⟩ := hx hlinks hlink hsays
  cases h : x s with
  | error halt t =>
    rw [Act.after_error h] at hlinks'
    rw [Act.after_bind_error h, Act.value?_bind_error h]
    exact ⟨front, l', hfront.trans (List.prefix_append _ _), hlinks', hsays', nofun⟩
  | ok a t =>
    rw [Act.after_ok h] at hlinks'
    rw [Act.value?_ok h] at hall
    obtain ⟨front', l'', hfront', hlinks'', hsays'', hall'⟩ := hf a hlinks' hlink hsays'
    rw [hall rfl, List.append_assoc] at hsays''
    rw [Act.after_bind_ok h, Act.value?_bind_ok h]
    refine ⟨bytes ++ front', l'', (List.prefix_append_right_inj _).2 hfront', hlinks'', hsays'', ?_⟩
    intro hvalue
    rw [hall' hvalue]

/-- Something, and then nothing. -/
theorem bind_nothing {f : α → Act ε σ β} (hx : Utters system link bytes x)
    (hf : ∀ a, Utters system link [] (f a)) : Utters system link bytes (x >>= f) := by
  have hboth := hx.bind hf
  rwa [List.append_nil] at hboth

theorem mapError (g : ε → ε') (hx : Utters system link bytes x) :
    Utters system link bytes (Act.mapError g x) := by
  intro s links l addr peer said hlinks hlink hsays
  have h := hx hlinks hlink hsays
  unfold Act.after Act.value? Act.mapError at *
  cases hs : x s <;> rw [hs] at h <;> exact h

theorem within {part : σ → τ} {put : τ → σ → σ} {system' : τ → System} {y : Act ε τ α}
    (hy : Utters system' link bytes y) (hpart : ∀ s, system' (part s) = system s)
    (hput : ∀ t s, system (put t s) = system' t) :
    Utters system link bytes (Act.within part put y) := by
  intro s links l addr peer said hlinks hlink hsays
  rw [← hpart] at hlinks
  rw [Act.after_within, Act.value?_within, hput]
  exact hy hlinks hlink hsays

end Utters

/-- More is said on a link whose outflow takes more. -/
theorem Link.Says.more {addr : SocketAddr} {peer : Peer} {said front noted : Bytes} {secure : Bool}
    {manner : Manner} {o o' : Outflow} (hlimit : o.limit = peer.outflow.limit)
    (hsent : o.sent = peer.outflow.sent ++ noted) (hnoted : noted <+: said)
    (hall : o.heard = true → noted = said) (hlimit' : o'.limit = o.limit)
    (hheard : o'.heard = o.heard) (hpush : o'.sent = o.sent ++ (if o.heard then front else [])) :
    (Link.opened addr secure manner o').Says addr peer (said ++ front) := by
  rw [hlimit] at hlimit'
  cases h : o.heard with
  | false =>
    rw [h, if_neg Bool.false_ne_true, List.append_nil, hsent] at hpush
    refine ⟨secure, manner, o', noted, rfl, hlimit', hpush,
      hnoted.trans (List.prefix_append _ _), ?_⟩
    rw [hheard, h]
    nofun
  | true =>
    rw [h, if_pos rfl, hsent, hall h, List.append_assoc] at hpush
    exact ⟨secure, manner, o', _, rfl, hlimit', hpush, List.prefix_refl _, fun _ => rfl⟩

/-- A change of the outflow of a link says what it adds. -/
theorem utters_onLink {α : Type} {link : Nat} {bytes : Bytes} {x : Act IoError Outflow α}
    (hx : ∀ o, ∃ front, front <+: bytes ∧ (Act.after x o).limit = o.limit ∧
      (Act.after x o).heard = o.heard ∧
      (Act.after x o).sent = o.sent ++ (if o.heard then front else []) ∧
      ((Act.value? x o).isSome → front = bytes)) :
    Utters id link bytes (System.onLink link x) := by
  rintro s links l addr peer said hlinks rfl
    ⟨secure, manner, o, noted, rfl, hlimit, hsent, hnoted, hall⟩
  obtain ⟨front, hfront, hlimit', hheard, hpush, hvalue⟩ := hx o
  have houtflow : s.outflow links.length = o := System.outflow_last hlinks
  unfold System.onLink
  rw [Act.after_within, Act.value?_within, houtflow]
  exact ⟨front, .opened addr secure manner (Act.after x o), hfront,
    System.changeLink_last hlinks _, .more hlimit hsent hnoted hall hlimit' hheard hpush, hvalue⟩

/-- What fits is sent, and that is all bytes where writing does not fail. -/
theorem Outflow.write_cases (bytes : Bytes) (o : Outflow) :
    write bytes o = .ok () (o.push bytes) ∨
      ∃ halt n, write bytes o = .error halt (o.push (bytes.take n)) := by
  unfold write
  cases o.limit with
  | none => exact .inl rfl
  | some limit =>
    dsimp only
    split
    · exact .inl rfl
    · exact .inr ⟨_, _, rfl⟩

/-- **Writing says a front of the bytes**, and all of them where it does not fail. -/
theorem utters_write (link : Nat) (bytes : Bytes) :
    Utters id link bytes (System.onLink link (Outflow.write bytes)) := by
  refine utters_onLink fun o => ?_
  have hpush (front : Bytes) : (o.push front).limit = o.limit ∧ (o.push front).heard = o.heard ∧
      (o.push front).sent = o.sent ++ (if o.heard then front else []) := by
    unfold Outflow.push
    cases h : o.heard <;> simp [h]
  rcases Outflow.write_cases bytes o with h | ⟨halt, n, h⟩
  · rw [Act.after_ok h]
    obtain ⟨hlimit, hheard, hsent⟩ := hpush bytes
    exact ⟨bytes, List.prefix_refl _, hlimit, hheard, hsent, fun _ => rfl⟩
  · rw [Act.after_error h, Act.value?_error h]
    obtain ⟨hlimit, hheard, hsent⟩ := hpush (bytes.take n)
    exact ⟨_, List.take_prefix n bytes, hlimit, hheard, hsent, nofun⟩

/-- The peer of the link takes any number of bytes. -/
def System.Takes (link : Nat) (s : System) : Prop := (s.outflow link).limit = none

theorem Link.Says.takes {s : System} {links : List Link} {l : Link} {addr : SocketAddr}
    {peer : Peer} {said : Bytes} (h : l.Says addr peer said) (hlinks : s.links = links ++ [l])
    (hlimit : peer.outflow.limit = none) : s.Takes links.length := by
  obtain ⟨secure, manner, o, noted, rfl, hsame, -⟩ := h
  unfold System.Takes
  rw [System.outflow_last hlinks]
  exact hsame.trans hlimit

/-- **Writing to a peer without a limit does not fail.** -/
theorem succeeds_write (link : Nat) (bytes : Bytes) :
    Act.Succeeds (System.Takes link) (System.onLink link (Outflow.write bytes)) := by
  have hwrite : Act.Succeeds (fun o : Outflow => o.limit = none) (Outflow.write bytes) := by
    intro o hlimit
    refine ⟨(), o.push bytes, ?_, ?_⟩
    · unfold Outflow.write
      rw [hlimit]
    · unfold Outflow.push
      split <;> exact hlimit
  refine hwrite.within (fun _ h => h) fun o s hlimit => ?_
  unfold System.Takes System.outflow System.changeLink
  rw [List.getElem?_modify_eq]
  cases s.links[link]? with
  | none => rfl
  | some l =>
    cases l with
    | failed addr halt => rfl
    | opened addr secure manner outflow => exact hlimit

/-! ## 3. Saying nothing -/

/-- Setting options says nothing. -/
theorem Destination.utters_setOptions (d : Destination) (link : Nat) :
    Utters id link [] (System.onLink link (modify d.setOptions)) := by
  refine utters_onLink fun o => ⟨[], List.prefix_refl _, rfl, rfl, ?_, fun _ => rfl⟩
  rw [ite_self, List.append_nil]
  rfl

/-- A change of a link that says nothing. -/
theorem utters_changeLink {ε α : Type} {link : Nat} {f : Link → Link} {x : Act ε System α}
    (hx : ∀ s, Act.after x s = s.changeLink link f)
    (hf : ∀ {addr peer said l}, Link.Says addr peer said l → (f l).Says addr peer said) :
    Utters id link [] x := by
  rintro s links l addr peer said hlinks rfl hsays
  refine ⟨[], f l, List.prefix_refl _, ?_, ?_, fun _ => rfl⟩
  · rw [hx]
    exact System.changeLink_last hlinks f
  · rw [List.append_nil]
    exact hf hsays

/-- What a client hears of a peer: what it sends, or, where it speaks the secure protocol and the
client does not, its refusal. -/
def Peer.heard (secure : Bool) (peer : Peer) : Inflow :=
  if !secure && peer.identity.isSome then Tls.refusal else peer.inflow

namespace Conn

/-- What was said to a peer who does not listen any more. -/
theorem says_deafen {addr : SocketAddr} {peer : Peer} {said : Bytes} {l : Link}
    (h : l.Says addr peer said) : (deafen l).Says addr peer said := by
  obtain ⟨secure, manner, o, noted, rfl, hlimit, hsent, hnoted, -⟩ := h
  exact ⟨secure, manner, _, noted, rfl, hlimit, hsent, hnoted, nofun⟩

theorem says_misdirect {addr : SocketAddr} {peer : Peer} {said : Bytes} {l : Link}
    (h : l.Says addr peer said) : (misdirect l).Says addr peer said := by
  obtain ⟨secure, manner, o, noted, rfl, hlimit, hsent, hnoted, hall⟩ := h
  exact ⟨secure, .misdirected, o, noted, rfl, hlimit, hsent, hnoted, hall⟩

theorem utters_plain {ε : Type} (conn : Conn) :
    Utters (ε := ε) id conn.link [] conn.plain := by
  unfold plain
  split
  · exact utters_changeLink (f := deafen) (fun _ => rfl) says_deafen
  · exact .nothing fun _ => rfl

theorem utters_encrypt (roots : List Tls.TrustAnchor) (server : Tls.ServerName) (conn : Conn) :
    Utters id conn.link [] (conn.encrypt roots server) := by
  unfold encrypt
  split
  · exact utters_changeLink (f := misdirect) (fun _ => rfl) says_misdirect
  · split <;> exact .nothing fun _ => rfl

/-- The same connection once it is settled whether the secure protocol is spoken on it, with a peer
of which it reads. -/
structure Settles (secure : Bool) (conn conn' : Conn) : Prop where
  link : conn'.link = conn.link
  hears : ∀ peer : Peer, conn.inflow = peer.inflow → conn.identity = peer.identity →
    conn'.inflow = peer.heard secure

/-- A connection without the secure protocol does not fail. -/
theorem plain_ok {ε : Type} (conn : Conn) (s : System) :
    ∃ conn' s', (conn.plain : Act ε System Conn) s = .ok conn' s' ∧ conn.Settles false conn' := by
  unfold plain
  cases h : conn.identity.isSome with
  | true =>
    refine ⟨_, _, if_pos rfl, rfl, fun peer _ hidentity => ?_⟩
    unfold Peer.heard
    rw [← hidentity, h]
    rfl
  | false =>
    refine ⟨_, _, if_neg Bool.false_ne_true, rfl, fun peer hinflow hidentity => ?_⟩
    unfold Peer.heard
    rw [← hidentity, h]
    exact hinflow

theorem settles_encrypt {roots : List Tls.TrustAnchor} {server : Tls.ServerName}
    {conn conn' : Conn} {s s' : System} (h : conn.encrypt roots server s = .ok conn' s') :
    conn.Settles true conn' := by
  unfold encrypt at h
  split at h
  · cases h
  · split at h
    · cases h
      exact ⟨rfl, fun _ hinflow _ => hinflow⟩
    · cases h

end Conn

end UrlTransfer
