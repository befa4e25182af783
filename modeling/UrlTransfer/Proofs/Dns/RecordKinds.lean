/-
# Records have data of their types

What is read from a message depends on the message, and little can be said of it before; but some
things hold of whatever is read.  `Wire.Yields` is that a reader yields nothing else, and is closed
under the ways of putting readers together, so that one lemma for each reader is enough.

One such thing is that the data of a record are of the kind that its type says, **if there are any**
(`yields_record`): a record may come without data, whatever its type.  It holds of all records of a
message (`suits_of_parse`), and then the address of a record is missing exactly where its data are.
-/
import UrlTransfer.Dns.Lookup
import UrlTransfer.Dns.Message

namespace UrlTransfer

namespace Dns

/-! ## 1. What a reader takes from a message -/

namespace Wire

variable {α β : Type} {P : α → Prop} {Q : β → Prop}

/-- Whatever the reader takes from a message has the property. -/
def Yields (P : α → Prop) (x : Wire α) : Prop :=
  ∀ ⦃message pos a pos'⦄, x message pos = some (a, pos') → P a

namespace Yields

theorem any (x : Wire α) : Yields (fun _ => True) x := fun _ _ _ _ _ => trivial

theorem pure {a : α} (h : P a) : Yields P (Pure.pure a) := by
  intro message pos a' pos' hread
  cases hread
  exact h

theorem failure : Yields P (Alternative.failure : Wire α) := by
  intro message pos a pos' hread
  cases hread

/-- **What comes behind a reader may rely on what that yields.** -/
theorem bind {x : Wire β} {f : β → Wire α} (hx : Yields Q x) (hf : ∀ b, Q b → Yields P (f b)) :
    Yields P (x >>= f) := by
  intro message pos a pos' hread
  change ((x message pos).bind fun (b, next) => f b message next) = some (a, pos') at hread
  obtain ⟨⟨b, next⟩, hb, ha⟩ := Option.bind_eq_some_iff.1 hread
  exact hf b (hx hb) ha

theorem mono {P' : α → Prop} {x : Wire α} (h : Yields P x) (himp : ∀ a, P a → P' a) :
    Yields P' x := fun _ _ _ _ hread => himp _ (h hread)

/-- Behind a failure there is nothing. -/
theorem refuse {f : β → Wire α} : Yields P (Alternative.failure >>= f) :=
  bind (failure : Yields (fun _ => False) _) fun _ h => h.elim

theorem behind {x : Wire β} {f : β → Wire α} (hf : ∀ b, Yields P (f b)) : Yields P (x >>= f) :=
  bind (any x) fun b _ => hf b

theorem map {x : Wire β} {f : β → α} (h : Yields (fun b => P (f b)) x) : Yields P (f <$> x) := by
  rw [← bind_pure_comp]
  exact bind h fun _ hb => pure hb

theorem ite {c : Prop} [Decidable c] {x y : Wire α} (hx : c → Yields P x) (hy : ¬ c → Yields P y) :
    Yields P (if c then x else y) := by
  split
  · next hc => exact hx hc
  · next hc => exact hy hc

theorem times {x : Wire α} (h : Yields P x) (n : Nat) :
    Yields (fun items => ∀ item ∈ items, P item) (Wire.times x n) := by
  induction n with
  | zero => exact pure fun _ hmem => absurd hmem List.not_mem_nil
  | succ n ih =>
    exact bind h fun item hitem => bind ih fun items hitems =>
      pure (List.forall_mem_cons.2 ⟨hitem, hitems⟩)

end Yields

theorem bind_some {x : Wire β} {f : β → Wire α} {message : Bytes} {pos next : Nat} {b : β}
    (h : x message pos = some (b, next)) : (x >>= f) message pos = f b message next := by
  show ((x message pos).bind fun (b, next) => f b message next) = _
  rw [h]
  rfl

end Wire

/-- The name of the root is one byte. -/
theorem Name.read_root {message : Bytes} {pos : Nat} (h : message[pos]? = some 0) :
    Name.read message pos = some (.root, pos + 1) := by
  have hlabels : readLabels message pos none pos = some ([], pos + 1) := by
    rw [readLabels, if_neg (by simp)]
    split <;> rename_i hlength <;> rw [h] at hlength <;> cases hlength
    rfl
  unfold Name.read
  rw [hlabels]
  exact if_pos (by decide)

open Wire (Yields)

/-! ## 2. Records -/

/-- The data are of the kind that the type says, where it asks for an address. -/
structure RecordData.Of (type : RecordType) (data : RecordData) : Prop where
  a : type = .a → ∃ ip, data = .ipv4 ip
  aaaa : type = .aaaa → ∃ ip, data = .ipv6 ip

/-- A record has data of the kind that the type says, or none. -/
def Record.Suits (type : RecordType) (record : Record) : Prop :=
  ∀ data ∈ record.data, data.Of type

namespace Record.Suits

variable {record : Record}

theorem a (h : record.Suits .a) : record.data = none ∨ ∃ ip, record.data = some (.ipv4 ip) := by
  cases hdata : record.data with
  | none => exact .inl rfl
  | some data =>
    obtain ⟨ip, rfl⟩ := (h data hdata).a rfl
    exact .inr ⟨ip, rfl⟩

theorem aaaa (h : record.Suits .aaaa) :
    record.data = none ∨ ∃ ip, record.data = some (.ipv6 ip) := by
  cases hdata : record.data with
  | none => exact .inl rfl
  | some data =>
    obtain ⟨ip, rfl⟩ := (h data hdata).aaaa rfl
    exact .inr ⟨ip, rfl⟩

theorem recordV4?_eq_none_iff (h : record.Suits .a) :
    Addresses.recordV4? record = none ↔ record.data = none := by
  rcases h.a with hdata | ⟨ip, hdata⟩ <;> simp [Addresses.recordV4?, hdata]

theorem recordV6?_eq_none (h : record.Suits .a) : Addresses.recordV6? record = none := by
  rcases h.a with hdata | ⟨ip, hdata⟩ <;> simp [Addresses.recordV6?, hdata]

theorem recordV6?_eq_none_iff (h : record.Suits .aaaa) :
    Addresses.recordV6? record = none ↔ record.data = none := by
  rcases h.aaaa with hdata | ⟨ip, hdata⟩ <;> simp [Addresses.recordV6?, hdata]

theorem recordV4?_eq_none (h : record.Suits .aaaa) : Addresses.recordV4? record = none := by
  rcases h.aaaa with hdata | ⟨ip, hdata⟩ <;> simp [Addresses.recordV4?, hdata]

end Record.Suits

theorem yields_readForm (type : RecordType) (stop : Nat) :
    Yields (RecordData.Of type) (RecordData.readForm type stop) := by
  intro message pos data pos' hread
  constructor
  · rintro rfl
    have hform : Yields (fun data => ∃ ip, data = .ipv4 ip) (RecordData.readForm .a stop) :=
      .behind fun octets => .behind fun ip => .pure ⟨ip, rfl⟩
    exact hform hread
  · rintro rfl
    have hform : Yields (fun data => ∃ ip, data = .ipv6 ip) (RecordData.readForm .aaaa stop) :=
      .behind fun bytes => .behind fun ip => .pure ⟨ip, rfl⟩
    exact hform hread

theorem yields_data (type : RecordType) (length : Nat) :
    Yields (RecordData.Of type) (RecordData.read type length) :=
  .behind fun pos => .bind (yields_readForm type (pos + length)) fun _ hdata =>
    .behind fun _ => .ite (fun _ => .pure hdata) fun _ => .failure

/-- **A record that is read has data of its type, or none.** -/
theorem yields_record : Yields (fun record => record.Suits record.type) Record.read := by
  refine .behind fun name => .behind fun code => .ite (fun _ => .refuse) fun _ => ?_
  refine .behind fun recordClass => .behind fun timeToLive => .behind fun length =>
    .behind fun (message, pos) => .ite (fun _ => .refuse) fun _ => ?_
  have rest (data : Option RecordData) (hdata : ∀ d ∈ data, d.Of ⟨code⟩) :
      Yields (fun record : Record => record.Suits record.type)
        (Pure.pure ⟨name, ⟨code⟩, ⟨recordClass⟩, timeToLive, data⟩) := .pure hdata
  refine .ite (fun _ => ?_) fun _ => ?_
  · exact .bind (.pure fun d hd => absurd hd (Option.not_mem_none d)) rest
  · exact .bind (.map ((yields_data ⟨code⟩ length).mono fun d hd d' hd' => by cases hd'; exact hd)) rest

/-- All records of a message have data of their types, or none. -/
theorem suits_of_parse {datagram : Bytes} {response : Response}
    (h : Response.parse? datagram = some response) :
    ∀ record ∈ response.records, record.Suits record.type := by
  have hyields : Yields (fun response : Response =>
      ∀ record ∈ response.records, record.Suits record.type) Response.read := by
    refine .behind fun id => .behind fun flags => .ite (fun _ => .refuse) fun _ => ?_
    refine .behind fun questions => .behind fun answers => .behind fun authorities =>
      .behind fun additionals => .behind fun _ => ?_
    refine .bind (.times yields_record answers) fun answers hanswers =>
      .bind (.times yields_record authorities) fun authorities hauthorities =>
      .bind (.times yields_record additionals) fun additionals hadditionals =>
      .ite (fun _ => .refuse) fun _ => .pure ?_
    intro record hrecord
    rcases List.mem_append.1 hrecord with hrecord | hrecord
    · rcases List.mem_append.1 hrecord with hrecord | hrecord
      · exact hanswers record hrecord
      · exact hauthorities record hrecord
    · exact hadditionals record (List.mem_filter.1 hrecord).1
  obtain ⟨⟨response', pos⟩, hread, rfl⟩ := Option.map_eq_some_iff.1 h
  exact hyields hread

end Dns

end UrlTransfer
