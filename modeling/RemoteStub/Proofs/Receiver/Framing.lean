import RemoteStub.Proofs.Receiver.Cursor

/-!
# Framed events

What is sent is received: a sequence of events whose payloads hold no `#` is read back
from its encoding (`decodes_encodeAll`), also when only a part of it has arrived
(`Decodes.of_encodeAll`).
-/

namespace RemoteStub

/-! ## The digits of a checksum -/

theorem checksumDigits_eq_digitBytes (p : Bytes) :
    checksumDigits p = [Hex.digitByte (byteSum p / 16), Hex.digitByte (byteSum p % 16)] := by
  rw [checksumDigits, Hex.toBytes_octet, checksum_toNat]

theorem checksumDigits_eq (p : Bytes) :
    ∃ high low, checksumDigits p = [high, low] ∧ Hex.Stated high low (byteSum p) := by
  have hsum : byteSum p < 256 := Nat.mod_lt _ (by decide)
  have hhigh : byteSum p / 16 < 16 := by omega
  have hlow : byteSum p % 16 < 16 := Nat.mod_lt _ (by decide)
  refine ⟨_, _, checksumDigits_eq_digitBytes p, ?_⟩
  rw [Hex.stated_iff]
  refine ⟨_, _, Hex.digit?_digitByte _ hhigh, Hex.digit?_digitByte _ hlow, ?_⟩
  omega

/-! ## Events that can travel -/

namespace Event

/-- An event that a receiver reads back. -/
def Plain : Event → Prop
  | ack => True
  | packet p => Wire.packetEnd ∉ p.payload ∧ p = .ofPayload p.payload

theorem Plain.encoding {e : Event} (h : e.Plain) : e.Encoding e.encode := by
  cases e with
  | ack => exact .ack
  | packet p =>
    obtain ⟨hend, hp⟩ := h
    obtain ⟨high, low, hd, hs⟩ := checksumDigits_eq p.payload
    rw [hp, encode, Packet.payload_ofPayload, frame, hd]
    exact .packet hend hs

theorem plain_ofPayload {payload : Bytes} (h : Wire.packetEnd ∉ payload) :
    (packet (.ofPayload payload)).Plain := ⟨h, rfl⟩

@[simp] theorem encodeAll_nil : encodeAll [] = [] := rfl

@[simp] theorem encodeAll_cons (e : Event) (es : List Event) :
    encodeAll (e :: es) = e.encode ++ encodeAll es := rfl

@[simp] theorem encodeAll_append (es fs : List Event) :
    encodeAll (es ++ fs) = encodeAll es ++ encodeAll fs := by
  simp [encodeAll]

def Acks (es : List Event) : Prop := ∀ e ∈ es, e = ack

theorem acks_nil : Acks [] := by
  intro e he
  cases he

theorem acks_singleton : Acks [ack] := List.forall_mem_singleton.mpr rfl

theorem acks_append {es fs : List Event} : Acks (es ++ fs) ↔ Acks es ∧ Acks fs :=
  List.forall_mem_append

/-- A sequence of events is nothing but acknowledgements, or is cut at its first packet. -/
theorem acks_or_packet (es : List Event) :
    Acks es ∨ ∃ acks p more, Acks acks ∧ es = acks ++ packet p :: more := by
  induction es with
  | nil => exact .inl acks_nil
  | cons e es ih =>
    cases e with
    | packet p => exact .inr ⟨[], p, es, acks_nil, rfl⟩
    | ack =>
      rcases ih with h | ⟨acks, p, more, h, rfl⟩
      · exact .inl (acks_append.mpr ⟨acks_singleton, h⟩)
      · exact .inr ⟨ack :: acks, p, more, acks_append.mpr ⟨acks_singleton, h⟩, rfl⟩

theorem Acks.plain {es : List Event} (h : Acks es) : ∀ e ∈ es, e.Plain := by
  intro e he
  rw [h e he]
  trivial

end Event

namespace Receiver

theorem front_encode {e : Event} (h : e.Plain) (rest : Bytes) :
    front (e.encode ++ rest) = .event e rest :=
  front_of_encoding h.encoding rest

/-- **What is sent is received.** -/
theorem decodes_encodeAll {es : List Event} (h : ∀ e ∈ es, e.Plain) (rest : Bytes) :
    Decodes (Event.encodeAll es ++ rest) es rest := by
  induction es with
  | nil => exact .nil rest
  | cons e es ih =>
    refine .cons ?_ (ih fun e he => h e (List.mem_cons_of_mem _ he))
    rw [Event.encodeAll_cons, List.append_assoc]
    exact front_encode (h e List.mem_cons_self) _

theorem drain_feed_encodeAll {es : List Event} (h : ∀ e ∈ es, e.Plain) :
    (({} : Receiver).feed (Event.encodeAll es)).drain = ⟨es, none, {}⟩ := by
  have hd := decodes_encodeAll h []
  rw [List.append_nil] at hd
  exact ((sound_of_pending []).feed _).drain_of_incomplete hd rfl

/-- What is decoded from a part of what is sent is the beginning of it, and the other events are
still to come. -/
theorem Decodes.of_encodeAll {bytes rest more : Bytes} {es sent : List Event}
    (h : Decodes bytes es rest) (hp : ∀ e ∈ sent, e.Plain)
    (heq : bytes ++ more = Event.encodeAll sent) :
    ∃ later, sent = es ++ later ∧ rest ++ more = Event.encodeAll later := by
  induction h generalizing sent with
  | nil => exact ⟨sent, rfl, heq⟩
  | @cons bytes rest _ e es hf _ ih =>
    have hf := front_append_of_event hf more
    rw [heq] at hf
    cases sent with
    | nil => cases hf
    | cons e' sent =>
      rw [Event.encodeAll_cons, front_encode (hp e' List.mem_cons_self), Front.event.injEq] at hf
      obtain ⟨rfl, hrest⟩ := hf
      obtain ⟨later, rfl, hlater⟩ := ih (fun e he => hp e (List.mem_cons_of_mem _ he)) hrest.symm
      exact ⟨later, rfl, hlater⟩

theorem front_ne_broken_of_encodeAll {bytes more : Bytes} {sent : List Event}
    (hp : ∀ e ∈ sent, e.Plain) (heq : bytes ++ more = Event.encodeAll sent) (v : Violation) :
    front bytes ≠ .broken v := by
  intro hb
  have hf := front_append_of_broken hb more
  rw [heq] at hf
  cases sent with
  | nil => cases hf
  | cons e sent =>
    rw [Event.encodeAll_cons, front_encode (hp e List.mem_cons_self)] at hf
    cases hf

theorem eq_nil_of_front_encodeAll {sent : List Event} (hp : ∀ e ∈ sent, e.Plain)
    (h : front (Event.encodeAll sent) = .incomplete) : sent = [] := by
  cases sent with
  | nil => rfl
  | cons e sent =>
    rw [Event.encodeAll_cons, front_encode (hp e List.mem_cons_self)] at h
    cases h

theorem exists_decodes_of_encodeAll {bytes more : Bytes} {sent : List Event}
    (hp : ∀ e ∈ sent, e.Plain) (heq : bytes ++ more = Event.encodeAll sent) :
    ∃ es rest later, Decodes bytes es rest ∧ front rest = .incomplete ∧ sent = es ++ later ∧
      rest ++ more = Event.encodeAll later := by
  obtain ⟨es, rest, hd, hstuck⟩ := exists_decodes bytes
  obtain ⟨later, rfl, hrest⟩ := hd.of_encodeAll hp heq
  have hlater : ∀ e ∈ later, e.Plain := fun e he => hp e (List.mem_append_right _ he)
  refine ⟨es, rest, later, hd, ?_, rfl, hrest⟩
  cases hf : front rest with
  | event e last => exact absurd hf (hstuck e last)
  | broken v => exact absurd hf (front_ne_broken_of_encodeAll hlater hrest v)
  | incomplete => rfl

end Receiver

end RemoteStub
