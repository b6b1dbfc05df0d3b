import RemoteStub.Proofs.Receiver.Framing

/-!
# Frames read back

A payload is read back from its frame just if it holds no `#`. Otherwise the first `#`
ends the payload early (`front_frame_of_mem`), and what is read, if anything, is another
one (`frame_readBack`).
-/

namespace RemoteStub

theorem Packet.eq_of_verify {payload : Bytes} {high low : UInt8} {p : Packet}
    (h : verify payload high low = .ok p) : p = .ofPayload payload := by
  unfold verify at h
  cases hx : Hex.octet? high low with
  | none =>
    rw [hx] at h
    cases h
  | some stated =>
    rw [hx] at h
    dsimp only at h
    split at h
    · cases h
      rfl
    · cases h

namespace Receiver

/-- A `#` in the payload ends it, for whoever reads the frame. -/
theorem front_frame_of_mem {payload rest : Bytes} {e : Event} (h : Wire.packetEnd ∈ payload)
    (hf : front (frame payload) = .event e rest) :
    e = .packet (.ofPayload (payload.takeWhile inPayload)) := by
  obtain hp | ⟨p, after, hp, rfl⟩ := payload_cases payload
  · exact absurd h hp
  obtain ⟨high, low, hd, -⟩ := checksumDigits_eq (p ++ Wire.packetEnd :: after)
  rw [takeWhile_payload hp]
  -- the frame goes on behind that `#` with three bytes at least
  have hframe : ∃ x y more, frame (p ++ Wire.packetEnd :: after) =
      Wire.packetStart :: (p ++ Wire.packetEnd :: x :: y :: more) := by
    match after with
    | [] => exact ⟨Wire.packetEnd, high, [low], by simp [frame, hd]⟩
    | [x] => exact ⟨x, Wire.packetEnd, [high, low], by simp [frame, hd]⟩
    | x :: y :: more => exact ⟨x, y, more ++ [Wire.packetEnd, high, low], by simp [frame, hd]⟩
  obtain ⟨x, y, more, hframe⟩ := hframe
  rw [hframe, front_packet hp] at hf
  cases hv : Packet.verify p x y with
  | error v =>
    rw [hv] at hf
    cases hf
  | ok q =>
    rw [hv] at hf
    cases hf
    rw [Packet.eq_of_verify hv]

theorem Sound.head?_drain {r : Receiver} (h : r.Sound) {e : Event} :
    r.drain.events.head? = some e ↔ ∃ rest, front r.pending = .event e rest := by
  have hn := h.next_eq
  cases hf : front r.pending with
  | event x rest =>
    rw [hf] at hn
    simp [drain_of_some hn]
  | broken v =>
    rw [hf] at hn
    simp [drain_of_error hn]
  | incomplete =>
    rw [hf] at hn
    simp [drain_of_none hn]

theorem head?_drain_frame {payload : Bytes} {e : Event} :
    (({} : Receiver).feed (frame payload)).drain.events.head? = some e ↔
      ∃ rest, front (frame payload) = .event e rest :=
  ((sound_of_pending []).feed _).head?_drain

/-- **What is framed is read back just if it holds no `#`.** Acknowledgements and frames of such
payloads are read as what they are, one after the other, and nothing is left. From the frame of any
other payload, the first event that is read, if one is, is the packet that ends before its first
`#`. -/
theorem frame_readBack :
    (∀ events : List Event,
      (∀ p, .packet p ∈ events → Wire.packetEnd ∉ p.payload ∧ p = .ofPayload p.payload) →
      (({} : Receiver).feed (Event.encodeAll events)).drain = ⟨events, none, {}⟩) ∧
    (∀ payload : Bytes, Wire.packetEnd ∈ payload → ∀ e,
      (({} : Receiver).feed (frame payload)).drain.events.head? = some e →
        ∃ p, e = .packet p ∧ p.payload ≠ payload ∧ p.payload = payload.takeWhile inPayload) ∧
    ∀ payload : Bytes,
      (({} : Receiver).feed (frame payload)).drain.events.head? =
          some (.packet (.ofPayload payload)) ↔
        Wire.packetEnd ∉ payload := by
  have hcut : ∀ payload : Bytes, Wire.packetEnd ∈ payload →
      payload.takeWhile inPayload ≠ payload := by
    intro payload h heq
    have hmem := packetEnd_not_mem_takeWhile payload
    rw [heq] at hmem
    exact hmem h
  refine ⟨?_, ?_, ?_⟩
  · intro events h
    apply drain_feed_encodeAll
    intro e he
    cases e with
    | ack => trivial
    | packet p => exact h p he
  · intro payload h e he
    obtain ⟨rest, hf⟩ := head?_drain_frame.mp he
    exact ⟨_, front_frame_of_mem h hf, hcut payload h, rfl⟩
  · intro payload
    rw [head?_drain_frame]
    constructor
    · rintro ⟨rest, hf⟩ h
      have heq := front_frame_of_mem h hf
      rw [Event.packet.injEq, Packet.ofPayload, Packet.ofPayload, Packet.mk.injEq] at heq
      exact hcut payload h heq.1.symm
    · intro h
      have hf := front_encode (Event.plain_ofPayload h) []
      rw [List.append_nil] at hf
      exact ⟨[], hf⟩

/-- The frame of `#00` is read as a packet without payload. -/
example : (({} : Receiver).feed (frame [0x23, 0x30, 0x30])).drain.events.head? =
    some (.packet (.ofPayload [])) := by decide +kernel

end Receiver

end RemoteStub
