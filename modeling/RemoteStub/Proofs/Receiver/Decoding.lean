import Mathlib.Data.List.Forall2
import RemoteStub.Proofs.Receiver.Cursor

/-!
# Decoding a whole stream

`drain_decomposes`: a receiver that is fed a stream and drained cuts it into encoded
events and a rest, in the only way in which the rest starts with no further event.
-/

namespace RemoteStub.Receiver

/-- A decoding cuts the stream into encodings of its events. -/
theorem decodes_iff {bytes rest : Bytes} {es : List Event} :
    Decodes bytes es rest ↔
      ∃ encs, List.Forall₂ Event.Encoding es encs ∧ bytes = encs.flatten ++ rest := by
  constructor
  · intro h
    induction h with
    | nil => exact ⟨[], .nil, rfl⟩
    | cons hf _ ih =>
      obtain ⟨enc, he, rfl⟩ := front_eq_event_iff.mp hf
      obtain ⟨encs, hes, rfl⟩ := ih
      exact ⟨enc :: encs, .cons he hes, by simp⟩
  · rintro ⟨encs, hes, rfl⟩
    induction hes with
    | nil => exact .nil rest
    | cons he _ ih =>
      refine .cons ?_ ih
      rw [List.flatten_cons, List.append_assoc]
      exact front_of_encoding he _

/-- Where an event's encoding ends is seen from the stream. -/
theorem encodings_unique {es : List Event} {encs encs' : List Bytes} {rest : Bytes}
    (h : List.Forall₂ Event.Encoding es encs) (h' : List.Forall₂ Event.Encoding es encs')
    (heq : encs.flatten ++ rest = encs'.flatten ++ rest) : encs = encs' := by
  induction h generalizing encs' with
  | nil => cases h'; rfl
  | @cons e enc es encs he _ ih =>
    cases h' with
    | @cons _ enc' _ encs' he' hes' =>
      simp only [List.flatten_cons, List.append_assoc] at heq
      have hf := front_of_encoding he (encs.flatten ++ rest)
      rw [heq, front_of_encoding he', Front.event.injEq] at hf
      have henc : enc = enc' := List.append_cancel_right (hf.2 ▸ heq)
      rw [henc, ih hes' hf.2.symm]

/-- Only packets that state their own checksum are encoded. -/
theorem packet_of_encodings {es : List Event} {encs : List Bytes}
    (h : List.Forall₂ Event.Encoding es encs) {p : Packet} (hp : .packet p ∈ es) :
    p = .ofPayload p.payload := by
  induction h with
  | nil => cases hp
  | cons he _ ih =>
    rcases List.mem_cons.mp hp with rfl | hp
    · cases he
      rfl
    · exact ih hp

theorem stuck_iff {bytes : Bytes} : Stuck bytes ↔ Incomplete bytes ∨ ∃ v, Breaks bytes v := by
  constructor
  · intro h
    rcases front_cases bytes with ⟨e, enc, rest, he, rfl⟩ | hi | hb
    · exact absurd (front_of_encoding he rest) (h e rest)
    · exact .inl hi
    · exact .inr hb
  · rintro (hi | ⟨v, hv⟩)
    · exact stuck_of_incomplete (front_of_incomplete hi)
    · exact stuck_of_broken (front_of_breaks hv)

/-- How the draining ended is seen from what is left. -/
theorem Sound.violation_iff {r : Receiver} (h : r.Sound) :
    (r.drain.violation = none ↔ Incomplete r.drain.receiver.pending) ∧
      ∀ v, r.drain.violation = some v ↔ Breaks r.drain.receiver.pending v := by
  simp only [← front_eq_incomplete_iff, ← front_eq_broken_iff]
  obtain ⟨es, rest, -, ⟨hi, hr⟩ | ⟨v, s, hb, hr, rfl, -⟩⟩ := h.drain_cases
  · simp [hr, parked, hi]
  · simp [hr, hb]

/-- **A receiver accepts exactly the grammar.** What it yields from a stream are the events whose
encodings the stream starts with, as many as there are, and what it keeps is the rest. It ends
without a violation if and only if the rest is incomplete, and with one if and only if the rest
breaks the framing. There is no other way to cut the stream so that its rest starts with no event,
and any other cut into events and a rest is the beginning of this one. -/
theorem drain_decomposes (s : Bytes) :
    let d := (({} : Receiver).feed s).drain
    ∃ encs : List Bytes,
      List.Forall₂ Event.Encoding d.events encs ∧ s = encs.flatten ++ d.receiver.pending ∧
      (∀ p, .packet p ∈ d.events →
        p = .ofPayload p.payload ∧ p.checksum.toNat = byteSum p.payload) ∧
      (d.violation = none ↔ Incomplete d.receiver.pending) ∧
      (∀ v, d.violation = some v ↔ Breaks d.receiver.pending v) ∧
      (∀ events encs' rest, List.Forall₂ Event.Encoding events encs' → s = encs'.flatten ++ rest →
        (Incomplete rest ∨ ∃ v, Breaks rest v) →
        events = d.events ∧ encs' = encs ∧ rest = d.receiver.pending) ∧
      ∀ events encs' rest, List.Forall₂ Event.Encoding events encs' → s = encs'.flatten ++ rest →
        events <+: d.events := by
  intro d
  have hsound : (({} : Receiver).feed s).Sound := (sound_of_pending []).feed s
  have hpending : (({} : Receiver).feed s).pending = s := List.nil_append s
  have hv := hsound.violation_iff
  have hstuck : Stuck d.receiver.pending := by
    rw [stuck_iff]
    cases hd : d.violation with
    | none => exact .inl (hv.1.mp hd)
    | some v => exact .inr ⟨v, (hv.2 v).mp hd⟩
  have hdec : Decodes s d.events d.receiver.pending := by
    obtain ⟨es, rest, hdec, ⟨-, hr⟩ | ⟨v, t, -, hr, rfl, -⟩⟩ := hsound.drain_cases
    · rw [hpending] at hdec
      simpa [d, hr, parked] using hdec
    · rw [hpending] at hdec
      simpa [d, hr] using hdec
  obtain ⟨encs, hencs, hs⟩ := decodes_iff.mp hdec
  refine ⟨encs, hencs, hs, ?_, hv.1, hv.2, ?_, ?_⟩
  · intro p hp
    have heq := packet_of_encodings hencs hp
    refine ⟨heq, ?_⟩
    rw [heq]
    exact checksum_toNat p.payload
  · intro events encs' rest hes hs' hrest
    obtain ⟨rfl, rfl⟩ := hdec.unique hstuck (decodes_iff.mpr ⟨encs', hes, hs'⟩) (stuck_iff.mpr hrest)
    exact ⟨rfl, encodings_unique hes hencs (hs'.symm.trans hs), rfl⟩
  · intro events encs' rest hes hs'
    obtain ⟨more, hmore, -⟩ := (decodes_iff.mpr ⟨encs', hes, hs'⟩).extend hdec hstuck
    exact ⟨more, hmore.symm⟩

end RemoteStub.Receiver
