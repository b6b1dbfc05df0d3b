import Mathlib.Data.List.Forall2
import RemoteStub.Proofs.Command.Grammar
import RemoteStub.Proofs.Receiver.Framing
import RemoteStub.Proofs.Responder.Calls

/-!
# Default answers

What a target answers by default fits into a packet of the size that it announces, and
needs no escaping (`fits_answer`). The longest answer is to a read of memory, and no
command asks for more than a packet holds (`Responder.readable_calls`).
`Responder.respondAll_fits`: so every reply can be sent as it is.
-/

namespace RemoteStub

/-- A payload within the announced size, of bytes that stand for themselves. -/
structure Fits (payload : Bytes) : Prop where
  length : payload.length ≤ Wire.maxPacketSize
  plain : ∀ b ∈ payload, needsEscape b = false

variable {σ : Type} {payload : Bytes}

theorem Fits.not_mem (h : Fits payload) {b : UInt8} (hb : needsEscape b = true) : b ∉ payload := by
  intro hmem
  rw [h.plain b hmem] at hb
  cases hb

theorem fits_nil : Fits [] := ⟨Nat.zero_le _, nofun⟩

theorem fits_text {t : Text} (h : t.toBytes.length ≤ Wire.maxPacketSize)
    (ht : t.toBytes.all (! needsEscape ·) = true) : Fits t.toBytes := by
  refine ⟨h, ?_⟩
  simpa using ht

theorem Text.toBytes_flatten_replicate (n : Nat) (t : Text) :
    Text.toBytes (List.replicate n t).flatten = (List.replicate n t.toBytes).flatten := by
  induction n with
  | zero => rfl
  | succ n ih => simp only [List.replicate_succ, List.flatten_cons, Text.toBytes_append, ih]

theorem Text.length_toBytes_flatten_replicate (n : Nat) (t : Text) :
    (Text.toBytes (List.replicate n t).flatten).length = n * t.toBytes.length := by
  rw [toBytes_flatten_replicate]
  simp

theorem fits_replicate {n : Nat} {t : Text} (h : n * t.toBytes.length ≤ Wire.maxPacketSize)
    (ht : t.toBytes.all (! needsEscape ·) = true) :
    Fits (Text.toBytes (List.replicate n t).flatten) := by
  constructor
  · rwa [Text.length_toBytes_flatten_replicate]
  · intro b hb
    rw [Text.toBytes_flatten_replicate] at hb
    obtain ⟨block, hblock, hb⟩ := List.mem_flatten.mp hb
    rw [List.eq_of_mem_replicate hblock] at hb
    simpa using List.all_eq_true.mp ht b hb

/-- A read of memory whose default answer fits. -/
def Query.Readable : Query → Prop
  | readMemory _ length => 2 * length.toNat ≤ Wire.maxPacketSize
  | _ => True

theorem Command.readable_query {packet : Text} {command : Command}
    (h : parse packet = .ok command) : command.query.Readable := by
  cases reads_parse h with
  | @readMemory range x y _ hy =>
    unfold Command.query Query.Readable
    unfold maxReadLength at hy
    omega
  | _ => trivial

namespace Target

variable {count : σ → Nat} {s : σ}

theorem snd_answer_default (count : σ → Nat) (q : Query) (s : σ) :
    ((({ registerCount := count } : Target σ).answer q).run s).2 = s := by
  cases q <;> rfl

theorem fits_answer (h : 8 * count s ≤ Wire.maxPacketSize) {q : Query} (hq : q.Readable) :
    Fits ((({ registerCount := count } : Target σ).answer q).run s).1 := by
  cases q with
  | readRegisters =>
    have hlength : count s * (Text.toBytes "00000000".toList).length ≤ Wire.maxPacketSize := by
      rw [Nat.mul_comm]
      exact h
    exact fits_replicate hlength (by decide)
  | readMemory address length =>
    have hlength : length.toNat * (Text.toBytes "00".toList).length ≤ Wire.maxPacketSize := by
      rw [Nat.mul_comm]
      exact hq
    exact fits_replicate hlength (by decide)
  | transfer object annex offset length => exact fits_nil
  | _ => exact fits_text (by decide) (by decide)

end Target

/-- What becomes of a command where no reply is too long and none needs to be escaped. -/
inductive Sendable (packet : Text) : Except DecodeError Bytes → Prop
  | refused {e : DecodeError} (h : Command.parse packet = .error e) : Sendable packet (.error e)
  | answered {command : Command} {reply : Bytes} (h : Command.parse packet = .ok command)
      (hlength : reply.length ≤ Wire.maxPacketSize)
      (hplain : Wire.packetStart ∉ reply ∧ Wire.packetEnd ∉ reply ∧ Wire.escapeMark ∉ reply)
      (hback : (({} : Receiver).feed (frame reply)).drain =
        ⟨[.packet (.ofPayload reply)], none, {}⟩) :
      Sendable packet (.ok reply)

theorem Fits.sendable {packet : Text} {command : Command} {reply : Bytes} (h : Fits reply)
    (hp : Command.parse packet = .ok command) : Sendable packet (.ok reply) := by
  have hend : Wire.packetEnd ∉ reply := h.not_mem rfl
  refine .answered hp h.length ⟨h.not_mem rfl, hend, h.not_mem rfl⟩ ?_
  have hplain : ∀ e ∈ [Event.packet (.ofPayload reply)], e.Plain := by
    intro e he
    rw [List.mem_singleton.mp he]
    exact Event.plain_ofPayload hend
  have hdrain := Receiver.drain_feed_encodeAll hplain
  rwa [Event.encodeAll_cons, Event.encodeAll_nil, List.append_nil] at hdrain

namespace Responder

variable {count : σ → Nat} {r r' : Responder σ} {packet : Text}
  {result : Except DecodeError Bytes}

theorem sendable_respond (ht : r.target = { registerCount := count })
    (h : 8 * count r.state ≤ Wire.maxPacketSize) (hr : r.respond packet = (result, r')) :
    Sendable packet result ∧ r'.target = r.target ∧ r'.state = r.state := by
  cases result with
  | error e =>
    obtain ⟨hp, rfl⟩ := respond_eq_error hr
    exact ⟨.refused hp, rfl, rfl⟩
  | ok reply =>
    obtain ⟨command, state, hp, hanswer, rfl⟩ := respond_eq_ok hr
    have hfits := Target.fits_answer h (Command.readable_query hp)
    have hstate := Target.snd_answer_default count command.query r.state
    rw [← ht, hanswer] at hfits hstate
    exact ⟨hfits.sendable hp, rfl, hstate⟩

theorem sendable_respondAll (ht : r.target = { registerCount := count })
    (h : 8 * count r.state ≤ Wire.maxPacketSize) (packets : List Text) :
    List.Forall₂ Sendable packets (r.respondAll packets).1 ∧
      (r.respondAll packets).2.state = r.state := by
  induction packets generalizing r with
  | nil => exact ⟨.nil, rfl⟩
  | cons packet more ih =>
    rcases hs : r.respond packet with ⟨result, s⟩
    obtain ⟨hresult, htarget, hstate⟩ := sendable_respond ht h hs
    obtain ⟨hresults, hlast⟩ := ih (htarget.trans ht) (by rw [hstate]; exact h)
    rw [respondAll_cons, hs]
    exact ⟨.cons hresult hresults, hlast.trans hstate⟩

/-- No read of memory is too long, whatever the target. -/
theorem readable_calls (t : Target σ) (s : σ) (packets : List Text) :
    ∀ q ∈ calls t s packets, q.Readable := by
  intro q hq
  rw [calls_eq, List.mem_filterMap] at hq
  obtain ⟨packet, -, hq⟩ := hq
  cases hp : Command.parse packet with
  | error e =>
    rw [Command.query?_of_error hp] at hq
    cases hq
  | ok command =>
    rw [Command.query?_of_ok hp] at hq
    cases hq
    exact Command.readable_query hp

/-- **Default replies fit into the announced packet.** Where the registers do, every command is
refused or has a reply that can be sent as it is. The state stays what it was, the announced size
is the limit, and no target is asked for more memory than fits. -/
theorem respondAll_fits {state : σ} (h : 8 * count state ≤ Wire.maxPacketSize)
    (packets : List Text) :
    let target : Target σ := { registerCount := count }
    let run := ({ target, state } : Responder σ).respondAll packets
    List.Forall₂ Sendable packets run.1 ∧
      run.2.state = state ∧
      (∃ size, Numeric.natural? 16 size = some Wire.maxPacketSize ∧
        ∀ features, ((target.answer (.supported features)).run state).1 =
          Text.toBytes ("PacketSize=".toList ++ size ++ ";QStartNoAckMode+".toList)) ∧
      ∀ (t : Target σ) (s : σ) (address length : UInt64),
        .readMemory address length ∈ calls t s packets → 2 * length.toNat ≤ Wire.maxPacketSize := by
  intro target run
  obtain ⟨hresults, hstate⟩ :=
    sendable_respondAll (r := { target, state }) rfl h packets
  refine ⟨hresults, hstate, ?_, ?_⟩
  · exact ⟨Nat.toDigits 16 Wire.maxPacketSize, Numeric.natural?_toDigits _, fun features => rfl⟩
  · intro t s address length hmem
    exact readable_calls t s packets _ hmem

/-- The most registers that fit, the longest read, and one byte more. -/
theorem respondAll_fits_longest :
    let r : Responder Unit := { target := { registerCount := fun _ => 2047 }, state := () }
    let packets := ["g".toList, "m0,1fff".toList, "m0,2000".toList]
    8 * 2047 ≤ Wire.maxPacketSize ∧
      ∃ registers memory e, (r.respondAll packets).1 = [.ok registers, .ok memory, .error e] ∧
        registers.length = 16376 ∧ memory.length = 16382 ∧
        Sendable "g".toList (.ok registers) ∧ Sendable "m0,1fff".toList (.ok memory) := by
  intro r packets
  have h : 8 * 2047 ≤ Wire.maxPacketSize := by decide
  have hrun : (r.respondAll packets).1 =
      [.ok (Text.toBytes (List.replicate 2047 "00000000".toList).flatten),
        .ok (Text.toBytes (List.replicate 8191 "00".toList).flatten),
        .error (.readTooLong 0x2000)] := rfl
  have hsendable : List.Forall₂ Sendable packets (r.respondAll packets).1 :=
    (@respondAll_fits Unit (fun _ => 2047) () h packets).1
  rw [hrun] at hsendable
  obtain ⟨hregisters, hmore⟩ := List.forall₂_cons.mp hsendable
  obtain ⟨hmemory, -⟩ := List.forall₂_cons.mp hmore
  refine ⟨h, _, _, _, hrun, ?_, ?_, hregisters, hmemory⟩
  · rw [Text.length_toBytes_flatten_replicate]
    rfl
  · rw [Text.length_toBytes_flatten_replicate]
    rfl

end Responder

end RemoteStub
