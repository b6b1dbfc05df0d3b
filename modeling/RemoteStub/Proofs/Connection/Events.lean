import RemoteStub.Connection
import RemoteStub.Proofs.Responder

/-!
# Handling events

What one event can do to an open connection (`Handles`), and what any number of
events keep: a closed connection stays as it is, what was sent, logged and asked is
only added to, and what the receiver holds plays no part.
-/

namespace RemoteStub.Connection

variable {σ : Type}

/-- What an event can do to an open connection. -/
inductive Handles (c : Connection σ) : Event → Connection σ → Prop
  | due (h : c.handshake.expectingAck = true) :
      Handles c .ack { c with handshake.expectingAck := false }
  | unsolicited (h : c.handshake.expectingAck = false) : Handles c .ack (c.send .ack)
  | negotiate {p : Packet} (h : p.text = startNoAckMode) :
      Handles c (.packet p)
        ({ c.acknowledge with handshake.sendAcks := false }.send (.packet (.ofPayload accepted)))
  | answer {p : Packet} {reply : Bytes} {r : Responder σ} (h : p.text ≠ startNoAckMode)
      (hr : c.responder.respond p.text = (.ok reply, r)) :
      Handles c (.packet p)
        ({ c.acknowledge with responder := r }.send (.packet (.ofPayload reply)))
  | refuse {p : Packet} {e : DecodeError} {r : Responder σ} (h : p.text ≠ startNoAckMode)
      (hr : c.responder.respond p.text = (.error e, r)) :
      Handles c (.packet p) ({ c.acknowledge with responder := r }.close (.decode e))

/-- The connection with another receiver and another size of reads. -/
def reading (c : Connection σ) (r : Receiver) (n : Nat) : Connection σ :=
  { c with receiver := r, chunkSize := n }

@[simp] theorem responder_reading (c : Connection σ) (r : Receiver) (n : Nat) :
    (c.reading r n).responder = c.responder := rfl

@[simp] theorem receiver_reading (c : Connection σ) (r : Receiver) (n : Nat) :
    (c.reading r n).receiver = r := rfl

@[simp] theorem handshake_reading (c : Connection σ) (r : Receiver) (n : Nat) :
    (c.reading r n).handshake = c.handshake := rfl

@[simp] theorem failure_reading (c : Connection σ) (r : Receiver) (n : Nat) :
    (c.reading r n).failure = c.failure := rfl

@[simp] theorem chunkSize_reading (c : Connection σ) (r : Receiver) (n : Nat) :
    (c.reading r n).chunkSize = n := rfl

/-! ## Acknowledging -/

@[simp] theorem responder_acknowledge (c : Connection σ) :
    c.acknowledge.responder = c.responder := by
  unfold acknowledge
  split <;> rfl

@[simp] theorem failure_acknowledge (c : Connection σ) : c.acknowledge.failure = c.failure := by
  unfold acknowledge
  split <;> rfl

theorem sent_acknowledge (c : Connection σ) :
    c.acknowledge.sent = c.sent ++ if c.handshake.sendAcks then [.ack] else [] := by
  unfold acknowledge
  split <;> simp [send]

theorem acknowledge_reading (c : Connection σ) (r : Receiver) (n : Nat) :
    (c.reading r n).acknowledge = c.acknowledge.reading r n := by
  unfold acknowledge
  rw [handshake_reading]
  split <;> rfl

/-! ## One event -/

theorem handle_of_failure {c : Connection σ} (h : c.failure.isSome) (e : Event) :
    c.handle e = c := by
  simp [handle, h]

theorem handle_ack {c : Connection σ} (h : c.failure = none) : c.handle .ack = c.handleAck := by
  simp [handle, h]

theorem handle_packet {c : Connection σ} (h : c.failure = none) (p : Packet) :
    c.handle (.packet p) = c.handlePacket p.text := by
  simp [handle, h]

theorem handles {c : Connection σ} (h : c.failure = none) (e : Event) : Handles c e (c.handle e) := by
  cases e with
  | ack =>
    rw [handle_ack h]
    unfold handleAck
    by_cases hx : c.handshake.expectingAck = true
    · rw [if_pos hx]
      exact .due hx
    · rw [if_neg hx]
      exact .unsolicited (by simpa using hx)
  | packet p =>
    rw [handle_packet h]
    unfold handlePacket
    by_cases ht : p.text = startNoAckMode
    · simp only [if_pos ht]
      exact .negotiate ht
    · simp only [if_neg ht]
      match hr : c.responder.respond p.text with
      | (.ok reply, r) =>
        rw [responder_acknowledge, hr]
        exact .answer ht hr
      | (.error e, r) =>
        rw [responder_acknowledge, hr]
        exact .refuse ht hr

/-- What the receiver holds plays no part, except that closing empties it. -/
theorem handle_reading {c : Connection σ} (h : c.failure = none) (r : Receiver) (n : Nat)
    (e : Event) :
    (c.reading r n).handle e =
      (c.handle e).reading (if (c.handle e).failure.isSome then {} else r) n := by
  cases e with
  | ack =>
    simp only [handle, handleAck, failure_reading, handshake_reading, h]
    by_cases hx : c.handshake.expectingAck = true
    · simp [hx, h, reading]
    · simp [hx, h, reading, send]
  | packet p =>
    simp only [handle, handlePacket, failure_reading, h, acknowledge_reading, responder_reading,
      responder_acknowledge]
    by_cases ht : p.text = startNoAckMode
    · simp [ht, h, send, reading]
    · simp only [ht, ite_false]
      match c.responder.respond p.text with
      | (.ok reply, s) => simp [h, send, reading]
      | (.error e, s) => simp [close, reading]

theorem handle_extends (c : Connection σ) (e : Event) :
    c.sent <+: (c.handle e).sent ∧
      c.responder.log.entries <+: (c.handle e).responder.log.entries ∧
      c.responder.asked <+: (c.handle e).responder.asked := by
  by_cases h : c.failure = none
  · have := handles h e
    generalize c.handle e = d at this
    cases this with
    | due => exact ⟨List.prefix_refl _, List.prefix_refl _, List.prefix_refl _⟩
    | unsolicited => exact ⟨List.prefix_append _ _, List.prefix_refl _, List.prefix_refl _⟩
    | negotiate => simp [send, sent_acknowledge, List.append_assoc]
    | @answer p reply r _ hr =>
      have hlog := c.responder.log_respond p.text
      have hasked := c.responder.asked_respond p.text
      rw [hr] at hlog hasked
      refine ⟨by simp [send, sent_acknowledge, List.append_assoc], ?_, hasked⟩
      exact ⟨[p.text], hlog.symm⟩
    | @refuse p e r _ hr =>
      have hlog := c.responder.log_respond p.text
      have hasked := c.responder.asked_respond p.text
      rw [hr] at hlog hasked
      refine ⟨by simp [close, sent_acknowledge], ?_, hasked⟩
      exact ⟨[p.text], hlog.symm⟩
  · rw [handle_of_failure (Option.isSome_iff_ne_none.mpr h)]
    exact ⟨List.prefix_refl _, List.prefix_refl _, List.prefix_refl _⟩

/-! ## Any number of events -/

theorem foldl_handle_of_failure {c : Connection σ} (h : c.failure.isSome) (es : List Event) :
    es.foldl handle c = c := by
  induction es with
  | nil => rfl
  | cons e es ih => rw [List.foldl_cons, handle_of_failure h, ih]

theorem foldl_handle_reading {c : Connection σ} (h : c.failure = none) (r : Receiver) (n : Nat)
    (es : List Event) :
    es.foldl handle (c.reading r n) =
      (es.foldl handle c).reading (if (es.foldl handle c).failure.isSome then {} else r) n := by
  induction es generalizing c r with
  | nil => simp [h]
  | cons e es ih =>
    rw [List.foldl_cons, List.foldl_cons, handle_reading h]
    by_cases hf : (c.handle e).failure = none
    · rw [if_neg (by simp [hf])]
      exact ih hf r
    · have hf := Option.isSome_iff_ne_none.mpr hf
      have hr : ((c.handle e).reading {} n).failure.isSome := hf
      rw [if_pos hf, foldl_handle_of_failure hr, foldl_handle_of_failure hf, if_pos hf]

theorem foldl_handle_eq_reading {c : Connection σ} (h : c.failure = none) (es : List Event) :
    es.foldl handle c = (es.foldl handle c).reading
      (if (es.foldl handle c).failure.isSome then {} else c.receiver) c.chunkSize :=
  foldl_handle_reading h c.receiver c.chunkSize es

theorem receiver_of_closed {c : Connection σ} (h : c.failure = none) {es : List Event}
    (hx : (es.foldl handle c).failure.isSome) : (es.foldl handle c).receiver = {} := by
  rw [foldl_handle_eq_reading h es, receiver_reading, if_pos hx]

theorem chunkSize_foldl_handle {c : Connection σ} (h : c.failure = none) (es : List Event) :
    (es.foldl handle c).chunkSize = c.chunkSize := by
  rw [foldl_handle_eq_reading h es, chunkSize_reading]

theorem foldl_handle_extends (es : List Event) (c : Connection σ) :
    c.sent <+: (es.foldl handle c).sent ∧
      c.responder.log.entries <+: (es.foldl handle c).responder.log.entries ∧
      c.responder.asked <+: (es.foldl handle c).responder.asked := by
  induction es generalizing c with
  | nil => exact ⟨List.prefix_refl _, List.prefix_refl _, List.prefix_refl _⟩
  | cons e es ih =>
    obtain ⟨hs, hl, ha⟩ := handle_extends c e
    obtain ⟨hs', hl', ha'⟩ := ih (c.handle e)
    exact ⟨hs.trans hs', hl.trans hl', ha.trans ha'⟩

end RemoteStub.Connection
