import RemoteStub.Proofs.Exchange
import RemoteStub.Proofs.Client.Reading
import RemoteStub.Proofs.Connection.Pieces
import RemoteStub.Proofs.Receiver.Framing
import RemoteStub.Proofs.Text.Utf8

/-!
# The two sides of an exchange

What a call does with what has arrived at the client, and what a part of what the
client sent does to the connection. Both are told in events.
-/

namespace RemoteStub

open Receiver
open Event (Acks)

/-! ## The client -/

def Call.sends (c : Call) : Event :=
  match c.command? with
  | none => .ack
  | some t => .packet (.ofPayload t.toBytes)

theorem Call.written_eq (c : Call) : c.step.written = c.sends.encode := by
  cases c <;> rfl

namespace Client

theorem take_of_packet {c : Client} (h : c.receiver.Sound) {call : Call}
    (hcall : call.command?.isSome) {es : List Event} (hes : Acks es) {p : Packet} {rest : Bytes}
    (hd : Decodes c.held (es ++ [.packet p]) rest) :
    ∃ d, c.take call.step = (.ok (.reply p.text), d) ∧ d.receiver.Sound ∧ d.held = rest ∧
      d.ended = c.ended ∧ d.outbox = c.outbox ++ if c.ackMode then [Wire.ack] else [] := by
  obtain ⟨d, hread, hsound, hheld, -, hended, houtbox⟩ := readReply_of_packet h hes hd
  cases call with
  | sendAck => cases hcall
  | request t =>
    exact ⟨d, by simp [Call.step, take, hread, Except.map], hsound, hheld, hended, houtbox⟩
  | startNoAckMode =>
    refine ⟨d.agree p.text, by simp [Call.step, take, hread], ?_⟩
    unfold agree
    split
    · exact ⟨hsound, hheld, hended, houtbox⟩
    · exact ⟨hsound, hheld, hended, houtbox⟩

theorem take_of_incomplete {c : Client} (h : c.receiver.Sound) {call : Call}
    (hcall : call.command?.isSome) {es : List Event} (hes : Acks es) {rest : Bytes}
    (hd : Decodes c.held es rest) (hi : front rest = .incomplete) :
    ∃ d, c.take call.step = (.error (stalled c.ended), d) ∧ c.Leaves d rest := by
  obtain ⟨d, hread, hl⟩ := readPacket_of_incomplete h hes hd hi
  have hread := readReply_of_error hread
  cases call with
  | sendAck => cases hcall
  | request t => exact ⟨d, by simp [Call.step, take, hread, Except.map], hl⟩
  | startNoAckMode => exact ⟨d, by simp [Call.step, take, hread], hl⟩

/-- What a call can take. Its reply is acknowledged while replies are, the one to the request to end
acknowledgements too. -/
inductive Takes (c : Client) (call : Call) : Except Failure Result → Client → Prop
  | sent (h : call.command? = none) : Takes c call (.ok .done) c
  | reply {d : Client} (h : call.command?.isSome) (t : Text)
      (hack : d.ackMode = if call = .startNoAckMode ∧ t = "OK".toList then false else c.ackMode)
      (hended : d.ended = c.ended)
      (houtbox : d.outbox = c.outbox ++ if c.ackMode then [Wire.ack] else []) :
      Takes c call (.ok (.reply t)) d
  | failed {d : Client} (h : call.command?.isSome) (f : Failure) (hd : c.Keeps d) :
      Takes c call (.error f) d

theorem readReply_cases (c : Client) :
    (∃ t d, c.readReply = (.ok t, d) ∧ d.ackMode = c.ackMode ∧ d.ended = c.ended ∧
      d.outbox = c.outbox ++ if c.ackMode then [Wire.ack] else []) ∨
    ∃ f d, c.readReply = (.error f, d) ∧ c.Keeps d := by
  have h := keeps_readPacket c
  unfold readReply
  match hr : c.readPacket with
  | (.ok p, d) =>
    rw [hr] at h
    refine .inl ⟨p.text, _, rfl, ?_⟩
    rw [h.ackMode]
    by_cases hm : c.ackMode = true
    · rw [if_pos hm, if_pos hm]
      exact ⟨h.ackMode, h.ended, congrArg (· ++ [Wire.ack]) h.outbox⟩
    · rw [if_neg hm, if_neg hm]
      exact ⟨h.ackMode, h.ended, h.outbox.trans (List.append_nil _).symm⟩
  | (.error f, d) =>
    rw [hr] at h
    exact .inr ⟨f, d, rfl, h⟩

theorem takes (c : Client) (call : Call) :
    Takes c call (c.take call.step).1 (c.take call.step).2 := by
  cases call with
  | sendAck => exact .sent rfl
  | request command =>
    rcases readReply_cases c with ⟨t, d, hr, hack, hended, houtbox⟩ | ⟨f, d, hr, hd⟩
    · simp only [Call.step, take, hr]
      exact .reply rfl t (by simpa using hack) hended houtbox
    · simp only [Call.step, take, hr]
      exact .failed rfl f hd
  | startNoAckMode =>
    rcases readReply_cases c with ⟨t, d, hr, hack, hended, houtbox⟩ | ⟨f, d, hr, hd⟩
    · simp only [Call.step, take, hr]
      unfold agree
      by_cases ht : t = "OK".toList
      · rw [if_pos ht]
        exact .reply rfl t (by rw [if_pos ⟨rfl, ht⟩]) hended houtbox
      · rw [if_neg ht]
        exact .reply rfl t (by rwa [if_neg fun h => ht h.2]) hended houtbox
    · simp only [Call.step, take, hr]
      exact .failed rfl f hd

theorem ended_take (c : Client) (call : Call) : (c.take call.step).2.ended = c.ended := by
  have h := takes c call
  generalize (c.take call.step).1 = result, (c.take call.step).2 = d at h
  cases h with
  | sent => rfl
  | reply _ _ _ hended => exact hended
  | failed _ _ hd => exact hd.ended

end Client

/-! ## The server -/

namespace Connection

variable {σ : Type}

theorem handle_ack_adds {s : Connection σ} (h : s.failure = none) :
    ∃ acks, Acks acks ∧ (s.handle .ack).sent = s.sent ++ acks ∧
      (s.handle .ack).failure = none ∧ (s.handle .ack).responder = s.responder := by
  have hh := handles h .ack
  generalize s.handle .ack = t at hh
  cases hh with
  | due => exact ⟨[], Event.acks_nil, (List.append_nil _).symm, h, rfl⟩
  | unsolicited => exact ⟨[.ack], Event.acks_singleton, rfl, h, rfl⟩

theorem acknowledge_adds (s : Connection σ) :
    ∃ acks, Acks acks ∧ s.acknowledge.sent = s.sent ++ acks := by
  refine ⟨_, ?_, s.sent_acknowledge⟩
  split
  · exact Event.acks_singleton
  · exact Event.acks_nil

/-- **A part of what was sent is handled as far as it goes.** The events that it completes are
handled, and the others are still to come. -/
theorem run_part {s : Connection σ} (hopen : s.failure = none) (hc : 0 < s.chunkSize)
    {held piece more : Bytes} (hr : s.receiver = parked held) (hi : front held = .incomplete)
    {sent : List Event} (hp : ∀ e ∈ sent, e.Plain)
    (heq : held ++ (piece ++ more) = Event.encodeAll sent) :
    ∃ es later rest, sent = es ++ later ∧
      (s.run piece).sent = (es.foldl handle s).sent ∧
      (s.run piece).responder = (es.foldl handle s).responder ∧
      (s.run piece).failure = (es.foldl handle s).failure ∧
      ((s.run piece).failure = none → (s.run piece).receiver = parked rest ∧
        front rest = .incomplete ∧ rest ++ more = Event.encodeAll later) := by
  have hsound : (s.receiver.feed piece).Sound := (hr ▸ sound_parked hi : s.receiver.Sound).feed piece
  have hpending : (s.receiver.feed piece).pending = held ++ piece := by rw [hr]; rfl
  rw [← List.append_assoc] at heq
  rw [(settled_of_parked hopen hr hi).run_eq hc, receive_eq hopen]
  obtain ⟨es, rest, hd, hend⟩ := hsound.drain_cases
  rw [hpending] at hd
  obtain ⟨later, hsent, hrest⟩ := hd.of_encodeAll hp heq
  have hlater : ∀ e ∈ later, e.Plain := by
    intro e he
    exact hp e (hsent ▸ List.mem_append_right _ he)
  rcases hend with ⟨hincomplete, hdrain⟩ | ⟨v, -, hbroken, -⟩
  · obtain ⟨h1, h2, -, h4⟩ := settle_shows s (s.receiver.feed piece).drain
    rw [hdrain] at h1 h2 h4 ⊢
    rw [Option.map_none, Option.or_none] at h4
    refine ⟨es, later, rest, hsent, h1, h2, h4, fun hn => ?_⟩
    rw [settle_open (h4.symm.trans hn) rfl]
    exact ⟨rfl, hincomplete, hrest⟩
  · exact absurd hbroken (front_ne_broken_of_encodeAll hlater hrest v)

theorem run_of_failure {s : Connection σ} (h : s.failure.isSome) (hc : 0 < s.chunkSize)
    (arrived : Bytes) : s.run arrived = s := by
  rw [(settled_of_failure h).run_eq hc, receive_of_failure h]

theorem chunkSize_run (s : Connection σ) (arrived : Bytes) :
    (s.run arrived).chunkSize = s.chunkSize := by
  unfold run
  generalize reads s.chunkSize arrived = pieces
  induction pieces generalizing s with
  | nil => rfl
  | cons piece pieces ih => rw [List.foldl_cons, ih, chunkSize_receive]

end Connection

end RemoteStub
