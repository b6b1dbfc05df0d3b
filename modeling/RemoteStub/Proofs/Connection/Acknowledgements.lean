import RemoteStub.Proofs.Connection.Session

/-!
# Acknowledgements

What is acknowledged, and when an acknowledgement is due, is told by the events before
(`Acking`, `Due`). The flags of the handshake say just this after every event, and each
event is answered accordingly (`run_accounts`).
-/

namespace RemoteStub

namespace Event

/-- No packet has asked to end acknowledgements, so the next one is acknowledged. -/
def Acking (es : List Event) : Prop := Connection.startNoAckMode ∉ es.filterMap text?

/-- A packet that was acknowledged stands after the last acknowledgement. -/
def Due (es : List Event) : Prop :=
  ∃ before p after, es = before ++ .packet p :: after ∧ Acking before ∧ .ack ∉ after

instance (es : List Event) : Decidable (Acking es) := inferInstanceAs (Decidable (_ ∉ _))

/-- What an event is answered with, after those before it. -/
inductive Answers (before : List Event) : Event → List Event → Prop
  | due (h : Due before) : Answers before .ack []
  | unsolicited (h : ¬ Due before) : Answers before .ack [.ack]
  | reply {p : Packet} {command : Command} (h : Command.parse p.text = .ok command)
      (reply : Bytes) :
      Answers before (.packet p)
        ((if Acking before then [.ack] else []) ++ [.packet (.ofPayload reply)])
  | refusal {p : Packet} {e : DecodeError} (h : Command.parse p.text = .error e) :
      Answers before (.packet p) (if Acking before then [.ack] else [])

theorem acking_nil : Acking [] := by simp [Acking]

theorem acking_append {es fs : List Event} : Acking (es ++ fs) ↔ Acking es ∧ Acking fs := by
  simp [Acking, List.filterMap_append, not_or]

theorem acking_concat_ack {es : List Event} : Acking (es ++ [.ack]) ↔ Acking es := by
  simp [Acking, text?]

theorem acking_concat_packet {es : List Event} {p : Packet} :
    Acking (es ++ [.packet p]) ↔ Acking es ∧ p.text ≠ Connection.startNoAckMode := by
  simp [Acking, text?, eq_comm]

theorem not_due_nil : ¬ Due [] := by
  rintro ⟨before, p, after, heq, -⟩
  simp at heq

theorem not_due_concat_ack {es : List Event} : ¬ Due (es ++ [.ack]) := by
  rintro ⟨before, p, after, heq, -, hmem⟩
  rcases List.eq_nil_or_concat after with rfl | ⟨after, e, rfl⟩
  · obtain ⟨-, he⟩ := List.append_inj' heq rfl
    cases he
  · rw [List.concat_eq_append, ← List.cons_append, ← List.append_assoc] at heq
    obtain ⟨-, he⟩ := List.append_inj' heq rfl
    cases he
    exact hmem (by simp)

theorem due_concat_packet {es : List Event} {p : Packet} :
    Due (es ++ [.packet p]) ↔ Due es ∨ Acking es := by
  constructor
  · rintro ⟨before, q, after, heq, hacking, hmem⟩
    rcases List.eq_nil_or_concat after with rfl | ⟨after, e, rfl⟩
    · obtain ⟨rfl, -⟩ := List.append_inj' heq rfl
      exact .inr hacking
    · rw [List.concat_eq_append, ← List.cons_append, ← List.append_assoc] at heq
      obtain ⟨rfl, -⟩ := List.append_inj' heq rfl
      refine .inl ⟨before, q, after, rfl, hacking, fun hafter => hmem ?_⟩
      simp [hafter]
  · rintro (⟨before, q, after, rfl, hacking, hmem⟩ | hacking)
    · refine ⟨before, q, after ++ [.packet p], by simp, hacking, ?_⟩
      simpa using hmem
    · exact ⟨es, p, [], rfl, hacking, List.not_mem_nil⟩

end Event

namespace Connection

open Event (Acking Due Answers)

variable {σ : Type} {c : Connection σ} {es : List Event}

/-- The handshake tells what has been handled. -/
structure Accounts (es : List Event) (c : Connection σ) : Prop where
  sendAcks : c.handshake.sendAcks = true ↔ Acking es
  expectingAck : c.handshake.expectingAck = true ↔ Due es

theorem accounts_create (r : Responder σ) (config : Config) : Accounts [] (create r config) where
  sendAcks := iff_of_true rfl Event.acking_nil
  expectingAck := iff_of_false (by simp [create]) Event.not_due_nil

@[simp] theorem handshake_acknowledge (c : Connection σ) :
    c.acknowledge.handshake =
      { c.handshake with expectingAck := c.handshake.expectingAck || c.handshake.sendAcks } := by
  unfold acknowledge
  by_cases hs : c.handshake.sendAcks = true
  · simp [hs, send]
  · have hs : c.handshake.sendAcks = false := by simpa using hs
    simp [hs]
    rw [← hs]

theorem Accounts.sent_acknowledge (h : Accounts es c) :
    c.acknowledge.sent = c.sent ++ if Acking es then [.ack] else [] := by
  rw [Connection.sent_acknowledge]
  simp only [h.sendAcks]

theorem Accounts.packet (h : Accounts es c) {p : Packet} {d : Connection σ}
    (hs : d.handshake.sendAcks = (c.handshake.sendAcks && p.text != startNoAckMode))
    (he : d.handshake.expectingAck = c.acknowledge.handshake.expectingAck) :
    Accounts (es ++ [.packet p]) d where
  sendAcks := by simp [hs, h.sendAcks, Event.acking_concat_packet]
  expectingAck := by simp [he, h.sendAcks, h.expectingAck, Event.due_concat_packet]

/-- **One event keeps the account.** -/
theorem Accounts.handle (h : Accounts es c) (hopen : c.failure = none) (e : Event) :
    Accounts (es ++ [e]) (c.handle e) ∧
      ∃ new, Answers es e new ∧ (c.handle e).sent = c.sent ++ new := by
  have hh := handles hopen e
  generalize c.handle e = d at hh
  cases hh with
  | due hx =>
    refine ⟨⟨?_, ?_⟩, [], .due (h.expectingAck.mp hx), (List.append_nil _).symm⟩
    · simpa [Event.acking_concat_ack] using h.sendAcks
    · simp [Event.not_due_concat_ack]
  | unsolicited hx =>
    have hdue : ¬ Due es := fun hdue => by simp [h.expectingAck.mpr hdue] at hx
    refine ⟨⟨?_, ?_⟩, [.ack], .unsolicited hdue, rfl⟩
    · simpa [send, Event.acking_concat_ack] using h.sendAcks
    · simp [send, hx, Event.not_due_concat_ack]
  | @negotiate p hx =>
    have hp : Command.parse p.text = .ok (.other startNoAckMode) := hx ▸ parse_startNoAckMode
    refine ⟨h.packet (by simp [send, hx]) rfl, _, .reply hp accepted, ?_⟩
    simp [send, h.sent_acknowledge]
  | @answer p reply r hx hr =>
    obtain ⟨command, state, hp, -⟩ := Responder.respond_eq_ok hr
    refine ⟨h.packet (by simp [send, hx]) rfl, _, .reply hp reply, ?_⟩
    simp [send, h.sent_acknowledge]
  | @refuse p e r hx hr =>
    obtain ⟨hp, -⟩ := Responder.respond_eq_error hr
    refine ⟨h.packet (by simp [close, hx]) rfl, _, .refusal hp, ?_⟩
    simp [close, h.sent_acknowledge]

theorem failure_handle_of_read {e : Event} (hopen : c.failure = none)
    (hread : ∀ p, e = .packet p → ∃ command, Command.parse p.text = .ok command) :
    (c.handle e).failure = none := by
  rw [failure_handle hopen]
  cases e with
  | ack => rfl
  | packet p =>
    obtain ⟨command, hp⟩ := hread p rfl
    simp [Event.text?, Command.refusal?, hp]

theorem Accounts.foldl_handle {fs : List Event} (h : Accounts es c) (hopen : c.failure = none)
    (hread : ∀ p, .packet p ∈ fs → ∃ command, Command.parse p.text = .ok command) :
    Accounts (es ++ fs) (fs.foldl Connection.handle c) ∧
      (fs.foldl Connection.handle c).failure = none := by
  induction fs generalizing es c with
  | nil => exact ⟨(List.append_nil es).symm ▸ h, hopen⟩
  | cons e fs ih =>
    obtain ⟨h', -⟩ := h.handle hopen e
    have hopen' : (c.handle e).failure = none := by
      apply failure_handle_of_read hopen
      intro p hp
      exact hread p (hp ▸ List.mem_cons_self)
    have := ih h' hopen' fun p hp => hread p (List.mem_cons_of_mem e hp)
    rwa [List.append_assoc] at this

/-- **The handshake is a function of the events handled.** A session shows what its events lead to
one by one. Each that is handled, being no later than the first packet that is no command, is
answered as those before it call for, and the flags tell whether packets are still acknowledged
and whether an acknowledgement is due. The client takes all that is sent. -/
theorem run_accounts (r : Responder σ) {config : Config} (h : 1 ≤ config.recvChunkSize)
    (pieces : List Bytes) :
    let events := (({} : Receiver).feed pieces.flatten).drain.events
    let after := fun es : List Event => es.foldl handle (create r config)
    let c := pieces.foldl run (create r config)
    c.sent = (after events).sent ∧ c.handshake = (after events).handshake ∧
    ∀ before e, before ++ [e] <+: events →
      (∀ p, .packet p ∈ before → ∃ command, Command.parse p.text = .ok command) →
      (after before).failure = none ∧
      (∃ new, Answers before e new ∧ (after (before ++ [e])).sent = (after before).sent ++ new) ∧
      ((after (before ++ [e])).handshake.sendAcks = true ↔ Acking (before ++ [e])) ∧
      ((after (before ++ [e])).handshake.expectingAck = true ↔ Due (before ++ [e])) ∧
      ((after before).handshake.sendAcks = false →
        (after (before ++ [e])).handshake.sendAcks = false) := by
  intro events after c
  obtain ⟨hsent, -, hhandshake, -⟩ := foldl_run_shows r h pieces
  refine ⟨hsent, hhandshake, ?_⟩
  intro before e _ hread
  obtain ⟨hbefore, hopen⟩ := (accounts_create r config).foldl_handle rfl hread
  rw [List.nil_append] at hbefore
  obtain ⟨hafter, hnew⟩ := hbefore.handle hopen e
  have hconcat : after (before ++ [e]) = (after before).handle e := List.foldl_concat ..
  rw [hconcat]
  refine ⟨hopen, hnew, hafter.sendAcks, hafter.expectingAck, ?_⟩
  intro hoff
  rw [← Bool.not_eq_true, hbefore.sendAcks] at hoff
  rw [← Bool.not_eq_true, hafter.sendAcks]
  intro hacking
  exact hoff (Event.acking_append.mp hacking).1

/-- Two commands at once and then two acknowledgements: the first of these is taken for both replies,
and the second is answered. -/
theorem run_accounts_pipelined :
    let halt : Event := .packet (.ofPayload (Text.toBytes "?".toList))
    let pieces : List Bytes := [Event.encodeAll [halt, halt], Event.encodeAll [.ack, .ack]]
    let after := fun es : List Event => es.foldl handle (create .default {})
    (1 : UInt64) ≤ ({} : Config).recvChunkSize ∧
      (({} : Receiver).feed pieces.flatten).drain.events = [halt, halt, .ack, .ack] ∧
      (after [halt, halt, .ack]).sent = (after [halt, halt]).sent ∧
      (after [halt, halt, .ack, .ack]).sent = (after [halt, halt, .ack]).sent ++ [.ack] := by
  intro halt pieces after
  have hevents : (({} : Receiver).feed pieces.flatten).drain.events = [halt, halt, .ack, .ack] := by
    decide +kernel
  have hread : ∀ p, Event.packet p ∈ [halt, halt, .ack] →
      ∃ command, Command.parse p.text = .ok command := by
    intro p hp
    obtain rfl : p = .ofPayload (Text.toBytes "?".toList) := by simpa [halt] using hp
    exact ⟨.haltReason, by decide⟩
  obtain ⟨-, -, hevent⟩ := @run_accounts Unit .default {} (by decide) pieces
  rw [hevents] at hevent
  refine ⟨by decide, hevents, ?_, ?_⟩
  · obtain ⟨-, ⟨new, hnew, hsent⟩, -⟩ := hevent [halt, halt] .ack ⟨[.ack], rfl⟩
      fun p hp => hread p ((List.prefix_append [halt, halt] [.ack]).subset hp)
    cases hnew with
    | due => exact hsent.trans (List.append_nil _)
    | unsolicited hdue => exact absurd ⟨[halt], _, [], rfl, by decide, List.not_mem_nil⟩ hdue
  · obtain ⟨-, ⟨new, hnew, hsent⟩, -⟩ := hevent [halt, halt, .ack] .ack ⟨[], rfl⟩ hread
    cases hnew with
    | due hdue => exact absurd hdue (@Event.not_due_concat_ack [halt, halt])
    | unsolicited => exact hsent

end Connection

end RemoteStub
