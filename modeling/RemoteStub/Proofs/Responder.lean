import RemoteStub.Responder
import RemoteStub.Proofs.Target

/-!
# Commands put to a responder

What a responder does with a command: it is logged, it is refused or answered as the
reader of commands says (`respond_eq_error`, `respond_eq_ok`), and the target stays
what it was. Of many commands, those up to the first that is refused come to the
responder (`untilRefused`).
-/

namespace RemoteStub

/-- The commands up to the first that is not read, and that one. -/
def untilRefused : List Text → List Text
  | [] => []
  | t :: ts =>
    match Command.parse t with
    | .ok _ => t :: untilRefused ts
    | .error _ => [t]

theorem untilRefused_cons_of_ok {t : Text} {command : Command}
    (h : Command.parse t = .ok command) (ts : List Text) :
    untilRefused (t :: ts) = t :: untilRefused ts := by
  rw [untilRefused, h]

theorem untilRefused_cons_of_error {t : Text} {e : DecodeError}
    (h : Command.parse t = .error e) (ts : List Text) : untilRefused (t :: ts) = [t] := by
  rw [untilRefused, h]

theorem untilRefused_append {before : List Text}
    (h : ∀ t ∈ before, ∃ command, Command.parse t = .ok command) (after : List Text) :
    untilRefused (before ++ after) = before ++ untilRefused after := by
  induction before with
  | nil => rfl
  | cons t before ih =>
    obtain ⟨command, hp⟩ := h t List.mem_cons_self
    rw [List.cons_append, untilRefused_cons_of_ok hp, ih fun u hu => h u (List.mem_cons_of_mem t hu)]
    rfl

theorem untilRefused_of_read {ts : List Text}
    (h : ∀ t ∈ ts, ∃ command, Command.parse t = .ok command) : untilRefused ts = ts := by
  have := untilRefused_append h []
  rwa [List.append_nil, untilRefused, List.append_nil] at this

theorem untilRefused_of_refused {before after : List Text} {t : Text} {e : DecodeError}
    (h : ∀ u ∈ before, ∃ command, Command.parse u = .ok command)
    (ht : Command.parse t = .error e) :
    untilRefused (before ++ t :: after) = before ++ [t] := by
  rw [untilRefused_append h, untilRefused_cons_of_error ht]

theorem untilRefused_prefix (ts : List Text) : untilRefused ts <+: ts := by
  induction ts with
  | nil => exact List.prefix_refl []
  | cons t ts ih =>
    cases hp : Command.parse t with
    | ok command =>
      rw [untilRefused_cons_of_ok hp, List.cons_prefix_cons]
      exact ⟨rfl, ih⟩
    | error e =>
      rw [untilRefused_cons_of_error hp]
      exact List.prefix_append [t] ts

namespace Responder

variable {σ : Type} {r r' : Responder σ} {packet : Text}

theorem respond_error {e : DecodeError} (h : Command.parse packet = .error e) (r : Responder σ) :
    r.respond packet = (.error e, { r with log := r.log.push packet }) := by
  unfold respond
  rw [h]

theorem respond_ok {command : Command} (h : Command.parse packet = .ok command)
    (r : Responder σ) : r.respond packet =
      (.ok ((r.target.answer command.query).run r.state).1,
        { r with
          log := r.log.push packet
          state := ((r.target.answer command.query).run r.state).2
          asked := r.asked ++ [command.query] }) := by
  unfold respond
  rw [h]
  rfl

theorem respond_of_error {e : DecodeError} (h : Command.parse packet = .error e) :
    ∃ r', r.respond packet = (.error e, r') :=
  ⟨_, respond_error h r⟩

theorem respond_of_ok {command : Command} (h : Command.parse packet = .ok command) :
    ∃ reply r', r.respond packet = (.ok reply, r') :=
  ⟨_, _, respond_ok h r⟩

theorem respond_eq_error {e : DecodeError} (h : r.respond packet = (.error e, r')) :
    Command.parse packet = .error e ∧ r' = { r with log := r.log.push packet } := by
  cases hp : Command.parse packet with
  | error e' =>
    rw [respond_error hp] at h
    cases h
    exact ⟨rfl, rfl⟩
  | ok command =>
    rw [respond_ok hp] at h
    cases h

theorem respond_eq_ok {reply : Bytes} (h : r.respond packet = (.ok reply, r')) :
    ∃ command state, Command.parse packet = .ok command ∧
      (r.target.answer command.query).run r.state = (reply, state) ∧
      r' = { r with log := r.log.push packet, state, asked := r.asked ++ [command.query] } := by
  cases hp : Command.parse packet with
  | error e =>
    rw [respond_error hp] at h
    cases h
  | ok command =>
    rw [respond_ok hp] at h
    cases h
    exact ⟨command, _, rfl, rfl, rfl⟩

theorem log_respond (r : Responder σ) (packet : Text) :
    (r.respond packet).2.log.entries = r.log.entries ++ [packet] := by
  unfold respond
  cases Command.parse packet <;> rfl

theorem asked_respond (r : Responder σ) (packet : Text) : r.asked <+: (r.respond packet).2.asked := by
  unfold respond
  cases Command.parse packet with
  | error e => exact List.prefix_refl _
  | ok command => exact List.prefix_append _ _

theorem target_respond (r : Responder σ) (packet : Text) :
    (r.respond packet).2.target = r.target := by
  unfold respond
  cases Command.parse packet <;> rfl

theorem packetEnd_not_mem_reply {reply : Bytes} (ht : r.target.HashFree)
    (h : r.respond packet = (.ok reply, r')) : Wire.packetEnd ∉ reply := by
  obtain ⟨command, state, -, hanswer, -⟩ := respond_eq_ok h
  have hmem := ht.packetEnd_not_mem_answer command.query r.state
  rwa [hanswer] at hmem

/-! ## Many commands -/

/-- Commands one after the other, with what each comes to. None of them ends it. -/
def respondAll (r : Responder σ) : List Text → List (Except DecodeError Bytes) × Responder σ
  | [] => ([], r)
  | packet :: more =>
    let (result, s) := r.respond packet
    let (results, last) := s.respondAll more
    (result :: results, last)

theorem respondAll_cons (r : Responder σ) (packet : Text) (more : List Text) :
    r.respondAll (packet :: more) =
      ((r.respond packet).1 :: ((r.respond packet).2.respondAll more).1,
        ((r.respond packet).2.respondAll more).2) := rfl

end Responder

end RemoteStub
