import Mathlib.Data.List.Induction
import RemoteStub.Proofs.Exchange
import RemoteStub.Proofs.Responder

/-!
# Calls put to a responder

What a call does when it is put straight to a responder, by cases, and what the log
holds after any number of calls (`log_direct`).
-/

namespace RemoteStub

variable {σ : Type}

theorem Call.eq_sendAck {c : Call} (h : c.command? = none) : c = .sendAck := by
  cases c with
  | sendAck => rfl
  | request t => cases h
  | startNoAckMode => cases h

namespace Direct

variable {d : Direct σ} {c : Call}

theorem perform_sendAck (hc : c.command? = none) : d.perform c = d.finish c (.ok .done) := by
  simp [perform, hc]

theorem perform_refused {t : Text} (hc : c.command? = some t) (hd : d.refused = true) :
    d.perform c = d.finish c (.error (.io .closed)) := by
  simp [perform, hc, hd]

theorem perform_negotiate {t : Text} (hc : c.command? = some t) (hd : d.refused = false)
    (ht : t = Client.startNoAckMode) :
    d.perform c = d.finish c (.ok (.reply "OK".toList)) := by
  simp [perform, hc, hd, ht]

theorem perform_answer {t : Text} {reply : Bytes} {r : Responder σ} (hc : c.command? = some t)
    (hd : d.refused = false) (ht : t ≠ Client.startNoAckMode)
    (hr : d.responder.respond t = (.ok reply, r)) :
    d.perform c = { d with responder := r }.finish c (.ok (.reply (Text.ofBytes reply))) := by
  simp [perform, hc, hd, ht, hr]

theorem perform_refuse {t : Text} {e : DecodeError} {r : Responder σ} (hc : c.command? = some t)
    (hd : d.refused = false) (ht : t ≠ Client.startNoAckMode)
    (hr : d.responder.respond t = (.error e, r)) :
    d.perform c =
      { d with responder := r, refused := true }.finish c (.error (.io .closed)) := by
  simp [perform, hc, hd, ht, hr]

/-- A call after which commands are refused has found the stream ended. -/
theorem returned_of_refused (hc : c.command?.isSome) (h : (d.perform c).refused = true) :
    (d.perform c).returned = d.returned ++ [(c, .error (.io .closed))] := by
  obtain ⟨t, hc⟩ := Option.isSome_iff_exists.mp hc
  cases hd : d.refused with
  | true => rw [perform_refused hc hd]; rfl
  | false =>
    by_cases ht : t = Client.startNoAckMode
    · rw [perform_negotiate hc hd ht] at h
      simp [finish, hd] at h
    · match hr : d.responder.respond t with
      | (.ok reply, r) =>
        rw [perform_answer hc hd ht hr] at h
        simp [finish, hd] at h
      | (.error e, r) => rw [perform_refuse hc hd ht hr]; rfl

theorem perform_after_refusal (hd : d.refused = true) (c : Call) :
    (d.perform c).refused = true ∧ (d.perform c).responder = d.responder := by
  cases hc : c.command? with
  | none => rw [perform_sendAck hc]; exact ⟨hd, rfl⟩
  | some t => rw [perform_refused hc hd]; exact ⟨hd, rfl⟩

/-- Where the calls lead when the one that waits is put to the responder too. -/
def after (d : Direct σ) (waiting : Option Call) : Direct σ := waiting.toList.foldl perform d

@[simp] theorem after_some (d : Direct σ) (c : Call) : d.after (some c) = d.perform c := rfl

end Direct

theorem direct_append (r : Responder σ) (done : List Call) (c : Call) :
    direct r (done ++ [c]) = (direct r done).perform c := by
  rw [direct, List.foldl_append]
  rfl

/-! ## Calls that are granted -/

namespace Call

/-- The command that a call sends, if it sends one, can be read. -/
def Read (c : Call) : Prop :=
  ∀ t, c.command? = some t → ∃ command, Command.parse t = .ok command

/-- The call did not fail, and if it asked to end acknowledgements, they have ended. -/
def Granted (c : Call) (outcome : Outcome) : Prop :=
  ∃ result, outcome = .ok result ∧ (c = .startNoAckMode → result = .reply "OK".toList)

end Call

theorem fst_returned_direct (r : Responder σ) (calls : List Call) :
    (direct r calls).returned.map Prod.fst = calls := by
  induction calls using List.reverseRecOn with
  | nil => rfl
  | append_singleton calls c ih =>
    rw [direct_append]
    unfold Direct.perform
    repeat' split
    all_goals simp [Direct.finish, ih]

/-- Nothing was refused, and every call was granted. -/
structure Direct.Granted (d : Direct σ) : Prop where
  refused : d.refused = false
  returned : ∀ p ∈ d.returned, p.1.Granted p.2

theorem Direct.Granted.finish {d : Direct σ} {c : Call} {outcome : Outcome} (h : d.Granted)
    (r : Responder σ) (hc : c.Granted outcome) :
    ({ d with responder := r }.finish c outcome).Granted where
  refused := h.refused
  returned := List.forall_mem_append.mpr ⟨h.returned, List.forall_mem_singleton.mpr hc⟩

theorem Direct.Granted.perform {d : Direct σ} {c : Call} (h : d.Granted) (hread : c.Read) :
    (d.perform c).Granted := by
  cases hc : c.command? with
  | none =>
    rw [perform_sendAck hc]
    apply h.finish d.responder
    refine ⟨.done, rfl, ?_⟩
    rintro rfl
    cases hc
  | some t =>
    by_cases ht : t = Client.startNoAckMode
    · rw [perform_negotiate hc h.refused ht]
      exact h.finish d.responder ⟨_, rfl, fun _ => rfl⟩
    · obtain ⟨command, hp⟩ := hread t hc
      obtain ⟨reply, r, hr⟩ := Responder.respond_of_ok (r := d.responder) hp
      rw [perform_answer hc h.refused ht hr]
      apply h.finish r
      refine ⟨_, rfl, ?_⟩
      rintro rfl
      exact absurd (Option.some.inj hc).symm ht

theorem granted_direct (r : Responder σ) {calls : List Call} (hread : ∀ c ∈ calls, c.Read) :
    (direct r calls).Granted := by
  induction calls using List.reverseRecOn with
  | nil => exact ⟨rfl, nofun⟩
  | append_singleton calls c ih =>
    rw [direct_append]
    refine (ih fun d hd => hread d (List.mem_append_left _ hd)).perform ?_
    exact hread c (List.mem_append_right _ List.mem_cons_self)

/-! ## The log -/

theorem commands_of_none {c : Call} (h : c.command? = none) (calls : List Call) :
    commands (c :: calls) = commands calls := by
  simp [commands, h]

theorem commands_of_negotiate {c : Call} (h : c.command? = some Client.startNoAckMode)
    (calls : List Call) : commands (c :: calls) = commands calls := by
  simp [commands, h]

theorem commands_of_some {c : Call} {t : Text} (h : c.command? = some t)
    (ht : t ≠ Client.startNoAckMode) (calls : List Call) :
    commands (c :: calls) = t :: commands calls := by
  simp [commands, h, ht]

theorem Direct.log_foldl_perform (calls : List Call) (d : Direct σ) :
    (calls.foldl perform d).responder.log.entries =
      d.responder.log.entries ++ if d.refused then [] else untilRefused (commands calls) := by
  induction calls generalizing d with
  | nil => cases hd : d.refused <;> simp [commands, untilRefused]
  | cons c calls ih =>
    rw [List.foldl_cons, ih]
    -- after a refusal nothing reaches the responder, and nothing is logged
    cases hd : d.refused with
    | true =>
      obtain ⟨hd', hr⟩ := perform_after_refusal hd c
      simp [hd', hr]
    | false =>
      cases hc : c.command? with
      | none =>
        rw [perform_sendAck hc, commands_of_none hc]
        simp [finish, hd]
      | some t =>
        by_cases ht : t = Client.startNoAckMode
        · rw [perform_negotiate hc hd ht, commands_of_negotiate (ht ▸ hc)]
          simp [finish, hd]
        · rw [commands_of_some hc ht, untilRefused]
          have hlog := d.responder.log_respond t
          cases hp : Command.parse t with
          | error e =>
            obtain ⟨r, hr⟩ := Responder.respond_of_error (r := d.responder) hp
            rw [hr] at hlog
            rw [perform_refuse hc hd ht hr]
            simpa [finish] using hlog
          | ok command =>
            obtain ⟨reply, r, hr⟩ := Responder.respond_of_ok (r := d.responder) hp
            rw [hr] at hlog
            rw [perform_answer hc hd ht hr]
            simp only [finish, hd, Bool.false_eq_true, if_false]
            rw [hlog, List.append_assoc, List.singleton_append]

theorem log_direct (r : Responder σ) (calls : List Call) :
    (direct r calls).responder.log.entries = r.log.entries ++ untilRefused (commands calls) :=
  Direct.log_foldl_perform calls { responder := r }

end RemoteStub
