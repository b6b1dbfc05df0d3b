import Mathlib.Data.Prod.Lex
import Mathlib.Order.WellFounded
import RemoteStub.Proofs.Exchange.Invariant

/-!
# Every call gets its own reply

Whatever the order of the moves, an exchange comes to rest (`wellFounded_step`), and it
rests only when every call has returned (`Invariant.finished`). The calls then have
returned what they return when they are put straight to a responder, and the log holds
the same commands (`run_returned`).
-/

namespace RemoteStub.Exchange

variable {σ : Type}

/-! ## Coming to rest -/

/-- What is left to do: calls, then bytes for the server, then bytes for the client, then the end
of the stream. -/
def size (x : Exchange σ) : ℕ ×ₗ ℕ ×ₗ ℕ ×ₗ ℕ :=
  toLex (2 * x.calls.length + x.waiting.toList.length,
    toLex (x.toServer.length, toLex (x.toClient.length, if x.client.ended then 0 else 1)))

theorem attempt_cases (x : Exchange σ) (c : Call) :
    (x.attempt c).waiting = none ∨
      (x.attempt c).waiting = some c ∧ (x.attempt c).toServer = x.toServer ∧
        (x.attempt c).toClient = x.toClient ∧
        (x.attempt c).client.ended = x.client.ended := by
  have he := Client.ended_take x.client c
  unfold attempt
  match ht : x.client.take c.step with
  | (.ok result, client) => exact .inl rfl
  | (.error (.error e), client) => exact .inl rfl
  | (.error .waiting, client) =>
    rw [ht] at he
    exact .inr ⟨rfl, rfl, rfl, he⟩

theorem size_lt_of_calls {x y : Exchange σ} (h : 2 * y.calls.length + y.waiting.toList.length <
    2 * x.calls.length + x.waiting.toList.length) : y.size < x.size :=
  Prod.Lex.toLex_lt_toLex.mpr (.inl h)

/-- A call that goes on is done with, or leaves everything else as it is. -/
theorem size_resume (x : Exchange σ) : x.resume.size ≤ x.size := by
  unfold resume
  cases hw : x.waiting with
  | none => exact le_refl _
  | some c =>
    rcases attempt_cases x c with h | ⟨h, hs, hc, he⟩
    · refine le_of_lt (size_lt_of_calls ?_)
      simp [h, hw, calls_attempt]
    · simp only [size, h, hw, hs, hc, he, calls_attempt]
      exact le_refl _

theorem size_step {x y : Exchange σ} {m : Move} (h : x.step? m = some y) : y.size < x.size := by
  cases m with
  | call =>
    simp only [step?] at h
    split at h
    · next c later hw hc =>
      have hcalls : (({ x with calls := later }.send c).attempt c).calls = later := calls_attempt _ c
      have hcases := attempt_cases ({ x with calls := later }.send c) c
      rw [Option.some.inj h] at hcalls hcases
      -- a call that waits counts half of one that has not begun
      refine size_lt_of_calls ?_
      rw [hcalls, hw, hc]
      rcases hcases with hy | ⟨hy, -⟩
      · rw [hy]
        simp
      · rw [hy]
        simp only [Option.toList_some, Option.toList_none, List.length_cons, List.length_nil]
        omega
    · cases h
  | serve n =>
    obtain ⟨hn, rfl⟩ := Option.ite_some_none_eq_some.mp h
    refine Prod.Lex.toLex_lt_toLex.mpr (.inr ⟨rfl, Prod.Lex.toLex_lt_toLex.mpr (.inl ?_)⟩)
    simp only [serve, List.length_drop]
    omega
  | deliver n =>
    obtain ⟨hn, rfl⟩ := Option.ite_some_none_eq_some.mp h
    refine lt_of_le_of_lt (size_resume _) ?_
    refine Prod.Lex.toLex_lt_toLex.mpr (.inr ⟨rfl, Prod.Lex.toLex_lt_toLex.mpr (.inr ⟨rfl, ?_⟩)⟩)
    refine Prod.Lex.toLex_lt_toLex.mpr (.inl ?_)
    simp only [deliver, List.length_drop]
    omega
  | hangUp =>
    obtain ⟨hn, rfl⟩ := Option.ite_some_none_eq_some.mp h
    refine lt_of_le_of_lt (size_resume _) ?_
    refine Prod.Lex.toLex_lt_toLex.mpr (.inr ⟨rfl, Prod.Lex.toLex_lt_toLex.mpr (.inr ⟨rfl, ?_⟩)⟩)
    refine Prod.Lex.toLex_lt_toLex.mpr (.inr ⟨rfl, ?_⟩)
    simp [hangUp, Client.deliver, hn.2.2]

/-- No exchange goes on for ever. -/
theorem wellFounded_step : WellFounded fun y x : Exchange σ => ∃ m, x.step? m = some y :=
  Subrelation.wf (fun ⟨_, h⟩ => size_step h) (InvImage.wf size wellFounded_lt)

open Receiver (eq_nil_of_front_encodeAll)

/-- While a call waits, bytes are on their way, or the end of the stream is. -/
theorem Synced.moves {d : Direct σ} {x : Exchange σ} {P V : List Event} (h : Synced d x P V)
    {c : Call} (hw : x.waiting = some c) (hwaits : x.Waits) (hts : x.toServer = [])
    (htc : x.toClient = []) : x.server.failure.isSome ∧ x.client.ended = false := by
  obtain ⟨hi, he⟩ := hwaits (by rw [hw]; rfl)
  have hclient := h.client
  rw [htc, List.append_nil] at hclient
  have hV : V = [] := eq_nil_of_front_encodeAll h.plainV (hclient ▸ hi)
  have hphase := hw ▸ h.phase
  cases hphase with
  | asked hc hs =>
    -- a request that has arrived is handled at once
    obtain ⟨held, -, hi, heq⟩ := h.server hs
    rw [hts, List.append_nil] at heq
    have := eq_nil_of_front_encodeAll h.plainP (heq ▸ hi)
    simp at this
  | answered => simp at hV
  | closed _ hs => exact ⟨hs, he⟩

/-- **An exchange rests only when every call has returned.** -/
theorem Invariant.finished {r : Responder σ} {calls : List Call} {x : Exchange σ}
    (h : Invariant r calls x) (hstop : ∀ m, x.step? m = none) :
    x.waiting = none ∧ x.calls = [] := by
  obtain ⟨done, P, V, -, hs, hwaits⟩ := h
  have hts : x.toServer = [] := by
    refine Classical.byContradiction fun hne => ?_
    have := hstop (.serve x.toServer.length)
    simp [step?, List.length_pos_iff.mpr hne] at this
  have htc : x.toClient = [] := by
    refine Classical.byContradiction fun hne => ?_
    have := hstop (.deliver x.toClient.length)
    simp [step?, List.length_pos_iff.mpr hne] at this
  cases hw : x.waiting with
  | some c =>
    obtain ⟨hf, he⟩ := hs.moves hw hwaits hts htc
    have := hstop .hangUp
    simp [step?, hf, htc, he] at this
  | none =>
    refine ⟨rfl, ?_⟩
    cases hc : x.calls with
    | nil => rfl
    | cons c later =>
      have := hstop .call
      simp [step?, hw, hc] at this

theorem Synced.responder_eq {d : Direct σ} {x : Exchange σ} {P V : List Event}
    (h : Synced d x P V) (hw : x.waiting = none) : x.server.responder = d.responder := by
  have hphase := hw ▸ h.phase
  cases hphase with
  | quiet _ _ hr => exact hr
  | closed _ _ _ hr => exact hr

theorem plain_sends {calls : List Call} (h : ∀ t, Call.request t ∈ calls → '#' ∉ t) :
    ∀ c ∈ calls, c.sends.Plain := by
  intro c hc
  cases c with
  | sendAck => trivial
  | request t => exact Event.plain_ofPayload (Text.packetEnd_not_mem_toBytes (h t hc))
  | startNoAckMode => exact Event.plain_ofPayload (Text.packetEnd_not_mem_toBytes (by decide))

/-- **Every call gets its own reply.** Whatever the order of the moves and the parts in which the
bytes arrive, an exchange comes to rest, and only when every call has returned. At any time, the
calls that have returned did so with what they return when they are put straight to a responder
one after the other. When none waits, the responder is left as by these calls, and the log holds
the commands among them up to the first that cannot be read, and that one. -/
theorem run_returned (r : Responder σ) {config : Config} {calls : List Call}
    (ht : r.target.HashFree) (hc : 1 ≤ config.recvChunkSize)
    (hcalls : ∀ t, Call.request t ∈ calls → '#' ∉ t) :
    (WellFounded fun y x : Exchange σ => ∃ m, x.step? m = some y) ∧
    ∀ moves x, (start r config calls).run moves = some x →
      ((∀ m, x.step? m = none) → x.waiting = none ∧ x.calls = []) ∧
      ∃ done, done ++ x.waiting.toList ++ x.calls = calls ∧
        x.returned = (direct r done).returned ∧
        (x.waiting = none →
          x.server.responder = (direct r done).responder ∧
          ((∀ t ∈ commands done, ∃ command, Command.parse t = .ok command) →
            x.server.responder.log.entries = r.log.entries ++ commands done) ∧
          ∀ before t after e, commands done = before ++ t :: after →
            (∀ u ∈ before, ∃ command, Command.parse u = .ok command) →
            Command.parse t = .error e →
            x.server.responder.log.entries = r.log.entries ++ (before ++ [t])) := by
  refine ⟨wellFounded_step, ?_⟩
  intro moves x hrun
  have hinv := (invariant_start ht hc calls).run (plain_sends hcalls) hrun
  refine ⟨hinv.finished, ?_⟩
  obtain ⟨done, P, V, hdone, hs, -⟩ := hinv
  refine ⟨done, hdone, hs.returned, ?_⟩
  intro hw
  have hr := hs.responder_eq hw
  refine ⟨hr, ?_, ?_⟩
  · intro hread
    rw [hr, log_direct, untilRefused_of_read hread]
  · intro before t after e heq hread hrefused
    rw [hr, log_direct, heq, untilRefused_of_refused hread hrefused]

/-- A session that ends with a command that cannot be read. -/
theorem run_returned_refused :
    Responder.default.target.HashFree ∧ (1 : UInt64) ≤ ({} : Config).recvChunkSize ∧
    (∀ t, Call.request t ∈
      [.sendAck, .request "?".toList, .startNoAckMode, .request "p?".toList] → '#' ∉ t) ∧
    ∀ moves x,
      (start .default {}
        [.sendAck, .request "?".toList, .startNoAckMode, .request "p?".toList]).run moves = some x →
      (∀ m, x.step? m = none) →
      x.returned = [(.sendAck, .ok .done), (.request "?".toList, .ok (.reply "S02".toList)),
        (.startNoAckMode, .ok (.reply "OK".toList)),
        (.request "p?".toList, .error (.io .closed))] ∧
        x.server.responder.log.entries = ["?".toList, "p?".toList] := by
  have hcalls : ∀ t, Call.request t ∈
      [.sendAck, .request "?".toList, .startNoAckMode, .request "p?".toList] → '#' ∉ t := by
    intro t ht
    simp only [List.mem_cons, List.not_mem_nil, reduceCtorEq, false_or, or_false,
      Call.request.injEq] at ht
    rcases ht with rfl | rfl <;> decide
  refine ⟨Target.hashFree_default, by decide, hcalls, ?_⟩
  intro moves x hrun hstop
  obtain ⟨hrest, done, hdone, hreturned, hlog⟩ :=
    (run_returned .default Target.hashFree_default (by decide) hcalls).2 moves x hrun
  obtain ⟨hw, hc⟩ := hrest hstop
  simp only [hw, hc, List.append_nil, Option.toList_none] at hdone
  subst hdone
  refine ⟨by rw [hreturned]; rfl, ?_⟩
  refine (hlog hw).2.2 ["?".toList] "p?".toList [] _ rfl ?_ rfl
  intro t ht
  rw [List.mem_singleton.mp ht]
  exact ⟨.haltReason, rfl⟩

end RemoteStub.Exchange
