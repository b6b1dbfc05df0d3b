import RemoteStub.Proofs.Server.Refusals

/-!
# Waiting for the client

A server whose time to wait is not limited waits for its client once it is started
(`run_start_awaits_iff`), unless it was told to stop before the start. It remembers that, so it
starts and says that it listens, but lets nobody in.
-/

namespace RemoteStub

namespace Server

variable {σ : Type} {s t : Server σ} {op : Operation} {o : Report} {r : Responder σ}

/-- Between the start and the first client, what does not end the server. -/
def Operation.leavesWaiting : Operation → Bool
  | start _ | disconnect | receive _ | poll | expire => true
  | stop | wait | connect | fail => false

theorem perform_leavesWaiting (h : s.phase = .started r s.stopRequested)
    (ht : s.config.acceptTimeout = none) (hop : op.leavesWaiting = true) :
    ∃ o, s.perform op = some (o, s) := by
  have hstatus : s.status ≠ .unbound := by
    rw [status, h, Phase.status_started]
    exact Status.noConfusion
  obtain ⟨config, phase, address, stopRequested⟩ := s
  dsimp only at h ht
  subst h
  cases op with
  | start host => exact ⟨_, (Refusal.startedBefore hstatus).perform⟩
  | disconnect | receive | poll | expire =>
    cases stopRequested <;> simp [perform, Phase.started, hangUp, receive, poll, expire, ht]
  | stop | wait | connect | fail => cases hop

/-! ## Where nobody can be let in -/

theorem closed_of_status (h : s.status = .connected ∨ s.status = .stopped) :
    s.phase.isOpen = false := by
  rw [Bool.eq_false_iff]
  intro hopen
  rcases status_of_isOpen hopen with hs | hs <;> simp [hs] at h

theorem Performs.closed (h : Performs s o t) (hs : s.phase.isOpen = false) :
    t.phase.isOpen = false ∧ o.admits = false := by
  have hopen : ¬ s.phase.isOpen = true := by simp [hs]
  cases h with
  | start h | notBound h => exact absurd (isOpen_of_unbound h) hopen
  | startAgain | waitIdle => exact ⟨hs, rfl⟩
  | letIn h => exact absurd h hopen
  | serve _ ht => exact ⟨closed_of_status (.inl ht), rfl⟩
  | finish ho _ ht =>
    refine ⟨closed_of_status (.inr ht), ?_⟩
    rcases ho with rfl | rfl <;> rfl
  | stopIdle _ hp => exact ⟨by rw [hp, hs], rfl⟩
  | quiet ho ht =>
    refine ⟨Bool.eq_false_iff.mpr (mt ht hopen), ?_⟩
    rcases ho with rfl | rfl <;> rfl

end Server

namespace Course

open Server (Operation Report)

variable {σ : Type} {c d : Course σ} {config : Config} {r : Responder σ}
  {before after : List Operation} {s : Server σ} {host : Host} {a : SocketAddress}

/-- The next client is let in and served from the beginning. -/
def Awaits (r : Responder σ) (c : Course σ) : Prop :=
  ∃ d, c.run [.connect, .poll] = some d ∧ d.history = c.history ++ [.connected true, .done] ∧
    d.server.phase = .serving (.create r c.server.config) ∧ d.server.status = .connected

theorem started_eq (h : (begin config r).run before = some c)
    (hstart : c.server.perform (.start host) = some (.started (.ok a), s)) :
    c.server.status = .unbound ∧ s = {
      config := config
      phase := .started r (before.any Operation.isStop)
      address := some a
      stopRequested := before.any Operation.isStop } := by
  rcases Server.refusal_or_bound c.server host with ⟨e, hrefused⟩ | ⟨r', a', bound, hr, ha, hb⟩
  · rw [hrefused.perform] at hstart
    cases hstart
  · have hunbound := Server.status_eq_unbound_iff.mpr ⟨r', hr⟩
    have hserver := run_of_unbound h hunbound
    rw [Server.perform, Server.start_of_bound hr ha hb] at hstart
    cases hstart
    rw [hserver] at hr
    cases hr
    refine ⟨hunbound, ?_⟩
    rw [hserver]
    simp [begin, Server.create]

theorem run_leavesWaiting (h : c.server.phase = .started r c.server.stopRequested)
    (ht : c.server.config.acceptTimeout = none) (hafter : ∀ op ∈ after, op.leavesWaiting = true) :
    ∃ more, c.run after = some { c with history := c.history ++ more } := by
  induction after generalizing c with
  | nil => exact ⟨[], by simp [run]⟩
  | cons op after ih =>
    obtain ⟨o, ho⟩ := Server.perform_leavesWaiting h ht (hafter op List.mem_cons_self)
    obtain ⟨more, hmore⟩ := @ih { c with history := c.history ++ [o] } h ht
      fun op hop => hafter op (List.mem_cons_of_mem _ hop)
    refine ⟨o :: more, ?_⟩
    rw [run_cons, perform_of_some ho, Option.bind_some, hmore, List.append_assoc]
    rfl

theorem run_closed (hclosed : c.server.phase.isOpen = false)
    (hnone : c.history.countP Report.admits = 0) (h : c.run after = some d) :
    d.history.countP Report.admits = 0 := by
  have hkept : d.server.phase.isOpen = false ∧ d.history.countP Report.admits = 0 := by
    apply run_induction _ ⟨hclosed, hnone⟩ h
    rintro op x y ⟨hx, hcount⟩ hy
    obtain ⟨⟨o, t⟩, ht, rfl⟩ := Option.map_eq_some_iff.mp hy
    obtain ⟨ht, ho⟩ := (Server.performs ht).closed hx
    refine ⟨ht, ?_⟩
    simp [hcount, ho]
  exact hkept.2

theorem awaits_iff (h : c.server.phase = .started r c.server.stopRequested) :
    Awaits r c ↔ c.server.stopRequested = false := by
  obtain ⟨⟨config, phase, address, stopRequested⟩, history⟩ := c
  dsimp only at h
  subst h
  cases stopRequested with
  | false =>
    have hpoll := Server.poll_accepted (s := { config, phase := .accepted r [] false, address }) rfl rfl
    refine iff_of_true ⟨_, rfl, ?_, ?_, ?_⟩ rfl
    · simp
    · exact congrArg Server.phase hpoll
    · exact congrArg Server.status hpoll
  | true =>
    apply iff_of_false
    · rintro ⟨d, hd, hhistory, -⟩
      cases hd
      simp at hhistory
    · simp

/-- A server that may wait without limit serves the next client exactly if it was not told to stop
before its start. Otherwise nobody is ever let in. -/
theorem run_start_awaits_iff (hconfig : config.acceptTimeoutMs = 0)
    (hbefore : (begin config r).run before = some c)
    (hstart : c.server.perform (.start host) = some (.started (.ok a), s))
    (hafter : ∀ op ∈ after, op.leavesWaiting = true) :
    ∃ d, (begin config r).run (before ++ .start host :: after) = some d ∧
      d.server.status = .listening ∧ (Awaits r d ↔ .stop ∉ before) ∧
      (.stop ∈ before → ∀ later e, (begin config r).run (before ++ .start host :: later) = some e →
        e.history.countP Report.admits = 0) := by
  obtain ⟨hunbound, hs⟩ := started_eq hbefore hstart
  have hstarted : s.phase = .started r s.stopRequested := by rw [hs]
  have hrun : ∀ later, (begin config r).run (before ++ .start host :: later) =
      ({ server := s, history := c.history ++ [.started (.ok a)] } : Course σ).run later := by
    intro later
    rw [run_append, hbefore, Option.bind_some, run_cons, perform_of_some hstart, Option.bind_some]
  obtain ⟨more, hmore⟩ := @run_leavesWaiting σ
    { server := s, history := c.history ++ [.started (.ok a)] } r after hstarted
    (by simp [hs, Config.acceptTimeout, hconfig]) hafter
  refine ⟨_, (hrun after).trans hmore, ?_, ?_, ?_⟩
  · rw [Server.status, hstarted, Phase.status_started]
  · rw [awaits_iff hstarted, ← Operation.any_isStop_iff, hs, Bool.not_eq_true]
  · intro hstop later e he
    rw [hrun later] at he
    apply run_closed _ _ he
    · rw [hs, Operation.any_isStop_iff.mpr hstop]
      rfl
    · have hadmitted := (told_run hbefore).admitted
      rw [if_pos (Server.isOpen_of_unbound hunbound), Nat.le_zero] at hadmitted
      simp [hadmitted, Report.admits]

theorem run_start_awaits_fresh :
    let config : Config := { acceptTimeoutMs := 0 }
    ∃ d, (begin config Responder.default).run [.start .loopback, .poll, .expire] = some d ∧
      d.server.status = .listening ∧ Awaits Responder.default d := by
  intro config
  have hstart : (Server.create config Responder.default).perform (.start .loopback) =
      some (.started (.ok (.v4 ⟨127, 0, 0, 1⟩ 49152)), { Server.create config Responder.default with
        phase := .listening Responder.default
        address := some (.v4 ⟨127, 0, 0, 1⟩ 49152) }) := by
    rfl
  have hafter : ∀ op ∈ [Operation.poll, .expire], op.leavesWaiting = true := by
    simp [Operation.leavesWaiting]
  obtain ⟨d, hd, hlistening, hawaits, -⟩ := run_start_awaits_iff rfl
    (rfl : (begin config Responder.default).run [] = some _) hstart hafter
  exact ⟨d, hd, hlistening, hawaits.mpr List.not_mem_nil⟩

/-- A stop that comes too early: the start succeeds, and its client is refused. -/
theorem run_stop_start_connect : ∃ d : Course Unit,
    (begin { acceptTimeoutMs := 0 } Responder.default).run
      [.stop, .start .loopback, .connect, .poll] = some d ∧
    d.history = [.stopped (.ok ()), .started (.ok (.v4 ⟨127, 0, 0, 1⟩ 49152)), .connected false,
      .done] ∧
    d.server.status = .listening :=
  ⟨_, rfl, rfl, rfl⟩

end Course

end RemoteStub
