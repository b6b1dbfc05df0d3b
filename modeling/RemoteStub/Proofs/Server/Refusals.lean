import RemoteStub.Proofs.Server.Lifecycle

/-!
# Refused operations

An operation fails for one of five reasons (`Refusal`), and then it leaves the server as it was
(`perform_fails_iff`). `run_refused`: what comes after it is what would have come without it, so
a start can be asked for again and a session goes on.
-/

namespace RemoteStub

/-- What a start leads to. A server that was told to stop before listens to nobody. -/
def Phase.started {σ : Type} (r : Responder σ) : Bool → Phase σ
  | false => listening r
  | true => deserted r

theorem Phase.status_started {σ : Type} (r : Responder σ) (b : Bool) :
    (started r b).status = .listening := by
  cases b <;> rfl

theorem Phase.responder_started {σ : Type} (r : Responder σ) (b : Bool) :
    (started r b).responder = r := by
  cases b <;> rfl

theorem Status.Moves.ne_unbound {a b : Status} (h : Moves a b) : b ≠ .unbound := by
  cases h <;> exact Status.noConfusion

namespace Server

variable {σ : Type} {s t : Server σ} {op : Operation} {o : Report} {r : Responder σ}

namespace Report

def fails : Report → Bool
  | started (.error _) | stopped (.error _) | awaited (.error _) => true
  | connected admitted => !admitted
  | _ => false

end Report

/-- Why an operation is refused, and what is reported then. -/
inductive Refusal (s : Server σ) : Operation → Report → Prop
  | startedBefore {host : Host} (h : s.status ≠ .unbound) :
      Refusal s (.start host) (.started (.error (.network .alreadyStarted)))
  | badAddress {host : Host} {e : Config.Error} (h : s.status = .unbound)
      (he : s.config.socketAddress host.lookup = .error e) :
      Refusal s (.start host) (.started (.error (.config e)))
  | notBound {host : Host} {address : SocketAddress} {e : SystemError} (h : s.status = .unbound)
      (ha : s.config.socketAddress host.lookup = .ok address) (he : host.bind address = .error e) :
      Refusal s (.start host) (.started (.error (.io (.system e))))
  | notRunning (h : s.phase.isRunning = false) :
      Refusal s .wait (.awaited (.error (.network .notRunning)))
  | notLetIn (h : s.accept = none) : Refusal s .connect (.connected false)

/-! ## Starts -/

theorem start_of_bad_address {host : Host} {e : Config.Error} (h : s.status = .unbound)
    (he : s.config.socketAddress host.lookup = .error e) : s.start host = (.error (.config e), s) := by
  obtain ⟨r, hr⟩ := status_eq_unbound_iff.mp h
  simp only [start, hr, he]

theorem start_of_not_bound {host : Host} {address : SocketAddress} {e : SystemError}
    (h : s.status = .unbound) (ha : s.config.socketAddress host.lookup = .ok address)
    (he : host.bind address = .error e) : s.start host = (.error (.io (.system e)), s) := by
  obtain ⟨r, hr⟩ := status_eq_unbound_iff.mp h
  simp only [start, hr, ha, he]

theorem start_of_bound {host : Host} {address bound : SocketAddress} (h : s.phase = .unbound r)
    (ha : s.config.socketAddress host.lookup = .ok address) (hb : host.bind address = .ok bound) :
    s.start host =
      (.ok bound, { s with phase := .started r s.stopRequested, address := some bound }) := by
  cases hs : s.stopRequested <;> simp [start, h, ha, hb, poll, hs, Phase.started]

theorem refusal_or_bound (s : Server σ) (host : Host) :
    (∃ e, s.Refusal (.start host) (.started (.error e))) ∨
      ∃ r address bound, s.phase = .unbound r ∧ s.config.socketAddress host.lookup = .ok address ∧
        host.bind address = .ok bound := by
  by_cases h : s.status = .unbound
  · cases ha : s.config.socketAddress host.lookup with
    | error e => exact .inl ⟨_, .badAddress h ha⟩
    | ok address =>
      cases hb : host.bind address with
      | error e => exact .inl ⟨_, .notBound h ha hb⟩
      | ok bound =>
        obtain ⟨r, hr⟩ := status_eq_unbound_iff.mp h
        exact .inr ⟨r, address, bound, hr, rfl, hb⟩
  · exact .inl ⟨_, .startedBefore h⟩

/-! ## One refused operation -/

theorem Refusal.fails (h : s.Refusal op o) : o.fails = true := by
  cases h <;> rfl

theorem Refusal.perform (h : s.Refusal op o) : s.perform op = some (o, s) := by
  cases h with
  | startedBefore h => rw [Server.perform, start_again h]
  | badAddress h he => rw [Server.perform, start_of_bad_address h he]
  | notBound h ha he => rw [Server.perform, start_of_not_bound h ha he]
  | notRunning h => rw [perform_wait_eq_some_iff, wait_of_idle h]
  | notLetIn h => rw [Server.perform, h]

theorem refusal_of_fails (h : s.perform op = some (o, t)) (ho : o.fails = true) :
    s.Refusal op o := by
  cases op with
  | start host =>
    rcases refusal_or_bound s host with ⟨e, hrefused⟩ | ⟨r, address, bound, hr, ha, hb⟩
    · have := hrefused.perform
      rw [h] at this
      cases this
      exact hrefused
    · rw [perform, start_of_bound hr ha hb] at h
      cases h
      cases ho
  | stop =>
    rw [perform, stop_eq] at h
    cases h
    cases ho
  | wait =>
    obtain ⟨⟨result, u⟩, hu, h⟩ := Option.map_eq_some_iff.mp h
    cases h
    by_cases hr : s.phase.isRunning
    · obtain ⟨rfl, -⟩ := wait_of_isRunning hr hu
      cases ho
    · have hidle : s.phase.isRunning = false := by simpa using hr
      rw [wait_of_idle hidle] at hu
      cases hu
      exact .notRunning hidle
  | connect =>
    rw [perform] at h
    split at h
    next =>
      cases h
      cases ho
    next hnone =>
      cases h
      exact .notLetIn hnone
  | disconnect | receive | poll | expire | fail =>
    -- these report no failure, whatever comes of them
    cases h
    cases ho

theorem perform_fails_iff :
    s.perform op = some (o, t) ∧ o.fails = true ↔ s.Refusal op o ∧ t = s := by
  constructor
  · rintro ⟨h, ho⟩
    have hrefused := refusal_of_fails h ho
    rw [hrefused.perform] at h
    cases h
    exact ⟨hrefused, rfl⟩
  · rintro ⟨hrefused, rfl⟩
    exact ⟨hrefused.perform, hrefused.fails⟩

/-! ## Before the start -/

namespace Operation

def isStop : Operation → Bool
  | stop => true
  | _ => false

theorem any_isStop_iff {ops : List Operation} : ops.any isStop = true ↔ .stop ∈ ops := by
  rw [List.any_eq_true]
  constructor
  · rintro ⟨op, hop, h⟩
    cases op <;> first | exact hop | cases h
  · intro h
    exact ⟨_, h, rfl⟩

end Operation

/-- A server that is not started yet only remembers whether it was told to stop. -/
theorem perform_of_unbound (h : s.perform op = some (o, t)) (ht : t.status = .unbound) :
    t = { s with stopRequested := s.stopRequested || op.isStop } := by
  have hs : s.status = .unbound := by
    rcases moves h with hs | hs
    · rw [← hs, ht]
    · exact absurd ht hs.ne_unbound
  obtain ⟨config, phase, address, stopRequested⟩ := s
  obtain ⟨r, rfl⟩ := status_eq_unbound_iff.mp hs
  cases op with
  | start host =>
    rcases refusal_or_bound _ host with ⟨e, hrefused⟩ | ⟨r, a, bound, hr, ha, hb⟩
    · rw [hrefused.perform] at h
      cases h
      simp [Operation.isStop]
    · rw [perform, start_of_bound hr ha hb] at h
      cases h
      cases stopRequested <;> cases ht
  | stop =>
    cases h
    simp [Operation.isStop, hangUp, poll]
  | wait | connect | disconnect | receive | poll | expire | fail =>
    cases h
    simp [Operation.isStop, hangUp, receive, poll, expire, fail]

end Server

namespace Course

open Server (Operation Report)

variable {σ : Type} {c d : Course σ} {ops : List Operation}

theorem run_of_unbound (h : c.run ops = some d) (hd : d.server.status = .unbound) :
    d.server = { c.server with
      stopRequested := c.server.stopRequested || ops.any Operation.isStop } := by
  induction ops generalizing c with
  | nil =>
    cases h
    simp
  | cons op ops ih =>
    rw [run_cons, Option.bind_eq_some_iff] at h
    obtain ⟨x, hx, h⟩ := h
    obtain ⟨⟨o, t⟩, ht, rfl⟩ := Option.map_eq_some_iff.mp hx
    have hserver := ih h
    have htunbound : t.status = .unbound := by
      rw [hserver] at hd
      exact hd
    obtain rfl := Server.perform_of_unbound ht htunbound
    rw [hserver, List.any_cons, Bool.or_assoc]

/-! ## Courses with a refused operation -/

/-- What is true of an operation `op` that comes after `ops`, fails with `o` and leaves `t`. -/
structure Harmless (config : Config) (r : Responder σ) (ops : List Operation) (c : Course σ)
    (op : Operation) (o : Report) (t : Server σ) : Prop where
  reason : c.server.Refusal op o
  /-- The status, the address, the log, the configuration and the handler are what they were. -/
  unchanged : t = c.server
  /-- Whatever is next, it leads to the same server and is reported in the same way. -/
  later : ∀ more : List Operation, ∃ d : Option (Course σ),
    (begin config r).run (ops ++ more) = d.map (behind c.history) ∧
    (begin config r).run (ops ++ op :: more) = d.map (behind (c.history ++ [o]))
  /-- Where an address could not be bound, it can be tried again, with the same responder. -/
  retry : t.status = .unbound → ∀ host address bound, config.socketAddress host.lookup = .ok address →
    host.bind address = .ok bound → ∃ u, t.perform (.start host) = some (.started (.ok bound), u) ∧
      u.status = .listening ∧ u.address = some bound ∧ u.phase.responder = r ∧ u.config = config
  /-- A second start ends no session. -/
  session : ∀ connection, t.phase = .serving connection → ∀ host,
    t.perform (.start host) = some (.started (.error (.network .alreadyStarted)), t)

theorem run_refused {config : Config} {r : Responder σ} {op : Operation} {o : Report}
    {t : Server σ} (h : (begin config r).run ops = some c)
    (hop : c.server.perform op = some (o, t)) (ho : o.fails = true) :
    Harmless config r ops c op o t := by
  obtain ⟨hrefused, rfl⟩ := Server.perform_fails_iff.mp ⟨hop, ho⟩
  constructor
  · exact hrefused
  · rfl
  · intro more
    refine ⟨({ server := c.server } : Course σ).run more, ?_, ?_⟩
    · rw [run_append, h, Option.bind_some, ← run_behind, behind_self]
    · have hc := behind_self { c with history := c.history ++ [o] }
      rw [run_append, h, Option.bind_some, run_cons, perform_of_some hop, Option.bind_some, ← hc,
        run_behind]
  · intro hunbound host address bound ha hb
    have hserver := run_of_unbound h hunbound
    have hphase : c.server.phase = .unbound r := by rw [hserver]; rfl
    have hconfig : c.server.config = config := by rw [hserver]; rfl
    rw [← hconfig] at ha
    refine ⟨{ c.server with
      phase := .started r c.server.stopRequested
      address := some bound }, ?_, ?_, rfl, ?_, hconfig⟩
    · rw [Server.perform, Server.start_of_bound hphase ha hb]
    · exact Phase.status_started r c.server.stopRequested
    · exact Phase.responder_started r c.server.stopRequested
  · intro connection hphase host
    have hstatus : c.server.status ≠ .unbound := by
      rw [Server.status, hphase, Phase.status]
      exact Status.noConfusion
    exact (Server.Refusal.startedBefore hstatus).perform

/-- Another program listens on every port, and then no more. -/
theorem run_refused_busy :
    let busy : Host := { refusal := fun _ => some .addressInUse }
    let made := Server.create {} Responder.default
    made.perform (.start busy) = some (.started (.error (.io (.system .addressInUse))), made) ∧
    ∃ u, made.perform (.start .loopback) = some (.started (.ok (.v4 ⟨127, 0, 0, 1⟩ 49152)), u) ∧
      u.status = .listening ∧ u.phase.responder = Responder.default := by
  intro busy made
  have hop : made.perform (.start busy) =
      some (.started (.error (.io (.system .addressInUse))), made) := by
    rfl
  have h := run_refused (rfl : (begin {} Responder.default).run [] = some _) hop rfl
  obtain ⟨u, hu, hlistening, -, hr, -⟩ := h.retry rfl .loopback (.v4 ⟨127, 0, 0, 1⟩ 0)
    (.v4 ⟨127, 0, 0, 1⟩ 49152) (by rfl) rfl
  exact ⟨hop, u, hu, hlistening, hr⟩

end Course

end RemoteStub
