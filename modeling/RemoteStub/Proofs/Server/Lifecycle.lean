import RemoteStub.Proofs.Server.History

/-!
# The lifecycle of a server

An operation can do no more than its report says (`performs`), so the history tells the
status, the address and the number of clients let in (`Told`). `run_lifecycle`: whatever
happens, the status moves on, one start succeeds at most, one client is let in at most, and
an end is awaited only once.
-/

namespace RemoteStub

inductive Status.Moves : Status → Status → Prop
  | listen : Moves .unbound .listening
  | connect : Moves .listening .connected
  | desert : Moves .listening .stopped
  | leave : Moves .connected .stopped

/-- No client was let in, and one may be. -/
def Phase.isOpen {σ : Type} : Phase σ → Bool
  | unbound _ | listening _ => true
  | _ => false

@[simp] theorem Phase.isRunning_stopped {σ : Type} (r : Responder σ) :
    (Phase.stopped r).isRunning = false := rfl

/-- A session counts as one also when it is over at once. -/
theorem Connection.status_phase {σ : Type} (c : Connection σ) (left : Bool) :
    (c.phase left).status = .connected := by
  unfold phase
  split <;> rfl

theorem Connection.isOpen_phase {σ : Type} (c : Connection σ) (left : Bool) :
    (c.phase left).isOpen = false := by
  unfold phase
  split <;> rfl

theorem Connection.isRunning_phase {σ : Type} (c : Connection σ) (left : Bool) :
    (c.phase left).isRunning = true := by
  unfold phase
  split <;> rfl

namespace Server

variable {σ : Type} {s t : Server σ} {op : Operation} {o : Report} {result : Except Error Unit}

/-! ## Ends -/

theorem status_eq_unbound_iff : s.status = .unbound ↔ ∃ r, s.phase = .unbound r := by
  unfold status
  cases s.phase <;> simp [Phase.status]

theorem idle_iff : s.phase.isRunning = false ↔ s.status = .unbound ∨ s.status = .stopped := by
  unfold status
  cases s.phase <;> simp [Phase.status, Phase.isRunning]

theorem isRunning_iff : s.phase.isRunning = true ↔ s.status ≠ .unbound ∧ s.status ≠ .stopped := by
  rw [← Bool.not_eq_false, idle_iff, not_or]

theorem isOpen_of_unbound (h : s.status = .unbound) : s.phase.isOpen = true := by
  obtain ⟨r, hr⟩ := status_eq_unbound_iff.mp h
  rw [hr, Phase.isOpen]

theorem status_of_isOpen (h : s.phase.isOpen = true) :
    s.status = .unbound ∨ s.status = .listening := by
  unfold status
  cases hp : s.phase <;> simp [hp, Phase.isOpen, Phase.status] at h ⊢

/-- A server that is told to stop comes to its end, whatever it is doing. -/
theorem stop_eq (s : Server σ) :
    s.stop = some (.ok (), { s with
      stopRequested := true
      phase := if s.phase.isRunning then .stopped s.phase.responder else s.phase }) := by
  obtain ⟨config, phase, address, stopRequested⟩ := s
  cases phase <;> rfl

theorem stop_stop (h : s.stop = some (result, t)) : t.stop = s.stop := by
  rw [stop_eq] at h
  cases h
  rw [stop_eq, stop_eq]
  by_cases hr : s.phase.isRunning <;> simp [hr]

theorem join_of_isRunning (h : s.phase.isRunning = true) (hj : s.join = some (result, t)) :
    result = .ok () ∧ t.status = .stopped ∧ t.address = s.address := by
  obtain ⟨config, phase, address, stopRequested⟩ := s
  cases phase <;> cases h <;> cases hj <;> exact ⟨rfl, rfl, rfl⟩

theorem poll_keeps (s : Server σ) :
    s.poll.address = s.address ∧ s.poll.phase.isRunning = s.phase.isRunning := by
  unfold poll
  split
  next hp => split <;> simp [hp, Phase.isRunning]
  next hp =>
    rw [hp]
    split
    · exact ⟨rfl, rfl⟩
    · exact ⟨rfl, Connection.isRunning_phase _ _⟩
  next => exact ⟨rfl, rfl⟩

theorem expire_keeps (s : Server σ) :
    s.expire.address = s.address ∧ s.expire.phase.isRunning = s.phase.isRunning := by
  unfold expire
  split
  next hp => split <;> simp [hp, Phase.isRunning]
  next => exact ⟨rfl, rfl⟩

/-- What happens while a server awaits its end does not start or end it. -/
theorem wait_of_isRunning (h : s.phase.isRunning = true) (hw : s.wait = some (result, t)) :
    result = .ok () ∧ t.status = .stopped ∧ t.address = s.address := by
  unfold wait at hw
  rw [if_pos h] at hw
  obtain ⟨hpoll, hpolls⟩ := poll_keeps s
  obtain ⟨hexpire, hexpires⟩ := expire_keeps s.poll
  rw [← hpoll, ← hexpire]
  exact join_of_isRunning (by rw [hexpires, hpolls, h]) hw

/-- A client that was let in and has left is not waited for, whether it was served or not. -/
theorem wait_of_left (h : s.phase.isRunning = true) (hopen : s.phase.isOpen = false) :
    ∃ t, s.hangUp.wait = some (.ok (), t) ∧ t.status = .stopped := by
  obtain ⟨config, phase, address, stopRequested⟩ := s
  cases phase with
  | unbound | listening => cases hopen
  | stopped => cases h
  | accepted responder arrived left => cases stopRequested <;> exact ⟨_, rfl, rfl⟩
  | deserted | serving | served => exact ⟨_, rfl, rfl⟩

theorem wait_of_idle (h : s.phase.isRunning = false) :
    s.wait = some (.error (.network .notRunning), s) := by
  unfold wait
  rw [h, if_neg Bool.false_ne_true]

theorem wait_refused_iff :
    s.wait = some (.error (.network .notRunning), s) ↔ s.phase.isRunning = false := by
  constructor
  · intro h
    by_cases hr : s.phase.isRunning
    · obtain ⟨he, -⟩ := wait_of_isRunning hr h
      cases he
    · simpa using hr
  · exact wait_of_idle

theorem start_again (h : s.status ≠ .unbound) (host : Host) :
    s.start host = (.error (.network .alreadyStarted), s) := by
  unfold start
  split
  next responder hp => exact absurd (status_eq_unbound_iff.mpr ⟨responder, hp⟩) h
  next => rfl

/-! ## A new server -/

theorem start_create {config : Config} {r : Responder σ} {host : Host} {a : SocketAddress}
    (h : (create config r).start host = (.ok a, s)) :
    s = { config, phase := .listening r, address := some a } := by
  simp only [start, create] at h
  split at h
  · cases h
  · split at h
    · cases h
    · cases h
      rfl

theorem responder_hangUp (s : Server σ) : s.hangUp.phase.responder = s.phase.responder := by
  unfold hangUp
  split
  · next hp => rw [hp]; rfl
  · next c hp => rw [hp]; rfl
  · rfl

/-- A client that has sent nothing yet is served from the beginning. -/
theorem poll_accepted {r : Responder σ} (h : s.phase = .accepted r [] false)
    (hs : s.stopRequested = false) : s.poll = { s with phase := .serving (.create r s.config) } := by
  rw [poll, h]
  dsimp only
  rw [hs, Connection.run_nil]
  rfl

/-! ## One operation -/

inductive Performs (s : Server σ) : Report → Server σ → Prop
  | start {a : SocketAddress} {t : Server σ} (h : s.status = .unbound) (ht : t.status = .listening)
      (ha : t.address = some a) : Performs s (.started (.ok a)) t
  | notBound {e : Error} (h : s.status = .unbound) : Performs s (.started (.error e)) s
  | startAgain (h : s.status ≠ .unbound) :
      Performs s (.started (.error (.network .alreadyStarted))) s
  | letIn {t : Server σ} (h : s.phase.isOpen = true) (hopen : t.phase.isOpen = false)
      (ht : t.status = s.status) (ha : t.address = s.address) : Performs s (.connected true) t
  | serve {t : Server σ} (h : s.status = .listening) (ht : t.status = .connected)
      (ha : t.address = s.address) : Performs s .done t
  | finish {o : Report} {t : Server σ} (ho : o = .stopped (.ok ()) ∨ o = .awaited (.ok ()))
      (h : s.phase.isRunning = true) (ht : t.status = .stopped) (ha : t.address = s.address) :
      Performs s o t
  | stopIdle {t : Server σ} (h : s.phase.isRunning = false) (ht : t.phase = s.phase)
      (ha : t.address = s.address) : Performs s (.stopped (.ok ())) t
  | waitIdle (h : s.phase.isRunning = false) :
      Performs s (.awaited (.error (.network .notRunning))) s
  | quiet {o : Report} {t : Server σ} (ho : o = .done ∨ o = .connected false)
      (hopen : t.phase.isOpen = true → s.phase.isOpen = true) (ht : t.status = s.status)
      (ha : t.address = s.address) : Performs s o t

namespace Performs

theorem of_phase {p : Phase σ} (hs : p.status = s.phase.status)
    (hopen : p.isOpen = true → s.phase.isOpen = true) : Performs s .done { s with phase := p } :=
  .quiet (.inl rfl) hopen hs rfl

theorem same : Performs s .done s := .quiet (.inl rfl) id rfl rfl

end Performs

theorem performs_start (s : Server σ) (host : Host) :
    Performs s (.started (s.start host).1) (s.start host).2 := by
  by_cases h : s.status = .unbound
  · obtain ⟨responder, hp⟩ := status_eq_unbound_iff.mp h
    unfold start
    rw [hp]
    dsimp only
    split
    next => exact .notBound h
    next =>
      split
      next => exact .notBound h
      next =>
        unfold poll
        by_cases hs : s.stopRequested <;>
          apply Performs.start h <;> simp [hs, status, Phase.status]
  · rw [start_again h]
    exact .startAgain h

theorem performs_poll (s : Server σ) : Performs s .done s.poll := by
  unfold poll
  split
  next responder hp =>
    by_cases hs : s.stopRequested
    · rw [if_pos hs]
      apply Performs.of_phase <;> simp [hp, Phase.status, Phase.isOpen]
    · rw [if_neg hs]
      exact .same
  next responder arrived left hp =>
    by_cases hs : s.stopRequested
    · rw [if_pos hs]
      apply Performs.of_phase <;> simp [hp, Phase.status, Phase.isOpen]
    · rw [if_neg hs]
      exact .serve (by simp [status, hp, Phase.status]) (Connection.status_phase _ left) rfl
  next => exact .same

theorem performs_accept (h : s.accept = some t) : Performs s (.connected true) t := by
  unfold accept at h
  split at h
  next responder hp =>
    by_cases hs : s.stopRequested
    · rw [if_pos hs] at h
      cases h
    · rw [if_neg hs] at h
      cases h
      apply Performs.letIn <;> simp [status, hp, Phase.status, Phase.isOpen]
  next => cases h

theorem performs_expire (s : Server σ) : Performs s .done s.expire := by
  unfold expire
  split
  next responder hp =>
    split
    · apply Performs.of_phase <;> simp [hp, Phase.status, Phase.isOpen]
    · exact .same
  next => exact .same

theorem performs_receive (s : Server σ) (data : Bytes) :
    Performs s .done (s.receive data).peer := by
  unfold receive
  split
  next c hp =>
    apply Performs.of_phase
    · rw [hp]
      exact Connection.status_phase _ false
    · simp [Connection.isOpen_phase]
  next responder arrived hp =>
    apply Performs.of_phase <;> simp [hp, Phase.status, Phase.isOpen]
  next => exact .same

theorem performs_hangUp (s : Server σ) : Performs s .done s.hangUp := by
  unfold hangUp
  split
  next responder arrived left hp =>
    apply Performs.of_phase <;> simp [hp, Phase.status, Phase.isOpen]
  next c hp => apply Performs.of_phase <;> simp [hp, Phase.status, Phase.isOpen]
  next => exact .same

theorem performs_fail (s : Server σ) : Performs s .done s.fail := by
  unfold fail
  split
  next responder hp => apply Performs.of_phase <;> simp [hp, Phase.status, Phase.isOpen]
  next responder hp => apply Performs.of_phase <;> simp [hp, Phase.status, Phase.isOpen]
  next c hp => apply Performs.of_phase <;> simp [hp, Phase.status, Phase.isOpen]
  next => exact .same

theorem performs_stop (h : s.stop = some (result, t)) : Performs s (.stopped result) t := by
  rw [stop_eq] at h
  cases h
  by_cases hr : s.phase.isRunning
  · exact .finish (.inl rfl) hr (by simp [status, hr, Phase.status]) rfl
  · exact .stopIdle (by simpa using hr) (by simp [hr]) rfl

theorem performs_wait (h : s.wait = some (result, t)) : Performs s (.awaited result) t := by
  by_cases hr : s.phase.isRunning
  · obtain ⟨rfl, ht, ha⟩ := wait_of_isRunning hr h
    exact .finish (.inr rfl) hr ht ha
  · rw [wait_of_idle (by simpa using hr)] at h
    cases h
    exact .waitIdle (by simpa using hr)

theorem perform_stop_eq_some_iff :
    s.perform .stop = some (.stopped result, t) ↔ s.stop = some (result, t) := by
  simp [perform]

theorem perform_wait_eq_some_iff :
    s.perform .wait = some (.awaited result, t) ↔ s.wait = some (result, t) := by
  simp [perform]

theorem performs (h : s.perform op = some (o, t)) : Performs s o t := by
  cases op with
  | start host =>
    cases h
    exact performs_start s host
  | stop =>
    obtain ⟨⟨result, u⟩, hu, h⟩ := Option.map_eq_some_iff.mp h
    cases h
    exact performs_stop hu
  | wait =>
    obtain ⟨⟨result, u⟩, hu, h⟩ := Option.map_eq_some_iff.mp h
    cases h
    exact performs_wait hu
  | connect =>
    unfold perform at h
    dsimp only at h
    split at h
    next hu =>
      cases h
      exact performs_accept hu
    next =>
      cases h
      exact .quiet (.inr rfl) id rfl rfl
  | disconnect =>
    cases h
    exact performs_hangUp s
  | receive data =>
    cases h
    exact performs_receive s data
  | poll =>
    cases h
    exact performs_poll s
  | expire =>
    cases h
    exact performs_expire s
  | fail =>
    cases h
    exact performs_fail s

theorem moves (h : s.perform op = some (o, t)) :
    t.status = s.status ∨ Status.Moves s.status t.status := by
  cases performs h with
  | start hs ht =>
    rw [hs, ht]
    exact .inr .listen
  | notBound | startAgain | waitIdle => exact .inl rfl
  | letIn _ _ ht | quiet _ _ ht => exact .inl ht
  | serve hs ht =>
    rw [hs, ht]
    exact .inr .connect
  | stopIdle _ hp => exact .inl (congrArg Phase.status hp)
  | finish ho hr ht =>
    obtain ⟨hunbound, hstopped⟩ := isRunning_iff.mp hr
    rw [ht]
    cases hs : s.status with
    | unbound => exact absurd hs hunbound
    | listening => exact .inr .desert
    | connected => exact .inr .leave
    | stopped => exact absurd hs hstopped

end Server

namespace Course

open Server (Operation Report Performs)

variable {σ : Type} {c d : Course σ} {op : Operation}

/-! ## Every history -/

/-- What a server is, as its history tells it. -/
structure Told (c : Course σ) : Prop where
  addresses : addresses c.history = c.server.address.toList
  unbound : c.server.status = .unbound ↔ Course.addresses c.history = []
  stopped : c.server.status = .stopped ↔ Ended c.history
  admitted : c.history.countP Report.admits ≤ if c.server.phase.isOpen then 0 else 1

theorem told_begin (config : Config) (r : Responder σ) : Told (begin config r) where
  addresses := rfl
  unbound := by simp [begin, Server.create, Server.status, Phase.status, Course.addresses]
  stopped := by
    constructor
    · intro h
      cases h
    · intro h
      exact absurd rfl h.addresses_ne_nil
  admitted := Nat.le_refl 0

theorem Told.start {t : Server σ} {a : SocketAddress} (h : Told c)
    (hs : c.server.status = .unbound) (ht : t.status = .listening) (ha : t.address = some a) :
    Told { server := t, history := c.history ++ [.started (.ok a)] } := by
  have hnone : Course.addresses c.history = [] := h.unbound.mp hs
  have hopen := Server.isOpen_of_unbound hs
  have hadmitted := h.admitted
  rw [if_pos hopen] at hadmitted
  constructor
  · simp [addresses_concat, hnone, ha, Report.address?]
  · simp [addresses_concat, ht, Report.address?]
  · simp [ended_concat, hnone, ht, Report.ends, mt Ended.addresses_ne_nil]
  · simp only [List.countP_append, List.countP_singleton, Report.admits]
    simp only [Bool.false_eq_true, if_false]
    omega

/-- Every operation but a successful start. -/
theorem Told.keep {t : Server σ} {o : Report} (h : Told c) (ho : o.address? = none)
    (ha : t.address = c.server.address)
    (hunbound : t.status = .unbound ↔ c.server.status = .unbound)
    (hstopped : t.status = .stopped ↔
      c.server.status = .stopped ∨ c.server.status ≠ .unbound ∧ o.ends = true)
    (hadmits : o.admits = true → c.server.phase.isOpen = true)
    (hopen : t.phase.isOpen = true → c.server.phase.isOpen = true ∧ o.admits = false) :
    Told { server := t, history := c.history ++ [o] } := by
  have haddresses : Course.addresses (c.history ++ [o]) = Course.addresses c.history := by
    simp [addresses_concat, ho]
  constructor
  · rw [haddresses, h.addresses, ha]
  · rw [haddresses, hunbound, h.unbound]
  · rw [ended_concat, hstopped, h.stopped, ne_eq, h.unbound]
  · have hadmitted := h.admitted
    rw [List.countP_append, List.countP_singleton]
    by_cases ht : t.phase.isOpen
    · obtain ⟨hs, ho⟩ := hopen ht
      rw [if_pos hs] at hadmitted
      simpa [ht, ho] using hadmitted
    · rw [if_neg ht]
      by_cases ho : o.admits
      · rw [if_pos (hadmits ho)] at hadmitted
        rw [if_pos ho]
        omega
      · rw [if_neg ho]
        split at hadmitted <;> omega

theorem Told.perform (h : Told c) (hc : c.perform op = some d) : Told d := by
  obtain ⟨⟨o, t⟩, ht, rfl⟩ := Option.map_eq_some_iff.mp hc
  have hstep := Server.performs ht
  cases hstep with
  | start hs ht ha => exact h.start hs ht ha
  | notBound hs =>
    apply h.keep rfl rfl .rfl <;> simp [Report.ends, Report.admits]
  | startAgain hs =>
    apply h.keep rfl rfl .rfl <;> simp [Report.ends, Report.admits]
  | letIn hs hopen ht ha =>
    apply h.keep rfl ha <;> simp [Report.ends, hs, hopen, ht]
  | serve hs ht ha =>
    apply h.keep rfl ha
    · simp [hs, ht]
    · simp [hs, ht, Report.ends]
    · simp [Report.admits]
    · intro hopen
      have := Server.status_of_isOpen hopen
      simp [ht] at this
  | finish ho hr ht ha =>
    obtain ⟨hunbound, hstopped⟩ := Server.isRunning_iff.mp hr
    have ho : o.address? = none ∧ o.ends = true ∧ o.admits = false := by
      rcases ho with rfl | rfl <;> exact ⟨rfl, rfl, rfl⟩
    apply h.keep ho.1 ha
    · simp [ht, hunbound]
    · simp [ht, hunbound, ho]
    · simp [ho]
    · intro hopen
      have := Server.status_of_isOpen hopen
      simp [ht] at this
  | stopIdle hr hp ha =>
    have hs : c.server.status ≠ .unbound → c.server.status = .stopped :=
      (Server.idle_iff.mp hr).resolve_left
    have ht : t.status = c.server.status := congrArg Phase.status hp
    apply h.keep rfl ha
    · rw [ht]
    · rw [ht]
      grind
    · simp [Report.admits]
    · simp [hp, Report.admits]
  | waitIdle hr =>
    apply h.keep rfl rfl .rfl <;> simp [Report.ends, Report.admits]
  | quiet ho hopen ht ha =>
    have ho : o.address? = none ∧ o.ends = false ∧ o.admits = false := by
      rcases ho with rfl | rfl <;> exact ⟨rfl, rfl, rfl⟩
    apply h.keep ho.1 ha
    · rw [ht]
    · simp [ht, ho]
    · simp [ho]
    · intro h
      exact ⟨hopen h, ho.2.2⟩

theorem told_run {ops : List Operation} {config : Config} {r : Responder σ}
    (h : (begin config r).run ops = some c) : Told c :=
  run_induction (fun _ _ _ hx hy => hx.perform hy) (told_begin config r) h

/-- What holds of a server whatever happened to it. -/
structure Lifecycle (c : Course σ) : Prop where
  /-- Whatever is next, the status stays or moves on. -/
  moves : ∀ op o t, c.server.perform op = some (o, t) →
    t.status = c.server.status ∨ Status.Moves c.server.status t.status
  unbound : c.server.status = .unbound ↔ addresses c.history = []
  stopped : c.server.status = .stopped ↔ Ended c.history
  /-- At most one start succeeded, and the address is the one that it returned. -/
  address : c.server.address.toList = addresses c.history
  port : c.server.port.toList = (addresses c.history).map (·.port)
  url : c.server.url.toList = (addresses c.history).map fun a =>
    "connect://".toList ++ a.ip.render ++ ':' :: decimal a.port.toNat
  /-- After a start that succeeded, every start is refused. -/
  startedOnce : addresses c.history ≠ [] → ∀ host, c.server.perform (.start host) =
    some (.started (.error (.network .alreadyStarted)), c.server)
  admittedOnce : c.history.countP Report.admits ≤ 1
  /-- To stop always succeeds, and to stop again changes nothing. -/
  stop : ∃ t, c.server.perform .stop = some (.stopped (.ok ()), t) ∧
    t.perform .stop = some (.stopped (.ok ()), t) ∧
    (addresses c.history = [] → t.status = .unbound)
  /-- To wait is refused where nothing runs, and never fails otherwise. -/
  waitRefused : c.server.perform .wait =
    some (.awaited (.error (.network .notRunning)), c.server) ↔
      addresses c.history = [] ∨ Ended c.history
  waited : ∀ result t, c.server.perform .wait = some (.awaited result, t) →
    result = .ok () ∨ result = .error (.network .notRunning)
  /-- Once the client that was let in has left, the end comes by itself. -/
  left : c.history.countP Report.admits = 1 → c.server.status ≠ .stopped →
    ∃ t u, c.server.perform .disconnect = some (.done, t) ∧
      t.perform .wait = some (.awaited (.ok ()), u) ∧ u.status = .stopped

theorem run_lifecycle {config : Config} {r : Responder σ} {ops : List Operation}
    (h : (begin config r).run ops = some c) : Lifecycle c := by
  have told := told_run h
  have hidle : c.server.phase.isRunning = false ↔ addresses c.history = [] ∨ Ended c.history := by
    rw [Server.idle_iff, told.unbound, told.stopped]
  constructor
  · intro op o t ht
    exact Server.moves ht
  · exact told.unbound
  · exact told.stopped
  · exact told.addresses.symm
  · rw [told.addresses, Server.port, Option.toList_map]
  · rw [told.addresses, Server.url, Option.toList_map]
  · intro hstarted host
    rw [Server.perform, Server.start_again (mt told.unbound.mp hstarted)]
  · have := told.admitted
    split at this <;> omega
  · have hstop := Server.stop_eq c.server
    have hagain := Server.stop_stop hstop
    refine ⟨_, Server.perform_stop_eq_some_iff.mpr hstop,
      Server.perform_stop_eq_some_iff.mpr (hagain.trans hstop), ?_⟩
    intro hnone
    rw [Server.status, hidle.mpr (.inl hnone)]
    exact told.unbound.mpr hnone
  · rw [Server.perform_wait_eq_some_iff, Server.wait_refused_iff, hidle]
  · intro result t hw
    rw [Server.perform_wait_eq_some_iff] at hw
    cases Server.performs_wait hw with
    | finish ho => exact .inl (by simpa using ho)
    | waitIdle => exact .inr rfl
    | quiet ho => simp at ho
  · intro hone hrunning
    have hopen : c.server.phase.isOpen = false := by
      have := told.admitted
      rw [Bool.eq_false_iff]
      intro hopen
      rw [if_pos hopen, hone] at this
      omega
    have hbound : c.server.status ≠ .unbound := by
      intro hunbound
      rw [Server.isOpen_of_unbound hunbound] at hopen
      cases hopen
    obtain ⟨u, hu, hstopped⟩ :=
      Server.wait_of_left (Server.isRunning_iff.mpr ⟨hbound, hrunning⟩) hopen
    exact ⟨_, u, rfl, Server.perform_wait_eq_some_iff.mpr hu, hstopped⟩

/-- A server is started, its one client sends a command and leaves before it is served, and a second
start is refused. -/
theorem run_lifecycle_served :
    let ops : List Operation := [.start .loopback, .connect,
      .receive (frame (Text.toBytes "?".toList)), .disconnect, .wait, .start .loopback]
    ∃ c : Course Unit, (begin {} Responder.default).run ops = some c ∧
      c.history = [.started (.ok (.v4 ⟨127, 0, 0, 1⟩ 49152)), .connected true, .done, .done,
        .awaited (.ok ()), .started (.error (.network .alreadyStarted))] ∧
      c.server.log.entries = ["?".toList] ∧ Lifecycle c := by
  intro ops
  have hrun : (begin {} Responder.default).run ops =
    some { server := { config := {}
                       phase := .stopped ((Connection.create Responder.default {}).run
                         (frame (Text.toBytes "?".toList))).responder
                       address := some (.v4 ⟨127, 0, 0, 1⟩ 49152) }
           history := [.started (.ok (.v4 ⟨127, 0, 0, 1⟩ 49152)), .connected true, .done, .done,
             .awaited (.ok ()), .started (.error (.network .alreadyStarted))] } := by
    rfl
  have hlog : ((Connection.create Responder.default {}).run
      (frame (Text.toBytes "?".toList))).responder.log.entries = ["?".toList] := by
    decide +kernel
  exact ⟨_, hrun, rfl, hlog, run_lifecycle hrun⟩

end Course

end RemoteStub
