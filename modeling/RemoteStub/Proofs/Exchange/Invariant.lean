import RemoteStub.Proofs.Exchange.Phase

/-!
# The invariant of an exchange

The bytes on their way, with what each side holds of them, encode the events of a phase
(`Synced`). Every move keeps this, for the calls that have returned by then
(`Invariant.step`), and so does every run (`Invariant.run`).
-/

namespace RemoteStub.Exchange

open Event (Acks acks_nil acks_singleton acks_append)
open Receiver (front parked Decodes)

variable {σ : Type}

/-- The bytes on their way and those that the two sides hold encode the events of a phase. -/
structure Synced (d : Direct σ) (x : Exchange σ) (P V : List Event) : Prop where
  returned : x.returned = d.returned
  phase : Phase d x.server x.waiting P V
  plainP : ∀ e ∈ P, e.Plain
  plainV : ∀ e ∈ V, e.Plain
  /-- An open server has handled all it could. -/
  server : x.server.failure = none → ∃ held, x.server.receiver = parked held ∧
    front held = .incomplete ∧ held ++ x.toServer = Event.encodeAll P
  chunk : 0 < x.server.chunkSize
  target : x.server.responder.target.HashFree
  sound : x.client.receiver.Sound
  client : x.client.held ++ x.toClient = Event.encodeAll V
  outbox : x.client.outbox = []
  ended : x.client.ended = true → x.server.failure.isSome

/-- A call that waits has taken all that has arrived, and more can come. -/
def Waits (x : Exchange σ) : Prop :=
  x.waiting.isSome → front x.client.held = .incomplete ∧ x.client.ended = false

/-! ## Calls -/

section

variable {d : Direct σ} {x : Exchange σ} {c : Call} {P V : List Event}

theorem toServer_send (h : x.client.outbox = []) (c : Call) :
    (x.send c).toServer = x.toServer ++ c.sends.encode := by
  simp [Exchange.send, post, Client.write, h, Call.written_eq]

theorem Synced.not_ended (h : Synced d x P V) (hs : x.server.failure = none) :
    x.client.ended = false := by
  cases he : x.client.ended with
  | false => rfl
  | true => simpa [hs] using h.ended he

theorem Synced.send {w : Option Call} (h : Synced d x P V) (hc : c.sends.Plain)
    (hphase : Phase d x.server w (P ++ [c.sends]) V) :
    Synced d { x.send c with waiting := w } (P ++ [c.sends]) V where
  returned := h.returned
  phase := hphase
  plainP := List.forall_mem_append.mpr ⟨h.plainP, List.forall_mem_singleton.mpr hc⟩
  plainV := h.plainV
  server := by
    intro hopen
    obtain ⟨held, hr, hi, heq⟩ := h.server hopen
    refine ⟨held, hr, hi, ?_⟩
    rw [Event.encodeAll_append, ← heq, List.append_assoc]
    simp [toServer_send h.outbox]
  chunk := h.chunk
  target := h.target
  sound := h.sound
  client := h.client
  outbox := rfl
  ended := h.ended

/-- A call has written, and waits if there is a reply to wait for. -/
def begin (x : Exchange σ) (c : Call) : Exchange σ :=
  { x.send c with waiting := c.command?.map fun _ => c }

theorem Synced.begin (h : Synced d x P V) (hw : x.waiting = none) (hplain : c.sends.Plain) :
    Synced d (x.begin c) (P ++ [c.sends]) V := by
  have hphase := hw ▸ h.phase
  refine h.send hplain ?_
  cases hc : c.command? with
  | none => simpa [Call.sends, hc] using hphase.sendAck
  | some t => exact hphase.request (by rw [hc]; rfl)

/-- A call returns with what it took from the client's side of the stream. -/
theorem Synced.finish (h : Synced d x P V) {client : Client} {outcome : Outcome}
    {acks later : List Event}
    (hreturned : (d.perform c).returned = d.returned ++ [(c, outcome)])
    (hphase : Phase (d.perform c) x.server none (P ++ acks) later) (hacks : Acks acks)
    (hlater : ∀ e ∈ later, e.Plain) (hsound : client.receiver.Sound)
    (hheld : client.held ++ x.toClient = Event.encodeAll later)
    (hended : client.ended = x.client.ended) (houtbox : client.outbox = Event.encodeAll acks) :
    Synced (d.perform c) (x.finish client c outcome) (P ++ acks) later where
  returned := by rw [hreturned, ← h.returned]; rfl
  phase := hphase
  plainP := List.forall_mem_append.mpr ⟨h.plainP, hacks.plain⟩
  plainV := hlater
  server := by
    intro hopen
    obtain ⟨held, hr, hi, heq⟩ := h.server hopen
    refine ⟨held, hr, hi, ?_⟩
    rw [Event.encodeAll_append, ← heq, ← houtbox, List.append_assoc]
    rfl
  chunk := h.chunk
  target := h.target
  sound := hsound
  client := hheld
  outbox := rfl
  ended := fun he => h.ended (hended ▸ he)

/-- A call that only sends has nothing to take. -/
theorem Synced.attempt_sendAck (h : Synced d x P V) (hw : x.waiting = none)
    (hc : c.command? = none) : Synced (d.perform c) (x.attempt c) P V := by
  obtain rfl := Call.eq_sendAck hc
  have hphase := (hw ▸ h.phase).perform hc
  rw [← List.append_nil P] at hphase ⊢
  exact h.finish rfl hphase acks_nil h.plainV h.sound h.client rfl h.outbox

/-- The call that waits has taken acknowledgements, and waits for more. -/
theorem Synced.wait (h : Synced d x P V) (hw : x.waiting = some c) {client : Client}
    {es later : List Event} (hes : Acks es) (hV : V = es ++ later) {rest : Bytes}
    (hl : x.client.Leaves client rest) (hrest : rest ++ x.toClient = Event.encodeAll later) :
    Synced d { x with client, waiting := some c } P later where
  returned := h.returned
  phase := Phase.drop (hV ▸ hw ▸ h.phase) hes
  plainP := h.plainP
  plainV := fun e he => h.plainV e (hV ▸ List.mem_append_right _ he)
  server := h.server
  chunk := h.chunk
  target := h.target
  sound := hl.sound
  client := hl.held ▸ hrest
  outbox := hl.outbox.trans h.outbox
  ended := fun he => h.ended (hl.ended ▸ he)

/-- What became of a call: it has returned as it does when it is put to the responder, or it waits. -/
inductive Attempted (d : Direct σ) (c : Call) (y : Exchange σ) : Prop
  | returned {P V : List Event} (h : Synced (d.perform c) y P V) (hw : y.waiting = none)
  | waits {P V : List Event} (h : Synced d y P V) (hw : y.waiting = some c)
      (hi : front y.client.held = .incomplete) (he : y.client.ended = false)

/-- A call that finds only acknowledgements waits, while the server has not ended the stream. -/
theorem Synced.attempt_waits (h : Synced d x P V) (hw : x.waiting = some c)
    (hc : c.command?.isSome) {es later : List Event} (hes : Acks es) (hV : V = es ++ later)
    {rest : Bytes} (hdec : Decodes x.client.held es rest) (hi : front rest = .incomplete)
    (hrest : rest ++ x.toClient = Event.encodeAll later) (he : x.client.ended = false) :
    Attempted d c (x.attempt c) := by
  obtain ⟨client, htake, hl⟩ := Client.take_of_incomplete h.sound hc hes hdec hi
  rw [he] at htake
  have hattempt : x.attempt c = { x with client, waiting := some c } := by
    rw [attempt, htake]
    rfl
  rw [hattempt]
  exact .waits (h.wait hw hes hV hl hrest) rfl (hl.held ▸ hi) (hl.ended.trans he)

/-- A call that finds only acknowledgements before the end of the stream fails. -/
theorem Synced.attempt_fails (h : Synced d x P V) (hc : c.command?.isSome) {es later : List Event}
    (hes : Acks es) (hlater : Acks later) {rest : Bytes}
    (hdec : Decodes x.client.held es rest) (hi : front rest = .incomplete)
    (hrest : rest ++ x.toClient = Event.encodeAll later) (he : x.client.ended = true)
    (hd : (d.perform c).refused = true) (hr : x.server.responder = (d.perform c).responder) :
    Attempted d c (x.attempt c) := by
  obtain ⟨client, htake, hl⟩ := Client.take_of_incomplete h.sound hc hes hdec hi
  rw [he] at htake
  have hattempt : x.attempt c = x.finish client c (.error (.io .closed)) := by
    rw [attempt, htake]
    rfl
  rw [hattempt]
  refine .returned (P := P ++ []) (V := later) (h.finish ?_ ?_ acks_nil ?_ hl.sound ?_ hl.ended ?_) rfl
  · exact Direct.returned_of_refused hc hd
  · exact .closed nofun (h.ended he) hd hr hlater
  · exact hlater.plain
  · exact hl.held ▸ hrest
  · exact hl.outbox.trans h.outbox

theorem Synced.attempt_returns (h : Synced d x [] V) (hc : c.command?.isSome)
    {es : List Event} {p : Packet} (hes : Acks es) {rest : Bytes}
    (hdec : Decodes x.client.held (es ++ [.packet p]) rest) (hrest : rest ++ x.toClient = [])
    (hs : x.server.failure = none) (hd : d.refused = false)
    (hp : d.perform c =
      { d with responder := x.server.responder }.finish c (.ok (.reply p.text))) :
    Attempted d c (x.attempt c) := by
  obtain ⟨client, htake, hsound, hheld, hended, hout⟩ :=
    Client.take_of_packet h.sound hc hes hdec
  have hattempt : x.attempt c = x.finish client c (.ok (.reply p.text)) := by
    rw [attempt, htake]
  rw [h.outbox] at hout
  rw [hattempt]
  refine .returned (P := [] ++ if x.client.ackMode then [.ack] else []) (V := [])
    (h.finish ?_ ?_ ?_ nofun hsound ?_ hended ?_) rfl
  · rw [hp]
    rfl
  · have hacks : Acks ([] ++ if x.client.ackMode then [.ack] else []) := by
      cases x.client.ackMode with
      | true => exact acks_singleton
      | false => exact acks_nil
    rw [hp]
    exact .quiet hs hd rfl hacks acks_nil
  · cases x.client.ackMode with
    | true => exact acks_singleton
    | false => exact acks_nil
  · rw [hheld, hrest]
    rfl
  · rw [hout]
    cases x.client.ackMode with
    | true => rfl
    | false => rfl

/-- **A call that goes on returns the right reply, or waits.** -/
theorem Synced.attempt (h : Synced d x P V) (hw : x.waiting = some c) :
    Attempted d c (x.attempt c) := by
  obtain ⟨es, rest, later, hdec, hi, hV, hrest⟩ :=
    Receiver.exists_decodes_of_encodeAll h.plainV h.client
  have hphase := hw ▸ h.phase
  cases hphase with
  | asked hc hs _ _ _ hacks =>
    have hes := (acks_append.mp (hV ▸ hacks)).1
    exact h.attempt_waits hw hc hes hV hdec hi hrest (h.not_ended hs)
  | closed hc hs hd hr hacks =>
    obtain ⟨hes, hlater⟩ := acks_append.mp (hV ▸ hacks)
    cases he : x.client.ended with
    | false => exact h.attempt_waits hw (hc c rfl) hes hV hdec hi hrest he
    | true => exact h.attempt_fails (hc c rfl) hes hlater hdec hi hrest he hd hr
  | @answered _ p V hc hs hd hp hacks =>
    rcases List.eq_nil_or_concat later with rfl | ⟨later, e, rfl⟩
    · rw [List.append_nil] at hV
      subst hV
      exact h.attempt_returns hc hacks hdec hrest hs hd hp
    · -- the reply is still on its way
      rw [List.concat_eq_append] at hV hrest
      have hV' := hV
      rw [← List.append_assoc] at hV'
      obtain ⟨rfl, -⟩ := List.append_inj' hV' rfl
      have hes := (acks_append.mp hacks).1
      exact h.attempt_waits hw hc hes hV hdec hi hrest (h.not_ended hs)

/-! ## Moves of the network -/

theorem Synced.serve (h : Synced d x P V) (n : Nat) :
    ∃ P' V', Synced d (x.serve n) P' V' := by
  cases hs : x.server.failure with
  | some e =>
    -- a closed server takes the bytes and sends nothing
    have hsome : x.server.failure.isSome := by rw [hs]; rfl
    have hrun := Connection.run_of_failure hsome h.chunk (x.toServer.take n)
    have hserve : x.serve n = { x with toServer := x.toServer.drop n } := by
      simp [Exchange.serve, Peer.accept, hrun]
    rw [hserve]
    refine ⟨P, V, { h with server := fun hopen => ?_ }⟩
    rw [show x.server.failure = none from hopen] at hsome
    cases hsome
  | none =>
    -- the server handles what the next bytes complete, and the rest is still to come
    have hopen := h.not_ended hs
    obtain ⟨held, hr, hi, heq⟩ := h.server hs
    rw [← List.take_append_drop n x.toServer] at heq
    obtain ⟨es, later, rest, rfl, hsent, hresp, hfail, hrest⟩ :=
      Connection.run_part hs h.chunk hr hi h.plainP heq
    obtain ⟨new, hnew, hplain, htarget, hphase⟩ := h.phase.foldl_handle h.target
    refine ⟨later, V ++ new, ?_⟩
    have hbytes : (x.serve n).toClient = x.toClient ++ Event.encodeAll new := by
      simp [Exchange.serve, Peer.accept, hsent, hnew]
    exact
      { returned := h.returned
        phase := hphase.congr hfail hresp
        plainP := fun e he => h.plainP e (List.mem_append_right _ he)
        plainV := List.forall_mem_append.mpr ⟨h.plainV, hplain⟩
        server := fun hopen => ⟨rest, hrest hopen⟩
        chunk := by
          show 0 < (x.server.run _).chunkSize
          rw [Connection.chunkSize_run]
          exact h.chunk
        target := by
          show (x.server.run _).responder.target.HashFree
          rw [hresp, htarget]
          exact h.target
        sound := h.sound
        client := by
          rw [hbytes, Event.encodeAll_append, ← h.client]
          exact (List.append_assoc _ _ _).symm
        outbox := h.outbox
        ended := by
          intro he
          rw [show x.client.ended = true from he] at hopen
          cases hopen }

theorem Synced.deliver (h : Synced d x P V) (n : Nat) : Synced d (x.deliver n) P V where
  returned := h.returned
  phase := h.phase
  plainP := h.plainP
  plainV := h.plainV
  server := h.server
  chunk := h.chunk
  target := h.target
  sound := h.sound
  client := by
    have hheld : (x.deliver n).client.held = x.client.held ++ x.toClient.take n :=
      Client.held_deliver x.client (x.toClient.take n) false
    rw [hheld, ← h.client, List.append_assoc]
    congr 1
    exact List.take_append_drop n x.toClient
  outbox := h.outbox
  ended := fun he => h.ended (by simpa [Exchange.deliver, Client.deliver] using he)

theorem Synced.hangUp (h : Synced d x P V) (hs : x.server.failure.isSome) :
    Synced d x.hangUp P V where
  returned := h.returned
  phase := h.phase
  plainP := h.plainP
  plainV := h.plainV
  server := h.server
  chunk := h.chunk
  target := h.target
  sound := h.sound
  client := by
    have hheld : x.hangUp.client.held = x.client.held ++ [] := Client.held_deliver x.client [] true
    rw [hheld, List.append_nil]
    exact h.client
  outbox := h.outbox
  ended := fun _ => hs

end

/-! ## Every move -/

/-- The calls that have returned did so as if they were put to the responder, and the exchange is
in a phase for them. -/
def Invariant (r : Responder σ) (calls : List Call) (x : Exchange σ) : Prop :=
  ∃ done P V, done ++ x.waiting.toList ++ x.calls = calls ∧ Synced (direct r done) x P V ∧ Waits x

variable {r : Responder σ} {calls : List Call} {x y : Exchange σ}

theorem Attempted.invariant {done : List Call} {c : Call} (h : Attempted (direct r done) c y)
    (hcalls : done ++ c :: y.calls = calls) : Invariant r calls y := by
  cases h with
  | @returned P V h hw =>
    refine ⟨done ++ [c], P, V, ?_, direct_append r done c ▸ h, ?_⟩
    · rw [hw, ← hcalls]
      simp
    · intro hx
      rw [hw] at hx
      cases hx
  | @waits P V h hw hi he =>
    refine ⟨done, P, V, ?_, h, fun _ => ⟨hi, he⟩⟩
    rw [hw, ← hcalls]
    simp

theorem calls_attempt (x : Exchange σ) (c : Call) : (x.attempt c).calls = x.calls := by
  unfold Exchange.attempt
  split <;> rfl

theorem Invariant.resume {done : List Call} {P V : List Event}
    (hcalls : done ++ x.waiting.toList ++ x.calls = calls) (h : Synced (direct r done) x P V) :
    Invariant r calls x.resume := by
  unfold Exchange.resume
  cases hw : x.waiting with
  | none =>
    refine ⟨done, P, V, hcalls, h, fun hx => ?_⟩
    rw [hw] at hx
    cases hx
  | some c =>
    rw [hw] at hcalls
    refine (h.attempt hw).invariant ?_
    rw [calls_attempt, ← hcalls]
    simp

theorem Invariant.call {c : Call} {later : List Call} (h : Invariant r calls x)
    (hplain : c.sends.Plain) (hw : x.waiting = none) (hc : x.calls = c :: later) :
    Invariant r calls (({ x with calls := later }.send c).attempt c) := by
  obtain ⟨done, P, V, hcalls, hs, -⟩ := h
  rw [hw, hc] at hcalls
  have hs' : Synced (direct r done) { x with calls := later } P V := { hs with }
  have hbegun := hs'.begin hw hplain
  have hattempted : Attempted (direct r done) c (({ x with calls := later }.send c).attempt c) := by
    cases hx : c.command? with
    | none =>
      obtain rfl := Call.eq_sendAck hx
      exact .returned (hbegun.attempt_sendAck rfl rfl) rfl
    | some t => exact hbegun.attempt (by simp [Exchange.begin, hx])
  refine hattempted.invariant ?_
  rw [calls_attempt, ← hcalls]
  simp [Exchange.send, post]

/-- **Every move keeps the invariant.** -/
theorem Invariant.step (h : Invariant r calls x) (hplain : ∀ c ∈ calls, c.sends.Plain) {m : Move}
    (hm : x.step? m = some y) : Invariant r calls y := by
  cases m with
  | call =>
    simp only [step?] at hm
    split at hm
    · next c later hw hc =>
      cases hm
      refine h.call (hplain c ?_) hw hc
      obtain ⟨done, -, -, hcalls, -⟩ := h
      rw [← hcalls, hc]
      simp
    · cases hm
  | serve n =>
    obtain ⟨hn, rfl⟩ := Option.ite_some_none_eq_some.mp hm
    obtain ⟨done, P, V, hcalls, hs, hw⟩ := h
    obtain ⟨P', V', hs'⟩ := hs.serve n
    exact ⟨done, P', V', hcalls, hs', hw⟩
  | deliver n =>
    obtain ⟨hn, rfl⟩ := Option.ite_some_none_eq_some.mp hm
    obtain ⟨done, P, V, hcalls, hs, -⟩ := h
    exact Invariant.resume hcalls (hs.deliver n)
  | hangUp =>
    obtain ⟨hn, rfl⟩ := Option.ite_some_none_eq_some.mp hm
    obtain ⟨done, P, V, hcalls, hs, -⟩ := h
    exact Invariant.resume hcalls (hs.hangUp hn.1)

/-- What every move keeps is kept by every run. -/
theorem run_induction {p : Exchange σ → Prop}
    (hstep : ∀ (m : Move) (x y : Exchange σ), p x → x.step? m = some y → p y) {moves : List Move}
    (h : p x) (hm : x.run moves = some y) : p y := by
  induction moves generalizing x with
  | nil =>
    cases hm
    exact h
  | cons m moves ih =>
    rw [Exchange.run, List.foldlM_cons, Option.bind_eq_bind, Option.bind_eq_some_iff] at hm
    obtain ⟨z, hz, hm⟩ := hm
    exact ih (hstep m x z h hz) hm

theorem Invariant.run (h : Invariant r calls x) (hplain : ∀ c ∈ calls, c.sends.Plain)
    {moves : List Move} (hm : x.run moves = some y) : Invariant r calls y :=
  run_induction (fun _ _ _ h hm => h.step hplain hm) h hm

theorem invariant_start (ht : r.target.HashFree) {config : Config}
    (hc : 1 ≤ config.recvChunkSize) (calls : List Call) :
    Invariant r calls (start r config calls) := by
  refine ⟨[], [], [], rfl, ?_, nofun⟩
  exact
    { returned := rfl
      phase := .quiet rfl rfl rfl acks_nil acks_nil
      plainP := nofun
      plainV := nofun
      server := fun _ => ⟨[], rfl, rfl, rfl⟩
      chunk := UInt64.le_iff_toNat_le.mp hc
      target := ht
      sound := Receiver.sound_of_pending []
      client := rfl
      outbox := rfl
      ended := nofun }

end RemoteStub.Exchange
