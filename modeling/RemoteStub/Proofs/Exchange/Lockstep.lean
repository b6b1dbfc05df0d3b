import RemoteStub.Server
import RemoteStub.Proofs.Connection.Session
import RemoteStub.Proofs.Exchange.Replies

/-!
# Links to a server

Over a link all that is written is answered before anything is read. So a link is an
exchange whose channels are emptied at every turn (`Mirrors`), and a call over a link
returns what it returns when it is put to the responder (`Tracks.perform`).
-/

namespace RemoteStub

variable {σ : Type}

theorem Connection.responder_phase (c : Connection σ) (left : Bool) :
    (c.phase left).responder = c.responder := by
  unfold phase
  split <;> rfl

theorem Connection.phase_of_open {c : Connection σ} (h : c.failure = none) :
    c.phase false = .serving c := by
  rw [phase, h]
  rfl

theorem Connection.phase_of_failure {c : Connection σ} (h : c.failure.isSome) (left : Bool) :
    c.phase left = .served c.responder := by
  rw [phase, h, Bool.or_true]
  rfl

namespace Exchange

/-! ## Emptied channels -/

/-- Everything on its way arrives, and so does the end of the stream if the server has closed. -/
def settle (x : Exchange σ) : Exchange σ :=
  let y := x.serve x.toServer.length
  let z := y.deliver y.toClient.length
  if z.server.failure.isSome then z.hangUp else z

theorem settle_eq (x : Exchange σ) : x.settle =
    { x with
      server := x.server.run x.toServer
      client := x.client.deliver (x.toClient ++ (Peer.accept x.server x.toServer).bytes)
        (x.server.run x.toServer).failure.isSome
      toServer := []
      toClient := [] } := by
  have hserver : (x.serve x.toServer.length).server = x.server.run x.toServer := by
    simp [serve, Peer.accept]
  have hbytes : (x.serve x.toServer.length).toClient =
      x.toClient ++ (Peer.accept x.server x.toServer).bytes := by
    simp [serve]
  have hts : (x.serve x.toServer.length).toServer = [] := by simp [serve]
  unfold settle
  simp only [deliver, hbytes, hserver, hts, List.take_length, List.drop_length]
  cases hf : (x.server.run x.toServer).failure with
  | none => rfl
  | some e => simp [hangUp, Client.deliver, serve]

variable {x : Exchange σ} {d : Direct σ} {P V : List Event}

theorem Synced.settle (h : Synced d x P V) : ∃ P V, Synced d x.settle P V := by
  obtain ⟨P', V', hserve⟩ := h.serve x.toServer.length
  have hdeliver := hserve.deliver (x.serve x.toServer.length).toClient.length
  refine ⟨P', V', ?_⟩
  unfold Exchange.settle
  dsimp only
  split
  · next hf => exact hdeliver.hangUp hf
  · exact hdeliver

/-- Nothing is on its way, and the client knows it if the server has closed. -/
structure Still (x : Exchange σ) : Prop where
  toServer : x.toServer = []
  toClient : x.toClient = []
  ended : x.server.failure.isSome → x.client.ended = true

theorem still_settle (x : Exchange σ) : x.settle.Still := by
  rw [settle_eq]
  refine ⟨rfl, rfl, ?_⟩
  intro hf
  simp [Client.deliver, hf]

/-- The outcome of an attempt is what the client takes. -/
theorem attempt_returned {c : Call} (h : (x.attempt c).waiting = none) :
    ∃ outcome client, x.client.take c.step = (outcome.mapError .error, client) ∧
      x.attempt c = x.finish client c outcome := by
  unfold attempt at h ⊢
  match ht : x.client.take c.step with
  | (.ok result, client) => exact ⟨.ok result, client, rfl, rfl⟩
  | (.error (.error e), client) => exact ⟨.error e, client, rfl, rfl⟩
  | (.error .waiting, client) =>
    rw [ht] at h
    cases h

theorem server_attempt (x : Exchange σ) (c : Call) : (x.attempt c).server = x.server := by
  unfold attempt
  split <;> rfl

/-- A call does not wait where nothing more can come: it would wait for bytes that are on their way,
or for the end of the stream. -/
theorem Synced.attempt_still {c : Call} (h : Synced d x P V) (hw : x.waiting = some c)
    (hx : x.Still) : ∃ P V, Synced (d.perform c) (x.attempt c) P V ∧ (x.attempt c).waiting = none := by
  cases h.attempt hw with
  | returned h hw => exact ⟨_, _, h, hw⟩
  | waits h hw hi he =>
    rcases attempt_cases x c with hnone | ⟨-, hs, hc, hended⟩
    · rw [hw] at hnone
      cases hnone
    · obtain ⟨hf, -⟩ :=
        h.moves hw (fun _ => ⟨hi, he⟩) (hs.trans hx.toServer) (hc.trans hx.toClient)
      rw [server_attempt] at hf
      rw [hended, hx.ended hf] at he
      cases he

theorem waiting_settle (x : Exchange σ) : x.settle.waiting = x.waiting := by
  rw [settle_eq]

theorem Synced.attempt_begin {c : Call} (h : Synced d x P V) (hw : x.waiting = none)
    (hplain : c.sends.Plain) :
    ∃ P V, Synced (d.perform c) ((x.begin c).settle.attempt c) P V ∧
      ((x.begin c).settle.attempt c).waiting = none := by
  obtain ⟨P', V', hs⟩ := (h.begin hw hplain).settle
  have hwaiting : (x.begin c).settle.waiting = c.command?.map fun _ => c := waiting_settle _
  cases hc : c.command? with
  | none =>
    rw [hc] at hwaiting
    obtain rfl := Call.eq_sendAck hc
    exact ⟨P', V', hs.attempt_sendAck hwaiting hc, rfl⟩
  | some t =>
    rw [hc] at hwaiting
    exact hs.attempt_still hwaiting (still_settle _)

end Exchange

namespace Link

open Exchange
open Event (Acks acks_nil acks_singleton)

variable {l : Link (Server σ)} {x : Exchange σ} {d : Direct σ}

/-! ## The two sides of a link -/

/-- The two sides of a link are those of an exchange, and what is on its way is what the client is
about to send. -/
structure Mirrors (l : Link (Server σ)) (x : Exchange σ) : Prop where
  client : { l.client with outbox := [] } = x.client
  toServer : l.client.outbox = x.toServer
  toClient : x.toClient = []
  phase : l.peer.phase = x.server.phase false

theorem receive_of_phase {s : Server σ} {c : Connection σ} (hs : s.phase = c.phase false)
    (hc : 0 < c.chunkSize) (data : Bytes) :
    (s.receive data).peer.phase = (c.run data).phase false ∧
      (s.receive data).bytes = (Peer.accept c data).bytes ∧
      (s.receive data).ended = (c.run data).failure.isSome := by
  unfold Server.receive
  rw [hs]
  cases hf : c.failure with
  | none =>
    rw [Connection.phase_of_open hf]
    exact ⟨rfl, rfl, rfl⟩
  | some e =>
    have hphase := Connection.phase_of_failure (c := c) (by simp [hf]) false
    have hrun := Connection.run_of_failure (s := c) (by simp [hf]) hc data
    rw [hphase]
    refine ⟨?_, ?_, ?_⟩
    · rw [hrun, hphase, hs, hphase]
    · simp [Peer.accept, hrun]
    · simp [hrun, hf]

theorem Mirrors.flush (h : Mirrors l x) (hc : 0 < x.server.chunkSize) :
    Mirrors l.flush x.settle := by
  obtain ⟨hphase, hbytes, hended⟩ := receive_of_phase h.phase hc l.client.outbox
  rw [settle_eq, ← h.toServer, ← h.client, h.toClient, List.nil_append]
  refine ⟨?_, rfl, rfl, hphase⟩
  simp only [Link.flush, Client.deliver, Peer.accept, hbytes, hended]

theorem Mirrors.begin (h : Mirrors l x) (c : Call) :
    Mirrors { l with client := l.client.write c.step.written } (x.begin c) where
  client := by
    rw [Exchange.begin, Exchange.send, post, ← h.client]
    rfl
  toServer := by
    simp [Exchange.begin, Exchange.send, post, ← h.client, ← h.toServer, Client.write]
  toClient := h.toClient
  phase := h.phase

theorem Mirrors.finish (h : Mirrors l x) (hx : x.toServer = []) (client : Client) (c : Call)
    (outcome : Outcome) : Mirrors { l with client } (x.finish client c outcome) where
  client := rfl
  toServer := by simp [Exchange.finish, post, hx]
  toClient := h.toClient
  phase := h.phase

theorem Mirrors.client_eq (h : Mirrors l x) (houtbox : l.client.outbox = []) :
    l.client = x.client := by
  rw [← h.client, ← houtbox]

/-! ## What is sent -/

theorem text?_sends (c : Call) : c.sends.text? = c.command? := by
  unfold Call.sends
  cases c.command? with
  | none => rfl
  | some t => exact congrArg some (Text.ofBytes_toBytes t)

theorem text?_acks {acks : List Event} (h : Acks acks) : acks.filterMap Event.text? = [] := by
  rw [List.filterMap_eq_nil_iff]
  intro e he
  rw [h e he]
  rfl

theorem outbox_take {c : Client} (h : c.outbox = []) (call : Call) :
    ∃ acks, Acks acks ∧ (c.take call.step).2.outbox = Event.encodeAll acks := by
  have ht := Client.takes c call
  generalize (c.take call.step).1 = result, (c.take call.step).2 = d at ht
  cases ht with
  | sent => exact ⟨[], acks_nil, h⟩
  | failed _ _ hd => exact ⟨[], acks_nil, hd.outbox.trans h⟩
  | reply _ _ _ _ houtbox =>
    rw [houtbox, h]
    cases c.ackMode with
    | true => exact ⟨[.ack], acks_singleton, rfl⟩
    | false => exact ⟨[], acks_nil, rfl⟩

/-- What was sent is acknowledgements and packets, and these texts are in the packets. -/
def Sent (l : Link (Server σ)) (texts : List Text) : Prop :=
  ∃ es, l.sent = Event.encodeAll es ∧ (∀ e ∈ es, e.Plain) ∧ es.filterMap Event.text? = texts

theorem Sent.perform {texts : List Text} {c : Call} (h : Sent l texts) (houtbox : l.client.outbox = [])
    (hplain : c.sends.Plain) : Sent (l.perform c.step).2 (texts ++ c.command?.toList) := by
  obtain ⟨es, hsent, hes, htexts⟩ := h
  let begun := { l with client := l.client.write c.step.written }.flush
  obtain ⟨acks, hacks, hout⟩ := outbox_take (c := begun.client) rfl c
  refine ⟨es ++ (c.sends :: acks), ?_, ?_, ?_⟩
  · have hperform : (l.perform c.step).2.sent = begun.sent ++ (begun.client.take c.step).2.outbox := rfl
    have hbegun : begun.sent = l.sent ++ c.sends.encode := by
      simp [begun, Link.flush, Client.write, houtbox, Call.written_eq]
    rw [hperform, hbegun, hout, hsent, Event.encodeAll_append, Event.encodeAll_cons, List.append_assoc]
  · exact List.forall_mem_append.mpr ⟨hes, List.forall_mem_cons.mpr ⟨hplain, hacks.plain⟩⟩
  · rw [List.filterMap_append, htexts]
    cases hc : c.command? <;> simp [text?_sends, text?_acks hacks, hc]

/-! ## Calls over a link -/

/-- The calls so far lead to `d`, and the commands that were sent are theirs. -/
structure Tracks (d : Direct σ) (l : Link (Server σ)) : Prop where
  synced : ∃ x P V, Mirrors l x ∧ Synced d x P V ∧ x.waiting = none
  outbox : l.client.outbox = []
  sent : Sent l (d.returned.filterMap fun p => p.1.command?)

theorem tracks_start {r : Responder σ} {config : Config} (ht : r.target.HashFree)
    (hc : 1 ≤ config.recvChunkSize) {s : Server σ} (hs : s.phase = .serving (.create r config)) :
    Tracks { responder := r } ({ peer := s } : Link (Server σ)) := by
  obtain ⟨done, P, V, hdone, hsynced, -⟩ := invariant_start ht hc []
  obtain ⟨rfl, -⟩ : done = [] ∧ _ := by simpa using hdone
  have hmirrors : Mirrors ({ peer := s } : Link (Server σ)) (start r config []) := ⟨rfl, rfl, rfl, hs⟩
  exact ⟨⟨_, P, V, hmirrors, hsynced, rfl⟩, rfl, [], rfl, nofun, rfl⟩

theorem Tracks.responder_eq (h : Tracks d l) : l.peer.phase.responder = d.responder := by
  obtain ⟨x, P, V, hm, hs, hw⟩ := h.synced
  rw [hm.phase, Connection.responder_phase, hs.responder_eq hw]

/-- **A call over a link returns what it returns when it is put to the responder.** -/
theorem Tracks.perform {c : Call} (h : Tracks d l) (hplain : c.sends.Plain) :
    ∃ outcome, (l.perform c.step).1 = outcome.mapError .error ∧
      (d.perform c).returned = d.returned ++ [(c, outcome)] ∧
      Tracks (d.perform c) (l.perform c.step).2 := by
  obtain ⟨⟨x, P, V, hm, hs, hw⟩, houtbox, hsent⟩ := h
  have hbegun := (hm.begin c).flush (hs.begin hw hplain).chunk
  obtain ⟨P', V', hs', hw'⟩ := hs.attempt_begin hw hplain
  obtain ⟨outcome, client, htake, hattempt⟩ := attempt_returned hw'
  rw [hattempt] at hs'
  obtain ⟨P'', V'', hs''⟩ := hs'.settle
  have hreturned : (d.perform c).returned = d.returned ++ [(c, outcome)] := by
    rw [← hs'.returned, ← hs.returned]
    simp [Exchange.finish, post, settle_eq, Exchange.begin, Exchange.send]
  have hperform : l.perform c.step =
      (outcome.mapError .error,
        { { l with client := l.client.write c.step.written }.flush with client }.flush) := by
    rw [← hbegun.client_eq rfl] at htake
    simp only [Link.perform, htake]
  have hsent' := hsent.perform houtbox hplain
  refine ⟨outcome, by rw [hperform], hreturned, ?_, by rw [hperform]; rfl, ?_⟩
  · rw [hperform]
    have hfinish := hbegun.finish (still_settle _).toServer client c outcome
    exact ⟨_, P'', V'', hfinish.flush hs'.chunk, hs'', waiting_settle _⟩
  · rw [hreturned, List.filterMap_append]
    cases hc : c.command? <;> simpa [hc] using hsent'

end Link

end RemoteStub
