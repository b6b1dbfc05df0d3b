import RemoteStub.Proofs.Exchange.Replies
import RemoteStub.Proofs.Exchange.Sendings

/-!
# Agreement on acknowledgements

All that a client has sent has arrived or is on its way (`Streamed`). So once it has been
handled and no call waits, the two sides agree on whether replies are acknowledged, and
none of the client's acknowledgements for replies was answered (`run_agreed`).
-/

namespace RemoteStub.Exchange

open Receiver (exists_decodes_of_encodeAll eq_nil_of_front_encodeAll)

variable {σ : Type} {r : Responder σ} {config : Config} {x y : Exchange σ} {c : Call}
  {calls : List Call}

def sendings (x : Exchange σ) : List Sending :=
  sendingsOf true (x.returned.map Prod.fst) ++ x.waiting.toList.map Call.opening

/-- What the client has sent has arrived or is on its way, and the calls that returned tell whether
it still acknowledges replies. -/
structure Streamed (r : Responder σ) (config : Config) (x : Exchange σ) : Prop where
  bytes : ∃ arrived, x.server = (Connection.create r config).receive arrived ∧
    arrived ++ x.toServer = Event.encodeAll (x.sendings.map Sending.event)
  ackMode : x.client.ackMode = acksAfter (x.returned.map Prod.fst)
  outbox : x.client.outbox = []

theorem streamed_start (calls : List Call) : Streamed r config (start r config calls) where
  bytes := ⟨[], (Connection.settled_create r config).2.symm, rfl⟩
  ackMode := rfl
  outbox := rfl

/-! ## Calls -/

theorem Streamed.send (h : Streamed r config x) (hw : x.waiting = none) (c : Call) :
    Streamed r config { x.send c with waiting := some c } where
  bytes := by
    obtain ⟨arrived, hserver, hbytes⟩ := h.bytes
    refine ⟨arrived, hserver, ?_⟩
    have hsendings : sendings { x.send c with waiting := some c } = x.sendings ++ [c.opening] := by
      simp [sendings, hw, Exchange.send, post]
    show arrived ++ (x.send c).toServer = _
    rw [hsendings, toServer_send h.outbox, ← List.append_assoc, hbytes]
    simp [Call.event_opening]
  ackMode := h.ackMode
  outbox := rfl

theorem Streamed.finish (h : Streamed r config x) (hw : x.waiting = some c) {client : Client}
    {outcome : Outcome} (hack : client.ackMode = (x.client.ackMode && c ≠ .startNoAckMode))
    (houtbox : client.outbox =
      Event.encodeAll ((c.receipts x.client.ackMode).map Sending.event)) :
    Streamed r config (x.finish client c outcome) where
  bytes := by
    obtain ⟨arrived, hserver, hbytes⟩ := h.bytes
    refine ⟨arrived, hserver, ?_⟩
    have hsendings : (x.finish client c outcome).sendings =
        x.sendings ++ c.receipts x.client.ackMode := by
      simp [sendings, hw, Exchange.finish, post, sendingsOf_concat, h.ackMode]
    show arrived ++ (x.toServer ++ client.outbox) = _
    rw [hsendings, ← List.append_assoc, hbytes, houtbox]
    simp
  ackMode := by
    show client.ackMode = acksAfter ((x.returned ++ [(c, outcome)]).map Prod.fst)
    rw [List.map_append, List.map_singleton, acksAfter_concat, hack, h.ackMode]
  outbox := rfl

theorem Streamed.wait (h : Streamed r config x) (hw : x.waiting = some c) {client : Client}
    (hk : x.client.Keeps client) : Streamed r config { x with client, waiting := some c } where
  bytes := by
    obtain ⟨arrived, hserver, hbytes⟩ := h.bytes
    refine ⟨arrived, hserver, ?_⟩
    rw [hbytes, sendings, sendings, hw]
  ackMode := hk.ackMode.trans h.ackMode
  outbox := hk.outbox.trans h.outbox

theorem Streamed.attempt (h : Streamed r config x) (hw : x.waiting = some c)
    (hgranted : ∀ p ∈ (x.attempt c).returned, p.1.Granted p.2) :
    Streamed r config (x.attempt c) := by
  have ht := Client.takes x.client c
  unfold Exchange.attempt at hgranted ⊢
  generalize x.client.take c.step = taken at hgranted ht ⊢
  obtain ⟨result, client⟩ := taken
  have hlast : ∀ {outcome : Outcome},
      (c, outcome) ∈ (x.finish client c outcome).returned := by
    intro outcome
    exact List.mem_append_right _ List.mem_cons_self
  cases ht with
  | sent hc =>
    have hne : c ≠ .startNoAckMode := by
      rintro rfl
      cases hc
    refine h.finish hw ?_ ?_
    · simp [hne]
    · simp [h.outbox, Call.receipts, hc]
  | reply hc t hack _ houtbox =>
    refine h.finish hw ?_ ?_
    · -- a reply that grants the end of acknowledgements ends them here too
      obtain ⟨result, hresult, hok⟩ := hgranted _ hlast
      cases hresult
      by_cases hne : c = .startNoAckMode
      · cases hok hne
        simpa [hne] using hack
      · simpa [hne] using hack
    · rw [houtbox, h.outbox]
      cases x.client.ackMode with
      | true => simp [Call.receipts, hc, Sending.event, Event.encode]
      | false => simp [Call.receipts]
  | failed hc f hk =>
    cases f with
    | error e =>
      obtain ⟨result, hresult, -⟩ := hgranted _ hlast
      cases hresult
    | waiting => exact h.wait hw hk

theorem Streamed.resume (h : Streamed r config x)
    (hgranted : ∀ p ∈ x.resume.returned, p.1.Granted p.2) : Streamed r config x.resume := by
  unfold Exchange.resume at hgranted ⊢
  cases hw : x.waiting with
  | none => exact h
  | some c =>
    rw [hw] at hgranted
    exact h.attempt hw hgranted

/-! ## Every move -/

theorem Streamed.serve (h : Streamed r config x) (hc : 1 ≤ config.recvChunkSize) (n : Nat) :
    Streamed r config (x.serve n) where
  bytes := by
    obtain ⟨arrived, hserver, hbytes⟩ := h.bytes
    have hready := (Connection.settled_create r config).1
    refine ⟨arrived ++ x.toServer.take n, ?_, ?_⟩
    · show x.server.run (x.toServer.take n) = _
      rw [hserver, (hready.settled_receive arrived).run_eq, Connection.receive_receive hready]
      rw [Connection.chunkSize_receive]
      exact UInt64.le_iff_toNat_le.mp hc
    · show arrived ++ x.toServer.take n ++ x.toServer.drop n = _
      rw [List.append_assoc, List.take_append_drop]
      exact hbytes
  ackMode := h.ackMode
  outbox := h.outbox

theorem Streamed.step (h : Streamed r config x) (hc : 1 ≤ config.recvChunkSize) {m : Move}
    (hm : x.step? m = some y) (hgranted : ∀ p ∈ y.returned, p.1.Granted p.2) :
    Streamed r config y := by
  cases m with
  | call =>
    simp only [step?] at hm
    split at hm
    · next c later hw _ =>
      cases hm
      have hx : Streamed r config { x with calls := later } := { h with }
      exact (hx.send hw c).attempt rfl hgranted
    · cases hm
  | serve n =>
    obtain ⟨-, rfl⟩ := Option.ite_some_none_eq_some.mp hm
    exact h.serve hc n
  | deliver n =>
    obtain ⟨-, rfl⟩ := Option.ite_some_none_eq_some.mp hm
    exact Streamed.resume ⟨h.bytes, h.ackMode, h.outbox⟩ hgranted
  | hangUp =>
    obtain ⟨-, rfl⟩ := Option.ite_some_none_eq_some.mp hm
    exact Streamed.resume ⟨h.bytes, h.ackMode, h.outbox⟩ hgranted

theorem Invariant.granted (h : Invariant r calls x) (hread : ∀ c ∈ calls, c.Read) :
    ∀ p ∈ x.returned, p.1.Granted p.2 := by
  obtain ⟨done, P, V, hcalls, hs, -⟩ := h
  rw [hs.returned]
  refine (granted_direct r fun c hc => hread c ?_).returned
  rw [← hcalls, List.append_assoc]
  exact List.mem_append_left _ hc

theorem Streamed.run (h : Streamed r config x) (hinv : Invariant r calls x)
    (hc : 1 ≤ config.recvChunkSize) (hplain : ∀ c ∈ calls, c.sends.Plain)
    (hread : ∀ c ∈ calls, c.Read) {moves : List Move} (hm : x.run moves = some y) :
    Streamed r config y := by
  have hboth : Invariant r calls y ∧ Streamed r config y := by
    apply @run_induction σ x y fun z => Invariant r calls z ∧ Streamed r config z
    · rintro m x y ⟨hinv, h⟩ hstep
      have hinv' := hinv.step hplain hstep
      exact ⟨hinv', h.step hc hstep (hinv'.granted hread)⟩
    · exact ⟨hinv, h⟩
    · exact hm
  exact hboth.2

/-! ## What was sent -/

theorem sendings_prefix (x : Exchange σ) :
    x.sendings <+: sendingsOf true (x.returned.map Prod.fst ++ x.waiting.toList) := by
  unfold sendings
  cases x.waiting with
  | none => simp
  | some c =>
    rw [Option.toList_some, sendingsOf_concat]
    exact (List.prefix_append_right_inj _).mpr ⟨_, rfl⟩

theorem Invariant.begun (h : Invariant r calls x) :
    ∀ c ∈ x.returned.map Prod.fst ++ x.waiting.toList, c ∈ calls := by
  obtain ⟨done, P, V, hcalls, hs, -⟩ := h
  intro c hc
  rw [hs.returned, fst_returned_direct] at hc
  exact hcalls ▸ List.mem_append_left _ hc

theorem Invariant.of_sent (h : Invariant r calls x) {e : Event}
    (he : e ∈ x.sendings.map Sending.event) :
    e = .ack ∨ ∃ c ∈ calls, ∃ t, c.command? = some t ∧ e = .packet (.ofPayload t.toBytes) := by
  obtain ⟨a, ha, rfl⟩ := List.mem_map.mp he
  cases a with
  | unsolicited => exact .inl rfl
  | receipt => exact .inl rfl
  | command t =>
    obtain ⟨c, hc, hct⟩ := mem_sendingsOf (x.sendings_prefix.subset ha)
    exact .inr ⟨c, h.begun c hc, t, hct, rfl⟩

theorem Invariant.plain_of_sent (h : Invariant r calls x) (hplain : ∀ c ∈ calls, c.sends.Plain) :
    ∀ e ∈ x.sendings.map Sending.event, e.Plain := by
  intro e he
  rcases h.of_sent he with rfl | ⟨c, hc, t, hct, rfl⟩
  · trivial
  · have := hplain c hc
    rwa [Call.sends, hct] at this

theorem Invariant.read_of_sent (h : Invariant r calls x) (hread : ∀ c ∈ calls, c.Read) :
    ∀ p, .packet p ∈ x.sendings.map Sending.event →
      ∃ command, Command.parse p.text = .ok command := by
  intro p hp
  rcases h.of_sent hp with he | ⟨c, hc, t, hct, he⟩
  · cases he
  · cases he
    have htext : (Packet.ofPayload t.toBytes).text = t := Text.ofBytes_toBytes t
    rw [htext]
    exact hread c hc t hct

/-- A connection that has handled what a client sent. -/
def after (r : Responder σ) (config : Config) (l : List Sending) : Connection σ :=
  (l.map Sending.event).foldl Connection.handle (Connection.create r config)

theorem Invariant.accounts (h : Invariant r calls x) (config : Config)
    (hread : ∀ c ∈ calls, c.Read) {l : List Sending} (hl : l <+: x.sendings) :
    Connection.Accounts (l.map Sending.event) (after r config l) ∧
      (after r config l).failure = none := by
  refine (Connection.accounts_create r config).foldl_handle rfl ?_
  intro p hp
  exact h.read_of_sent hread p ((hl.map Sending.event).subset hp)

/-- What has been handled is the beginning of what was sent, and all of it when nothing is on its
way. -/
theorem Streamed.handled (h : Streamed r config x)
    (hplain : ∀ e ∈ x.sendings.map Sending.event, e.Plain) :
    ∃ arrived handled, x.server = (Connection.create r config).receive arrived ∧
      arrived ++ x.toServer = Event.encodeAll (x.sendings.map Sending.event) ∧
      handled <+: x.sendings ∧ (x.toServer = [] → handled = x.sendings) ∧
      x.server.sent = (after r config handled).sent ∧
      x.server.handshake = (after r config handled).handshake := by
  obtain ⟨arrived, hserver, hbytes⟩ := h.bytes
  obtain ⟨es, rest, later, hdec, hi, hsent, hrest⟩ := exists_decodes_of_encodeAll hplain hbytes
  obtain ⟨handled, todo, hsplit, rfl, rfl⟩ := List.map_eq_append_iff.mp hsent
  have hdrain : ((Connection.create r config).receiver.feed arrived).drain =
      ⟨handled.map Sending.event, none, Receiver.parked rest⟩ :=
    ((Receiver.sound_of_pending []).feed arrived).drain_of_incomplete hdec hi
  have hshows := Connection.settle_shows (Connection.create r config)
    ((Connection.create r config).receiver.feed arrived).drain
  rw [← Connection.receive_eq rfl, ← hserver, hdrain] at hshows
  refine ⟨arrived, handled, hserver, hbytes, ?_, ?_, hshows.1, hshows.2.2.1⟩
  · rw [hsplit]
    exact List.prefix_append handled todo
  · intro hts
    rw [hts, List.append_nil] at hrest
    have htodo : todo.map Sending.event = [] := by
      apply eq_nil_of_front_encodeAll
      · intro e he
        exact hplain e (hsent ▸ List.mem_append_right _ he)
      · rw [← hrest]
        exact hi
    rw [hsplit, List.map_eq_nil_iff.mp htodo, List.append_nil]

/-- An acknowledgement is answered unless it is one for a reply. -/
theorem Invariant.echoes (h : Invariant r calls x) (hread : ∀ c ∈ calls, c.Read)
    (hcalls : ∀ c ∈ calls, c.command? = some Client.startNoAckMode → c = .startNoAckMode)
    {before : List Sending} {a : Sending} (hp : before ++ [a] <+: x.sendings)
    (ha : a.event = .ack) :
    (after r config (before ++ [a])).sent =
      (after r config before).sent ++ if a = .unsolicited then [.ack] else [] := by
  obtain ⟨hfaithful, -⟩ := faithful_sendingsOf Event.not_due_nil (iff_of_true Event.acking_nil rfl)
    fun c hc => hcalls c (h.begun c hc)
  have hdue := hfaithful before a (hp.trans x.sendings_prefix) ha
  rw [List.nil_append] at hdue
  obtain ⟨haccounts, hopen⟩ :=
    h.accounts config hread ((List.prefix_append before [a]).trans hp)
  obtain ⟨-, new, hnew, hsent⟩ := haccounts.handle hopen a.event
  have hafter : after r config (before ++ [a]) = (after r config before).handle a.event := by
    simp [after, List.foldl_append]
  rw [hafter, hsent]
  congr 1
  rw [ha] at hnew
  cases hnew with
  | due hd => rw [hdue.mp hd]; rfl
  | unsolicited hd =>
    cases a with
    | unsolicited => rfl
    | command t => cases ha
    | receipt => exact absurd (hdue.mpr rfl) hd

theorem Invariant.agrees (h : Invariant r calls x) (hs : Streamed r config x)
    (hread : ∀ c ∈ calls, c.Read)
    (hcalls : ∀ c ∈ calls, c.command? = some Client.startNoAckMode → c = .startNoAckMode)
    (hw : x.waiting = none) (hserver : x.server.handshake = (after r config x.sendings).handshake) :
    x.client.ackMode = x.server.handshake.sendAcks ∧ x.server.handshake.expectingAck = false := by
  have hsendings : x.sendings = sendingsOf true (x.returned.map Prod.fst) := by
    rw [sendings, hw]
    exact List.append_nil _
  have hbegun : ∀ c ∈ x.returned.map Prod.fst, c ∈ calls :=
    fun c hc => h.begun c (List.mem_append_left _ hc)
  obtain ⟨-, hdue, hacking⟩ := faithful_sendingsOf Event.not_due_nil
    (iff_of_true Event.acking_nil rfl) fun c hc => hcalls c (hbegun c hc)
  rw [List.nil_append, ← hsendings] at hdue hacking
  obtain ⟨haccounts, -⟩ := h.accounts config hread (List.prefix_refl _)
  rw [hserver, hs.ackMode]
  constructor
  · exact Bool.eq_iff_iff.mpr (hacking.symm.trans haccounts.sendAcks.symm)
  · exact Bool.eq_false_iff.mpr fun he => hdue (haccounts.expectingAck.mp he)

/-- **The two sides agree on acknowledgements.** Whatever the order of the moves, when no call waits
and nothing is on its way to the server, the client acknowledges replies if and only if the server
acknowledges packets, and none is due. At any time, the server has handled the beginning of what
the client has sent, and of the acknowledgements in it, it has answered those that a call consists
of, and none that is for a reply. -/
theorem run_agreed (r : Responder σ) {config : Config} {calls : List Call} (ht : r.target.HashFree)
    (hc : 1 ≤ config.recvChunkSize)
    (hcalls : ∀ t, Call.request t ∈ calls →
      '#' ∉ t ∧ t ≠ Client.startNoAckMode ∧ ∃ command, Command.parse t = .ok command)
    {moves : List Move} {x : Exchange σ} (hrun : (start r config calls).run moves = some x) :
    (x.waiting = none → x.toServer = [] →
      x.client.ackMode = x.server.handshake.sendAcks ∧ x.server.handshake.expectingAck = false) ∧
    ∃ arrived handled,
      x.server = (Connection.create r config).receive arrived ∧
      arrived ++ x.toServer = Event.encodeAll (x.sendings.map Sending.event) ∧
      handled <+: x.sendings ∧ (x.toServer = [] → handled = x.sendings) ∧
      x.server.sent = (after r config handled).sent ∧
      ∀ before a, before ++ [a] <+: handled → a.event = .ack →
        (after r config (before ++ [a])).sent =
          (after r config before).sent ++ if a = .unsolicited then [.ack] else [] := by
  have hplain := plain_sends fun t h => (hcalls t h).1
  have hread : ∀ c ∈ calls, c.Read := by
    intro c hmem t hct
    cases c with
    | sendAck => cases hct
    | request u =>
      cases hct
      exact (hcalls _ hmem).2.2
    | startNoAckMode =>
      cases hct
      exact ⟨_, Connection.parse_startNoAckMode⟩
  have hasks : ∀ c ∈ calls, c.command? = some Client.startNoAckMode → c = .startNoAckMode := by
    intro c hmem hct
    cases c with
    | sendAck => cases hct
    | request u => exact absurd (Option.some.inj hct) (hcalls u hmem).2.1
    | startNoAckMode => rfl
  have hstart := invariant_start ht hc calls
  have hinv := hstart.run hplain hrun
  have hs := (streamed_start calls).run hstart hc hplain hread hrun
  obtain ⟨arrived, handled, hserver, hbytes, hprefix, hall, hsent, hshake⟩ :=
    hs.handled (hinv.plain_of_sent hplain)
  constructor
  · intro hw hts
    exact hinv.agrees hs hread hasks hw (hall hts ▸ hshake)
  · refine ⟨arrived, handled, hserver, hbytes, hprefix, hall, hsent, ?_⟩
    intro before a hp ha
    exact hinv.echoes hread hasks (hp.trans hprefix) ha

/-- Acknowledgements end, and of the two on their way at the end only the one that is no receipt is
answered. -/
theorem run_agreed_negotiated :
    let calls : List Call := [.sendAck, .request "?".toList, .startNoAckMode, .sendAck]
    let moves : List Move := [.call, .serve 1, .call, .serve 5, .deliver 9, .serve 1, .call,
      .serve 19, .deliver 7, .call, .serve 2]
    let before : List Sending := [.unsolicited, .command "?".toList, .receipt,
      .command Client.startNoAckMode]
    Responder.default.target.HashFree ∧ (1 : UInt64) ≤ ({} : Config).recvChunkSize ∧
    (∀ t, Call.request t ∈ calls →
      '#' ∉ t ∧ t ≠ Client.startNoAckMode ∧ ∃ command, Command.parse t = .ok command) ∧
    ∃ x, (start .default {} calls).run moves = some x ∧ x.waiting = none ∧ x.toServer = [] ∧
      x.client.ackMode = x.server.handshake.sendAcks ∧ x.server.handshake.expectingAck = false ∧
      (after .default {} (before ++ [.receipt])).sent = (after .default {} before).sent ∧
      (after .default {} (before ++ [.receipt] ++ [.unsolicited])).sent =
        (after .default {} (before ++ [.receipt])).sent ++ [.ack] := by
  intro calls moves before
  have hcalls : ∀ t, Call.request t ∈ calls →
      '#' ∉ t ∧ t ≠ Client.startNoAckMode ∧ ∃ command, Command.parse t = .ok command := by
    intro t ht
    obtain rfl : t = "?".toList := by simpa [calls] using ht
    exact ⟨by decide, by decide, .haltReason, rfl⟩
  have hx : ((start .default {} calls).run moves).map
      (fun x => (x.waiting, x.toServer, x.sendings)) =
        some (none, [], before ++ [.receipt] ++ [.unsolicited]) := by
    decide +kernel
  obtain ⟨x, hrun, hx⟩ := Option.map_eq_some_iff.mp hx
  obtain ⟨hw, hts, hsendings⟩ : x.waiting = none ∧ x.toServer = [] ∧
      x.sendings = before ++ [.receipt] ++ [.unsolicited] := by simpa using hx
  obtain ⟨hagree, arrived, handled, -, -, -, hall, -, hechoes⟩ :=
    run_agreed .default Target.hashFree_default (by decide) hcalls hrun
  obtain ⟨hack, hexpecting⟩ := hagree hw hts
  rw [hall hts, hsendings] at hechoes
  have hreceipt := hechoes before .receipt
    (List.prefix_append (before ++ [.receipt]) [.unsolicited]) rfl
  have hlast := hechoes (before ++ [.receipt]) .unsolicited (List.prefix_refl _) rfl
  rw [if_neg nofun, List.append_nil] at hreceipt
  rw [if_pos rfl] at hlast
  exact ⟨Target.hashFree_default, by decide, hcalls, x, hrun, hw, hts, hack, hexpecting, hreceipt,
    hlast⟩

end RemoteStub.Exchange
