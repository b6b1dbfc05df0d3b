import RemoteStub.Proofs.Connection.Session
import RemoteStub.Proofs.Receiver.Framing

/-!
# What travels to the client

The bytes that a connection sends are those of its record (`encodeAll_transmitted`). If
no text reply of the target holds a `#`, they are read back as this record, and its
packets are the replies of the responder (`drain_transmitted`).
-/

namespace RemoteStub.Connection

variable {σ : Type}

def transmitted (c : Connection σ) : List Bytes → Bytes
  | [] => []
  | piece :: pieces =>
    let answer := Peer.accept c piece
    answer.bytes ++ answer.peer.transmitted pieces

theorem sent_foldl_receive (pieces : List Bytes) (c : Connection σ) :
    c.sent <+: (pieces.foldl receive c).sent := by
  induction pieces generalizing c with
  | nil => exact List.prefix_refl _
  | cons piece pieces ih => exact (receive_extends c piece).1.trans (ih (c.receive piece))

theorem encodeAll_transmitted (pieces : List Bytes) (c : Connection σ) :
    Event.encodeAll c.sent ++ c.transmitted pieces =
      Event.encodeAll (pieces.foldl run c).sent := by
  induction pieces generalizing c with
  | nil => exact List.append_nil _
  | cons piece pieces ih =>
    obtain ⟨new, hnew⟩ := sent_foldl_receive (reads c.chunkSize piece) c
    have hbytes : (Peer.accept c piece).bytes = Event.encodeAll new := by
      show Event.encodeAll ((c.run piece).sent.drop c.sent.length) = _
      rw [run, ← hnew, List.drop_left]
    rw [transmitted, hbytes, ← List.append_assoc, ← Event.encodeAll_append, hnew]
    exact ih (c.run piece)

/-! ## Replies -/

/-- What texts are answered with in turn, up to the first that is refused. -/
def answers (r : Responder σ) : List Text → List Bytes
  | [] => []
  | t :: ts =>
    if t = startNoAckMode then accepted :: answers r ts
    else match r.respond t with
      | (.ok reply, r) => reply :: answers r ts
      | (.error _, _) => []

theorem replies_foldl_handle (es : List Event) {c : Connection σ} (h : c.failure = none) :
    (es.foldl handle c).replies = c.replies ++ answers c.responder (es.filterMap Event.text?) := by
  induction es generalizing c with
  | nil => exact (List.append_nil _).symm
  | cons e es ih =>
    rw [List.foldl_cons]
    have hh := handles h e
    generalize c.handle e = d at hh
    cases hh with
    | due =>
      rw [ih]
      · rfl
      · exact h
    | unsolicited =>
      rw [ih, replies_send_ack]
      · rfl
      · exact h
    | @negotiate p hx =>
      rw [ih, replies_send_packet, List.append_assoc]
      · refine congrArg₂ (· ++ ·) (replies_acknowledge c) ?_
        simp [send, answers, hx]
      · simpa [send] using h
    | @answer p reply r hx hr =>
      rw [ih, replies_send_packet, List.append_assoc]
      · refine congrArg₂ (· ++ ·) (replies_acknowledge c) ?_
        simp [send, answers, hx, hr]
      · simpa [send] using h
    | @refuse p e r hx hr =>
      have hanswers : answers c.responder (p.text :: es.filterMap Event.text?) = [] := by
        simp [answers, hx, hr]
      rw [foldl_handle_of_failure rfl, Event.filterMap_text?_packet, hanswers, List.append_nil]
      exact replies_acknowledge c

/-! ## Reading it back -/

variable {c : Connection σ}

def Readable (c : Connection σ) : Prop := ∀ e ∈ c.sent, e.Plain

theorem Readable.send (h : c.Readable) {e : Event} (he : e.Plain) :
    (c.send e).Readable :=
  List.forall_mem_append.mpr ⟨h, List.forall_mem_singleton.mpr he⟩

theorem Readable.acknowledge (h : c.Readable) : c.acknowledge.Readable := by
  unfold Connection.acknowledge
  split
  · exact h.send trivial
  · exact h

theorem Readable.handle (h : c.Readable) (ht : c.responder.target.HashFree)
    (hopen : c.failure = none) (e : Event) : (c.handle e).Readable := by
  have hh := handles hopen e
  generalize c.handle e = d at hh
  cases hh with
  | due => exact h
  | unsolicited => exact h.send trivial
  | negotiate => exact h.acknowledge.send (Event.plain_ofPayload (by decide))
  | answer hx hr =>
    exact h.acknowledge.send (Event.plain_ofPayload (Responder.packetEnd_not_mem_reply ht hr))
  | refuse => exact h.acknowledge

theorem target_handle (h : c.failure = none) (e : Event) :
    (c.handle e).responder.target = c.responder.target := by
  have hh := handles h e
  generalize c.handle e = d at hh
  cases hh with
  | due => rfl
  | unsolicited => rfl
  | negotiate => exact congrArg Responder.target (responder_acknowledge c)
  | @answer p reply r hx hr =>
    have ht := c.responder.target_respond p.text
    rwa [hr] at ht
  | @refuse p e r hx hr =>
    have ht := c.responder.target_respond p.text
    rwa [hr] at ht

theorem Readable.foldl_handle (es : List Event) (h : c.Readable) (ht : c.responder.target.HashFree)
    (hopen : c.failure = none) : (es.foldl Connection.handle c).Readable := by
  induction es generalizing c with
  | nil => exact h
  | cons e es ih =>
    rw [List.foldl_cons]
    by_cases hf : (c.handle e).failure = none
    · exact ih (h.handle ht hopen e) (by rwa [target_handle hopen]) hf
    · rw [foldl_handle_of_failure (Option.isSome_iff_ne_none.mpr hf)]
      exact h.handle ht hopen e

/-- **What a session sends is read back as it was sent,** where the client takes all of it. -/
theorem drain_transmitted (r : Responder σ) {config : Config} (h : 1 ≤ config.recvChunkSize)
    (ht : r.target.HashFree) (pieces : List Bytes) :
    let events := (({} : Receiver).feed pieces.flatten).drain.events
    let c := pieces.foldl run (create r config)
    let bytes := (create r config).transmitted pieces
    bytes = Event.encodeAll c.sent ∧
      (({} : Receiver).feed bytes).drain = ⟨c.sent, none, {}⟩ ∧
      c.sent.filterMap Event.payload? = answers r (events.filterMap Event.text?) := by
  intro events c bytes
  obtain ⟨hsent, -⟩ := foldl_run_shows r h pieces
  have hbytes : bytes = Event.encodeAll c.sent := encodeAll_transmitted pieces (create r config)
  have hreadable : c.Readable := by
    have := Readable.foldl_handle events (c := create r config) nofun ht rfl
    unfold Readable
    rw [hsent]
    exact this
  refine ⟨hbytes, ?_, ?_⟩
  · rw [hbytes]
    exact Receiver.drain_feed_encodeAll hreadable
  · rw [hsent]
    exact replies_foldl_handle events rfl

/-- A chunk of the bytes that frames are made of, asked for after an acknowledgement. -/
theorem drain_transmitted_binary :
    let target : Target Unit := { transfer := fun _ _ _ _ => pure (some ⟨[0x23, 0x24, 0x7d], false⟩) }
    let page := Text.toBytes "qXfer:o:read:a:0,3".toList
    let pieces := [Event.encodeAll [.ack, .packet (.ofPayload page)]]
    (1 : UInt64) ≤ ({} : Config).recvChunkSize ∧ target.HashFree ∧
      (({} : Receiver).feed
        ((create { target, state := () } {}).transmitted pieces)).drain =
        ⟨[.ack, .ack, .packet (.ofPayload [0x6c, 0x7d, 0x03, 0x7d, 0x04, 0x7d, 0x5d])], none, {}⟩ := by
  intro target page pieces
  have ht : target.HashFree := Target.hashFree_default.with_transfer _
  obtain ⟨-, hdrain, -⟩ :=
    @drain_transmitted Unit { target, state := () } {} (by decide) ht pieces
  refine ⟨by decide, ht, hdrain.trans ?_⟩
  have hsent : (pieces.foldl run (create { target, state := () } {})).sent =
      [.ack, .ack, .packet (.ofPayload [0x6c, 0x7d, 0x03, 0x7d, 0x04, 0x7d, 0x5d])] := by
    decide +kernel
  rw [hsent]

end RemoteStub.Connection
