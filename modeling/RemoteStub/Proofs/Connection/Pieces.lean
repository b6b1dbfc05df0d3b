import RemoteStub.Proofs.Connection.Events
import RemoteStub.Proofs.Receiver.Decoding

/-!
# Streams in pieces

However a stream is cut, by the network or by the size of reads, a connection ends in
the state of having received it whole (`foldl_run`), which is that of having handled
the events it decodes to (`receive_eq`). So what a connection shows depends on the
bytes alone (`run_pieces`).
-/

namespace RemoteStub.Connection

variable {σ : Type}

/-- Handles what a receiver yielded, and keeps the receiver unless the connection closes. -/
def settle (c : Connection σ) (d : Receiver.Drained) : Connection σ :=
  let c := d.events.foldl handle c
  match c.failure, d.violation with
  | none, none => c.reading d.receiver c.chunkSize
  | none, some v => c.close (.invalidPacket v)
  | some _, _ => c

/-- The receiver of an open connection is sound. -/
def Ready (c : Connection σ) : Prop := c.failure = none → c.receiver.Sound

theorem settle_open {c : Connection σ} {d : Receiver.Drained}
    (h : (d.events.foldl handle c).failure = none) (hv : d.violation = none) :
    c.settle d = (d.events.foldl handle c).reading d.receiver (d.events.foldl handle c).chunkSize := by
  simp [settle, h, hv]

theorem settle_broken {c : Connection σ} {d : Receiver.Drained} {v : Violation}
    (h : (d.events.foldl handle c).failure = none) (hv : d.violation = some v) :
    c.settle d = (d.events.foldl handle c).close (.invalidPacket v) := by
  simp [settle, h, hv]

theorem settle_closed {c : Connection σ} {d : Receiver.Drained} {e : Error}
    (h : (d.events.foldl handle c).failure = some e) : c.settle d = d.events.foldl handle c := by
  simp [settle, h]

theorem receive_of_failure {c : Connection σ} (h : c.failure.isSome) (piece : Bytes) :
    c.receive piece = c := by
  simp [receive, h]

theorem receive_eq {c : Connection σ} (h : c.failure = none) (piece : Bytes) :
    c.receive piece = c.settle (c.receiver.feed piece).drain := by
  have hopen : ¬ c.failure.isSome = true := by simp [h]
  unfold receive
  rw [if_neg hopen]
  generalize (c.receiver.feed piece).drain = d
  have hf := foldl_handle_reading h d.receiver c.chunkSize d.events
  have hn := chunkSize_foldl_handle h d.events
  unfold reading at hf
  simp only [hf]
  cases hx : (d.events.foldl handle c).failure with
  | some e =>
    have hc := foldl_handle_eq_reading h d.events
    rw [hx] at hc
    rw [settle_closed hx]
    simpa [hx, reading] using hc.symm
  | none =>
    cases hv : d.violation with
    | none => rw [settle_open hx hv]; simp [hx, hn, reading]
    | some v => rw [settle_broken hx hv]; simp [hn, close]

/-- Settling depends on the receiver only through what it yielded. -/
theorem settle_reading {c : Connection σ} (h : c.failure = none) (r : Receiver) (n : Nat)
    (d : Receiver.Drained) :
    (c.reading r n).settle d = (c.settle d).reading (c.settle d).receiver n := by
  have hf := foldl_handle_reading h r n d.events
  have hfail := congrArg failure hf
  rw [failure_reading] at hfail
  cases hx : (d.events.foldl handle c).failure with
  | some e =>
    rw [settle_closed (hfail.trans hx), settle_closed hx, hf, receiver_of_closed h (by simp [hx])]
    simp [hx]
  | none =>
    rw [hx] at hfail
    cases hv : d.violation with
    | none => rw [settle_open hfail hv, settle_open hx hv, hf]; rfl
    | some v => rw [settle_broken hfail hv, settle_broken hx hv, hf]; rfl

theorem settle_eq_reading {c : Connection σ} (h : c.failure = none) (d : Receiver.Drained) :
    c.settle d = (c.settle d).reading (c.settle d).receiver c.chunkSize :=
  settle_reading h c.receiver c.chunkSize d

theorem settle_congr {c : Connection σ} {d d' : Receiver.Drained} (he : d.events = d'.events)
    (hv : d.violation = d'.violation) (hr : d.violation = none → d.receiver = d'.receiver) :
    c.settle d = c.settle d' := by
  obtain ⟨es, v, r⟩ := d
  obtain ⟨es', v', r'⟩ := d'
  cases he
  cases hv
  cases v with
  | none => rw [show r = r' from hr rfl]
  | some v =>
    cases hx : (es.foldl handle c).failure with
    | none => rw [settle_broken hx rfl, settle_broken hx rfl]
    | some e => rw [settle_closed hx, settle_closed hx]

theorem settle_append (c : Connection σ) (es : List Event) (d : Receiver.Drained) :
    c.settle { d with events := es ++ d.events } = (es.foldl handle c).settle d := by
  simp only [settle, List.foldl_append]

theorem settle_of_failure {c : Connection σ} (h : c.failure.isSome) (d : Receiver.Drained) :
    c.settle d = c := by
  obtain ⟨e, he⟩ := Option.isSome_iff_exists.mp h
  have hf := foldl_handle_of_failure h d.events
  rw [settle_closed (by rw [hf]; exact he), hf]

theorem Ready.receive {c : Connection σ} (h : c.Ready) (piece : Bytes) : (c.receive piece).Ready := by
  intro hopen
  by_cases hf : c.failure = none
  · have hs := (h hf).feed piece
    rw [receive_eq hf] at hopen ⊢
    obtain ⟨es, rest, -, ⟨hi, hd⟩ | ⟨v, s, -, hd, -⟩⟩ := hs.drain_cases
    · rw [hd] at hopen ⊢
      cases hx : (es.foldl handle c).failure with
      | none => simpa [settle, hx] using Receiver.sound_parked hi
      | some e => simp [settle, hx] at hopen
    · rw [hd] at hopen
      cases hx : (es.foldl handle c).failure <;> simp [settle, hx, close] at hopen
  · rw [receive_of_failure (Option.isSome_iff_ne_none.mpr hf)] at hopen ⊢
    exact h hopen

theorem receive_settle_of_none (c : Connection σ) {d : Receiver.Drained} (hv : d.violation = none)
    (piece : Bytes) :
    (c.settle d).receive piece = (d.events.foldl handle c).settle (d.receiver.feed piece).drain := by
  cases hx : (d.events.foldl handle c).failure with
  | none =>
    have hopen : (c.settle d).failure = none := by rw [settle_open hx hv]; exact hx
    rw [receive_eq hopen, settle_open hx hv, settle_reading hx, receiver_reading,
      ← settle_eq_reading hx]
  | some e =>
    have hsome : (d.events.foldl handle c).failure.isSome := by simp [hx]
    rw [settle_closed hx, receive_of_failure hsome, settle_of_failure hsome]

theorem receive_settle_of_some (c : Connection σ) {d : Receiver.Drained} {v : Violation}
    (hv : d.violation = some v) (piece : Bytes) : (c.settle d).receive piece = c.settle d := by
  cases hx : (d.events.foldl handle c).failure with
  | none => rw [settle_broken hx hv, receive_of_failure rfl]
  | some e => rw [settle_closed hx, receive_of_failure (by simp [hx])]

/-- **A cut does not matter.** Receiving two pieces is receiving them as one. -/
theorem receive_receive {c : Connection σ} (h : c.Ready) (a b : Bytes) :
    (c.receive a).receive b = c.receive (a ++ b) := by
  by_cases hf : c.failure = none
  · have hs := (h hf).feed a
    rw [receive_eq hf, receive_eq hf, Receiver.feed_append]
    obtain ⟨es, rest, hd, ⟨hi, hdrain⟩ | ⟨v, r, hb, hdrain, rfl, hr⟩⟩ := hs.drain_cases
    · obtain ⟨he, hv, -, hn⟩ := (hs.feed b).drain_resume ((Receiver.sound_parked hi).feed b)
        (hd.append b)
      rw [hdrain, receive_settle_of_none c rfl, ← settle_append]
      exact settle_congr he.symm hv.symm fun hx => (hn hx).symm
    · obtain ⟨s, hlater, -⟩ := (hs.feed b).drain_of_broken (hd.append b)
        (Receiver.front_append_of_broken hb b)
      rw [hdrain, receive_settle_of_some c rfl, hlater]
      exact settle_congr rfl rfl nofun
  · have hf := Option.isSome_iff_ne_none.mpr hf
    rw [receive_of_failure hf, receive_of_failure hf, receive_of_failure hf]

/-- What settling shows is what the events show, and how the stream ended. -/
theorem settle_shows (c : Connection σ) (d : Receiver.Drained) :
    (c.settle d).sent = (d.events.foldl handle c).sent ∧
      (c.settle d).responder = (d.events.foldl handle c).responder ∧
      (c.settle d).handshake = (d.events.foldl handle c).handshake ∧
      (c.settle d).failure =
        (d.events.foldl handle c).failure.or (d.violation.map .invalidPacket) := by
  cases hx : (d.events.foldl handle c).failure with
  | some e =>
    rw [settle_closed hx]
    exact ⟨rfl, rfl, rfl, hx⟩
  | none =>
    cases hv : d.violation with
    | none =>
      rw [settle_open hx hv]
      exact ⟨rfl, rfl, rfl, hx⟩
    | some v =>
      rw [settle_broken hx hv]
      exact ⟨rfl, rfl, rfl, rfl⟩

/-! ## Reads -/

theorem flatten_reads {size : Nat} (h : 0 < size) (arrived : Bytes) :
    (reads size arrived).flatten = arrived := by
  rw [reads]
  split
  · next hx =>
    rcases hx with hx | rfl
    · omega
    · rfl
  · next hx =>
    have : 0 < arrived.length := List.length_pos_iff.mpr fun e => hx (.inr e)
    rw [List.flatten_cons, flatten_reads h, List.take_append_drop]
termination_by arrived.length

/-- An open connection has handled all that it can. -/
def Settled (c : Connection σ) : Prop := c.Ready ∧ c.receive [] = c

theorem Ready.settled_receive {c : Connection σ} (h : c.Ready) (piece : Bytes) :
    (c.receive piece).Settled :=
  ⟨h.receive piece, by rw [receive_receive h, List.append_nil]⟩

theorem settled_of_failure {c : Connection σ} (h : c.failure.isSome) : c.Settled := by
  refine ⟨fun hn => ?_, receive_of_failure h []⟩
  rw [hn] at h
  cases h

theorem settled_of_parked {c : Connection σ} (h : c.failure = none) {bytes : Bytes}
    (hr : c.receiver = Receiver.parked bytes) (hi : Receiver.front bytes = .incomplete) :
    c.Settled := by
  have hs : c.receiver.Sound := hr ▸ Receiver.sound_parked hi
  refine ⟨fun _ => hs, ?_⟩
  have hp : c.receiver.pending = bytes := congrArg Receiver.pending hr
  have hd : Receiver.Decodes c.receiver.pending [] bytes := hp ▸ .nil c.receiver.pending
  rw [receive_eq h, Receiver.feed_nil, hs.drain_of_incomplete hd hi, ← hr]
  exact settle_open h rfl

theorem settled_create (r : Responder σ) (config : Config) : (create r config).Settled :=
  @settled_of_parked σ (create r config) rfl [] rfl rfl

theorem Settled.foldl_receive {c : Connection σ} (h : c.Settled) (pieces : List Bytes) :
    pieces.foldl Connection.receive c = c.receive pieces.flatten := by
  induction pieces generalizing c with
  | nil => exact h.2.symm
  | cons piece pieces ih =>
    rw [List.foldl_cons, ih (h.1.settled_receive piece), receive_receive h.1, List.flatten_cons]

theorem Settled.run_eq {c : Connection σ} (h : c.Settled) (hc : 0 < c.chunkSize) (arrived : Bytes) :
    c.run arrived = c.receive arrived := by
  rw [run, h.foldl_receive, flatten_reads hc]

theorem chunkSize_receive (c : Connection σ) (piece : Bytes) :
    (c.receive piece).chunkSize = c.chunkSize := by
  by_cases hf : c.failure = none
  · rw [receive_eq hf, settle_eq_reading hf, chunkSize_reading]
  · rw [receive_of_failure (Option.isSome_iff_ne_none.mpr hf)]

/-- **Neither the pieces nor the size of reads matter.** -/
theorem Settled.foldl_run {c : Connection σ} (h : c.Settled) (hc : 0 < c.chunkSize)
    (pieces : List Bytes) : pieces.foldl run c = c.receive pieces.flatten := by
  induction pieces generalizing c with
  | nil => exact h.2.symm
  | cons piece pieces ih =>
    rw [List.foldl_cons, h.run_eq hc, ih (h.1.settled_receive piece) (by rwa [chunkSize_receive]),
      receive_receive h.1, List.flatten_cons]

/-- Receiving only adds to the records, and a closed connection is left alone. -/
theorem receive_extends (c : Connection σ) (piece : Bytes) :
    c.sent <+: (c.receive piece).sent ∧
      c.responder.log.entries <+: (c.receive piece).responder.log.entries ∧
      c.responder.asked <+: (c.receive piece).responder.asked ∧
      (c.failure.isSome → c.receive piece = c) := by
  refine ⟨?_, ?_, ?_, fun h => receive_of_failure h piece⟩
  all_goals
    by_cases hf : c.failure = none
    · obtain ⟨hs, hr, -⟩ := settle_shows c (c.receiver.feed piece).drain
      obtain ⟨hse, hle, hae⟩ := foldl_handle_extends (c.receiver.feed piece).drain.events c
      simp [receive_eq hf, hs, hr, hse, hle, hae]
    · simp [receive_of_failure (Option.isSome_iff_ne_none.mpr hf)]

/-- **A session depends on its bytes alone.** Any two ways of cutting a stream and any two sizes of
reads lead to the same connection: to the same bytes sent, log, queries, state of the target,
handshake, failure and unfinished bytes. At the end of every piece, exactly the events that the
bytes so far decode to have been handled, once each and in order, and what later pieces bring is
only added. -/
theorem run_pieces (r : Responder σ) {config config' : Config} (h : 1 ≤ config.recvChunkSize)
    (h' : 1 ≤ config'.recvChunkSize) :
    (∀ pieces pieces' : List Bytes, pieces.flatten = pieces'.flatten →
      pieces.foldl run (create r config) =
        { pieces'.foldl run (create r config') with chunkSize := config.recvChunkSize.toNat }) ∧
    (∀ pieces more : List Bytes,
      let c := pieces.foldl run (create r config)
      let d := (pieces ++ more).foldl run (create r config)
      c.sent <+: d.sent ∧ c.responder.log.entries <+: d.responder.log.entries ∧
        c.responder.asked <+: d.responder.asked ∧ (c.failure.isSome → d = c)) ∧
    ∀ pieces : List Bytes, ∃ events encs rest,
      let c := pieces.foldl run (create r config)
      let d := events.foldl handle (create r config)
      List.Forall₂ Event.Encoding events encs ∧ pieces.flatten = encs.flatten ++ rest ∧
        c.sent = d.sent ∧ c.responder = d.responder ∧ c.handshake = d.handshake ∧
        (Receiver.Incomplete rest ∧ c.failure = d.failure ∨
          ∃ v, Receiver.Breaks rest v ∧ c.failure = d.failure.or (some (.invalidPacket v))) := by
  have hpos : ∀ {config : Config}, 1 ≤ config.recvChunkSize → 0 < (create r config).chunkSize :=
    fun h => UInt64.le_iff_toNat_le.mp h
  -- whatever the pieces, a session is one reception of the whole stream
  have hrun : ∀ {config : Config}, 1 ≤ config.recvChunkSize → ∀ pieces : List Bytes,
      pieces.foldl run (create r config) = (create r config).receive pieces.flatten :=
    fun h => (settled_create r _).foldl_run (hpos h)
  refine ⟨?_, ?_, ?_⟩
  · intro pieces pieces' hflat
    rw [hrun h, hrun h', hflat, receive_eq rfl, receive_eq rfl]
    exact settle_reading (c := create r config') rfl {} config.recvChunkSize.toNat _
  · intro pieces more
    simp only [List.foldl_append]
    have hs := (settled_create r config).1.settled_receive pieces.flatten
    rw [hrun h, hs.foldl_run (by rw [chunkSize_receive]; exact hpos h)]
    exact receive_extends _ _
  · intro pieces
    have hsound : ((create r config).receiver.feed pieces.flatten).Sound :=
      (Receiver.sound_of_pending []).feed _
    rw [hrun h, receive_eq rfl]
    obtain ⟨es, rest, hd, hend⟩ := hsound.drain_cases
    obtain ⟨encs, hencs, hflat⟩ := Receiver.decodes_iff.mp hd
    obtain ⟨hsent, hresp, hhand, hfail⟩ :=
      settle_shows (create r config) ((create r config).receiver.feed pieces.flatten).drain
    refine ⟨es, encs, rest, hencs, hflat, ?_⟩
    rcases hend with ⟨hi, hdrain⟩ | ⟨v, s, hb, hdrain, -⟩
    · rw [hdrain] at hsent hresp hhand hfail ⊢
      have hincomplete := Receiver.front_eq_incomplete_iff.mp hi
      exact ⟨hsent, hresp, hhand, .inl ⟨hincomplete, by simpa using hfail⟩⟩
    · rw [hdrain] at hsent hresp hhand hfail ⊢
      have hbreaks := Receiver.front_eq_broken_iff.mp hb
      exact ⟨hsent, hresp, hhand, .inr ⟨v, hbreaks, hfail⟩⟩

/-- `+$?#3f` read byte by byte, and in two pieces read four thousand bytes at a time. -/
theorem run_pieces_halt :
    (1 : UInt64) ≤ ({ recvChunkSize := 1 } : Config).recvChunkSize ∧
      (1 : UInt64) ≤ ({} : Config).recvChunkSize ∧
      [[0x2b, 0x24, 0x3f, 0x23, 0x33, 0x66]].foldl run (create .default { recvChunkSize := 1 }) =
        { [[0x2b, 0x24], [0x3f, 0x23, 0x33, 0x66]].foldl run (create .default {}) with
          chunkSize := 1 } :=
  ⟨by decide, by decide,
    (@run_pieces Unit .default { recvChunkSize := 1 } {} (by decide) (by decide)).1 _ _ rfl⟩

end RemoteStub.Connection
