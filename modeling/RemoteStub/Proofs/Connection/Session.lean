import RemoteStub.Proofs.Connection.Pieces
import RemoteStub.Proofs.Responder.Calls

/-!
# What a session does with its packets

`run_served`: the packets of a stream are taken in order, up to the first that is no
command, and that one. Each is logged and comes to one method of the target, whose result
is the reply (`Serves`), except the request to end acknowledgements, which the connection
grants itself. A target that takes down how its methods are called finds these calls and
no others. The session fails at the first packet that is no command or else at the
violation that ends the stream, and nothing after that plays a part.

All this is told of a client that takes every reply. One that does not ends its session
earlier.
-/

namespace RemoteStub

namespace Event

def text? : Event → Option Text
  | ack => none
  | packet p => some p.text

def payload? : Event → Option Bytes
  | ack => none
  | packet p => some p.payload

@[simp] theorem filterMap_text?_packet (p : Packet) (es : List Event) :
    (packet p :: es).filterMap text? = p.text :: es.filterMap text? := rfl

end Event

/-- Why a text is no command. -/
def Command.refusal? (t : Text) : Option DecodeError :=
  match parse t with
  | .ok _ => none
  | .error e => some e

namespace Connection

variable {σ : Type}

/-- The query behind a text. The request to end acknowledgements has none. -/
def query? (t : Text) : Option Query :=
  if t = startNoAckMode then none
  else match Command.parse t with
    | .ok command => some command.query
    | .error _ => none

def replies (c : Connection σ) : List Bytes := c.sent.filterMap Event.payload?

/-- What has come of the texts of a session. -/
structure Account where
  log : List Text := []
  /-- The calls of the target's methods. -/
  calls : List Query := []
  replies : List Bytes := []
  refusal : Option DecodeError := none

/-- A target serves texts in turn, until one is refused. Each is granted by the connection, or
logged and answered by one method, or logged and refused. -/
inductive Serves (t : Target σ) : σ → List Text → Account → σ → Prop
  | done {s : σ} : Serves t s [] {} s
  | granted {s s' : σ} {ps : List Text} {a : Account} (h : Serves t s ps a s') :
      Serves t s (startNoAckMode :: ps) { a with replies := accepted :: a.replies } s'
  | answered {s s₁ s' : σ} {p : Text} {ps : List Text} {a : Account} {command : Command}
      {reply : Bytes} (hp : p ≠ startNoAckMode) (hread : Command.parse p = .ok command)
      (hcall : t.Returns s command.query reply s₁) (h : Serves t s₁ ps a s') :
      Serves t s (p :: ps)
        { a with
          log := p :: a.log
          calls := command.query :: a.calls
          replies := reply :: a.replies } s'
  | refused {s : σ} {p : Text} {ps : List Text} {e : DecodeError} (hp : p ≠ startNoAckMode)
      (hread : Command.parse p = .error e) :
      Serves t s (p :: ps) { log := [p], refusal := some e } s

/-- One connection has come to the other by serving texts. -/
structure Served (c : Connection σ) (texts : List Text) (a : Account)
    (d : Connection σ) : Prop where
  serves : Serves c.responder.target c.responder.state texts a d.responder.state
  target : d.responder.target = c.responder.target
  log : d.responder.log.entries = c.responder.log.entries ++ a.log
  asked : d.responder.asked = c.responder.asked ++ a.calls
  replies : d.replies = c.replies ++ a.replies

variable {c d e : Connection σ}

theorem parse_startNoAckMode : Command.parse startNoAckMode = .ok (.other startNoAckMode) := rfl

/-! ## Accounts -/

namespace Serves

variable {t : Target σ} {s s' : σ} {ps : List Text} {a : Account}

theorem log_eq (h : Serves t s ps a s') :
    a.log = (untilRefused ps).filter (· ≠ startNoAckMode) := by
  induction h with
  | done => rfl
  | granted _ ih => simp [untilRefused_cons_of_ok parse_startNoAckMode, ih]
  | answered hp hread _ _ ih => simp [untilRefused_cons_of_ok hread, hp, ih]
  | refused hp hread => simp [untilRefused_cons_of_error hread, hp]

theorem calls_eq (h : Serves t s ps a s') : a.calls = (untilRefused ps).filterMap query? := by
  induction h with
  | done => rfl
  | granted _ ih => simp [untilRefused_cons_of_ok parse_startNoAckMode, query?, ih]
  | answered hp hread _ _ ih => simp [untilRefused_cons_of_ok hread, query?, hp, hread, ih]
  | refused hp hread => simp [untilRefused_cons_of_error hread, query?, hread]

theorem refusal_eq (h : Serves t s ps a s') : a.refusal = ps.findSome? Command.refusal? := by
  induction h with
  | done => rfl
  | granted _ ih =>
    rw [List.findSome?_cons, Command.refusal?, parse_startNoAckMode]
    exact ih
  | answered hp hread _ _ ih => simp [Command.refusal?, hread, ih]
  | refused hp hread => simp [Command.refusal?, hread]

/-- Every text has a reply but the one that is refused. -/
theorem length_replies (h : Serves t s ps a s') :
    a.replies.length + a.refusal.toList.length = (untilRefused ps).length := by
  induction h with
  | done => rfl
  | granted _ ih => simp [untilRefused_cons_of_ok parse_startNoAckMode, ← ih]; omega
  | answered hp hread _ _ ih => simp [untilRefused_cons_of_ok hread, ← ih]; omega
  | refused hp hread => simp [untilRefused_cons_of_error hread]

theorem findSome?_refusal {before : List Text}
    (h : ∀ u ∈ before, ∃ command, Command.parse u = .ok command) :
    before.findSome? Command.refusal? = none := by
  rw [List.findSome?_eq_none_iff]
  intro u hu
  obtain ⟨command, hread⟩ := h u hu
  rw [Command.refusal?, hread]

/-- A text that is refused is the last that is logged, no method is called for it, and it has no
reply. -/
theorem of_refused {before after : List Text} {p : Text} {e : DecodeError}
    (h : Serves t s (before ++ p :: after) a s')
    (hread : ∀ u ∈ before, ∃ command, Command.parse u = .ok command)
    (hp : Command.parse p = .error e) :
    a.log = before.filter (· ≠ startNoAckMode) ++ [p] ∧ a.calls = before.filterMap query? ∧
      a.replies.length = before.length ∧ a.refusal = some e := by
  have hstart : p ≠ startNoAckMode := by
    rintro rfl
    rw [parse_startNoAckMode] at hp
    cases hp
  have huntil : untilRefused (before ++ p :: after) = before ++ [p] :=
    untilRefused_of_refused hread hp
  have hrefusal : a.refusal = some e := by
    rw [h.refusal_eq, List.findSome?_append, findSome?_refusal hread, List.findSome?_cons,
      Command.refusal?, hp]
    rfl
  have hlength := h.length_replies
  rw [huntil, hrefusal] at hlength
  refine ⟨?_, ?_, by simpa using hlength, hrefusal⟩
  · rw [h.log_eq, huntil]
    simp [List.filter_append, hstart]
  · rw [h.calls_eq, huntil]
    simp [query?, hp]

end Serves

/-! ## One event -/

@[simp] theorem replies_send_ack (c : Connection σ) : (c.send .ack).replies = c.replies := by
  simp [replies, send, Event.payload?]

@[simp] theorem replies_send_packet (c : Connection σ) (p : Packet) :
    (c.send (.packet p)).replies = c.replies ++ [p.payload] := by
  simp [replies, send, Event.payload?]

@[simp] theorem replies_acknowledge (c : Connection σ) : c.acknowledge.replies = c.replies := by
  unfold acknowledge
  split
  · exact replies_send_ack c
  · rfl

theorem failure_handle (h : c.failure = none) (e : Event) :
    (c.handle e).failure = (e.text?.bind Command.refusal?).map .decode := by
  have hh := handles h e
  generalize c.handle e = d at hh
  cases hh with
  | due => exact h
  | unsolicited => exact h
  | negotiate hx => simpa [send, Event.text?, Command.refusal?, hx, parse_startNoAckMode] using h
  | answer hx hr =>
    obtain ⟨command, state, hok, -⟩ := Responder.respond_eq_ok hr
    simpa [send, Event.text?, Command.refusal?, hok] using h
  | refuse hx hr =>
    obtain ⟨hrefused, -⟩ := Responder.respond_eq_error hr
    simp [close, Event.text?, Command.refusal?, hrefused]

variable {texts : List Text} {a : Account} {p : Packet} {r : Responder σ}

theorem Served.done (c : Connection σ) : Served c [] {} c := by
  constructor
  · exact .done
  all_goals simp

theorem Served.congr (h : Served c texts a d) (hr : e.responder = d.responder)
    (hs : e.replies = d.replies) : Served c texts a e := by
  obtain ⟨hserves, htarget, hlog, hasked, hreplies⟩ := h
  rw [← hr] at hserves htarget hlog hasked
  exact ⟨hserves, htarget, hlog, hasked, hs.trans hreplies⟩

theorem Served.of_ack (h : Served e texts a d) (hr : e.responder = c.responder)
    (hs : e.replies = c.replies) : Served c texts a d := by
  obtain ⟨hserves, htarget, hlog, hasked, hreplies⟩ := h
  rw [hr] at hserves htarget hlog hasked
  exact ⟨hserves, htarget, hlog, hasked, hs ▸ hreplies⟩

theorem Served.of_granted (h : Served e texts a d) (hx : p.text = startNoAckMode)
    (hr : e.responder = c.responder) (hs : e.replies = c.replies ++ [accepted]) :
    Served c (p.text :: texts) { a with replies := accepted :: a.replies } d := by
  obtain ⟨hserves, htarget, hlog, hasked, hreplies⟩ := h
  rw [hr] at hserves htarget hlog hasked
  rw [hs, List.append_assoc] at hreplies
  rw [hx]
  exact ⟨.granted hserves, htarget, hlog, hasked, hreplies⟩

theorem Served.of_answered {reply : Bytes} (h : Served e texts a d) (hx : p.text ≠ startNoAckMode)
    (hr : c.responder.respond p.text = (.ok reply, e.responder))
    (hs : e.replies = c.replies ++ [reply]) :
    ∃ b, Served c (p.text :: texts) b d ∧ b.refusal = a.refusal := by
  obtain ⟨command, state, hread, hanswer, he⟩ := Responder.respond_eq_ok hr
  have hcall := Target.returns_answer (t := c.responder.target) command.query c.responder.state
  obtain ⟨hserves, htarget, hlog, hasked, hreplies⟩ := h
  rw [he] at hserves htarget hlog hasked
  rw [hanswer] at hcall
  refine ⟨_, ⟨.answered hx hread hcall hserves, htarget, ?_, ?_, ?_⟩, rfl⟩
  · rw [hlog, PacketLog.push, List.append_assoc]
    rfl
  · rw [hasked, List.append_assoc]
    rfl
  · rw [hreplies, hs, List.append_assoc]
    rfl

theorem Served.of_refused {refusal : DecodeError} (hx : p.text ≠ startNoAckMode)
    (hr : c.responder.respond p.text = (.error refusal, d.responder))
    (hs : d.replies = c.replies) :
    Served c (p.text :: texts) { log := [p.text], refusal := some refusal } d := by
  obtain ⟨hread, hd⟩ := Responder.respond_eq_error hr
  constructor
  · rw [hd]
    exact .refused hx hread
  · rw [hd]
  · rw [hd]
    rfl
  · rw [hd, List.append_nil]
  · rw [hs, List.append_nil]

/-! ## Any number of events -/

theorem served_foldl_handle (h : c.failure = none) (es : List Event) :
    ∃ a, Served c (es.filterMap Event.text?) a (es.foldl handle c) ∧
      (es.foldl handle c).failure = a.refusal.map .decode := by
  induction es generalizing c with
  | nil => exact ⟨{}, .done c, h⟩
  | cons e es ih =>
    rw [List.foldl_cons]
    have hh := handles h e
    have hnext := @ih (c.handle e)
    generalize c.handle e = d at hh hnext
    cases hh with
    | due =>
      obtain ⟨a, hs, hf⟩ := hnext h
      exact ⟨a, hs.of_ack rfl rfl, hf⟩
    | unsolicited =>
      obtain ⟨a, hs, hf⟩ := hnext h
      exact ⟨a, hs.of_ack rfl (replies_send_ack c), hf⟩
    | negotiate hx =>
      obtain ⟨a, hs, hf⟩ := hnext (by simpa [send] using h)
      refine ⟨_, hs.of_granted hx (responder_acknowledge c) ?_, hf⟩
      rw [replies_send_packet]
      exact congrArg (· ++ [accepted]) (replies_acknowledge c)
    | @answer p reply r hx hr =>
      obtain ⟨a, hs, hf⟩ := hnext (by simpa [send] using h)
      obtain ⟨b, hs, hb⟩ := hs.of_answered hx hr (by
        rw [replies_send_packet]
        exact congrArg (· ++ [reply]) (replies_acknowledge c))
      exact ⟨b, hs, hb ▸ hf⟩
    | refuse hx hr =>
      -- what comes after it is not handled any more
      rw [foldl_handle_of_failure rfl]
      exact ⟨_, .of_refused hx hr (replies_acknowledge c), rfl⟩

/-! ## Calls -/

/-- The connection whose target takes its calls down. -/
def recording (c : Connection σ) : Connection (σ × List Query) :=
  { responder := c.responder.recording
    chunkSize := c.chunkSize
    receiver := c.receiver
    handshake := c.handshake
    sent := c.sent
    failure := c.failure }

theorem recording_acknowledge (c : Connection σ) :
    c.recording.acknowledge = c.acknowledge.recording := by
  unfold acknowledge
  show (if c.handshake.sendAcks then _ else _) = _
  split <;> rfl

theorem handle_recording (c : Connection σ) (e : Event) :
    c.recording.handle e = (c.handle e).recording := by
  unfold handle
  show (if c.failure.isSome then _ else _) = _
  split
  · rfl
  cases e with
  | ack =>
    show c.recording.handleAck = c.handleAck.recording
    unfold handleAck
    show (if c.handshake.expectingAck then _ else _) = _
    split <;> rfl
  | packet p =>
    show c.recording.handlePacket p.text = (c.handlePacket p.text).recording
    unfold handlePacket
    rw [recording_acknowledge]
    by_cases hx : p.text = startNoAckMode
    · simp only [if_pos hx]
      rfl
    · have hr : c.acknowledge.recording.responder.respond p.text = _ :=
        c.acknowledge.responder.respond_recording p.text
      simp only [if_neg hx]
      rw [hr]
      match c.acknowledge.responder.respond p.text with
      | (.ok reply, r) => rfl
      | (.error e, r) => rfl

theorem foldl_handle_recording (es : List Event) (c : Connection σ) :
    es.foldl handle c.recording = (es.foldl handle c).recording := by
  induction es generalizing c with
  | nil => rfl
  | cons e es ih => rw [List.foldl_cons, List.foldl_cons, handle_recording, ih]

/-! ## Sessions -/

theorem foldl_run_create (r : Responder σ) {config : Config} (h : 1 ≤ config.recvChunkSize)
    (pieces : List Bytes) :
    pieces.foldl run (create r config) = (create r config).receive pieces.flatten :=
  (settled_create r config).foldl_run (UInt64.le_iff_toNat_le.mp h) pieces

/-- What a session shows is what the events of its stream lead to. -/
theorem foldl_run_shows (r : Responder σ) {config : Config} (h : 1 ≤ config.recvChunkSize)
    (pieces : List Bytes) :
    let d := (({} : Receiver).feed pieces.flatten).drain
    let c := pieces.foldl run (create r config)
    let last := d.events.foldl handle (create r config)
    c.sent = last.sent ∧ c.responder = last.responder ∧ c.handshake = last.handshake ∧
      c.failure = last.failure.or (d.violation.map .invalidPacket) := by
  intro d c last
  have hc : c = (create r config).settle d := (foldl_run_create r h pieces).trans (receive_eq rfl _)
  rw [hc]
  exact settle_shows (create r config) d

theorem foldl_run_closed (r : Responder σ) {config : Config} (h : 1 ≤ config.recvChunkSize)
    {pieces pieces' : List Bytes} (hc : (pieces.foldl run (create r config)).failure.isSome)
    (hp : pieces.flatten <+: pieces'.flatten) :
    pieces'.foldl run (create r config) = pieces.foldl run (create r config) := by
  obtain ⟨more, hmore⟩ := hp
  rw [foldl_run_create r h] at hc ⊢
  rw [foldl_run_create r h, ← hmore, ← receive_receive (settled_create r config).1,
    receive_of_failure hc]

/-- A target that takes its calls down shows the same session. -/
theorem foldl_run_recording (r : Responder σ) {config : Config} (h : 1 ≤ config.recvChunkSize)
    (pieces : List Bytes) :
    let c := pieces.foldl run (create r config)
    let recorded := pieces.foldl run (create r.recording config)
    recorded.sent = c.sent ∧ recorded.responder = c.responder.recording ∧
      recorded.failure = c.failure := by
  intro c recorded
  obtain ⟨hsent, hresponder, -, hfailure⟩ := foldl_run_shows r h pieces
  obtain ⟨hsent', hresponder', -, hfailure'⟩ := foldl_run_shows r.recording h pieces
  have hlast : ∀ es : List Event, es.foldl handle (create r.recording config) =
      (es.foldl handle (create r config)).recording :=
    fun es => foldl_handle_recording es (create r config)
  rw [hlast] at hsent' hresponder' hfailure'
  refine ⟨hsent'.trans hsent.symm, ?_, hfailure'.trans hfailure.symm⟩
  exact hresponder'.trans (congrArg Responder.recording hresponder.symm)

/-- **A session serves its packets in order, up to the first that is no command.** What it logs,
calls and replies is one account, as long as the client takes the replies. The calls are those that
the target itself takes down. -/
theorem run_served (r : Responder σ) {config : Config} (h : 1 ≤ config.recvChunkSize)
    (pieces : List Bytes) :
    let d := (({} : Receiver).feed pieces.flatten).drain
    let texts := d.events.filterMap Event.text?
    let c := pieces.foldl run (create r config)
    let recorded := pieces.foldl run (create r.recording config)
    (∃ a, Served (create r config) texts a c ∧
      a.log = (untilRefused texts).filter (· ≠ startNoAckMode) ∧
      a.calls = (untilRefused texts).filterMap query? ∧
      recorded.responder.state = (c.responder.state, r.asked ++ a.calls) ∧
      recorded.sent = c.sent ∧
      c.failure = (a.refusal.map .decode).or (d.violation.map .invalidPacket)) ∧
    (∀ e, c.failure = some e → e.isProtocolViolation = true) ∧
    (∀ before t after e, texts = before ++ t :: after →
      (∀ u ∈ before, ∃ command, Command.parse u = .ok command) → Command.parse t = .error e →
      untilRefused texts = before ++ [t] ∧ c.responder.log.entries.getLast? = some t ∧
        recorded.responder.state.2 = r.asked ++ before.filterMap query? ∧
        c.replies.length = before.length ∧ c.failure = some (.decode e)) ∧
    (c.failure.isSome → ∀ pieces' : List Bytes, pieces.flatten <+: pieces'.flatten →
      pieces'.foldl run (create r config) = c) := by
  intro d texts c recorded
  obtain ⟨hsent, hresponder, -, hfailure⟩ := foldl_run_shows r h pieces
  obtain ⟨hsent', hresponder', -⟩ := foldl_run_recording r h pieces
  obtain ⟨a, hs, hf⟩ := served_foldl_handle (c := create r config) rfl d.events
  have hserved : Served (create r config) texts a c :=
    hs.congr hresponder (congrArg (List.filterMap Event.payload?) hsent)
  have hstate : recorded.responder.state = (c.responder.state, r.asked ++ a.calls) := by
    rw [show recorded.responder = c.responder.recording from hresponder', Responder.recording,
      hserved.asked]
    rfl
  have hfail : c.failure = (a.refusal.map .decode).or (d.violation.map .invalidPacket) :=
    hf ▸ hfailure
  have hserves := hserved.serves
  refine ⟨⟨a, hserved, hserves.log_eq, hserves.calls_eq, hstate, hsent', hfail⟩, ?_, ?_,
    fun hc pieces' hp => foldl_run_closed r h hc hp⟩
  · intro e he
    rw [hfail] at he
    cases hx : a.refusal with
    | some refusal =>
      rw [hx] at he
      cases he
      rfl
    | none =>
      rw [hx] at he
      obtain ⟨v, -, rfl⟩ := Option.map_eq_some_iff.mp he
      rfl
  · intro before t after e htexts hread hrefused
    have huntil : untilRefused texts = before ++ [t] := by
      rw [htexts, untilRefused_of_refused hread hrefused]
    rw [htexts] at hserves
    obtain ⟨hlog, hcalls, hreplies, hrefusal⟩ := hserves.of_refused hread hrefused
    refine ⟨huntil, ?_, ?_, ?_, ?_⟩
    · rw [hserved.log, hlog]
      simp
    · rw [hstate, hcalls]
    · rw [hserved.replies]
      exact hreplies
    · rw [hfail, hrefusal]
      rfl

/-- Acknowledgements end, a command is answered, the next one is refused, and the one after it is
never seen. -/
theorem run_served_refused :
    let pieces : List Bytes := [
      Wire.ack :: frame (Text.toBytes startNoAckMode) ++ frame (Text.toBytes "?".toList) ++ [0x24],
      Text.toBytes "p?#af".toList ++ frame (Text.toBytes "g".toList)]
    let c := pieces.foldl run (create .default {})
    let recorded := pieces.foldl run (create Responder.default.recording {})
    (1 : UInt64) ≤ ({} : Config).recvChunkSize ∧
      c.responder.log.entries = ["?".toList, "p?".toList] ∧
      recorded.responder.state = ((), [.haltReason]) ∧
      c.replies = [Text.toBytes "OK".toList, Text.toBytes "S02".toList] ∧
      c.failure = some (.decode (.notHex "register number" "?".toList)) := by
  intro pieces c recorded
  have htexts : (({} : Receiver).feed pieces.flatten).drain.events.filterMap Event.text? =
      [startNoAckMode, "?".toList] ++ "p?".toList :: ["g".toList] := by
    decide +kernel
  have hread : ∀ u ∈ [startNoAckMode, "?".toList], ∃ command, Command.parse u = .ok command := by
    rintro u hu
    obtain rfl | rfl := List.mem_pair.mp hu
    · exact ⟨_, parse_startNoAckMode⟩
    · exact ⟨.haltReason, rfl⟩
  obtain ⟨⟨a, hs, hlog, hcalls, hrecorded, -⟩, -, hrefused, -⟩ :=
    @run_served Unit .default {} (by decide) pieces
  obtain ⟨huntil, -, -, -, hfailure⟩ := hrefused _ _ _ _ htexts hread rfl
  rw [huntil] at hlog hcalls
  refine ⟨by decide, ?_, ?_, by decide +kernel, hfailure⟩
  · rw [hs.log, hlog]
    rfl
  · rw [hrecorded, hcalls]
    rfl

end Connection

end RemoteStub
