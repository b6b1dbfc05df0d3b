import RemoteStub.Proofs.Client.Reading

/-!
# Steps on a stream that ends

All that a client will ever receive is there, cut into pieces anyhow. A `Turn` is one step
with what it took, yielded and sent, and `Turn.Occurs` tells which turns there are while some
events are left. `performAll_turns`: each step takes the next events of the stream, and one
that finds too few fails for what ended the stream, as does every reading step after it.
-/

namespace RemoteStub

open Receiver
open Event (Acks)

namespace Client

def Step.command? : Step → Option Text
  | .request t => some t
  | .startNoAckMode => some Client.startNoAckMode
  | .sendAck | .sendPacket _ | .sendRaw _ | .readEvent | .readPacket | .ackMode => none

/-- A step that needs something to have arrived. -/
def Step.Reads (step : Step) : Prop :=
  step = .readEvent ∨ step = .readPacket ∨ step.command?.isSome

/-- Why a stream gives no more events: it breaks the framing, or it is over. -/
def ending : Option Violation → Error
  | some v => .invalidPacket v
  | none => .io .closed

/-- One step, and the events that it takes off the stream. -/
structure Turn where
  step : Step
  taken : List Event
  result : Except Failure Result
  sent : Bytes

namespace Turn

/-- Whether the peer accepts that replies are no longer acknowledged. -/
def agrees (t : Turn) : Bool :=
  match t.step, t.result with
  | .startNoAckMode, .ok (.reply reply) => reply = "OK".toList
  | _, _ => false

/-- The turns that there are while replies are acknowledged or not, and these events are left. -/
inductive Occurs (e : Error) (acks : Bool) : List Event → Turn → Prop
  | sendAck (left : List Event) : Occurs e acks left ⟨.sendAck, [], .ok .done, [Wire.ack]⟩
  | sendPacket (left : List Event) (payload : Bytes) :
      Occurs e acks left ⟨.sendPacket payload, [], .ok .done, frame payload⟩
  | sendRaw (left : List Event) (data : Bytes) :
      Occurs e acks left ⟨.sendRaw data, [], .ok .done, data⟩
  | ackMode (left : List Event) : Occurs e acks left ⟨.ackMode, [], .ok (.ackMode acks), []⟩
  | event (x : Event) (more : List Event) :
      Occurs e acks (x :: more) ⟨.readEvent, [x], .ok (.event x), []⟩
  | noEvent : Occurs e acks [] ⟨.readEvent, [], .error (.error e), []⟩
  | packet {skipped : List Event} (h : Acks skipped) (p : Packet) (more : List Event) :
      Occurs e acks (skipped ++ .packet p :: more)
        ⟨.readPacket, skipped ++ [.packet p], .ok (.packet p), []⟩
  | noPacket {skipped : List Event} (h : Acks skipped) :
      Occurs e acks skipped ⟨.readPacket, skipped, .error (.error e), []⟩
  | reply {step : Step} {command : Text} (hc : step.command? = some command)
      {skipped : List Event} (h : Acks skipped) (p : Packet) (more : List Event) :
      Occurs e acks (skipped ++ .packet p :: more)
        ⟨step, skipped ++ [.packet p], .ok (.reply p.text),
          frame command.toBytes ++ if acks then [Wire.ack] else []⟩
  | noReply {step : Step} {command : Text} (hc : step.command? = some command)
      {skipped : List Event} (h : Acks skipped) :
      Occurs e acks skipped ⟨step, skipped, .error (.error e), frame command.toBytes⟩

variable {e : Error} {acks : Bool} {left : List Event} {t : Turn}

/-- A turn that fails has taken all there was. -/
theorem Occurs.failed (h : t.Occurs e acks left) {f : Failure} (hf : t.result = .error f) :
    f = .error e ∧ t.taken = left := by
  cases h with
  | noEvent | noPacket | noReply =>
    cases hf
    exact ⟨rfl, rfl⟩
  | _ => cases hf

theorem Occurs.exhausted (h : t.Occurs e acks left) (hleft : left = []) (hr : t.step.Reads) :
    t.result = .error (.error e) := by
  cases h with
  | noEvent | noPacket | noReply => rfl
  | event => cases hleft
  | packet | reply => simp at hleft
  | _ => simp [Step.Reads, Step.command?] at hr

end Turn

/-- Whether replies are still acknowledged after these turns. -/
def acking (turns : List Turn) : Bool := turns.all fun t => !t.agrees

/-- Turns that follow one another, and the events that they leave. -/
inductive Turns (e : Error) : Bool → List Event → List Turn → List Event → Prop
  | nil (acks : Bool) (left : List Event) : Turns e acks left [] left
  | cons {acks : Bool} {more last : List Event} {t : Turn} {turns : List Turn}
      (h : t.Occurs e acks (t.taken ++ more)) (hs : Turns e (acks && !t.agrees) more turns last) :
      Turns e acks (t.taken ++ more) (t :: turns) last

section
variable {e : Error} {acks : Bool} {left last : List Event} {before turns : List Turn} {t : Turn}

theorem Turns.taken (h : Turns e acks left turns last) :
    left = turns.flatMap Turn.taken ++ last := by
  induction h with
  | nil => rfl
  | cons _ _ ih => rw [List.flatMap_cons, List.append_assoc, ← ih]

theorem Turns.split (h : Turns e acks left (before ++ turns) last) :
    ∃ mid, left = before.flatMap Turn.taken ++ mid ∧
      Turns e (acks && acking before) mid turns last := by
  induction before generalizing acks left with
  | nil => exact ⟨left, rfl, by simpa [acking] using h⟩
  | cons t before ih =>
    cases h with
    | cons _ hs =>
      obtain ⟨mid, hmid, hrest⟩ := ih hs
      refine ⟨mid, ?_, ?_⟩
      · rw [hmid, List.flatMap_cons, List.append_assoc]
      · simpa [acking, Bool.and_assoc] using hrest

theorem Turns.exhausted (h : Turns e acks [] turns last) :
    ∀ t ∈ turns, t.step.Reads → t.result = .error (.error e) := by
  generalize hleft : ([] : List Event) = left at h
  induction h with
  | nil => exact fun t ht => absurd ht List.not_mem_nil
  | cons h hs ih =>
    obtain ⟨htaken, hmore⟩ := List.append_eq_nil_iff.mp hleft.symm
    intro u hu hr
    rcases List.mem_cons.mp hu with rfl | hu
    · exact h.exhausted hleft.symm hr
    · exact ih hmore.symm u hu hr

end

/-! ## One step -/

/-- Nothing will arrive but these events, and what ends the stream. -/
structure Faces (c : Client) (left : List Event) (v : Option Violation) : Prop where
  sound : c.receiver.Sound
  decodes : ∃ rest, Decodes c.held left rest ∧
    yielded true (front rest) = .error (.error (ending v))
  ended : c.ended = true

variable {c : Client} {left more : List Event} {v : Option Violation}

theorem Leaves.faces {d : Client} {bytes rest : Bytes} (h : c.Leaves d bytes) (hc : c.ended = true)
    (hd : Decodes bytes left rest) (hf : yielded true (front rest) = .error (.error (ending v))) :
    d.Faces left v where
  sound := h.sound
  decodes := ⟨rest, h.held ▸ hd, hf⟩
  ended := h.ended.trans hc

theorem faces_start (pieces : List Bytes) :
    let d := (({} : Receiver).feed pieces.flatten).drain
    ({ inbox := pieces, ended := true } : Client).Faces d.events d.violation := by
  have hsound : (({} : Receiver).feed pieces.flatten).Sound := (sound_of_pending []).feed _
  obtain ⟨es, rest, hd, hend⟩ := hsound.drain_cases
  refine ⟨sound_of_pending [], ⟨rest, ?_, ?_⟩, rfl⟩
  · rcases hend with ⟨-, hr⟩ | ⟨w, s, -, hr, -⟩
    · rw [hr]
      exact hd
    · rw [hr]
      exact hd
  · rcases hend with ⟨hi, hr⟩ | ⟨w, s, hb, hr, -⟩
    · rw [hr, hi]
      rfl
    · rw [hr, hb]
      rfl

theorem Faces.readEvent_cons {e : Event} (h : c.Faces (e :: left) v) :
    ∃ d, c.readEvent = (.ok e, d) ∧ d.Faces left v ∧ c.Keeps d := by
  obtain ⟨rest, hd, hf⟩ := h.decodes
  cases hd with
  | cons hfront hd =>
    obtain ⟨d, hread, hl⟩ := readEvent_eq h.sound
    rw [hfront] at hread hl
    exact ⟨d, hread, hl.faces h.ended hd hf, hl.ackMode, hl.ended, hl.outbox⟩

theorem Faces.readEvent_nil (h : c.Faces [] v) :
    ∃ d, c.readEvent = (.error (.error (ending v)), d) ∧ d.Faces [] v ∧ c.Keeps d := by
  obtain ⟨rest, hd, hf⟩ := h.decodes
  obtain ⟨d, hread, hl⟩ := readEvent_eq h.sound
  cases hd
  rw [h.ended, hf] at hread
  rw [left_of_error hf] at hl
  exact ⟨d, hread, hl.faces h.ended (.nil c.held) hf, hl.ackMode, hl.ended, hl.outbox⟩

theorem Faces.readPacket_acks (h : c.Faces left v) (hl : Acks left) :
    ∃ d, c.readPacket = (.error (.error (ending v)), d) ∧ d.Faces [] v ∧ c.Keeps d := by
  obtain ⟨rest, hd, hf⟩ := h.decodes
  obtain ⟨d, hread, hleaves⟩ := readPacket_of_stuck h.sound hl hd (h.ended ▸ hf)
  exact ⟨d, hread, hleaves.faces h.ended (.nil rest) hf, hleaves.ackMode, hleaves.ended,
    hleaves.outbox⟩

theorem Faces.readPacket_packet {skipped : List Event} {p : Packet}
    (h : c.Faces (skipped ++ .packet p :: more) v) (hs : Acks skipped) :
    ∃ d, c.readPacket = (.ok p, d) ∧ d.Faces more v ∧ c.Keeps d := by
  obtain ⟨rest, hd, hf⟩ := h.decodes
  rw [List.append_cons] at hd
  obtain ⟨mid, hpacket, hmore⟩ := hd.split
  obtain ⟨d, hread, hl⟩ := readPacket_of_packet h.sound hs hpacket
  exact ⟨d, hread, hl.faces h.ended hmore hf, hl.ackMode, hl.ended, hl.outbox⟩

theorem Faces.readReply_packet {skipped : List Event} {p : Packet}
    (h : c.Faces (skipped ++ .packet p :: more) v) (hs : Acks skipped) :
    ∃ d, c.readReply = (.ok p.text, d) ∧ d.Faces more v ∧ d.ackMode = c.ackMode ∧
      d.outbox = c.outbox ++ if c.ackMode then [Wire.ack] else [] := by
  obtain ⟨rest, hd, hf⟩ := h.decodes
  rw [List.append_cons] at hd
  obtain ⟨mid, hpacket, hmore⟩ := hd.split
  obtain ⟨d, hread, hsound, hheld, hack, hended, houtbox⟩ := readReply_of_packet h.sound hs hpacket
  exact ⟨d, hread, ⟨hsound, ⟨rest, hheld ▸ hmore, hf⟩, hended.trans h.ended⟩, hack, houtbox⟩

theorem Faces.readReply_acks (h : c.Faces left v) (hl : Acks left) :
    ∃ d, c.readReply = (.error (.error (ending v)), d) ∧ d.Faces [] v ∧ c.Keeps d := by
  obtain ⟨d, hread, hd⟩ := h.readPacket_acks hl
  exact ⟨d, readReply_of_error hread, hd⟩

/-- A turn of a client, and the client that it leaves. -/
structure Passes (c : Client) (v : Option Violation) (left : List Event) (t : Turn) (d : Client) :
    Prop where
  take : c.take t.step = (t.result, d)
  occurs : t.Occurs (ending v) c.ackMode left
  faces : ∃ more, left = t.taken ++ more ∧ d.Faces more v
  ackMode : d.ackMode = (c.ackMode && !t.agrees)
  sent : t.sent = t.step.written ++ d.outbox

theorem Passes.of_keeps {t : Turn} {d : Client} (ht : c.take t.step = (t.result, d))
    (h : t.Occurs (ending v) c.ackMode left) (hd : ∃ more, left = t.taken ++ more ∧ d.Faces more v)
    (hk : c.Keeps d) (ho : c.outbox = []) (ha : t.agrees = false) (hs : t.sent = t.step.written) :
    c.Passes v left t d where
  take := ht
  occurs := h
  faces := hd
  ackMode := by rw [hk.ackMode, ha, Bool.not_false, Bool.and_true]
  sent := by rw [hs, hk.outbox, ho, List.append_nil]

theorem Faces.agree (h : c.Faces left v) (reply : Text) : (c.agree reply).Faces left v := by
  unfold Client.agree
  split
  · exact ⟨h.sound, h.decodes, h.ended⟩
  · exact h

theorem ackMode_agree (c : Client) (reply : Text) :
    (c.agree reply).ackMode = (c.ackMode && !decide (reply = "OK".toList)) := by
  unfold agree
  by_cases h : reply = "OK".toList
  · rw [if_pos h, decide_eq_true h, Bool.not_true, Bool.and_false]
  · rw [if_neg h, decide_eq_false h, Bool.not_false, Bool.and_true]

theorem outbox_agree (c : Client) (reply : Text) : (c.agree reply).outbox = c.outbox := by
  unfold agree
  split
  · rfl
  · rfl

theorem Step.written_of_command {step : Step} {command : Text} (hc : step.command? = some command) :
    step.written = frame command.toBytes := by
  cases step with
  | request | startNoAckMode =>
    cases hc
    rfl
  | _ => cases hc

theorem take_of_noReply {step : Step} {command : Text} (hc : step.command? = some command)
    {f : Failure} {d : Client} (h : c.readReply = (.error f, d)) :
    c.take step = (.error f, d) := by
  cases step with
  | request =>
    rw [take, h]
    rfl
  | startNoAckMode => rw [take, h]
  | _ => cases hc

/-- A reply that agrees is heeded where the command asked for it. -/
theorem take_of_reply {step : Step} {command : Text} (hc : step.command? = some command)
    {reply : Text} {d : Client} (h : c.readReply = (.ok reply, d)) :
    ∃ d', c.take step = (.ok (.reply reply), d') ∧ (d' = d ∨ d' = d.agree reply) ∧
      ∀ taken sent, d'.ackMode =
        (d.ackMode && !(⟨step, taken, .ok (.reply reply), sent⟩ : Turn).agrees) := by
  cases step with
  | request =>
    refine ⟨d, ?_, .inl rfl, fun _ _ => (Bool.and_true _).symm⟩
    rw [take, h]
    rfl
  | startNoAckMode =>
    refine ⟨d.agree reply, ?_, .inr rfl, fun _ _ => ackMode_agree d reply⟩
    rw [take, h]
  | _ => cases hc

theorem Faces.passes_readEvent (h : c.Faces left v) (ho : c.outbox = []) :
    ∃ t d, t.step = .readEvent ∧ c.Passes v left t d := by
  cases left with
  | nil =>
    obtain ⟨d, hread, hd, hk⟩ := h.readEvent_nil
    have ht : c.take .readEvent = (.error (.error (ending v)), d) := by
      rw [take, hread]
      rfl
    exact ⟨_, d, rfl, .of_keeps ht .noEvent ⟨[], rfl, hd⟩ hk ho rfl rfl⟩
  | cons x more =>
    obtain ⟨d, hread, hd, hk⟩ := h.readEvent_cons
    have ht : c.take .readEvent = (.ok (.event x), d) := by
      rw [take, hread]
      rfl
    exact ⟨_, d, rfl, .of_keeps ht (.event x more) ⟨more, rfl, hd⟩ hk ho rfl rfl⟩

theorem Faces.passes_readPacket (h : c.Faces left v) (ho : c.outbox = []) :
    ∃ t d, t.step = .readPacket ∧ c.Passes v left t d := by
  rcases Event.acks_or_packet left with hl | ⟨skipped, p, more, hs, rfl⟩
  · obtain ⟨d, hread, hd, hk⟩ := h.readPacket_acks hl
    have ht : c.take .readPacket = (.error (.error (ending v)), d) := by
      rw [take, hread]
      rfl
    exact ⟨_, d, rfl, .of_keeps ht (.noPacket hl) ⟨[], (List.append_nil _).symm, hd⟩ hk ho rfl rfl⟩
  · obtain ⟨d, hread, hd, hk⟩ := h.readPacket_packet hs
    have ht : c.take .readPacket = (.ok (.packet p), d) := by
      rw [take, hread]
      rfl
    exact ⟨_, d, rfl, .of_keeps ht (.packet hs p more) ⟨more, by simp, hd⟩ hk ho rfl rfl⟩

theorem Faces.passes_command (h : c.Faces left v) (ho : c.outbox = []) {step : Step}
    {command : Text} (hc : step.command? = some command) :
    ∃ t d, t.step = step ∧ c.Passes v left t d := by
  have hwritten := Step.written_of_command hc
  rcases Event.acks_or_packet left with hl | ⟨skipped, p, more, hs, rfl⟩
  · obtain ⟨d, hread, hd, hk⟩ := h.readReply_acks hl
    exact ⟨_, d, rfl, .of_keeps (take_of_noReply hc hread) (.noReply hc hl)
      ⟨[], (List.append_nil _).symm, hd⟩ hk ho (by cases step <;> rfl) hwritten.symm⟩
  · obtain ⟨d, hread, hd, hack, houtbox⟩ := h.readReply_packet hs
    obtain ⟨d', ht, hd', hagrees⟩ := take_of_reply hc hread
    rw [ho, List.nil_append] at houtbox
    have hfaces : d'.Faces more v ∧ d'.outbox = d.outbox := by
      obtain rfl | rfl := hd'
      · exact ⟨hd, rfl⟩
      · exact ⟨hd.agree _, outbox_agree _ _⟩
    refine ⟨_, d', rfl, ht, .reply hc hs p more, ⟨more, by simp, hfaces.1⟩, ?_, ?_⟩
    · rw [hagrees, hack]
    · rw [hfaces.2, houtbox, hwritten]

/-- **Every step is a turn** on the events that are left. -/
theorem Faces.passes (h : c.Faces left v) (ho : c.outbox = []) (step : Step) :
    ∃ t d, t.step = step ∧ c.Passes v left t d := by
  have hkeeps : c.Keeps c := ⟨rfl, rfl, rfl⟩
  cases step with
  | sendAck => exact ⟨_, c, rfl, .of_keeps rfl (.sendAck left) ⟨left, rfl, h⟩ hkeeps ho rfl rfl⟩
  | sendPacket payload =>
    exact ⟨_, c, rfl, .of_keeps rfl (.sendPacket left payload) ⟨left, rfl, h⟩ hkeeps ho rfl rfl⟩
  | sendRaw data =>
    exact ⟨_, c, rfl, .of_keeps rfl (.sendRaw left data) ⟨left, rfl, h⟩ hkeeps ho rfl rfl⟩
  | readEvent => exact h.passes_readEvent ho
  | readPacket => exact h.passes_readPacket ho
  | request command => exact h.passes_command ho rfl
  | startNoAckMode => exact h.passes_command ho rfl
  | ackMode => exact ⟨_, c, rfl, .of_keeps rfl (.ackMode left) ⟨left, rfl, h⟩ hkeeps ho rfl rfl⟩

end Client

/-! ## All steps -/

namespace Link

open Client

def performAll {π : Type} [Peer π] (l : Link π) :
    List Step → List (Except Failure Result) × Link π
  | [] => ([], l)
  | step :: steps =>
    let (result, l) := l.perform step
    let (results, l) := l.performAll steps
    (result :: results, l)

/-- A client to which these pieces were sent, and no more will be. It may send what it likes. -/
def listening (pieces : List Bytes) : Link Unit :=
  { client := { inbox := pieces, ended := true }, peer := () }

variable {l : Link Unit} {left : List Event} {v : Option Violation}

theorem flush_unit (l : Link Unit) : l.flush =
    { l with client := { l.client with outbox := [] }, sent := l.sent ++ l.client.outbox } := by
  simp [flush, Peer.accept, deliver]

theorem perform_unit (ho : l.client.outbox = []) {step : Step} {result : Except Failure Result}
    {d : Client} (ht : l.client.take step = (result, d)) : l.perform step =
      (result, { l with client := { d with outbox := [] },
                        sent := l.sent ++ (step.written ++ d.outbox) }) := by
  have hbegun : { l.client.write step.written with outbox := [] } = l.client := by
    rw [write, ← ho]
  simp only [perform, flush_unit, hbegun, ht]
  simp [write, ho]

theorem performAll_cons {step : Step} {result : Except Failure Result} {m : Link Unit}
    (h : l.perform step = (result, m)) (steps : List Step) :
    l.performAll (step :: steps) = (result :: (m.performAll steps).1, (m.performAll steps).2) := by
  rw [performAll, h]

/-- **All steps are turns**, one after the other. -/
theorem performAll_of_faces (h : l.client.Faces left v) (ho : l.client.outbox = [])
    (steps : List Step) : ∃ turns last,
      turns.map Turn.step = steps ∧ (l.performAll steps).1 = turns.map Turn.result ∧
        (l.performAll steps).2.sent = l.sent ++ turns.flatMap Turn.sent ∧
        (l.performAll steps).2.client.ackMode = (l.client.ackMode && acking turns) ∧
        Turns (ending v) l.client.ackMode left turns last := by
  induction steps generalizing l left with
  | nil =>
    have hack : (l.client.ackMode && acking []) = l.client.ackMode := Bool.and_true _
    exact ⟨[], left, rfl, rfl, (List.append_nil _).symm, hack.symm, .nil _ _⟩
  | cons step steps ih =>
    obtain ⟨t, d, rfl, hp⟩ := h.passes ho step
    obtain ⟨more, rfl, hd⟩ := hp.faces
    let m : Link Unit :=
      { l with client := { d with outbox := [] }, sent := l.sent ++ (t.step.written ++ d.outbox) }
    have hm : m.client.Faces more v := ⟨hd.sound, hd.decodes, hd.ended⟩
    have hack : m.client.ackMode = (l.client.ackMode && !t.agrees) := hp.ackMode
    have hsent : m.sent = l.sent ++ t.sent := by rw [hp.sent]
    obtain ⟨turns, last, rfl, hresults, hsents, hacks, hturns⟩ := ih hm rfl
    rw [hack] at hacks hturns
    rw [hsent] at hsents
    rw [performAll_cons (m := m) (perform_unit ho hp.take)]
    have hresult : t.result :: (m.performAll (turns.map Turn.step)).1 =
        t.result :: turns.map Turn.result := congrArg _ hresults
    refine ⟨t :: turns, last, rfl, hresult, ?_, ?_, .cons hp.occurs hturns⟩
    · rw [hsents, List.flatMap_cons, List.append_assoc]
    · rw [hacks, Bool.and_assoc]
      rfl

/-- **What a client reads and sends, step by step.** The pieces of a stream matter no more than the
stream. Of the events that it decodes to, each step takes the next ones, and it depends on them and
on whether replies are acknowledged, which they are until the peer agrees that they are not. Once a
step fails, all events have been taken, and every reading step fails for the same reason, which is
the violation that ends the stream or else that it is over. -/
theorem performAll_turns (pieces : List Bytes) (steps : List Step) :
    let d := (({} : Receiver).feed pieces.flatten).drain
    let (results, l) := (listening pieces).performAll steps
    ∃ turns : List Turn,
      turns.map Turn.step = steps ∧ turns.map Turn.result = results ∧
        turns.flatMap Turn.taken <+: d.events ∧
        l.sent = turns.flatMap Turn.sent ∧
        l.client.ackMode = acking turns ∧
        (∀ before t after, turns = before ++ t :: after →
          ∃ left, d.events = before.flatMap Turn.taken ++ left ∧
            t.Occurs (ending d.violation) (acking before) left) ∧
        ∀ before t after f, turns = before ++ t :: after → t.result = .error f →
          f = .error (ending d.violation) ∧ (before ++ [t]).flatMap Turn.taken = d.events ∧
            ∀ u ∈ after, u.step.Reads → u.result = .error f := by
  intro d
  obtain ⟨turns, last, hsteps, hresults, hsent, hack, hturns⟩ :=
    performAll_of_faces (l := listening pieces) (faces_start pieces) rfl steps
  have hacks : ∀ turns, ((listening pieces).client.ackMode && acking turns) = acking turns :=
    fun turns => Bool.true_and _
  refine ⟨turns, hsteps, hresults.symm, ?_, hsent, ?_, ?_, ?_⟩
  · exact ⟨last, hturns.taken.symm⟩
  · rw [hack, hacks]
  · intro before t after hsplit
    rw [hsplit] at hturns
    obtain ⟨left, hleft, hlater⟩ := hturns.split
    rw [hacks] at hlater
    cases hlater with
    | cons h _ => exact ⟨_, hleft, h⟩
  · intro before t after f hsplit hf
    rw [hsplit] at hturns
    obtain ⟨left, hleft, hlater⟩ := hturns.split
    cases hlater with
    | @cons _ more _ _ _ h hs =>
      -- the step that fails leaves no event to the steps after it
      obtain ⟨rfl, htaken⟩ := h.failed hf
      obtain rfl : more = [] := List.self_eq_append_right.mp htaken
      refine ⟨rfl, ?_, hs.exhausted⟩
      rw [List.flatMap_append, List.flatMap_singleton]
      rw [List.append_nil] at hleft
      exact hleft.symm

end Link

end RemoteStub
