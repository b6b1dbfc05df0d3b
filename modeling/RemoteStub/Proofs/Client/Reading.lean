import RemoteStub.Client
import RemoteStub.Proofs.Receiver.Framing

/-!
# What a client reads

What has arrived and was not taken decides what a client reads, however it arrived
(`readEvent_eq`). A packet is read past the acknowledgements before it
(`readPacket_of_packet`), and they are taken also when no packet follows
(`readPacket_of_incomplete`).
-/

namespace RemoteStub.Client

open Event (Acks)

/-- The bytes that arrived and were not taken. -/
def held (c : Client) : Bytes := c.receiver.pending ++ c.inbox.flatten

theorem held_deliver (c : Client) (data : Bytes) (ended : Bool) :
    (c.deliver data ended).held = c.held ++ data := by
  unfold held deliver
  cases data with
  | nil => simp
  | cons b data => simp

/-- Why reading stops when what has arrived is not enough. -/
def stalled (ended : Bool) : Failure := if ended then .error (.io .closed) else .waiting

/-- Reading leaves a client that holds these bytes, and touches nothing else. -/
structure Leaves (c d : Client) (bytes : Bytes) : Prop where
  sound : d.receiver.Sound
  held : d.held = bytes
  ackMode : d.ackMode = c.ackMode
  ended : d.ended = c.ended
  outbox : d.outbox = c.outbox

theorem Leaves.trans {c d e : Client} {bytes rest : Bytes} (h : Leaves c d bytes)
    (t : Leaves d e rest) : Leaves c e rest where
  sound := t.sound
  held := t.held
  ackMode := t.ackMode.trans h.ackMode
  ended := t.ended.trans h.ended
  outbox := t.outbox.trans h.outbox

/-! ## Events -/

/-- What reading yields, by what stands at the front. -/
def yielded (ended : Bool) : Receiver.Front → Except Failure Event
  | .event e _ => .ok e
  | .broken v => .error (.error (.invalidPacket v))
  | .incomplete => .error (stalled ended)

/-- What reading leaves: only an event is taken. -/
def left (bytes : Bytes) : Receiver.Front → Bytes
  | .event _ rest => rest
  | .broken _ | .incomplete => bytes

theorem left_of_error {ended : Bool} {bytes : Bytes} {x : Receiver.Front} {f : Failure}
    (h : yielded ended x = .error f) : left bytes x = bytes := by
  cases x with
  | event e rest => cases h
  | broken v => rfl
  | incomplete => rfl

section
open Receiver

variable (ended : Bool) {r : Receiver} {inbox : List Bytes}

theorem readFrom_cons (h : r.Sound) (hi : front r.pending = .incomplete) (piece : Bytes) :
    readFrom ended r (piece :: inbox) = readFrom ended ((parked r.pending).feed piece) inbox := by
  have hn := h.next_eq
  rw [hi] at hn
  rw [readFrom, hn]

theorem readFrom_eq (h : r.Sound) :
    ∃ s more,
      readFrom ended r inbox = (yielded ended (front (r.pending ++ inbox.flatten)), s, more) ∧
      s.Sound ∧ s.pending ++ more.flatten =
        left (r.pending ++ inbox.flatten) (front (r.pending ++ inbox.flatten)) := by
  have hn := h.next_eq
  induction inbox generalizing r with
  | nil =>
    rw [List.flatten_nil, List.append_nil]
    cases hx : front r.pending with
    | event e rest =>
      rw [hx] at hn
      exact ⟨_, [], by rw [readFrom, hn]; rfl, sound_of_pending rest, by simp [left]⟩
    | broken v =>
      rw [hx] at hn
      exact ⟨r, [], by rw [readFrom, hn]; rfl, h, by simp [left]⟩
    | incomplete =>
      rw [hx] at hn
      exact ⟨_, [], by rw [readFrom, hn]; rfl, sound_parked hx, by simp [left, parked]⟩
  | cons piece inbox ih =>
    -- a piece is only taken where the bytes before it do not decide
    cases hx : front r.pending with
    | event e rest =>
      rw [hx] at hn
      rw [front_append_of_event hx]
      exact ⟨_, piece :: inbox, by rw [readFrom, hn]; rfl, sound_of_pending rest, rfl⟩
    | broken v =>
      rw [hx] at hn
      rw [front_append_of_broken hx]
      exact ⟨r, piece :: inbox, by rw [readFrom, hn]; rfl, h, rfl⟩
    | incomplete =>
      have hs := (sound_parked hx).feed piece
      have hp : ((parked r.pending).feed piece).pending = r.pending ++ piece := rfl
      rw [readFrom_cons ended h hx, List.flatten_cons, ← List.append_assoc, ← hp]
      exact ih hs hs.next_eq

end

/-- **What stands at the front decides what is read**, in whatever pieces it arrived. -/
theorem readEvent_eq {c : Client} (h : c.receiver.Sound) :
    ∃ d, c.readEvent = (yielded c.ended (Receiver.front c.held), d) ∧
      c.Leaves d (left c.held (Receiver.front c.held)) := by
  obtain ⟨s, more, hs, hsound, hheld⟩ := @readFrom_eq c.ended c.receiver c.inbox h
  refine ⟨{ c with receiver := s, inbox := more }, ?_, hsound, hheld, rfl, rfl, rfl⟩
  rw [readEvent, hs]
  rfl

/-! ## Packets -/

theorem readPacket_of_error {c d : Client} {f : Failure} (h : c.readEvent = (.error f, d)) :
    c.readPacket = (.error f, d) := by
  rw [readPacket]
  split <;> simp_all

theorem readPacket_of_ack {c d : Client} (h : c.readEvent = (.ok .ack, d)) :
    c.readPacket = d.readPacket := by
  rw [readPacket]
  split <;> simp_all

theorem readPacket_of_event {c d : Client} {p : Packet} (h : c.readEvent = (.ok (.packet p), d)) :
    c.readPacket = (.ok p, d) := by
  rw [readPacket]
  split <;> simp_all

section
open Receiver

theorem readPacket_skips {c : Client} (h : c.receiver.Sound) {es : List Event} (hes : Acks es)
    {rest : Bytes} (hd : Decodes c.held es rest) :
    ∃ d, c.readPacket = d.readPacket ∧ c.Leaves d rest := by
  induction es generalizing c with
  | nil =>
    cases hd
    exact ⟨c, rfl, h, rfl, rfl, rfl, rfl⟩
  | cons e es ih =>
    cases hd with
    | cons hf hd =>
      obtain rfl := hes e List.mem_cons_self
      obtain ⟨d, hread, hleaves⟩ := readEvent_eq h
      rw [hf] at hread hleaves
      rw [readPacket_of_ack hread]
      obtain ⟨d', hskip, hleaves'⟩ := ih hleaves.sound
        (fun e he => hes e (List.mem_cons_of_mem _ he)) (hleaves.held ▸ hd)
      exact ⟨d', hskip, hleaves.trans hleaves'⟩

/-- **A packet is read past acknowledgements.** -/
theorem readPacket_of_packet {c : Client} (h : c.receiver.Sound) {es : List Event} (hes : Acks es)
    {p : Packet} {rest : Bytes} (hd : Decodes c.held (es ++ [.packet p]) rest) :
    ∃ d, c.readPacket = (.ok p, d) ∧ c.Leaves d rest := by
  obtain ⟨mid, hacks, hlast⟩ := hd.split
  cases hlast with
  | cons hf hnil =>
    cases hnil
    obtain ⟨d, hskip, hleaves⟩ := readPacket_skips h hes hacks
    obtain ⟨d', hread, hleaves'⟩ := readEvent_eq hleaves.sound
    rw [hleaves.held, hf] at hread hleaves'
    exact ⟨d', by rw [hskip, readPacket_of_event hread], hleaves.trans hleaves'⟩

/-- A client that finds no packet has taken the acknowledgements. -/
theorem readPacket_of_stuck {c : Client} (h : c.receiver.Sound) {es : List Event} (hes : Acks es)
    {rest : Bytes} (hd : Decodes c.held es rest) {f : Failure}
    (hf : yielded c.ended (front rest) = .error f) :
    ∃ d, c.readPacket = (.error f, d) ∧ c.Leaves d rest := by
  obtain ⟨d, hskip, hleaves⟩ := readPacket_skips h hes hd
  obtain ⟨d', hread, hleaves'⟩ := readEvent_eq hleaves.sound
  rw [hleaves.held] at hread hleaves'
  rw [hleaves.ended, hf] at hread
  rw [left_of_error hf] at hleaves'
  exact ⟨d', by rw [hskip, readPacket_of_error hread], hleaves.trans hleaves'⟩

theorem readPacket_of_incomplete {c : Client} (h : c.receiver.Sound) {es : List Event}
    (hes : Acks es) {rest : Bytes} (hd : Decodes c.held es rest) (hi : front rest = .incomplete) :
    ∃ d, c.readPacket = (.error (stalled c.ended), d) ∧ c.Leaves d rest :=
  readPacket_of_stuck h hes hd (by rw [hi]; rfl)

/-- A reply is acknowledged while replies are. -/
theorem readReply_of_packet {c : Client} (h : c.receiver.Sound) {es : List Event} (hes : Acks es)
    {p : Packet} {rest : Bytes} (hd : Decodes c.held (es ++ [.packet p]) rest) :
    ∃ d, c.readReply = (.ok p.text, d) ∧ d.receiver.Sound ∧ d.held = rest ∧
      d.ackMode = c.ackMode ∧ d.ended = c.ended ∧
      d.outbox = c.outbox ++ if c.ackMode then [Wire.ack] else [] := by
  obtain ⟨d, hread, hl⟩ := readPacket_of_packet h hes hd
  refine ⟨if d.ackMode then d.write [Wire.ack] else d, by rw [readReply, hread], ?_⟩
  have hack := hl.ackMode
  cases hm : c.ackMode with
  | true =>
    rw [hm] at hack
    rw [if_pos hack]
    exact ⟨hl.sound, hl.held, hack, hl.ended, congrArg (· ++ [Wire.ack]) hl.outbox⟩
  | false =>
    rw [hm] at hack
    rw [if_neg (Bool.eq_false_iff.mp hack)]
    exact ⟨hl.sound, hl.held, hack, hl.ended, hl.outbox.trans (List.append_nil _).symm⟩

end

theorem readReply_of_error {c d : Client} {f : Failure} (h : c.readPacket = (.error f, d)) :
    c.readReply = (.error f, d) := by
  rw [readReply, h]

/-- Reading touches nothing but what has arrived. -/
structure Keeps (c d : Client) : Prop where
  ackMode : d.ackMode = c.ackMode
  ended : d.ended = c.ended
  outbox : d.outbox = c.outbox

theorem keeps_of_readEvent {c d : Client} {result : Except Failure Event}
    (h : c.readEvent = (result, d)) : c.Keeps d := by
  have := congrArg Prod.snd h
  subst this
  exact ⟨rfl, rfl, rfl⟩

theorem keeps_readPacket (c : Client) : c.Keeps c.readPacket.2 := by
  cases hx : c.readEvent with
  | mk result d =>
    have hd := keeps_of_readEvent hx
    match result with
    | .error f => rw [readPacket_of_error hx]; exact hd
    | .ok (.packet p) => rw [readPacket_of_event hx]; exact hd
    | .ok .ack =>
      have := unread_lt_of_readEvent hx
      have hlater := keeps_readPacket d
      rw [readPacket_of_ack hx]
      exact ⟨hlater.ackMode.trans hd.ackMode, hlater.ended.trans hd.ended,
        hlater.outbox.trans hd.outbox⟩
termination_by c.unread

end RemoteStub.Client
