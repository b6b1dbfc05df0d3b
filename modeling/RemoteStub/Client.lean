import RemoteStub.Error
import RemoteStub.Peer

/-!
# Client

The client's side of a session. What it writes waits in its outbox, what has
arrived waits in its inbox, and every step first writes and then takes what it
needs from what has arrived.
-/

namespace RemoteStub

structure Client where
  receiver : Receiver := {}
  /-- Replies are acknowledged. -/
  ackMode : Bool := true
  /-- The pieces that have arrived and were not read. -/
  inbox : List Bytes := []
  /-- The peer has ended its stream after the inbox. -/
  ended : Bool := false
  /-- What is written and not yet on its way. -/
  outbox : Bytes := []
  deriving DecidableEq, Repr

namespace Client

/-- Why a step yields nothing. -/
inductive Failure where
  | error (e : Error)
  /-- What has arrived is not enough, and more may come. -/
  | waiting
  deriving DecidableEq, Repr

def write (c : Client) (data : Bytes) : Client := { c with outbox := c.outbox ++ data }

def deliver (c : Client) (data : Bytes) (ended : Bool) : Client :=
  { c with inbox := if data.isEmpty then c.inbox else c.inbox ++ [data], ended := c.ended || ended }

/-! ## Reading -/

/-- Reads pieces until an event is complete. -/
def readFrom (ended : Bool) (r : Receiver) (inbox : List Bytes) :
    Except Failure Event × Receiver × List Bytes :=
  match r.next with
  | (.ok (some e), s) => (.ok e, s, inbox)
  | (.error v, s) => (.error (.error (.invalidPacket v)), s, inbox)
  | (.ok none, s) =>
    match inbox with
    | [] => (.error (if ended then .error (.io .closed) else .waiting), s, [])
    | piece :: rest => readFrom ended (s.feed piece) rest

def readEvent (c : Client) : Except Failure Event × Client :=
  let (result, receiver, inbox) := readFrom c.ended c.receiver c.inbox
  (result, { c with receiver, inbox })

/-- The number of bytes that arrived and were not taken. -/
def unread (c : Client) : Nat := c.receiver.pending.length + c.inbox.flatten.length

theorem readFrom_lt {ended : Bool} {r s : Receiver} {inbox rest : List Bytes} {e : Event}
    (h : readFrom ended r inbox = (.ok e, s, rest)) :
    s.pending.length + rest.flatten.length < r.pending.length + inbox.flatten.length := by
  induction inbox generalizing r with
  | nil =>
    unfold readFrom at h
    split at h
    · next hn =>
      have := Receiver.length_pending_lt_of_next hn
      simp only [Prod.mk.injEq] at h
      simp only [← h.2.1, ← h.2.2]
      omega
    · simp at h
    · simp at h
  | cons piece more ih =>
    unfold readFrom at h
    split at h
    · next hn =>
      have := Receiver.length_pending_lt_of_next hn
      simp only [Prod.mk.injEq] at h
      simp only [← h.2.1, ← h.2.2]
      omega
    · simp at h
    · next hn =>
      have := ih h
      simp only [Receiver.feed, Receiver.pending_of_next hn, List.length_append,
        List.flatten_cons] at this ⊢
      omega

theorem unread_lt_of_readEvent {c d : Client} {e : Event} (h : c.readEvent = (.ok e, d)) :
    d.unread < c.unread := by
  unfold readEvent at h
  simp only [Prod.mk.injEq] at h
  have := @readFrom_lt c.ended c.receiver _ c.inbox _ e (Prod.ext h.1 rfl)
  simpa [unread, ← h.2] using this

/-- The next packet. Acknowledgements before it are skipped. -/
def readPacket (c : Client) : Except Failure Packet × Client :=
  match _h : c.readEvent with
  | (.ok (.packet p), d) => (.ok p, d)
  | (.ok .ack, d) => readPacket d
  | (.error f, d) => (.error f, d)
termination_by c.unread
decreasing_by exact unread_lt_of_readEvent _h

/-- The text of the next packet, which is acknowledged while replies are. -/
def readReply (c : Client) : Except Failure Text × Client :=
  match c.readPacket with
  | (.ok p, d) => (.ok p.text, if d.ackMode then d.write [Wire.ack] else d)
  | (.error f, d) => (.error f, d)

/-! ## Steps -/

inductive Step where
  | sendAck
  | sendPacket (payload : Bytes)
  | sendRaw (data : Bytes)
  | readEvent
  | readPacket
  | request (command : Text)
  | startNoAckMode
  | ackMode
  deriving DecidableEq, Repr

inductive Result where
  | done
  | event (e : Event)
  | packet (p : Packet)
  | reply (t : Text)
  | ackMode (acks : Bool)
  deriving DecidableEq, Repr

/-- The request after which neither side acknowledges. -/
def startNoAckMode : Text := "QStartNoAckMode".toList

/-- What a step writes before it reads. -/
def Step.written : Step → Bytes
  | .sendAck => [Wire.ack]
  | .sendPacket payload => frame payload
  | .sendRaw data => data
  | .request command => frame command.toBytes
  | .startNoAckMode => frame Client.startNoAckMode.toBytes
  | .readEvent | .readPacket | .ackMode => []

/-- Acknowledgements end when the peer accepts the request. -/
def agree (c : Client) (reply : Text) : Client :=
  if reply = "OK".toList then { c with ackMode := false } else c

/-- What a step takes once it has written. -/
def take (c : Client) : Step → Except Failure Result × Client
  | .sendAck | .sendPacket _ | .sendRaw _ => (.ok .done, c)
  | .readEvent => let (result, d) := c.readEvent; (result.map .event, d)
  | .readPacket => let (result, d) := c.readPacket; (result.map .packet, d)
  | .request _ => let (result, d) := c.readReply; (result.map .reply, d)
  | .startNoAckMode =>
    match c.readReply with
    | (.ok reply, d) => (.ok (.reply reply), d.agree reply)
    | (.error f, d) => (.error f, d)
  | .ackMode => (.ok (.ackMode c.ackMode), c)

end Client

/-! ## Links -/

/-- A client with its peer, and all that the client has sent. -/
structure Link (π : Type) where
  client : Client := {}
  peer : π
  sent : Bytes := []

namespace Link

variable {π : Type} [Peer π]

/-- Sends what is in the outbox, and takes in what the peer answers. -/
def flush (l : Link π) : Link π :=
  let data := l.client.outbox
  let answer := Peer.accept l.peer data
  { client := { l.client with outbox := [] }.deliver answer.bytes answer.ended
    peer := answer.peer
    sent := l.sent ++ data }

/-- Performs a step: what it writes is sent and answered before it reads. -/
def perform (l : Link π) (step : Client.Step) : Except Client.Failure Client.Result × Link π :=
  let l := { l with client := l.client.write step.written }.flush
  let (result, client) := l.client.take step
  (result, { l with client }.flush)

end Link

end RemoteStub
