import RemoteStub.Responder
import RemoteStub.Error
import RemoteStub.Peer

/-!
# Connection

The server's side of a session: what arrives is turned into events, and each
event is answered under the acknowledgement handshake. The first event that
breaks the protocol closes the connection without a reply.

Two things are taken for granted. The client takes all that is sent to it: where a write
fails, the program ends the session as if the client had left, in the middle of what a
piece completes. And there is memory for the buffer that reads fill.
-/

namespace RemoteStub

structure Handshake where
  /-- Replies are preceded by an acknowledgement. -/
  sendAcks : Bool := true
  /-- The client's acknowledgement of a reply is due. -/
  expectingAck : Bool := false
  deriving DecidableEq, Repr

structure Connection (σ : Type) where
  responder : Responder σ
  /-- The most bytes that one read takes. -/
  chunkSize : Nat
  receiver : Receiver := {}
  handshake : Handshake := {}
  /-- Everything sent, in order. -/
  sent : List Event := []
  /-- The error that closed the connection, if one did. -/
  failure : Option Error := none

namespace Connection

variable {σ : Type}

/-- A connection for one client of a server with this configuration. Its reads have a buffer of the
configured size. -/
def create (responder : Responder σ) (config : Config) : Connection σ :=
  { responder, chunkSize := config.recvChunkSize.toNat }

/-- The request that the connection answers itself: acknowledgements end with it. -/
def startNoAckMode : Text := "QStartNoAckMode".toList

/-- The payload that accepts the request. -/
def accepted : Bytes := Text.toBytes "OK".toList

/-- The client takes what is sent. -/
def send (c : Connection σ) (e : Event) : Connection σ := { c with sent := c.sent ++ [e] }

/-- A closed connection keeps nothing of what it received. -/
def close (c : Connection σ) (e : Error) : Connection σ :=
  { c with receiver := {}, failure := some e }

/-- An acknowledgement that is due is taken; any other is answered in kind. -/
def handleAck (c : Connection σ) : Connection σ :=
  if c.handshake.expectingAck then { c with handshake.expectingAck := false } else c.send .ack

/-- Acknowledges a packet, while packets are acknowledged. -/
def acknowledge (c : Connection σ) : Connection σ :=
  if c.handshake.sendAcks then { c.send .ack with handshake.expectingAck := true } else c

def handlePacket (c : Connection σ) (packet : Text) : Connection σ :=
  let c := c.acknowledge
  if packet = startNoAckMode then
    { c with handshake.sendAcks := false }.send (.packet (.ofPayload accepted))
  else match c.responder.respond packet with
    | (.ok reply, responder) => { c with responder }.send (.packet (.ofPayload reply))
    | (.error e, responder) => { c with responder }.close (.decode e)

/-- Handles one event, unless the connection is closed. -/
def handle (c : Connection σ) (e : Event) : Connection σ :=
  if c.failure.isSome then c
  else match e with
    | .ack => c.handleAck
    | .packet p => c.handlePacket p.text

/-- Handles everything that one piece of the stream completes. -/
def receive (c : Connection σ) (piece : Bytes) : Connection σ :=
  if c.failure.isSome then c
  else
    let d := (c.receiver.feed piece).drain
    let c := d.events.foldl handle { c with receiver := d.receiver }
    match c.failure, d.violation with
    | none, some v => c.close (.invalidPacket v)
    | _, _ => c

/-- The pieces in which reads of at most `size` bytes take in what has arrived. A read of no bytes
is the end of the stream. -/
def reads (size : Nat) (arrived : Bytes) : List Bytes :=
  if _h : size = 0 ∨ arrived = [] then []
  else arrived.take size :: reads size (arrived.drop size)
termination_by arrived.length
decreasing_by
  have : arrived.length ≠ 0 := fun e => _h (.inr (List.eq_nil_of_length_eq_zero e))
  simp only [List.length_drop]
  omega

/-- Handles all that has arrived. -/
def run (c : Connection σ) (arrived : Bytes) : Connection σ :=
  (reads c.chunkSize arrived).foldl receive c

@[simp] theorem run_nil (c : Connection σ) : c.run [] = c := by
  rw [run, reads, dif_pos (.inr rfl)]
  rfl

/-- To a client, a connection sends what it adds to its record, and closing ends its stream. -/
instance : Peer (Connection σ) where
  accept c data :=
    let d := c.run data
    { peer := d
      bytes := Event.encodeAll (d.sent.drop c.sent.length)
      ended := d.failure.isSome }

end Connection

end RemoteStub
