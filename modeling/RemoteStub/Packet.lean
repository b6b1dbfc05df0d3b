import RemoteStub.Frame

/-!
# Packets and events

A packet is a payload with its checksum. What arrives over the connection is a
sequence of events, and what the stub sends is one too.
-/

namespace RemoteStub

structure Packet where
  payload : Bytes
  checksum : UInt8
  deriving DecidableEq, Repr

namespace Packet

/-- The packet with this payload. -/
def ofPayload (payload : Bytes) : Packet := ⟨payload, RemoteStub.checksum payload⟩

@[simp] theorem payload_ofPayload (payload : Bytes) : (ofPayload payload).payload = payload := rfl

/-- The payload as text; ill-formed parts are replaced. -/
def text (p : Packet) : Text := Text.ofBytes p.payload

end Packet

inductive Event where
  | ack
  /-- A complete packet whose checksum agrees. -/
  | packet (p : Packet)
  deriving DecidableEq, Repr

namespace Event

def encode : Event → Bytes
  | ack => [Wire.ack]
  | packet p => frame p.payload

def encodeAll (events : List Event) : Bytes := events.flatMap encode

end Event

end RemoteStub
