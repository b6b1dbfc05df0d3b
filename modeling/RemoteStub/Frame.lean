import RemoteStub.Hex

/-!
# Frames

A packet travels as `$`, its payload, `#` and two checksum digits. Replies that
carry binary data escape the bytes that would break the frame.
-/

namespace RemoteStub

namespace Wire

/-- Acknowledges a packet. -/
def ack : UInt8 := 0x2b

/-- Opens a frame. -/
def packetStart : UInt8 := 0x24

/-- Closes a frame's payload; the checksum digits follow. -/
def packetEnd : UInt8 := 0x23

/-- Announces an escaped byte. -/
def escapeMark : UInt8 := 0x7d

/-- What an escaped byte is combined with. -/
def escapeMask : UInt8 := 0x20

/-- The largest payload that the stub announces to its client. -/
def maxPacketSize : Nat := 0x3fff

end Wire

open Wire

/-- The sum of the bytes modulo 256. -/
def checksum (payload : Bytes) : UInt8 := payload.foldl (· + ·) 0

/-- The two digits that state a checksum. -/
def checksumDigits (payload : Bytes) : Bytes := Text.toBytes (Hex.octet (checksum payload))

/-- A payload as it travels. -/
def frame (payload : Bytes) : Bytes :=
  packetStart :: payload ++ packetEnd :: checksumDigits payload

/-- Whether a byte cannot travel in binary data as itself. -/
def needsEscape (b : UInt8) : Bool := b == packetStart || b == packetEnd || b == escapeMark

/-- Binary data as it travels inside a payload. -/
def escape (data : Bytes) : Bytes :=
  data.flatMap fun b => if needsEscape b then [escapeMark, b ^^^ escapeMask] else [b]

/-- Reads escaped data back. A mark with nothing after it is not escaped data. -/
def unescape? : Bytes → Option Bytes
  | [] => some []
  | [b] => if b = escapeMark then none else some [b]
  | b :: c :: rest =>
    if b = escapeMark then (unescape? rest).map ((c ^^^ escapeMask) :: ·)
    else (unescape? (c :: rest)).map (b :: ·)

@[simp] theorem escape_nil : escape [] = [] := rfl

theorem escape_append (a b : Bytes) : escape (a ++ b) = escape a ++ escape b := by
  simp [escape]

end RemoteStub
