import RemoteStub.Query

/-!
# Targets

A simulated target answers each query from its state. Every answer has a
default, so a target states only the ones in which it differs.
-/

namespace RemoteStub

/-- A part of an object that is read page by page. -/
structure Chunk where
  data : Bytes
  /-- Whether more of the object follows. -/
  more : Bool
  deriving DecidableEq, Repr

/-- A chunk as the payload of a reply: `m` before a part that has a successor, `l` before the last
one, then the data, escaped. -/
def Chunk.payload (c : Chunk) : Bytes := (if c.more then 0x6d else 0x6c) :: escape c.data

/-- How many 32-bit registers a target has unless it says otherwise. -/
def defaultRegisterCount : Nat := 40

/-- Simulated behaviour over states `σ`. Replies are payloads without their frame, and an empty one
tells the client that a command is not supported. -/
structure Target (σ : Type) where
  /-- The number of 32-bit registers. -/
  registerCount : σ → Nat := fun _ => defaultRegisterCount
  readRegisters : StateM σ Text := do
    return (List.replicate (registerCount (← get)) "00000000".toList).flatten
  writeRegisters : Text → StateM σ Text := fun _ => pure "OK".toList
  readRegister : UInt64 → StateM σ Text := fun _ => pure "00000000".toList
  writeRegister : UInt64 → Text → StateM σ Text := fun _ _ => pure "OK".toList
  readMemory : UInt64 → UInt64 → StateM σ Text := fun _ length =>
    pure (List.replicate length.toNat "00".toList).flatten
  writeMemory : UInt64 → Text → StateM σ Text := fun _ _ => pure "OK".toList
  symbol : Text → StateM σ Text := fun _ => pure "OK".toList
  supported : List Text → StateM σ Text := fun _ =>
    pure ("PacketSize=".toList ++ Nat.toDigits 16 Wire.maxPacketSize ++
      ";QStartNoAckMode+".toList)
  threadInfo : StateM σ Text := pure "l".toList
  currentThread : StateM σ Text := pure "QC0".toList
  haltReason : StateM σ Text := pure "S02".toList
  selectThread : Char → Int64 → StateM σ Text := fun _ _ => pure "OK".toList
  /-- A part of an object, or nothing if there is no such object. -/
  transfer : Text → Text → UInt64 → UInt64 → StateM σ (Option Chunk) := fun _ _ _ _ => pure none
  other : Text → StateM σ Text := fun _ => pure []

namespace Target

variable {σ : Type}

/-- The payload that answers a query. -/
def answer (t : Target σ) : Query → StateM σ Bytes
  | .readRegisters => Text.toBytes <$> t.readRegisters
  | .writeRegisters data => Text.toBytes <$> t.writeRegisters data
  | .readRegister register => Text.toBytes <$> t.readRegister register
  | .writeRegister register value => Text.toBytes <$> t.writeRegister register value
  | .readMemory address length => Text.toBytes <$> t.readMemory address length
  | .writeMemory address data => Text.toBytes <$> t.writeMemory address data
  | .symbol args => Text.toBytes <$> t.symbol args
  | .supported features => Text.toBytes <$> t.supported features
  | .threadInfo => Text.toBytes <$> t.threadInfo
  | .currentThread => Text.toBytes <$> t.currentThread
  | .haltReason => Text.toBytes <$> t.haltReason
  | .selectThread op thread => Text.toBytes <$> t.selectThread op thread
  | .transfer object annex offset length => do
    match ← t.transfer object annex offset length with
    | some chunk => return chunk.payload
    | none => return []
  | .other packet => Text.toBytes <$> t.other packet

end Target

end RemoteStub
