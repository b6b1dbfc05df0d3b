import RemoteStub.Command

/-!
# Queries

What a command asks of the simulated target: the command without what only its
reader needs.
-/

namespace RemoteStub

inductive Query where
  | readRegisters
  | writeRegisters (data : Text)
  | readRegister (register : UInt64)
  | writeRegister (register : UInt64) (value : Text)
  | readMemory (address length : UInt64)
  | writeMemory (address : UInt64) (data : Text)
  | symbol (args : Text)
  | supported (features : List Text)
  | threadInfo
  | currentThread
  | haltReason
  | selectThread (op : Char) (thread : Int64)
  | transfer (object annex : Text) (offset length : UInt64)
  | other (packet : Text)
  deriving DecidableEq, Repr

/-- The families of queries. -/
inductive Query.Family where
  | readRegisters
  | writeRegisters
  | readRegister
  | writeRegister
  | readMemory
  | writeMemory
  | symbol
  | supported
  | threadInfo
  | currentThread
  | haltReason
  | selectThread
  | transfer
  | other
  deriving DecidableEq, Repr

def Query.family : Query → Query.Family
  | readRegisters => .readRegisters
  | writeRegisters _ => .writeRegisters
  | readRegister _ => .readRegister
  | writeRegister .. => .writeRegister
  | readMemory .. => .readMemory
  | writeMemory .. => .writeMemory
  | symbol _ => .symbol
  | supported _ => .supported
  | threadInfo => .threadInfo
  | currentThread => .currentThread
  | haltReason => .haltReason
  | selectThread .. => .selectThread
  | transfer .. => .transfer
  | other _ => .other

/-- The query that answers a command. -/
def Command.query : Command → Query
  | readRegisters => .readRegisters
  | writeRegisters data => .writeRegisters data
  | readRegister register => .readRegister register
  | writeRegister register value => .writeRegister register value
  | readMemory address length => .readMemory address length
  | writeMemory address _ data => .writeMemory address data
  | symbol args => .symbol args
  | supported features => .supported features
  | threadInfoFirst => .threadInfo
  | currentThread => .currentThread
  | haltReason => .haltReason
  | selectThread op thread => .selectThread op thread
  | transfer object _ annex offset length => .transfer object annex offset length
  | other packet => .other packet

end RemoteStub
