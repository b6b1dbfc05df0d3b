import RemoteStub.Numeric
import RemoteStub.Frame

/-!
# Commands

What a client can ask for, and the one form in which each command is written.
-/

namespace RemoteStub

inductive Command where
  | readRegisters
  | writeRegisters (data : Text)
  | readRegister (register : UInt64)
  | writeRegister (register : UInt64) (value : Text)
  | readMemory (address length : UInt64)
  | writeMemory (address length : UInt64) (data : Text)
  | symbol (args : Text)
  | supported (features : List Text)
  | threadInfoFirst
  | currentThread
  | haltReason
  /-- Selects a thread for later operations; a negative thread stands for several. -/
  | selectThread (op : Char) (thread : Int64)
  /-- A paged read of a named object. -/
  | transfer (object mode annex : Text) (offset length : UInt64)
  /-- Anything else. -/
  | other (packet : Text)
  deriving DecidableEq, Repr

namespace Command

/-- The longest memory read whose reply, two digits a byte, fits in one packet. -/
def maxReadLength : Nat := Wire.maxPacketSize / 2

def name : Command → String
  | readRegisters => "read_registers"
  | writeRegisters _ => "write_registers"
  | readRegister _ => "read_register"
  | writeRegister .. => "write_register"
  | readMemory .. => "read_memory"
  | writeMemory .. => "write_memory"
  | symbol _ => "qSymbol"
  | supported _ => "qSupported"
  | threadInfoFirst => "qfThreadInfo"
  | currentThread => "qC"
  | haltReason => "halt_reason"
  | selectThread .. => "select_thread"
  | transfer .. => "qXfer"
  | other _ => "other"

def renderRange (address length : UInt64) : Text :=
  Numeric.unsigned address ++ ',' :: Numeric.unsigned length

def render : Command → Text
  | readRegisters => "g".toList
  | writeRegisters data => 'G' :: data
  | readRegister register => 'p' :: Numeric.unsigned register
  | writeRegister register value => 'P' :: Numeric.unsigned register ++ '=' :: value
  | readMemory address length => 'm' :: renderRange address length
  | writeMemory address length data => 'M' :: renderRange address length ++ ':' :: data
  | symbol args => "qSymbol:".toList ++ args
  | supported features => "qSupported:".toList ++ [';'].intercalate features
  | threadInfoFirst => "qfThreadInfo".toList
  | currentThread => "qC".toList
  | haltReason => "?".toList
  | selectThread op thread => 'H' :: op :: Numeric.signed thread
  | transfer object mode annex offset length =>
    "qXfer:".toList ++ object ++ ':' :: mode ++ ':' :: annex ++ ':' :: renderRange offset length
  | other packet => packet

end Command

end RemoteStub
