import RemoteStub.Target.Document

/-!
# Scripted targets

A target without state that gives fixed replies to some families of queries and
the default ones to all others.
-/

namespace RemoteStub

/-- How a scripted target serves paged reads. -/
inductive Transfers where
  /-- No object exists. -/
  | absent
  /-- Every read returns this chunk. -/
  | always (chunk : Chunk)
  | documents (docs : List Document)
  deriving DecidableEq, Repr

structure Script where
  registerCount : Nat := defaultRegisterCount
  replies : List (Query.Family × Text) := []
  transfers : Transfers := .absent
  deriving DecidableEq, Repr

namespace Script

/-- The fixed reply to a family of queries, or what is answered otherwise. -/
def replyOr (s : Script) (family : Query.Family) (default : StateM Unit Text) : StateM Unit Text :=
  match s.replies.lookup family with
  | some reply => pure reply
  | none => default

def target (s : Script) : Target Unit :=
  let base : Target Unit := { registerCount := fun _ => s.registerCount }
  { registerCount := base.registerCount
    readRegisters := s.replyOr .readRegisters base.readRegisters
    writeRegisters := fun data => s.replyOr .writeRegisters (base.writeRegisters data)
    readRegister := fun register => s.replyOr .readRegister (base.readRegister register)
    writeRegister := fun register value =>
      s.replyOr .writeRegister (base.writeRegister register value)
    readMemory := fun address length => s.replyOr .readMemory (base.readMemory address length)
    writeMemory := fun address data => s.replyOr .writeMemory (base.writeMemory address data)
    symbol := fun args => s.replyOr .symbol (base.symbol args)
    supported := fun features => s.replyOr .supported (base.supported features)
    threadInfo := s.replyOr .threadInfo base.threadInfo
    currentThread := s.replyOr .currentThread base.currentThread
    haltReason := s.replyOr .haltReason base.haltReason
    selectThread := fun op thread => s.replyOr .selectThread (base.selectThread op thread)
    transfer := match s.transfers with
      | .absent => base.transfer
      | .always chunk => fun _ _ _ _ => pure (some chunk)
      | .documents docs => Document.serve docs
    other := fun packet => s.replyOr .other (base.other packet) }

end Script

end RemoteStub
