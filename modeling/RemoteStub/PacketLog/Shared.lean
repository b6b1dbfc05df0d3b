import RemoteStub.PacketLog

/-!
# Shared packet logs

Handles on packet logs. Handles made from one another by cloning see the same
log, and all others see logs of their own.
-/

namespace RemoteStub

/-- Handles by number, each with the number of the log it sees. -/
structure SharedLogs where
  handles : List Nat := []
  logs : List PacketLog := []
  deriving DecidableEq, Repr

namespace SharedLogs

/-- The number of the log behind a handle. -/
def owner? (s : SharedLogs) (handle : Nat) : Option Nat := s.handles[handle]?

/-- The log behind a handle; a handle that was never made sees an empty one. -/
def log (s : SharedLogs) (handle : Nat) : PacketLog :=
  ((s.owner? handle).bind (s.logs[·]?)).getD {}

def create (s : SharedLogs) : Nat × SharedLogs :=
  (s.handles.length, ⟨s.handles ++ [s.logs.length], s.logs ++ [⟨[]⟩]⟩)

/-- Makes another handle on the same log. -/
def clone (s : SharedLogs) (handle : Nat) : Nat × SharedLogs :=
  match s.owner? handle with
  | none => s.create
  | some owner => (s.handles.length, { s with handles := s.handles ++ [owner] })

def push (s : SharedLogs) (handle : Nat) (entry : Text) : SharedLogs :=
  match s.owner? handle with
  | none => s
  | some owner => { s with logs := s.logs.modify owner (·.push entry) }

end SharedLogs

end RemoteStub
