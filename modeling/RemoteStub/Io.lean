import RemoteStub.Text

/-!
# Input and output failures

A failure either comes from the operating system, with its number and text, or
is stated by the program itself.
-/

namespace RemoteStub

/-- The failures of the operating system that a host's network can cause. -/
inductive SystemError where
  | noSuchDevice
  | invalidArgument
  | addressInUse
  | addressNotAvailable
  | connectionRefused
  | networkUnreachable
  deriving DecidableEq, Repr

namespace SystemError

def number : SystemError → Nat
  | noSuchDevice => 19
  | invalidArgument => 22
  | addressInUse => 98
  | addressNotAvailable => 99
  | networkUnreachable => 101
  | connectionRefused => 111

def text : SystemError → String
  | noSuchDevice => "No such device"
  | invalidArgument => "Invalid argument"
  | addressInUse => "Address already in use"
  | addressNotAvailable => "Cannot assign requested address"
  | networkUnreachable => "Network is unreachable"
  | connectionRefused => "Connection refused"

end SystemError

inductive IoKind where
  | addressInUse
  | addressNotAvailable
  | connectionRefused
  | networkUnreachable
  | invalidInput
  | interrupted
  | unexpectedEof
  | other
  | uncategorized
  deriving DecidableEq, Repr

def SystemError.kind : SystemError → IoKind
  | noSuchDevice => .uncategorized
  | invalidArgument => .invalidInput
  | addressInUse => .addressInUse
  | addressNotAvailable => .addressNotAvailable
  | connectionRefused => .connectionRefused
  | networkUnreachable => .networkUnreachable

inductive IoError where
  | system (e : SystemError)
  | stated (kind : IoKind) (text : String)
  deriving DecidableEq, Repr

namespace IoError

def kind : IoError → IoKind
  | system e => e.kind
  | stated kind _ => kind

def message : IoError → String
  | system e => e.text ++ " (os error " ++ toString e.number ++ ")"
  | stated _ text => text

/-- A name that stands for no address. -/
def noAddress : IoError := .stated .invalidInput "could not resolve to any addresses"

/-- The end of the stream where more was expected. -/
def closed : IoError := .stated .unexpectedEof "server closed the connection"

end IoError

end RemoteStub
