import RemoteStub.Receiver
import RemoteStub.Command.Parse
import RemoteStub.Config

/-!
# Errors

Everything that can go wrong falls into one of six categories. The category says
whether the peer broke the protocol, and opens the message.
-/

namespace RemoteStub

inductive Category where
  | io
  | invalidPacket
  | decode
  | hex
  | network
  | config
  deriving DecidableEq, Repr

namespace Category

def label : Category → String
  | io => "IO error"
  | invalidPacket => "Invalid packet"
  | decode => "Malformed command"
  | hex => "Hex format error"
  | network => "Network error"
  | config => "Configuration error"

/-- Whether the peer broke the protocol, as opposed to the transport failing underneath it. -/
def isProtocolViolation : Category → Bool
  | invalidPacket | decode | hex => true
  | io | network | config => false

/-- The full message of an error of this category. -/
def describe (c : Category) (detail : String) : String := c.label ++ ": " ++ detail

end Category

/-- A call that does not fit a server's lifecycle. -/
inductive LifecycleError where
  | alreadyStarted
  | notRunning
  deriving DecidableEq, Repr

def LifecycleError.message : LifecycleError → String
  | alreadyStarted => "server was already started"
  | notRunning => "server is not running"

inductive Error where
  | io (e : IoError)
  | invalidPacket (e : Violation)
  | decode (e : DecodeError)
  | hex (e : Hex.Error)
  | network (e : LifecycleError)
  | config (e : Config.Error)
  deriving DecidableEq, Repr

namespace Error

def category : Error → Category
  | io _ => .io
  | invalidPacket _ => .invalidPacket
  | decode _ => .decode
  | hex _ => .hex
  | network _ => .network
  | config _ => .config

def detail : Error → String
  | io e => e.message
  | invalidPacket e => e.message
  | decode e => e.message
  | hex e => e.message
  | network e => e.message
  | config e => e.message

def message (e : Error) : String := e.category.describe e.detail

def isProtocolViolation (e : Error) : Bool := e.category.isProtocolViolation

end Error

/-- The bytes that a hexadecimal text stands for. -/
def decodeHex (t : Text) : Except Error Bytes := (Hex.decode t).mapError .hex

end RemoteStub
